import NntpBench.Server.GroupWalks
import NntpBench.Server.LineArguments

namespace NntpBench.Server

open Protocol Terminator ExceptBind

variable {range : ListGroupRange} {numbers : List Nat} {index : ArticleStoreIndex}

/-- The interval a range stands for, with both of its ends; a range without an end goes on for ever.
-/
def selects (range : ListGroupRange) (articleNumber : Nat) : Bool :=
  match splitOnce '-' range.value with
  | some (start, fin) =>
    decimalValue (asBytes start) ≤ articleNumber &&
      (fin = [] || articleNumber ≤ decimalValue (asBytes fin))
  | none => articleNumber = decimalValue (asBytes range.value)

theorem toNat_ofNat {byte : UInt8} (h : byte.toNat < 128) :
    (Char.ofNat byte.toNat).toNat = byte.toNat := by
  have hvalid : Nat.isValidChar byte.toNat := Or.inl (by omega)
  rw [Char.ofNat, dif_pos hvalid]
  rfl

theorem parseDigits_of_digits {value : Str} (hne : asBytes value ≠ [])
    (hdigits : (asBytes value).all isAsciiDigit = true) :
    parseDigits value = some (decimalValue (asBytes value)) := by
  -- Digits have the same value as bytes and as characters.
  have hrange : ∀ byte ∈ asBytes value, 48 ≤ byte.toNat ∧ byte.toNat ≤ 57 := by
    intro byte hbyte
    have hdigit := List.all_eq_true.mp hdigits byte hbyte
    simpa [isAsciiDigit, UInt8.le_iff_toNat_le] using hdigit
  have hascii : ∀ byte ∈ asBytes value, byte < 128 := by
    intro byte hbyte
    rw [UInt8.lt_iff_toNat_lt]
    have hle := (hrange byte hbyte).2
    show byte.toNat < 128
    omega
  have hvalue : value = (asBytes value).map fun byte => Char.ofNat byte.toNat := by
    have hencode := congrArg fromUtf8 (Utf8.encode_map_ofNat hascii)
    exact Option.some.inj
      ((Utf8.decode_encode value).symm.trans (hencode.symm.trans (Utf8.decode_encode _)))
  have hall : value.all Char.isDigit = true := by
    rw [hvalue, List.all_map, List.all_eq_true]
    intro byte hbyte
    obtain ⟨hge, hle⟩ := hrange byte hbyte
    have hcode := toNat_ofNat (show byte.toNat < 128 by omega)
    simp only [Function.comp, Char.isDigit, Bool.and_eq_true, decide_eq_true_eq, ge_iff_le,
      UInt32.le_iff_toNat_le]
    show '0'.toNat ≤ (Char.ofNat byte.toNat).toNat ∧ (Char.ofNat byte.toNat).toNat ≤ '9'.toNat
    rw [hcode]
    exact ⟨hge, hle⟩
  have hnonempty : value ≠ [] := by
    rintro rfl
    exact hne rfl
  rw [parseDigits, if_pos ⟨hnonempty, hall⟩, decimalValue]
  conv_lhs => rw [hvalue]
  rw [List.foldl_map]
  apply congrArg some
  apply List.foldl_ext
  intro acc byte hbyte
  have hle := (hrange byte hbyte).2
  rw [toNat_ofNat (by omega)]

theorem parseUnsigned_of_token {value : Str} (h : (articleNumberTokenValue value).isSome = true) :
    parseUnsigned (2 ^ 64) value = some (decimalValue (asBytes value)) ∧
      decimalValue (asBytes value) ≤ MAX_ARTICLE_NUMBER ∧ value ≠ [] ∧
      (asBytes value).all isAsciiDigit = true := by
  -- A number of a range, as the server reads it.
  unfold articleNumberTokenValue at h
  dsimp only at h
  split_ifs at h with hshape hvalue
  · cases h
  · cases h
  simp only [not_or, Bool.not_eq_true, Bool.not_eq_false'] at hshape hvalue
  obtain ⟨hne, -, hdigits⟩ := hshape
  have hnonempty : value ≠ [] := by
    rintro rfl
    exact hne rfl
  refine ⟨?_, Nat.le_of_not_lt hvalue.2, hnonempty, hdigits⟩
  have hplus : ∀ rest, value ≠ '+' :: rest := by
    rintro rest rfl
    rw [asBytes, Utf8.encode_cons] at hdigits
    exact absurd (List.all_eq_true.mp hdigits 43 (by simp; left; decide)) (by decide)
  unfold parseUnsigned
  split
  rename_i rest
  · exact absurd rfl (hplus rest)
  · dsimp only
    rw [parseDigits_of_digits hne hdigits, Option.filter_some, if_pos]
    have hmax : decimalValue (asBytes value) ≤ MAX_ARTICLE_NUMBER := Nat.le_of_not_lt hvalue.2
    unfold MAX_ARTICLE_NUMBER at hmax
    simp
    omega

theorem validateNumberRange_of_range (range : ListGroupRange) : validateNumberRange range.value =
    true := by
  have h := range.valid
  unfold validateListgroupRange at h
  split_ifs at h
  exact h

theorem listgroupRangeBounds_split (range : ListGroupRange) :
    listgroupRangeBounds (asBytes range.value) =
      match splitOnce '-' range.value with
      | some (start, fin) =>
        some (decimalValue (asBytes start),
          if fin = [] then none else some (decimalValue (asBytes fin)))
      | none => some (decimalValue (asBytes range.value),
          some (decimalValue (asBytes range.value))) := by
  have hvalid := validateNumberRange_of_range range
  unfold listgroupRangeBounds
  unfold validateNumberRange at hvalid
  rw [fromUtf8_asBytes]
  cases hsplit : splitOnce '-' range.value with
  | none =>
    rw [hsplit] at hvalid
    obtain ⟨hparse, -⟩ := parseUnsigned_of_token hvalid
    simp [-Nat.reducePow, hsplit, hparse]
  | some parts =>
    obtain ⟨start, fin⟩ := parts
    simp only [hsplit, Bool.and_eq_true, Bool.or_eq_true, decide_eq_true_eq] at hvalid
    obtain ⟨hstart, -⟩ := parseUnsigned_of_token hvalid.1
    rcases hvalid.2 with rfl | hfin
    · simp [-Nat.reducePow, hsplit, hstart]
    · obtain ⟨hparse, -, hne, -⟩ := parseUnsigned_of_token hfin
      simp [-Nat.reducePow, hsplit, hstart, hparse, hne]

theorem listgroupRangeBounds_range (range : ListGroupRange) :
    ∃ start fin, listgroupRangeBounds (asBytes range.value) = some (start, fin) ∧
      ∀ articleNumber ≤ MAX_ARTICLE_NUMBER,
        (start ≤ articleNumber && articleNumber ≤ fin.getD (2 ^ 64 - 1)) =
          selects range articleNumber := by
  rw [listgroupRangeBounds_split]
  unfold selects
  cases hsplit : splitOnce '-' range.value with
  | none =>
    refine ⟨_, _, rfl, ?_⟩
    intro articleNumber hmax
    rw [Bool.eq_iff_iff]
    simp
    omega
  | some parts =>
    obtain ⟨start, fin⟩ := parts
    refine ⟨_, _, rfl, ?_⟩
    intro articleNumber hmax
    by_cases hfin : fin = []
    · -- No article number reaches the largest value of the type.
      unfold MAX_ARTICLE_NUMBER at hmax
      rw [Bool.eq_iff_iff]
      simp [hfin]
      omega
    · simp [hfin]

theorem bytes_of_range (range : ListGroupRange) :
    ∀ byte ∈ asBytes range.value, (0x21 ≤ byte.toNat ∧ byte.toNat < 128) ∧ byte ≠ 60 := by
  intro byte hbyte
  rcases isRangeByte_of_validateNumberRange (validateNumberRange_of_range range) byte hbyte with
    hdigit | rfl
  · simp only [isAsciiDigit, Bool.and_eq_true, decide_eq_true_eq, UInt8.le_iff_toNat_le] at hdigit
    have hlow : 48 ≤ byte.toNat := hdigit.1
    have hhigh : byte.toNat ≤ 57 := hdigit.2
    refine ⟨by omega, ?_⟩
    rintro rfl
    exact absurd hhigh (by decide)
  · decide

theorem not_whitespace_of_range (range : ListGroupRange) :
    ∀ c ∈ range.value, isUnicodeWhitespace c = false :=
  not_whitespace_of_ascii (fromUtf8_asBytes _) fun byte hbyte => (bytes_of_range range byte hbyte).1

theorem not_messageId_of_range (range : ListGroupRange) :
    overviewSelectorIsMessageId (asBytes range.value) = false ∧
      overviewSelectorRequiresGroup (asBytes range.value) = true := by
  have hfirst : ¬ ascii "<" <+: asBytes range.value := by
    rintro ⟨rest, hrest⟩
    have hmem : (60 : UInt8) ∈ asBytes range.value := by
      rw [← hrest]
      exact List.mem_append_left _ (by decide)
    exact (bytes_of_range range 60 hmem).2 rfl
  simp [overviewSelectorIsMessageId, overviewSelectorRequiresGroup, hfirst]

theorem digits_of_no_dash (h : splitOnce '-' range.value = none) :
    (asBytes range.value).all isAsciiDigit = true ∧
      parseUnsigned (2 ^ 64) range.value = some (decimalValue (asBytes range.value)) := by
  have hvalid := validateNumberRange_of_range range
  rw [validateNumberRange, h] at hvalid
  obtain ⟨hparse, -, -, hdigits⟩ := parseUnsigned_of_token hvalid
  exact ⟨hdigits, hparse⟩

theorem overviewSelectorIsRange_range (range : ListGroupRange) :
    overviewSelectorIsRange (asBytes range.value) = (splitOnce '-' range.value).isSome := by
  unfold overviewSelectorIsRange
  cases hsplit : splitOnce '-' range.value with
  | none =>
    have hdigits := List.all_eq_true.mp (digits_of_no_dash hsplit).1
    rw [Option.isSome_none, List.contains_eq_mem, decide_eq_false_iff_not]
    intro hdash
    exact absurd (hdigits 45 hdash) (by decide)
  | some parts =>
    obtain ⟨start, fin⟩ := parts
    rw [splitOnce_eq_some hsplit, asBytes, Utf8.encode_append, Utf8.encode_cons]
    have hencoded : String.utf8EncodeChar '-' = [45] := by decide
    simp [hencoded]

/-- A number of the group is in the interval. -/
def Hits (numbers : List Nat) (range : ListGroupRange) : Prop :=
    ∃ number ∈ numbers, selects range number = true

theorem overviewSelectorRangeSelectsArticles_iff
    (hmax : ∀ number ∈ numbers, number ≤ MAX_ARTICLE_NUMBER) :
    overviewSelectorRangeSelectsArticles (asBytes range.value) numbers = true ↔
      Hits numbers range := by
  obtain ⟨start, fin, hbounds, hselects⟩ := listgroupRangeBounds_range range
  unfold overviewSelectorRangeSelectsArticles Hits
  rw [hbounds]
  simp only [List.any_eq_true]
  constructor
  · rintro ⟨number, hmem, hinside⟩
    exact ⟨number, hmem, by rw [← hselects number (hmax number hmem)]; exact hinside⟩
  · rintro ⟨number, hmem, hinside⟩
    exact ⟨number, hmem, by rw [hselects number (hmax number hmem)]; exact hinside⟩

theorem hits_number_iff (hsplit : splitOnce '-' range.value = none) :
    Hits numbers range ↔ decimalValue (asBytes range.value) ∈ numbers := by
  unfold Hits selects
  simp [hsplit]

def overviewFields (entry : ArticleStoreEntry) : List (String × Bytes) :=
  [("Subject", entry.subject), ("From", entry.sender), ("Date", entry.date),
    ("Message-ID", asBytes entry.messageId), ("References", entry.references),
    (":bytes", decimalText entry.overviewBytes), (":lines", decimalText entry.overviewLines)]

def rowKey (messageIdKey : Bytes) : IndexedArticleSelector → Bytes
  | .number articleNumber => decimalText articleNumber
  | .messageId _ => messageIdKey

/-- A row of OVER and XOVER: the key and all fields, with tabs between them. -/
def overviewRow (selector : IndexedArticleSelector) (entry : ArticleStoreEntry) : Bytes :=
  [HT].intercalate (rowKey (ascii "0") selector :: (overviewFields entry).map Prod.snd) ++ CRLF

/-- A row of HDR and XHDR: the key, a blank and the field with the name of the header. -/
def headerRow (header : Bytes) (messageIdKey : ArticleStoreEntry → Bytes)
    (selector : IndexedArticleSelector) (entry : ArticleStoreEntry) : Bytes :=
  let field := (overviewFields entry).find? fun field => eqIgnoreAsciiCase header (ascii field.1)
  rowKey (messageIdKey entry) selector ++ SP :: field.elim [] Prod.snd ++ CRLF

theorem overviewRowForEntry_eq : overviewRowForEntry = overviewRow := by
  funext selector entry
  cases selector <;>
    simp [overviewRowForEntry, overviewRow, rowKey, overviewFields, List.intercalate]

theorem headerValueForEntry_eq (entry : ArticleStoreEntry) (header : Bytes) :
    headerValueForEntry entry header =
      ((overviewFields entry).find? fun field => eqIgnoreAsciiCase header (ascii field.1)).elim []
        Prod.snd := by
  unfold headerValueForEntry overviewFields eqIgnoreAsciiCase
  dsimp only
  generalize header.map toAsciiLowercase = name
  simp only [decide_eq_true_eq]
  split_ifs with hid hbytes hlines hsubject hfrom hdate hreferences
  · simp +decide [hid]
  · simp +decide [hbytes]
  · simp +decide [hlines]
  · simp [hsubject]
  · simp +decide [hfrom]
  · simp +decide [hdate]
  · simp +decide [hreferences]
  · simp [hid, hbytes, hlines, hsubject, hfrom, hdate, hreferences]

theorem headerRowForEntry_eq (header : Bytes) :
    headerRowForEntry header .zero = headerRow header (fun _ => ascii "0") ∧
      headerRowForEntry header .messageId =
        headerRow header fun entry => asBytes entry.messageId := by
  have hspace : ascii " " = [SP] := by decide
  constructor
  all_goals
    funext selector entry
    cases selector <;>
      simp [headerRowForEntry, headerRow, rowKey, headerValueForEntry_eq, hspace]

/-- A command that asks for the rows of a selector, with the status line and the rows of its reply:
OVER and XOVER have nothing but the selector, HDR and XHDR have a supported header before it. -/
inductive AsksRows (kept : KeptCommand) (selector : Bytes) :
    Bytes → (IndexedArticleSelector → ArticleStoreEntry → Bytes) → Prop
  | overview (hkind : kept.request.kind = .over ∨ kept.request.kind = .xover)
    (hargs : lineArgs kept.line = selector) (hne : selector ≠ []) :
    AsksRows kept selector (crlfText ["224 Overview information follows"]) overviewRow
  | hdr (header : Bytes) (hkind : kept.request.kind = .hdr)
    (htokens : commandTokens (lineArgs kept.line) = [header, selector])
    (hsupported : hdrFieldIsSupported header = true) :
    AsksRows kept selector (crlfText ["225 headers follow"])
      (headerRow header fun _ => ascii "0")
  | xhdr (header : Bytes) (hkind : kept.request.kind = .xhdr)
    (htokens : commandTokens (lineArgs kept.line) = [header, selector])
    (hsupported : hdrFieldIsSupported header = true) :
    AsksRows kept selector (crlfText ["221 headers follow"])
      (headerRow header fun entry => asBytes entry.messageId)

theorem header_and_selector {args header selector : Bytes}
    (htokens : commandTokens args = [header, selector]) :
    headerQueryNameFromArgs args = some header ∧ commandArgCount args = 2 ∧
      nthCommandArg args 1 = some selector := by
  rw [headerQueryNameFromArgs, firstCommandArg_eq, commandArgCount, nthCommandArg, htokens]
  exact ⟨rfl, rfl, rfl⟩

section Guard

variable {kept : KeptCommand} {selector statusLine : Bytes}
  {row : IndexedArticleSelector → ArticleStoreEntry → Bytes} {state : SessionState}
  {numbers : List Nat}
  {range : ListGroupRange}

/-- The guard of the four commands, behind the checks of the header and of the current article. -/
theorem AsksRows.overviewSelectorError_eq (h : AsksRows kept selector statusLine row)
    (state : SessionState) (index : Option ArticleStoreIndex) :
    overviewSelectorError kept.command (some kept.commandLines) state index =
      if overviewSelectorRequiresGroup selector && !state.groupSelected then
        some NO_NEWSGROUP_SELECTED
      else if overviewSelectorIsRange selector &&
          !overviewSelectorRangeSelectsArticles selector
            ((state.currentGroupArticles index).getD []) then
        if legacyOverviewUses420ForMissingRange kept.command.kind then
          some (crlfText ["420 no article(s) selected"])
        else some (crlfText ["423 no articles in that range"])
      else if selectorNumberIsMissing state index selector ||
          kept.command.articleId.any fun articleId => !state.currentGroupContains articleId
            index then
        if legacyOverviewUses420ForMissingRange kept.command.kind then
          some (crlfText ["420 no article(s) selected"])
        else some NO_ARTICLE_WITH_NUMBER
      else if (kept.command.messageId.isSome || decide (ascii "<" <+: selector)) &&
          containsSubslice (lineArgs kept.line) (ascii "missing") then
        some NO_ARTICLE_WITH_MESSAGE_ID
      else none := by
  unfold overviewSelectorError
  rw [kept.commandArgs_eq, kept.kind_command]
  cases h with
  | overview hkind hargs hne =>
    rcases hkind with hkind | hkind
    all_goals simp [hkind, overviewSelectorArg, hargs, hne]
  | hdr header hkind htokens hsupported | xhdr header hkind htokens hsupported =>
    obtain ⟨hheader, hcount, hselector⟩ := header_and_selector htokens
    simp [hkind, hheader, hsupported, overviewSelectorArg, hcount, hselector]

theorem AsksRows.known (h : AsksRows kept selector statusLine row) : kept.request.kind ≠
    .unknown := by
  intro hunknown
  cases h with
  | overview hkind => rcases hkind with hkind | hkind <;> rw [hunknown] at hkind <;> cases hkind
  | hdr _ hkind | xhdr _ hkind => rw [hunknown] at hkind; cases hkind

theorem AsksRows.ids_of_range (h : AsksRows kept (asBytes range.value) statusLine row) :
    kept.command.messageId = none ∧ ∀ articleId, kept.command.articleId = some articleId →
      splitOnce '-' range.value = none ∧ articleId = decimalValue (asBytes range.value) := by
  -- What the parser finds in front of a range.
  have hknown := h.known
  cases h with
  | overview hkind hargs hne =>
    have hrequest : kept.request.args = asBytes range.value := by
      apply KeptCommand.request_args hknown hargs hne
      intro byte hbyte
      exact range.isArgument.visible.not_commandWs (List.mem_of_getLast? hbyte)
    obtain ⟨first, rest, hbytes⟩ := List.exists_cons_of_ne_nil hne
    have hmem : first ∈ asBytes range.value := by
      rw [hbytes]
      exact List.mem_cons_self
    constructor
    · exact KeptCommand.messageId_command
        (KeptCommand.messageId_of_first (hrequest.trans hbytes)
          (range.isArgument.visible.not_whitespace hmem)
          (bytes_of_range range first hmem).2)
    · intro articleId harticle
      have hblank := not_whitespace_of_range range
      have htrim : trim range.value = range.value :=
        trim_eq_self (fun c hc => hblank c (List.mem_of_mem_head? hc))
          (fun c hc => hblank c (List.mem_of_getLast? hc))
      rw [kept.articleId_command, hrequest, parseArticleIdArg, fromUtf8_asBytes, Option.bind_some,
        htrim] at harticle
      dsimp only at harticle
      split_ifs at harticle with hdigits
      have hall : ∀ byte ∈ asBytes range.value, isAsciiDigit byte = true := by
        simpa using (not_or.mp hdigits).2
      constructor
      · rw [← Option.isNone_iff_eq_none, ← Option.not_isSome, Bool.not_eq_true',
          ← overviewSelectorIsRange_range]
        rw [overviewSelectorIsRange, List.contains_eq_mem, decide_eq_false_iff_not]
        intro hdash
        exact absurd (hall 45 hdash) (by decide)
      · unfold parseU64 at harticle
        split_ifs at harticle
        exact (Option.some.inj harticle).symm
  | hdr header hkind htokens hsupported | xhdr header hkind htokens hsupported =>
    obtain ⟨hmessageId, harticleId⟩ := KeptCommand.of_supported hknown (by rw [htokens]; rfl)
      hsupported
    refine ⟨hmessageId, ?_⟩
    intro articleId harticle
    rw [harticleId] at harticle
    cases harticle

theorem AsksRows.overviewSelectorError_isSome_iff
    (h : AsksRows kept (asBytes range.value) statusLine row) (hgroup : state.groupSelected = true)
    (harticles : state.currentGroupArticles (some index) = some numbers)
    (hmax : ∀ number ∈ numbers, number ≤ MAX_ARTICLE_NUMBER) :
    (overviewSelectorError kept.command (some kept.commandLines) state (some index)).isSome = true ↔
      ¬ Hits numbers range := by
  -- For a range, the guard refuses exactly those without an article.
  obtain ⟨hid, harticle⟩ := h.ids_of_range
  obtain ⟨hnotId, hrequires⟩ := not_messageId_of_range range
  have hstart : ¬ ascii "<" <+: asBytes range.value := of_decide_eq_false hnotId
  have hcontains (articleId : Nat) :
      state.currentGroupContains articleId (some index) = decide (articleId ∈ numbers) := by
    rw [SessionState.currentGroupContains, harticles, Option.any_some, List.contains_eq_mem]
  have hselects : overviewSelectorRangeSelectsArticles (asBytes range.value) numbers = true ↔
      Hits numbers range := overviewSelectorRangeSelectsArticles_iff hmax
  rw [h.overviewSelectorError_eq]
  simp only [hgroup, harticles, hid, Option.getD_some, hcontains, hstart,
    overviewSelectorIsRange_range, hrequires]
  cases hsplit : splitOnce '-' range.value with
  | none =>
    obtain ⟨hdigits, hparse⟩ := digits_of_no_dash hsplit
    have hmissing : selectorNumberIsMissing state (some index) (asBytes range.value) =
        !decide (decimalValue (asBytes range.value) ∈ numbers) := by
      unfold selectorNumberIsMissing
      rw [hdigits, fromUtf8_asBytes, Option.bind_some, hparse, Option.any_some, hcontains,
        Bool.true_and]
    rw [hits_number_iff hsplit, hmissing]
    by_cases hmem : decimalValue (asBytes range.value) ∈ numbers
    · have hnone : (kept.command.articleId.any fun articleId => !decide (articleId ∈ numbers)) =
          false := by
        cases hfound : kept.command.articleId with
        | none => rfl
        | some articleId => simp [(harticle articleId hfound).2, hmem]
      simp [hmem, hnone]
    · simp only [hmem, decide_false, Bool.not_false, Bool.true_or, if_true]
      simp
      split_ifs <;> simp
  | some parts =>
    have hnone : kept.command.articleId = none := by
      cases hfound : kept.command.articleId with
      | none => rfl
      | some articleId =>
        rw [(harticle articleId hfound).1] at hsplit
        cases hsplit
    have hmissing : selectorNumberIsMissing state (some index) (asBytes range.value) = false := by
      unfold selectorNumberIsMissing
      have hdash : overviewSelectorIsRange (asBytes range.value) = true := by
        rw [overviewSelectorIsRange_range, hsplit]
        rfl
      have hall : (asBytes range.value).all isAsciiDigit = false := by
        rw [Bool.eq_false_iff]
        intro hall
        exact absurd (List.all_eq_true.mp hall 45 (List.contains_iff_mem.mp hdash)) (by decide)
      rw [hall, Bool.false_and]
    by_cases hhits : Hits numbers range
    · simp [hselects.mpr hhits, hmissing, hnone, hhits]
    · have hselectsNot : overviewSelectorRangeSelectsArticles (asBytes range.value) numbers =
          false := by
        rw [Bool.eq_false_iff]
        intro hselected
        exact hhits (hselects.mp hselected)
      simp [hselectsNot, hhits]
      split_ifs <;> simp

end Guard

/-- The entries of some numbers, in the order of the numbers. -/
structure EntriesOf (index : ArticleStoreIndex) (numbers : List Nat)
    (entries : List NumberedEntry) : Prop where
  numbers_eq : entries.map Prod.fst = numbers
  entry : ∀ entry ∈ entries, index.articleEntry entry.1 = some entry.2

theorem exists_entriesOf (h : ∀ number ∈ numbers, ∃ entry, index.articleEntry number = some entry) :
    ∃ entries, EntriesOf index numbers entries := by
  induction numbers with
  | nil => exact ⟨[], rfl, by simp⟩
  | cons number numbers ih =>
    obtain ⟨hfirst, hrest⟩ := List.forall_mem_cons.mp h
    obtain ⟨entry, hentry⟩ := hfirst
    obtain ⟨entries, hnumbers, hentries⟩ := ih hrest
    refine ⟨(number, entry) :: entries, ?_, List.forall_mem_cons.mpr ⟨hentry, hentries⟩⟩
    rw [List.map_cons, hnumbers]

theorem appendRows_eq (row : IndexedArticleSelector → ArticleStoreEntry → Bytes) (response : Bytes)
    {entries : List NumberedEntry} (h : EntriesOf index numbers entries) :
    appendRows index row response numbers =
      ⟨response ++ entries.flatMap (fun entry => row (.number entry.1) entry.2) ++ DOT_TERMINATOR,
        true⟩ := by
  obtain ⟨rfl, hentries⟩ := h
  induction entries generalizing response with
  | nil => simp [appendRows]
  | cons entry entries ih =>
    obtain ⟨hfirst, hrest⟩ := List.forall_mem_cons.mp hentries
    rw [List.map_cons, appendRows, hfirst]
    dsimp only
    rw [ih _ hrest, List.flatMap_cons, List.append_assoc, List.append_assoc, List.append_assoc,
      List.append_assoc]

section Rows

variable {index : ArticleStoreIndex} {state : SessionState} {numbers : List Nat}
  {entries : List NumberedEntry}
  {range : ListGroupRange} (harticles : state.currentGroupArticles (some index) = some numbers)
  (hmax : ∀ number ∈ numbers, number ≤ MAX_ARTICLE_NUMBER)

include hmax in
theorem filter_bounds {start : Nat} {fin : Option Nat}
    (hselects : ∀ articleNumber ≤ MAX_ARTICLE_NUMBER,
      (start ≤ articleNumber && articleNumber ≤ fin.getD (2 ^ 64 - 1)) =
        selects range articleNumber) :
    (numbers.filter fun article => start ≤ article && article ≤ fin.getD (2 ^ 64 - 1)) =
      numbers.filter (selects range) :=
  List.filter_congr fun number hmem => hselects number (hmax number hmem)

include harticles hmax in
theorem appendSelectedRows_range (row : IndexedArticleSelector → ArticleStoreEntry → Bytes)
    (response : Bytes)
    (hentries : EntriesOf index (numbers.filter (selects range)) entries) :
    appendSelectedRows index row response state (asBytes range.value) =
      ⟨response ++ entries.flatMap (fun entry => row (.number entry.1) entry.2) ++ DOT_TERMINATOR,
        true⟩ := by
  obtain ⟨start, fin, hbounds, hselects⟩ := listgroupRangeBounds_range range
  unfold appendSelectedRows
  rw [(not_messageId_of_range range).1, if_neg Bool.false_ne_true, hbounds]
  dsimp only
  rw [harticles]
  dsimp only
  rw [filter_bounds hmax hselects]
  exact appendRows_eq row response hentries

end Rows

theorem listgroupResponse_range {groupName : Str} {group : ArticleStoreGroup} {args : Bytes}
    (hgroup : index.groups[groupName]? = some group) (htrim : trim groupName = groupName)
    (hne : groupName ≠ []) (htokens : commandTokens args = [asBytes groupName, asBytes range.value])
    (hmax : ∀ number ∈ group.articleNumbers, number ≤ MAX_ARTICLE_NUMBER) (response : Bytes)
    (currentGroup : Option Str) :
    listgroupResponseForArgsWithIndexInto response args currentGroup index =
      some (writeStatusLine response groupName group.articleNumbers ++
        (group.articleNumbers.filter (selects range)).flatMap (fun number => decimalText number ++
          CRLF) ++
        DOT_TERMINATOR) := by
  obtain ⟨start, fin, hbounds, hselects⟩ := listgroupRangeBounds_range range
  have hfirst : listgroupExplicitGroupArg args = some (asBytes groupName) := by
    rw [listgroupExplicitGroupArg, firstCommandArg_eq, htokens]
    rfl
  have hgroupName : listgroupGroupName args currentGroup = groupName := by
    unfold listgroupGroupName
    simp [hfirst, fromUtf8_asBytes, htrim, hne, Option.filter_some]
  have hrange : listgroupRangeArg args = some (asBytes range.value) := by
    rw [listgroupRangeArg, hfirst, Option.isSome_some, if_pos rfl, nthCommandArg, htokens]
    rfl
  have hnumbers : index.articleNumbersForGroup groupName = some group.articleNumbers := by
    rw [ArticleStoreIndex.articleNumbersForGroup, hgroup]
    rfl
  unfold listgroupResponseForArgsWithIndexInto
  simp only [hgroupName, hnumbers, hrange, Option.bind_some, hbounds]
  rw [writeListgroupResponse, filter_bounds hmax hselects]

/-- The indexed group that is selected is in the index, and its name can be written in a command. -/
def SessionState.Named (index : Option ArticleStoreIndex) (state : SessionState) : Prop :=
  ∀ groupName, state.selectedGroup = some (.indexed groupName) →
    Visible (asBytes groupName) ∧
      ∃ articles, (SelectedGroup.indexed groupName).articleNumbers index = some articles

theorem named_fixture (index : Option ArticleStoreIndex) (fixture : FixtureGroup)
    (article : Option Nat) : (SessionState.selectGroup (.fixture fixture) article).Named index := by
  intro groupName hselected
  cases Option.some.inj hselected

theorem named_selectIndexedGroup {state : SessionState} {groupName : Str}
    (h : state.Named (some index)) (hname : Visible (asBytes groupName)) (fixtureName : Bytes) :
    (selectIndexedGroup index state groupName fixtureName).Named (some index) := by
  unfold selectIndexedGroup
  cases hnumbers : index.articleNumbersForGroup groupName with
  | some articles =>
    intro selected hselected
    have hsame : groupName = selected := SelectedGroup.indexed.inj (Option.some.inj hselected)
    rw [← hsame]
    exact ⟨hname, articles, hnumbers⟩
  | none =>
    cases hfixture : fixtureGroupFromName fixtureName with
    | some fixture => exact named_fixture _ fixture _
    | none => exact h

theorem visible_selectedGroupName {state : SessionState}
    (h : state.Named (some index)) : ∀ name ∈ state.selectedGroupName (some index), Visible
    (asBytes name) := by
  intro name hname
  obtain ⟨group, hgroup, hname⟩ := Option.bind_eq_some_iff.mp hname
  cases group with
  | fixture fixture =>
    rw [← Option.some.inj hname]
    cases fixture <;> decide
  | indexed groupName =>
    obtain ⟨articles, -, hsame⟩ := Option.map_eq_some_iff.mp hname
    rw [← hsame]
    exact (h groupName hgroup).1

section Invariant

variable {config : ServerConfig} {kept : KeptCommand} {memory : SessionMemory}

theorem named_handleGroup (hkind : kept.request.kind = .group)
    (h : memory.sessionState.Named config.articleIndex) :
    (handleGroup config kept.command (some kept.commandLines) memory).memory.sessionState.Named
      config.articleIndex := by
  obtain ⟨group, -, text, hutf8, htrim⟩ := exists_groupName hkind
  have hname : Visible (asBytes (trim ((fromUtf8 (lineArgs kept.line)).getD []))) := by
    rw [hutf8, Option.getD_some, htrim]
    exact visible_trim group.isArgument.visible
  unfold handleGroup
  rw [kept.commandArgs_eq]
  dsimp only
  split
  · next index hindex =>
    rw [hindex] at h ⊢
    split
    · exact h
    · exact named_selectIndexedGroup h hname _
  · next hindex =>
    rw [hindex] at h ⊢
    split
    · exact h
    · exact named_fixture _ _ _

theorem named_handleListGroup (h : memory.sessionState.Named config.articleIndex) :
    (handleListGroup config kept.command (some kept.commandLines) memory).memory.sessionState.Named
      config.articleIndex := by
  unfold handleListGroup
  dsimp only
  split
  · exact h
  · next herror =>
    split
    · next index hindex =>
      rw [hindex] at h ⊢
      split
      · exact h
      · exact named_selectIndexedGroup h
          (visible_listgroupGroupName herror (visible_selectedGroupName h)) _
    · exact named_fixture _ _ _

theorem named_of_respond {now : Nat} {handled : Handled}
    (hpoints : memory.sessionState.Points config.articleIndex)
    (h : memory.sessionState.Named config.articleIndex)
    (hrespond : respond config now kept.command (some kept.commandLines) memory = .ok handled) :
    handled.memory.sessionState.Named config.articleIndex := by
  by_cases hgroup : kept.request.kind = .group
  · unfold respond at hrespond
    rw [kept.kind_command] at hrespond
    simp only [hgroup] at hrespond
    rw [← Except.ok.inj hrespond]
    exact named_handleGroup hgroup h
  by_cases hlistGroup : kept.request.kind = .listGroup
  · unfold respond at hrespond
    rw [kept.kind_command] at hrespond
    simp only [hlistGroup] at hrespond
    rw [← Except.ok.inj hrespond]
    exact named_handleListGroup h
  -- The other commands select no group.
  have houtcome := outcome_of_respond hpoints hrespond
  generalize handled.memory.sessionState = next at houtcome
  cases houtcome with
  | refused | unchanged | article => exact h
  | group _ _ hkind => exact absurd hkind (not_or.mpr ⟨hgroup, hlistGroup⟩)

theorem ReachableMemory.named (h : ReachableMemory config memory) :
    memory.sessionState.Named config.articleIndex := by
  have hboth : memory.sessionState.Points config.articleIndex ∧
      memory.sessionState.Named config.articleIndex := by
    refine Transitions.Reachable.invariant (P := fun memory : SessionMemory =>
      memory.sessionState.Points config.articleIndex ∧
        memory.sessionState.Named config.articleIndex) ?_ ?_ h
    · rintro start rfl
      refine ⟨SessionState.points_initial, ?_⟩
      intro groupName hselected
      cases hselected
    · intro memory next _ hinv hstep
      obtain ⟨kept, now, handled, hrespond, rfl⟩ := hstep
      exact ⟨(outcome_of_respond hinv.1 hrespond).points hinv.1, named_of_respond hinv.1 hinv.2
        hrespond⟩
  exact hboth.2

end Invariant

def fixtureRows : RequestKind → Bytes → SessionState → Bytes
  | .over => overResponse
  | .xover => xoverResponse
  | .hdr => hdrResponse
  | _ => xhdrResponse

section Replies

variable {kept : KeptCommand} {selector statusLine : Bytes}
  {row : IndexedArticleSelector → ArticleStoreEntry → Bytes}

theorem overviewResponseForIndexInto_eq (response statusLine : Bytes) {args : Bytes}
    (hne : args ≠ []) (state : SessionState) (index : ArticleStoreIndex) :
    overviewResponseForIndexInto response statusLine args state index =
      appendSelectedRows index overviewRow statusLine state args := by
  rw [overviewResponseForIndexInto, if_neg hne, overviewRowForEntry_eq]
  rfl

theorem headerResponseForIndexInto_eq (response statusLine : Bytes) {args header selector : Bytes}
    (htokens : commandTokens args = [header, selector]) (state : SessionState)
    (index : ArticleStoreIndex) (messageIdRowKey : HeaderMessageIdRowKey) :
    headerResponseForIndexInto response statusLine args state index messageIdRowKey =
      appendSelectedRows index (headerRowForEntry header messageIdRowKey) statusLine state
        selector := by
  obtain ⟨hheader, hcount, hselector⟩ := header_and_selector htokens
  simp [headerResponseForIndexInto, hheader, hcount, overviewSelectorArg, hselector, clear]

/-- The four arms are one, with a builder that appends the rows of the selector. -/
theorem AsksRows.respond_eq (h : AsksRows kept selector statusLine row) :
    ∃ responseWithIndex : Bytes → Bytes → SessionState → ArticleStoreIndex → Built,
      (∀ response state index, responseWithIndex response (lineArgs kept.line) state index =
        appendSelectedRows index row statusLine state selector) ∧
      ∀ config now memory, respond config now kept.command (some kept.commandLines) memory =
        .ok (handleOverview config kept.command (some kept.commandLines) memory responseWithIndex
          (fixtureRows kept.request.kind)) := by
  have hcommand := kept.kind_command
  cases h with
  | overview hkind hargs hne =>
    subst hargs
    rcases hkind with hkind | hkind
    · refine ⟨overResponseForArgsWithIndex, ?_, ?_⟩
      · exact fun response => overviewResponseForIndexInto_eq response _ hne
      · intro config now memory
        simp only [respond, hcommand, hkind, fixtureRows]
    · refine ⟨xoverResponseForArgsWithIndex, ?_, ?_⟩
      · exact fun response => overviewResponseForIndexInto_eq response _ hne
      · intro config now memory
        simp only [respond, hcommand, hkind, fixtureRows]
  | hdr header hkind htokens hsupported =>
    refine ⟨hdrResponseForArgsWithIndex, ?_, ?_⟩
    · intro response state index
      rw [← (headerRowForEntry_eq header).1]
      exact headerResponseForIndexInto_eq response _ htokens state index .zero
    · intro config now memory
      simp only [respond, hcommand, hkind, fixtureRows]
  | xhdr header hkind htokens hsupported =>
    refine ⟨xhdrResponseForArgsWithIndex, ?_, ?_⟩
    · intro response state index
      rw [← (headerRowForEntry_eq header).2]
      exact headerResponseForIndexInto_eq response _ htokens state index .messageId
    · intro config now memory
      simp only [respond, hcommand, hkind, fixtureRows]

variable {config : ServerConfig} {index : ArticleStoreIndex} {buffer : Bytes}
  {memory : SessionMemory}

/-- What the guard lets through is answered with the rows of the selector, if they can be built. -/
theorem AsksRows.respond_of_built (h : AsksRows kept selector statusLine row)
    (hindex : config.articleIndex = some index)
    (herror : overviewSelectorError kept.command (some kept.commandLines) memory.sessionState
      (some index) = none)
    (hbuilt : appendSelectedRows index row statusLine memory.sessionState selector = ⟨buffer, true⟩)
    (now : Nat) :
    respond config now kept.command (some kept.commandLines) memory =
      .ok (memory.answerAux buffer) := by
  obtain ⟨responseWithIndex, hrows, hrespond⟩ := h.respond_eq
  rw [hrespond]
  unfold handleOverview
  simp only [hindex, herror, kept.commandArgs_eq, hrows, hbuilt, if_true]

end Replies

/-- What OVER, XOVER, HDR, XHDR and LISTGROUP make of a range in an indexed group. -/
structure SelectsRows (config : ServerConfig) (index : ArticleStoreIndex) (memory : SessionMemory)
    (groupName : Str) (group : ArticleStoreGroup) (range : ListGroupRange)
    (entries : List NumberedEntry) :
    Prop where
  /-- The numbers of the interval in increasing order, with their entries. -/
  entriesOf : EntriesOf index (group.articleNumbers.filter (selects range)) entries
  increasing : (entries.map Prod.fst).Pairwise (· < ·)
  /-- A command is refused exactly when the interval has no article. -/
  refused :
    ∀ (kept : KeptCommand) (statusLine : Bytes) (row : IndexedArticleSelector → ArticleStoreEntry →
    Bytes), AsksRows kept (asBytes range.value) statusLine row →
      ((overviewSelectorError kept.command (some kept.commandLines) memory.sessionState
          (some index)).isSome = true ↔ ¬ Hits group.articleNumbers range)
  /-- Otherwise the reply has one row for each of the numbers. -/
  rows :
    ∀ (kept : KeptCommand) (statusLine : Bytes) (row : IndexedArticleSelector → ArticleStoreEntry →
    Bytes), AsksRows kept (asBytes range.value) statusLine row → Hits group.articleNumbers range →
      ∀ now, ∃ handled, respond config now kept.command (some kept.commandLines) memory =
        .ok handled ∧ handled.reply = .response (statusLine ++
          entries.flatMap (fun entry => row (.number entry.1) entry.2) ++ DOT_TERMINATOR)
  /-- LISTGROUP can be asked for the group and the range, and lists the same numbers. -/
  named : commandTokens (asBytes groupName ++ SP :: asBytes range.value) =
    [asBytes groupName, asBytes range.value]
  listed : ∀ args, commandTokens args = [asBytes groupName, asBytes range.value] →
    ∀ (response : Bytes) (currentGroup : Option Str),
      listgroupResponseForArgsWithIndexInto response args currentGroup index =
        some (writeStatusLine response groupName group.articleNumbers ++
          (entries.map Prod.fst).flatMap (fun number => decimalText number ++ CRLF) ++
            DOT_TERMINATOR)

theorem selectsRows_of_build {config : ServerConfig} {index : ArticleStoreIndex}
    {memory : SessionMemory}
    {root : List DirEntry} {groupName : Str} (hbuild : ArticleStoreIndex.build root = .ok index)
    (hindex : config.articleIndex = some index) (hreachable : ReachableMemory config memory)
    (hselected : memory.sessionState.selectedGroup = some (.indexed groupName))
    (range : ListGroupRange) :
    ∃ group entries, index.groups[groupName]? = some group ∧
      SelectsRows config index memory groupName group range entries := by
  obtain ⟨hvisible, numbers, hnumbers⟩ := hreachable.named groupName hselected
  rw [hindex] at hnumbers
  obtain ⟨group, hgroup, rfl⟩ := Option.map_eq_some_iff.mp hnumbers
  have harticles : memory.sessionState.currentGroupArticles (some index) =
      some group.articleNumbers := by
    rw [SessionState.currentGroupArticles, hselected]
    exact hnumbers
  have hgroupSelected : memory.sessionState.groupSelected = true := by
    rw [hreachable.points.1, hselected]
    rfl
  have hmax : ∀ number ∈ group.articleNumbers, number ≤ MAX_ARTICLE_NUMBER := fun number hmem =>
    le_max_of_build hbuild hgroup hmem
  have hne : groupName ≠ [] := name_ne_nil_of_build hbuild hgroup
  have hname : IsArgument (asBytes groupName) := ⟨asBytes_ne_nil hne, hvisible⟩
  have hfound : ∀ number ∈ group.articleNumbers.filter (selects range),
      ∃ entry, index.articleEntry number = some entry := by
    intro number hmem
    exact exists_entry_of_build hbuild hgroup (List.mem_of_mem_filter hmem)
  obtain ⟨entries, hentries⟩ := exists_entriesOf hfound
  refine ⟨group, entries, hgroup, hentries, ?_, ?_, ?_, ?_, ?_⟩
  · rw [hentries.numbers_eq]
    exact group.sorted.filter _
  · intro kept statusLine row hasks
    exact hasks.overviewSelectorError_isSome_iff hgroupSelected harticles hmax
  · intro kept statusLine row hasks hhits now
    have herror : overviewSelectorError kept.command (some kept.commandLines) memory.sessionState
        (some index) = none := by
      rw [← Option.not_isSome_iff_eq_none, hasks.overviewSelectorError_isSome_iff hgroupSelected
        harticles hmax]
      exact not_not.mpr hhits
    have hbuilt := appendSelectedRows_range harticles hmax row statusLine hentries
    exact ⟨_, hasks.respond_of_built hindex herror hbuilt now, rfl⟩
  · rw [commandTokens_cons hname, commandTokens_singleton range.isArgument]
  · intro args htokens response currentGroup
    rw [hentries.numbers_eq]
    exact listgroupResponse_range hgroup (trim_of_build hbuild hgroup) hne htokens hmax response
      currentGroup

def overFromTwo : KeptCommand := .ofLine (ascii "OVER 2-\r\n") (by decide +kernel)

def fromTwo : ListGroupRange := ⟨"2-".toList, by decide⟩

/-- The session after `GROUP misc.test`, and the one article from number 2 on. -/
theorem rows_from_two :
    ∃ index memory group entries, twoArticlesServer.articleIndex = some index ∧
      ReachableMemory twoArticlesServer memory ∧
      memory.sessionState.selectedGroup = some (.indexed "misc.test".toList) ∧
      index.groups["misc.test".toList]? = some group ∧ Hits group.articleNumbers fromTwo ∧
      SelectsRows twoArticlesServer index memory "misc.test".toList group fromTwo entries ∧
      entries.map Prod.fst = [2] ∧
      ∃ handled, respond twoArticlesServer 0 overFromTwo.command (some overFromTwo.commandLines)
        memory = .ok handled ∧
        handled.reply = .response (ascii
          "224 Overview information follows\r\n2\t\t\t\t<c@d>\t\t31\t1\r\n.\r\n") := by
  obtain ⟨index, group, hbuild, hgroup, hlist⟩ := build_twoArticles
  have hindex : twoArticlesServer.articleIndex = some index := articleIndex_of_dir id rfl hbuild
  obtain ⟨memory, hreachable, hstate⟩ := exists_miscTest_selected hbuild hindex hgroup
  have hselected : memory.sessionState.selectedGroup = some (.indexed "misc.test".toList) := by
    rw [hstate]
    rfl
  obtain ⟨group', entries, hgroup', hrows⟩ :=
    selectsRows_of_build hbuild hindex hreachable hselected fromTwo
  have hsame : group = group' := Option.some.inj (hgroup.symm.trans hgroup')
  subst hsame
  have hhits : Hits group.articleNumbers fromTwo := ⟨2, by rw [hlist]; decide, by decide⟩
  have hasks : AsksRows overFromTwo (asBytes fromTwo.value)
    (crlfText ["224 Overview information follows"])
      overviewRow := .overview (.inl (by decide +kernel)) (by decide +kernel) (by decide)
  have hnumbers : entries.map Prod.fst = [2] := by
    rw [hrows.entriesOf.numbers_eq, hlist]
    decide
  have hrow : (ArticleStoreIndex.build twoArticles).toOption.bind
      (fun index => (index.articleEntry 2).map (overviewRow (.number 2))) =
        some (ascii "2\t\t\t\t<c@d>\t\t31\t1\r\n") := by
    decide +kernel
  rw [hbuild] at hrow
  obtain ⟨⟨_, entry⟩, rfl, rfl⟩ := List.map_eq_singleton_iff.mp hnumbers
  obtain ⟨handled, hrespond, hreply⟩ := hrows.rows overFromTwo _ _ hasks hhits 0
  have hentry : index.articleEntry 2 = some entry := hrows.entriesOf.entry _ List.mem_cons_self
  simp only [Except.toOption, Option.bind_some, hentry, Option.map_some] at hrow
  refine ⟨index, _, group, _, hindex, hreachable, hselected, hgroup, hhits, hrows, rfl, handled,
    hrespond, hreply.trans ?_⟩
  rw [List.flatMap_singleton, Option.some.inj hrow]
  decide

end NntpBench.Server
