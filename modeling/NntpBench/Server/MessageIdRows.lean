import NntpBench.Server.SelectedRows

namespace NntpBench.Server

open Protocol Terminator

theorem not_missing_of_supported {header : Bytes} (h : hdrFieldIsSupported header = true) :
    ¬ ascii "missing" <:+: header := by
  have hall : ∀ name ∈ HDR_FIELDS, ¬ (ascii "missing").map toAsciiLowercase <:+: name.map
      toAsciiLowercase := by
    decide
  obtain ⟨name, hname, hequal⟩ := List.any_eq_true.mp h
  intro hmissing
  have hlower := hmissing.map toAsciiLowercase
  rw [of_decide_eq_true hequal] at hlower
  exact hall name hname hlower

section MessageIds

variable {kept : KeptCommand} {statusLine : Bytes}
  {row : IndexedArticleSelector → ArticleStoreEntry → Bytes}
  {messageId : MessageId}

theorem start_of_messageId (messageId : MessageId) : ascii "<" <+: asBytes messageId.value := by
  obtain ⟨inner, hbytes, -, -⟩ := asBytes_of_validateMessageId messageId.valid
  exact ⟨inner ++ [62], by rw [hbytes]; rfl⟩

theorem trim_messageId (messageId : MessageId) : trim messageId.value = messageId.value := by
  have hvalid := messageId.valid
  simp only [validateMessageId, Bool.and_eq_true, decide_eq_true_eq] at hvalid
  apply trim_eq_self
  · rw [hvalid.1.1.2]
    intro c hc
    rw [← Option.some.inj hc]
    decide
  · rw [hvalid.1.2]
    intro c hc
    rw [← Option.some.inj hc]
    decide

theorem messageIdFromSelector_asBytes (messageId : MessageId) :
    messageIdFromSelector (asBytes messageId.value) = some messageId := by
  have hvalid := messageId.valid
  simp only [validateMessageId, Bool.and_eq_true, decide_eq_true_eq] at hvalid
  have hne : messageId.value ≠ [] := by
    intro hnil
    rw [hnil] at hvalid
    cases hvalid.1.1.2
  rw [messageIdFromSelector, fromUtf8_asBytes, Option.bind_some, trim_messageId,
    MessageId.fromStrOrWrap,
    if_neg hne, if_pos ⟨hvalid.1.1.2, hvalid.1.2⟩, MessageId.fromBorrowed, dif_pos messageId.valid]

theorem listgroupRangeBounds_of_start {selector : Bytes} {rest : Str}
    (h : fromUtf8 selector = some ('<' :: rest)) : listgroupRangeBounds selector = none := by
  have hparse (text : Str) : parseUnsigned (2 ^ 64) ('<' :: text) = none := by
    simp [parseUnsigned, parseDigits]
  unfold listgroupRangeBounds
  rw [h]
  cases hsplit : splitOnce '-' ('<' :: rest) with
  | none => simp [-Nat.reducePow, hsplit, hparse]
  | some parts =>
    obtain ⟨start, fin⟩ := parts
    have hcut := splitOnce_eq_some hsplit
    cases start with
    | nil => cases hcut
    | cons first start =>
      rw [List.cons_append] at hcut
      obtain ⟨rfl, -⟩ := List.cons.inj hcut
      simp [-Nat.reducePow, hsplit, hparse]

theorem exists_rest_of_messageId (messageId : MessageId) :
    ∃ rest, messageId.value = '<' :: rest := by
  have hvalid := messageId.valid
  simp only [validateMessageId, Bool.and_eq_true, decide_eq_true_eq] at hvalid
  exact List.head?_eq_some_iff.mp hvalid.1.1.2

theorem listgroupRangeBounds_messageId (messageId : MessageId) :
    listgroupRangeBounds (asBytes messageId.value) = none := by
  obtain ⟨rest, hvalue⟩ := exists_rest_of_messageId messageId
  apply listgroupRangeBounds_of_start
  rw [fromUtf8_asBytes, hvalue]

theorem selectorNumberIsMissing_of_start {args : Bytes} (h : ascii "<" <+: args)
    (state : SessionState) (index : Option ArticleStoreIndex) :
    selectorNumberIsMissing state index args = false := by
  obtain ⟨rest, rfl⟩ := h
  rfl

theorem fixtureRows_of_start {kind : RequestKind} {args : Bytes}
    (hkind : kind = .over ∨ kind = .xover) (h : ascii "<" <+: args) (state : SessionState) :
    fixtureRows kind args state = OVER_MESSAGE_ID_RESPONSE := by
  have hne : args ≠ [] := by
    rintro rfl
    exact absurd h (by decide)
  rcases hkind with rfl | rfl
  all_goals simp [fixtureRows, overResponse, xoverResponse, currentOverviewArgs, hne,
    overResponseForArgs, xoverResponseForArgs, overviewResponseForSelector,
    overviewSelectorIsMessageId, h]

theorem AsksRows.missing_iff (h : AsksRows kept (asBytes messageId.value) statusLine row) :
    ascii "missing" <:+: lineArgs kept.line ↔ ascii "missing" <:+: asBytes messageId.value := by
  cases h with
  | overview hkind hargs hne => rw [hargs]
  | hdr header hkind htokens hsupported | xhdr header hkind htokens hsupported =>
    constructor
    · intro hmissing
      obtain ⟨token, htoken, hin⟩ := exists_token_of_infix (by decide) (by decide) _ hmissing
      rw [htokens] at htoken
      rcases List.mem_pair.mp htoken with rfl | rfl
      · exact absurd hin (not_missing_of_supported hsupported)
      · exact hin
    · intro hmissing
      have hmem : asBytes messageId.value ∈ commandTokens (lineArgs kept.line) := by
        rw [htokens]
        simp
      exact hmissing.trans (infix_of_mem_commandTokens _ hmem)

theorem AsksRows.articleId_messageId (h : AsksRows kept (asBytes messageId.value) statusLine row) :
    kept.command.articleId = none := by
  have hknown := h.known
  cases h with
  | overview hkind hargs hne =>
    have hrequest : kept.request.args = asBytes messageId.value := by
      apply KeptCommand.request_args hknown hargs hne
      intro byte hbyte
      exact messageId.isArgument.visible.not_commandWs (List.mem_of_getLast? hbyte)
    rw [kept.articleId_command, hrequest, parseArticleIdArg_messageId]
  | hdr header hkind htokens hsupported | xhdr header hkind htokens hsupported =>
    exact (KeptCommand.of_supported hknown (by rw [htokens]; rfl) hsupported).2

theorem AsksRows.overviewSelectorError_messageId
    (h : AsksRows kept (asBytes messageId.value) statusLine row)
    (state : SessionState) (index : Option ArticleStoreIndex) :
    overviewSelectorError kept.command (some kept.commandLines) state index =
      if overviewSelectorIsRange (asBytes messageId.value) then
        if legacyOverviewUses420ForMissingRange kept.command.kind then
          some (crlfText ["420 no article(s) selected"])
        else some (crlfText ["423 no articles in that range"])
      else if containsSubslice (asBytes messageId.value) (ascii "missing") then
        some NO_ARTICLE_WITH_MESSAGE_ID
      else none := by
  -- What the guard makes of a message-id, in every state.
  have hstart := start_of_messageId messageId
  have hnumber := selectorNumberIsMissing_of_start hstart state index
  have hmissing : containsSubslice (lineArgs kept.line) (ascii "missing") =
      containsSubslice (asBytes messageId.value) (ascii "missing") := by
    unfold containsSubslice
    rw [decide_eq_decide]
    exact h.missing_iff
  rw [h.overviewSelectorError_eq, h.articleId_messageId, hnumber, hmissing]
  have hrequires : overviewSelectorRequiresGroup (asBytes messageId.value) = false := by
    rw [overviewSelectorRequiresGroup, decide_eq_true hstart]
    rfl
  rw [hrequires, decide_eq_true hstart]
  by_cases hrange : overviewSelectorIsRange (asBytes messageId.value) = true
  · have hselects (articles : List Nat) :
        overviewSelectorRangeSelectsArticles (asBytes messageId.value) articles = false := by
      rw [overviewSelectorRangeSelectsArticles, listgroupRangeBounds_messageId]
    simp [hrange, hselects]
  · simp [hrange]

theorem isRange_iff (messageId : MessageId) :
    overviewSelectorIsRange (asBytes messageId.value) = true ↔
      (45 : UInt8) ∈ asBytes messageId.value := by
  rw [overviewSelectorIsRange, List.contains_eq_mem, decide_eq_true_eq]

theorem AsksRows.overviewSelectorError_of_no_dash
    (h : AsksRows kept (asBytes messageId.value) statusLine row)
    (hdash : (45 : UInt8) ∉ asBytes messageId.value) (state : SessionState)
    (index : Option ArticleStoreIndex) :
    overviewSelectorError kept.command (some kept.commandLines) state index =
      if ascii "missing" <:+: asBytes messageId.value then some NO_ARTICLE_WITH_MESSAGE_ID
        else none := by
  rw [h.overviewSelectorError_messageId, if_neg (mt (isRange_iff messageId).mp hdash)]
  unfold containsSubslice
  simp only [decide_eq_true_eq]

/-- The reply says that there is no article with the message-id. -/
def Reply.isNoSuchMessageId (self : Reply) : Bool :=
  (StatusCode.parse self.bytes).any fun status => status.code = 430

variable {config : ServerConfig} {index : ArticleStoreIndex} {memory : SessionMemory}

theorem AsksRows.respond_of_error {selector response : Bytes}
    (h : AsksRows kept selector statusLine row)
    (herror : overviewSelectorError kept.command (some kept.commandLines) memory.sessionState
      config.articleIndex = some response) (now : Nat) :
    respond config now kept.command (some kept.commandLines) memory =
      .ok (memory.answer response) := by
  obtain ⟨responseWithIndex, -, hrespond⟩ := h.respond_eq
  rw [hrespond, handleOverview, herror]

theorem AsksRows.not_isNoSuchMessageId_fixtureRows
    (h : AsksRows kept (asBytes messageId.value) statusLine row)
    (state : SessionState) :
    (Reply.response (fixtureRows kept.request.kind (lineArgs kept.line) state)).isNoSuchMessageId =
      false := by
  -- The fixtures have a row for every message-id.
  have hstart : overviewSelectorIsMessageId (asBytes messageId.value) = true :=
    decide_eq_true (start_of_messageId messageId)
  have hresponse (responses : HeaderResponses) :
      headerResponseForSelector responses (some (asBytes messageId.value)) =
        responses.messageId := by
    rw [headerResponseForSelector, Option.any_some, if_pos hstart]
  cases h with
  | overview hkind hargs hne =>
    rw [hargs, fixtureRows_of_start hkind (start_of_messageId messageId)]
    decide
  | hdr header hkind htokens hsupported =>
    obtain ⟨hheader, hcount, hselector⟩ := header_and_selector htokens
    have hcurrent : currentHeaderArgs (lineArgs kept.line) state = none := by
      rw [currentHeaderArgs, if_pos (by rw [hcount]; decide)]
    simp only [hkind, fixtureRows, hdrResponse, hdrResponseForArgs, headerResponseForArgs, hcurrent,
      Option.getD_none, overviewSelectorArg, hselector, hresponse]
    repeat' split
    all_goals decide
  | xhdr header hkind htokens hsupported =>
    obtain ⟨hheader, hcount, hselector⟩ := header_and_selector htokens
    have hcurrent : currentHeaderArgs (lineArgs kept.line) state = none := by
      rw [currentHeaderArgs, if_pos (by rw [hcount]; decide)]
    simp only [hkind, fixtureRows, xhdrResponse, xhdrResponseForArgs, headerResponseForArgs,
      hcurrent, Option.getD_none, overviewSelectorArg, hselector, hresponse]
    repeat' split
    all_goals decide

theorem appendSelectedRows_messageId (index : ArticleStoreIndex) (response : Bytes)
    (state : SessionState) : appendSelectedRows index row response state (asBytes messageId.value) =
      match index.articleNumberForMessageId messageId.value with
      | some articleNumber => appendOneRow index row response articleNumber
          (.messageId articleNumber)
      | none => ⟨response, false⟩ := by
  rw [appendSelectedRows, overviewSelectorIsMessageId,
    decide_eq_true (start_of_messageId messageId), if_pos rfl, messageIdFromSelector_asBytes]
  rfl

/-- A message-id without a dash that the guard does not know by its text is answered from the index,
or from the fixtures if the index does not have it. -/
theorem AsksRows.respond_unknown (h : AsksRows kept (asBytes messageId.value) statusLine row)
    (hindex : config.articleIndex = some index)
    (herror : overviewSelectorError kept.command (some kept.commandLines) memory.sessionState
      (some index) = none)
    (hunknown : index.articleNumberForMessageId messageId.value = none) (now : Nat) :
    ∃ handled, respond config now kept.command (some kept.commandLines) memory = .ok handled ∧
      handled.reply.isNoSuchMessageId = false := by
  obtain ⟨responseWithIndex, hrows, hrespond⟩ := h.respond_eq
  refine ⟨_, hrespond config now memory, ?_⟩
  unfold handleOverview
  simp only [hindex, herror, kept.commandArgs_eq, hrows, appendSelectedRows_messageId, hunknown]
  exact h.not_isNoSuchMessageId_fixtureRows memory.sessionState

theorem AsksRows.respond_known {articleNumber : Nat} {entry : ArticleStoreEntry}
    (h : AsksRows kept (asBytes messageId.value) statusLine row)
    (hindex : config.articleIndex = some index)
    (herror : overviewSelectorError kept.command (some kept.commandLines) memory.sessionState
      (some index) = none)
    (hnumber : index.articleNumberForMessageId messageId.value = some articleNumber)
    (hentry : index.articleEntry articleNumber = some entry) (now : Nat) :
    respond config now kept.command (some kept.commandLines) memory =
      .ok (memory.answerAux (statusLine ++ row (.messageId articleNumber) entry ++
        DOT_TERMINATOR)) := by
  apply h.respond_of_built hindex herror _ now
  rw [appendSelectedRows_messageId, hnumber]
  simp only [appendOneRow, hentry]

end MessageIds

theorem KeptCommand.exists_of_line {line : Bytes} (h : line.length < 2 ^ 16) :
    ∃ kept : KeptCommand, kept.line = line := by
  have hslot : (parseCommandLine line 0).lineSlot = 0 := lineSlot_parseCommandLine _ (by decide)
  have hheld : HoldsLines (.ofLines [line]) [line] := by
    apply holdsLines_ofLines
    · simpa using h
    · rw [List.flatten_singleton]
      omega
  have hline : (CommandLineBatch.ofLines [line]).line 0 = line := hheld.line rfl
  exact ⟨.ofLine line (by rw [hslot]; exact hline), rfl⟩

theorem exists_direct {verb args : Bytes} {kind : RequestKind}
    (hmem : (verb, CommandKind.direct kind) ∈ COMMAND_DESCRIPTORS) (hverb : IsArgument verb)
    (hargs : Spaced args)
    (hlength : verb.length + args.length + 3 ≤ MAX_INITIAL_RESPONSE_LINE_BYTES)
    (hlimit : args.length ≤ MAX_COMMAND_ARGUMENT_BYTES)
    (hdirect : classifyDirectCommand kind args = kind) :
    ∃ kept : KeptCommand, kept.request.kind = kind ∧ lineArgs kept.line = args := by
  have hline : (commandBytes verb args).length ≤ verb.length + args.length + 3 := by
    have hcrlf : CRLF.length = 2 := rfl
    unfold commandBytes
    split_ifs
    all_goals
      simp only [List.length_append, List.length_cons, List.length_nil, hcrlf]
      omega
  have hshort : (commandBytes verb args).length ≤ MAX_INITIAL_RESPONSE_LINE_BYTES :=
    hline.trans hlength
  have hsmall : (commandBytes verb args).length < 2 ^ 16 := by
    unfold MAX_INITIAL_RESPONSE_LINE_BYTES at hshort
    omega
  obtain ⟨kept, hkept⟩ := KeptCommand.exists_of_line hsmall
  refine ⟨kept, ?_, ?_⟩
  · rw [KeptCommand.request, hkept, parse_commandBytes hverb hargs hshort hlimit]
    show classifyRequestKind verb args = kind
    rw [classifyRequestKind_direct hmem, hdirect]
  · rw [hkept]
    exact lineArgs_commandBytes hverb hargs

theorem length_messageId (messageId : MessageId) : (asBytes messageId.value).length ≤ 250 := by
  have hvalid := messageId.valid
  simp only [validateMessageId, Bool.and_eq_true, decide_eq_true_eq] at hvalid
  exact hvalid.1.1.1.2

theorem validateArticleSelector_messageId (messageId : MessageId) :
    validateUtf8Arg validateArticleSelector (asBytes messageId.value) = true := by
  have hvalid := messageId.valid
  simp only [validateMessageId, Bool.and_eq_true, decide_eq_true_eq] at hvalid
  have hargument := messageId.isArgument
  have hwhite : ¬ (asBytes messageId.value).any isAsciiWhitespace = true := by
    intro hany
    obtain ⟨byte, hbyte, hblank⟩ := List.any_eq_true.mp hany
    rw [hargument.visible.not_whitespace hbyte] at hblank
    cases hblank
  have hne : messageId.value ≠ [] := by
    intro hnil
    exact hargument.nonempty (by rw [hnil]; rfl)
  rw [validateUtf8Arg_asBytes, validateArticleSelector, if_neg (not_or.mpr ⟨hne, hwhite⟩),
    if_pos hvalid.1.1.2]
  exact messageId.valid

theorem exists_over (messageId : MessageId) : ∃ kept : KeptCommand,
    AsksRows kept (asBytes messageId.value) (crlfText ["224 Overview information follows"])
      overviewRow := by
  have hlength := length_messageId messageId
  have hverb : IsArgument (ascii "OVER") := ⟨by decide, by decide⟩
  have hdirect : classifyDirectCommand .over (asBytes messageId.value) = .over := by
    rw [classifyDirectCommand, kindIf, validateArticleSelector_messageId, Bool.or_true, if_pos rfl]
  have hline : (ascii "OVER").length + (asBytes messageId.value).length + 3 ≤
      MAX_INITIAL_RESPONSE_LINE_BYTES := by
    have hover : (ascii "OVER").length = 4 := rfl
    unfold MAX_INITIAL_RESPONSE_LINE_BYTES
    omega
  have hlimit : (asBytes messageId.value).length ≤ MAX_COMMAND_ARGUMENT_BYTES := by
    unfold MAX_COMMAND_ARGUMENT_BYTES
    omega
  obtain ⟨kept, hkind, hargs⟩ :=
    exists_direct (by decide) hverb messageId.isArgument.visible.spaced hline hlimit hdirect
  exact ⟨kept, .overview (.inl hkind) hargs messageId.isArgument.nonempty⟩

theorem exists_hdr (messageId : MessageId) : ∃ kept : KeptCommand,
    AsksRows kept (asBytes messageId.value) (crlfText ["225 headers follow"])
      (headerRow (ascii "Message-ID") fun _ => ascii "0") := by
  -- `HDR Message-ID` with a message-id.
  have hverb : IsArgument (ascii "HDR") := ⟨by decide, by decide⟩
  have hheader : IsArgument (ascii "Message-ID") := ⟨by decide, by decide⟩
  have hargument := messageId.isArgument
  have htokens : commandTokens (ascii "Message-ID" ++ SP :: asBytes messageId.value) =
      [ascii "Message-ID", asBytes messageId.value] := by
    rw [commandTokens_cons hheader, commandTokens_singleton hargument]
  have hname : validateUtf8Arg validateHeaderName (ascii "Message-ID") = true := by decide
  have hdirect : classifyDirectCommand .hdr (ascii "Message-ID" ++ SP :: asBytes messageId.value) =
      .hdr := by
    simp only [classifyDirectCommand, htokens, kindIf, hname, validateArticleSelector_messageId,
      Bool.and_true, if_true]
  have hlength : (ascii "Message-ID" ++ SP :: asBytes messageId.value).length ≤ 261 := by
    have hid := length_messageId messageId
    have hten : (ascii "Message-ID").length = 10 := rfl
    rw [List.length_append, List.length_cons]
    omega
  have hline : (ascii "HDR").length + (ascii "Message-ID" ++ SP :: asBytes messageId.value).length +
      3 ≤ MAX_INITIAL_RESPONSE_LINE_BYTES := by
    have hhdr : (ascii "HDR").length = 3 := rfl
    unfold MAX_INITIAL_RESPONSE_LINE_BYTES
    omega
  have hlimit : (ascii "Message-ID" ++ SP :: asBytes messageId.value).length ≤
      MAX_COMMAND_ARGUMENT_BYTES := by
    unfold MAX_COMMAND_ARGUMENT_BYTES
    omega
  obtain ⟨kept, hkind, hargs⟩ := exists_direct (by decide) hverb
    (hheader.spaced_cons hargument.visible.spaced hargument.nonempty) hline hlimit hdirect
  exact ⟨kept, .hdr _ hkind (by rw [hargs]; exact htokens) (by decide)⟩

/-- The command is answered with status 430 exactly if the index does not have the message-id, and
otherwise with the row of the entry that has it. -/
def AnswersMessageId (config : ServerConfig) (index : ArticleStoreIndex) (memory : SessionMemory)
    (messageId : MessageId) : Prop :=
  ∀ (kept : KeptCommand) (statusLine : Bytes)
    (row : IndexedArticleSelector → ArticleStoreEntry → Bytes),
    AsksRows kept (asBytes messageId.value) statusLine row →
      ∀ now, ∃ handled, respond config now kept.command (some kept.commandLines) memory =
        .ok handled ∧
        (handled.reply.isNoSuchMessageId = true ↔
          index.articleNumberForMessageId messageId.value = none) ∧
        (index.articleNumberForMessageId messageId.value ≠ none →
          ∃ articleNumber entry, index.articleEntry articleNumber = some entry ∧
            entry.messageId = messageId.value ∧
            handled.reply = .response (statusLine ++ row (.messageId articleNumber) entry ++
              DOT_TERMINATOR))

/-- The text of a message-id does not mislead: it has no dash, it has the word `missing` exactly if
the index does not have it, and the article under its number was not replaced by another one. -/
structure SpeaksForItself (index : ArticleStoreIndex) (messageId : MessageId) : Prop where
  dash : (45 : UInt8) ∉ asBytes messageId.value
  missing : ascii "missing" <:+: asBytes messageId.value ↔
    index.articleNumberForMessageId messageId.value = none
  entry : ∀ articleNumber entry, index.articleNumberForMessageId messageId.value =
    some articleNumber →
    index.articleEntry articleNumber = some entry → entry.messageId = messageId.value

theorem Reply.not_isNoSuchMessageId_of_head? {reply : Reply} (h : reply.bytes.head? = some 50) :
    reply.isNoSuchMessageId = false := by
  unfold isNoSuchMessageId
  cases hstatus : StatusCode.parse reply.bytes with
  | none => rfl
  | some status =>
    obtain ⟨rest, hbytes⟩ := List.head?_eq_some_iff.mp h
    rw [hbytes] at hstatus
    have hcode := StatusCode.code_of_two hstatus
    rw [Option.any_some, decide_eq_false_iff_not]
    omega

section Answers

variable {config : ServerConfig} {index : ArticleStoreIndex} {root : List DirEntry}
  {memory : SessionMemory}
  {messageId : MessageId} {kept : KeptCommand} {statusLine : Bytes}
  {row : IndexedArticleSelector → ArticleStoreEntry → Bytes}

theorem AsksRows.head?_statusLine {selector : Bytes} (h : AsksRows kept selector statusLine row)
    (rest : Bytes) : (statusLine ++ rest).head? = some 50 := by
  cases h <;> rfl

theorem isNoSuchMessageId_refusal :
    (Reply.response NO_ARTICLE_WITH_MESSAGE_ID).isNoSuchMessageId = true := by
  decide

theorem SpeaksForItself.answers (h : SpeaksForItself index messageId)
    (hbuild : ArticleStoreIndex.build root = .ok index) (hindex : config.articleIndex = some index)
    (memory : SessionMemory) : AnswersMessageId config index memory messageId := by
  intro kept statusLine row hasks now
  have hguard := hasks.overviewSelectorError_of_no_dash h.dash memory.sessionState (some index)
  cases hnumber : index.articleNumberForMessageId messageId.value with
  | none =>
    rw [if_pos (h.missing.mpr hnumber), ← hindex] at hguard
    refine ⟨_, hasks.respond_of_error hguard now, ?_, ?_⟩
    · exact ⟨fun _ => rfl, fun _ => isNoSuchMessageId_refusal⟩
    · intro hne
      exact absurd rfl hne
  | some articleNumber =>
    have hmissing : ¬ ascii "missing" <:+: asBytes messageId.value := by
      intro hin
      rw [h.missing.mp hin] at hnumber
      cases hnumber
    rw [if_neg hmissing] at hguard
    obtain ⟨entry, hentry⟩ := exists_entry_of_messageId hbuild hnumber
    refine ⟨_, hasks.respond_known hindex hguard hnumber hentry now, ?_, ?_⟩
    · have hfound : (memory.answerAux
          (statusLine ++ row (.messageId articleNumber) entry ++
            DOT_TERMINATOR)).reply.isNoSuchMessageId =
          false := by
        apply Reply.not_isNoSuchMessageId_of_head?
        show (statusLine ++ row (.messageId articleNumber) entry ++ DOT_TERMINATOR).head? = some 50
        rw [List.append_assoc]
        exact hasks.head?_statusLine _
      rw [hfound]
      exact ⟨fun hfalse => absurd hfalse Bool.false_ne_true, fun hnone =>
        absurd hnone (Option.some_ne_none _)⟩
    · intro _
      exact ⟨articleNumber, entry, hentry, h.entry articleNumber entry hnumber hentry, rfl⟩

theorem messageId_of_row {entry entry' : ArticleStoreEntry} {articleNumber articleNumber' : Nat}
    (h : headerRow (ascii "Message-ID") (fun _ => ascii "0") (.messageId articleNumber) entry =
      headerRow (ascii "Message-ID") (fun _ => ascii "0") (.messageId articleNumber') entry') :
    entry.messageId = entry'.messageId := by
  have hfield (entry : ArticleStoreEntry) :
      ((overviewFields entry).find? fun field =>
        eqIgnoreAsciiCase (ascii "Message-ID") (ascii field.1)) =
        some ("Message-ID", asBytes entry.messageId) := by
    simp +decide [overviewFields]
  simp only [headerRow, rowKey, hfield, Option.elim_some, List.append_assoc, List.cons_append] at h
  have hbytes := List.append_cancel_right (List.cons_injective (List.append_cancel_left h))
  have hdecode := congrArg fromUtf8 hbytes
  rw [fromUtf8_asBytes, fromUtf8_asBytes] at hdecode
  exact Option.some.inj hdecode

def RANGE_REFUSALS : List Bytes :=
  [crlfText ["420 no article(s) selected"], crlfText ["423 no articles in that range"]]

theorem head?_rangeRefusal : ∀ response ∈ RANGE_REFUSALS,
    (Reply.response response).isNoSuchMessageId = false ∧ response.head? = some 52 := by
  decide

theorem AsksRows.respond_dash (h : AsksRows kept (asBytes messageId.value) statusLine row)
    (hdash : (45 : UInt8) ∈ asBytes messageId.value) (config : ServerConfig)
    (memory : SessionMemory) (now : Nat) :
    ∃ response ∈ RANGE_REFUSALS,
      respond config now kept.command (some kept.commandLines) memory =
        .ok (memory.answer response) := by
  have hguard := h.overviewSelectorError_messageId memory.sessionState config.articleIndex
  rw [if_pos ((isRange_iff messageId).mpr hdash)] at hguard
  split_ifs at hguard
  · exact ⟨_, List.mem_cons_self, h.respond_of_error hguard now⟩
  · exact ⟨_, List.mem_cons_of_mem _ List.mem_cons_self, h.respond_of_error hguard now⟩

namespace AnswersMessageId

theorem dash (h : AnswersMessageId config index memory messageId) :
    (45 : UInt8) ∉ asBytes messageId.value := by
  intro hdash
  obtain ⟨kept, hasks⟩ := exists_over messageId
  obtain ⟨handled, hrespond, hstatus, hrow⟩ := h kept _ _ hasks 0
  obtain ⟨response, hmem, hanswer⟩ := hasks.respond_dash hdash config memory 0
  obtain ⟨hnot, hhead⟩ := head?_rangeRefusal response hmem
  rw [hrespond] at hanswer
  rw [Except.ok.inj hanswer] at hstatus hrow
  have hkey : index.articleNumberForMessageId messageId.value ≠ none := by
    intro hnone
    exact absurd ((hstatus.mpr hnone).symm.trans hnot) (by decide)
  obtain ⟨articleNumber, entry, -, -, hreply⟩ := hrow hkey
  have hbytes : response = _ := Reply.response.inj hreply
  rw [hbytes, List.append_assoc, hasks.head?_statusLine] at hhead
  cases hhead

theorem missing (h : AnswersMessageId config index memory messageId)
    (hindex : config.articleIndex = some index) :
    ascii "missing" <:+: asBytes messageId.value ↔ index.articleNumberForMessageId messageId.value =
      none := by
  obtain ⟨kept, hasks⟩ := exists_over messageId
  obtain ⟨handled, hrespond, hstatus, -⟩ := h kept _ _ hasks 0
  have hguard := hasks.overviewSelectorError_of_no_dash h.dash memory.sessionState (some index)
  constructor
  · intro hin
    rw [if_pos hin, ← hindex] at hguard
    rw [hasks.respond_of_error hguard 0] at hrespond
    rw [← Except.ok.inj hrespond] at hstatus
    exact hstatus.mp isNoSuchMessageId_refusal
  · intro hnone
    by_contra hin
    rw [if_neg hin] at hguard
    obtain ⟨answered, hanswered, hnot⟩ := hasks.respond_unknown hindex hguard hnone 0
    rw [hrespond] at hanswered
    rw [← Except.ok.inj hanswered, hstatus.mpr hnone] at hnot
    cases hnot

theorem entry (h : AnswersMessageId config index memory messageId)
    (hindex : config.articleIndex = some index)
    {articleNumber : Nat} {entry : ArticleStoreEntry}
    (hnumber : index.articleNumberForMessageId messageId.value = some articleNumber)
    (hentry : index.articleEntry articleNumber = some entry) : entry.messageId =
      messageId.value := by
  obtain ⟨kept, hasks⟩ := exists_hdr messageId
  obtain ⟨handled, hrespond, -, hrow⟩ := h kept _ _ hasks 0
  have hnot : ¬ ascii "missing" <:+: asBytes messageId.value := by
    intro hin
    rw [(h.missing hindex).mp hin] at hnumber
    cases hnumber
  have hguard := hasks.overviewSelectorError_of_no_dash h.dash memory.sessionState (some index)
  rw [if_neg hnot] at hguard
  rw [hasks.respond_known hindex hguard hnumber hentry 0] at hrespond
  rw [← Except.ok.inj hrespond] at hrow
  obtain ⟨articleNumber', entry', -, hid, hreply⟩ :=
    hrow (by rw [hnumber]; exact Option.some_ne_none _)
  have hrows := List.append_cancel_left (List.append_cancel_right (Reply.response.inj hreply))
  rw [← hid]
  exact messageId_of_row hrows

end AnswersMessageId

/-- A message-id is answered as the index has it exactly if its text does not mislead. -/
theorem message_id_answered_iff (hbuild : ArticleStoreIndex.build root = .ok index)
    (hindex : config.articleIndex = some index) (memory : SessionMemory) (messageId : MessageId) :
    AnswersMessageId config index memory messageId ↔ SpeaksForItself index messageId := by
  constructor
  · intro h
    exact ⟨h.dash, h.missing hindex, fun _ _ => h.entry hindex⟩
  · exact fun h => h.answers hbuild hindex memory

end Answers

theorem first_message_id_answered :
    ∃ index, twoArticlesServer.articleIndex = some index ∧
      AnswersMessageId twoArticlesServer index .initial ⟨"<a@b>".toList, by decide +kernel⟩ := by
  have hok : (ArticleStoreIndex.build twoArticles).isOk := by decide +kernel
  obtain ⟨index, hbuild⟩ := ExceptBind.exists_ok_of_isOk hok
  have hindex : twoArticlesServer.articleIndex = some index := articleIndex_of_dir id rfl hbuild
  have hfound : (ArticleStoreIndex.build twoArticles).toOption.map (fun index =>
      (index.articleNumberForMessageId "<a@b>".toList,
        (index.articleEntry 1).map ArticleStoreEntry.messageId)) =
      some (some 1, some "<a@b>".toList) := by decide +kernel
  rw [hbuild] at hfound
  simp only [Except.toOption, Option.map_some, Option.some.injEq, Prod.mk.injEq,
    Option.map_eq_some_iff] at hfound
  obtain ⟨hnumber, entry, hentry, hid⟩ := hfound
  refine ⟨index, hindex, (message_id_answered_iff hbuild hindex .initial _).mpr ⟨by decide, ?_, ?_⟩⟩
  · rw [hnumber]
    decide
  · intro articleNumber found hfound hentry'
    rw [hnumber] at hfound
    rw [← Option.some.inj hfound, hentry] at hentry'
    rw [← Option.some.inj hentry']
    exact hid

/-- A server with a message-id that has a dash and one that has the word `missing`. -/
def misleadingServer : ServerConfig :=
  .fromBoundArgs id ⟨16, 16, .plain, some ⟨[storedArticle "1" "<a-b@c>" "misc.test",
    storedArticle "2" "<missing@d>" "misc.test"], fun _ => .ok none⟩, 1⟩

def overDash : KeptCommand := .ofLine (ascii "OVER <a-b@c>\r\n") (by decide)

def overMissing : KeptCommand := .ofLine (ascii "OVER <missing@d>\r\n") (by decide)

def overUnknown : KeptCommand := .ofLine (ascii "OVER <x@y>\r\n") (by decide)

def misleadingReply (kept : KeptCommand) : Except ServerError Bytes :=
  (respond misleadingServer 0 kept.command (some kept.commandLines) .initial).map fun handled =>
    handled.reply.bytes

/-- Two indexed articles are refused, and an article that is not there has a row. -/
theorem message_ids_mislead :
    misleadingServer.articleIndex.map (fun index => ["<a-b@c>", "<missing@d>", "<x@y>"].map
      fun messageId =>
        index.articleNumberForMessageId messageId.toList) = some [some 1, some 2, none] ∧
      misleadingReply overDash = .ok (crlfText ["423 no articles in that range"]) ∧
      misleadingReply overMissing = .ok NO_ARTICLE_WITH_MESSAGE_ID ∧
      misleadingReply overUnknown = .ok OVER_MESSAGE_ID_RESPONSE := by
  decide +kernel

end NntpBench.Server
