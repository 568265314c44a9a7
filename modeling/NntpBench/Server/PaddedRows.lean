import NntpBench.Server.PaddedGroups

namespace NntpBench.Server

open Protocol Terminator

/-- What the overview and header commands reply: the refusal of the guard, what the index has built,
or a fixture. -/
def overviewReply (error : Option Bytes) (built : Option Built) (fixture : Bytes) : Bytes :=
  match error with
  | some response => response
  | none =>
    match built with
    | some built => if built.isReply then built.buffer else fixture
    | none => fixture

theorem seen_handleOverview_eq (config : ServerConfig) (kept : KeptCommand) (memory : SessionMemory)
    (responseWithIndex : Bytes → Bytes → SessionState → ArticleStoreIndex → Built)
    (fixtureResponse : Bytes → SessionState → Bytes) :
    seen (.ok (handleOverview config kept.command (some kept.commandLines) memory responseWithIndex
        fixtureResponse)) =
      .ok (overviewReply
        (overviewSelectorError kept.command (some kept.commandLines) memory.sessionState
          config.articleIndex)
        (config.articleIndex.map
          (responseWithIndex memory.auxResponseBuffer (lineArgs kept.line) memory.sessionState))
        (fixtureResponse (lineArgs kept.line) memory.sessionState),
          memory.sessionState, false) := by
  unfold handleOverview overviewReply
  rw [kept.commandArgs_eq]
  dsimp only
  cases overviewSelectorError kept.command (some kept.commandLines) memory.sessionState
    config.articleIndex with
  | some response => rfl
  | none =>
    cases config.articleIndex with
    | none => rfl
    | some index =>
      simp only [Option.map_some]
      split_ifs <;> rfl

/-- The header is not one that the fixtures know with the current article, or they are not asked for
it. -/
def HeaderTakesBlanks (config : ServerConfig) (state : SessionState) (args : Bytes) : Prop :=
  args ∉ HDR_FIELDS ∨ state.groupSelected = false ∨ currentArticleSelectorArgs state = none ∨
    ∃ index, config.articleIndex = some index ∧
      state.currentArticle.any (fun article => (index.articleEntry article).isSome) = true

theorem containsSubslice_eq_any {word : Bytes} (hne : word ≠ [])
    (hword : ∀ byte ∈ word, isCommandWs byte = false) (args : Bytes) :
    containsSubslice args word = (commandTokens args).any fun token =>
      containsSubslice token word := by
  rw [Bool.eq_iff_iff, List.any_eq_true]
  simp only [containsSubslice, decide_eq_true_eq]
  constructor
  · exact exists_token_of_infix hne hword args
  · rintro ⟨token, htoken, hinside⟩
    exact hinside.trans (infix_of_mem_commandTokens args htoken)

section Headers

variable {args args' : Bytes}

theorem helpers_of_tokens (h : commandTokens args' = commandTokens args) :
    headerQueryNameFromArgs args' = headerQueryNameFromArgs args ∧
      nthCommandArg args' 1 = nthCommandArg args 1 ∧ commandArgCount args' =
        commandArgCount args := by
  rw [headerQueryNameFromArgs, headerQueryNameFromArgs, firstCommandArg_eq, firstCommandArg_eq,
    nthCommandArg, nthCommandArg, commandArgCount, commandArgCount, h]
  exact ⟨rfl, rfl, rfl⟩

/-- What HDR and XHDR have in common: they read the tokens of their arguments. -/
structure HeaderArm (kind : RequestKind)
    (responseWithIndex : Bytes → Bytes → SessionState → ArticleStoreIndex → Built)
    (responseForArgs : Bytes → Bytes) : Prop where
  respond_eq : ∀ (kept : KeptCommand), kept.request.kind = kind → ∀ config now memory,
    respond config now kept.command (some kept.commandLines) memory =
      .ok (handleOverview config kept.command (some kept.commandLines) memory responseWithIndex
        fun args state => responseForArgs ((currentHeaderArgs args state).getD args))
  indexed : ∃ statusLine key, ∀ response args state index, responseWithIndex response args state
    index = headerResponseForIndexInto response statusLine args state index key
  fixed : ∃ tables, responseForArgs = headerResponseForArgs tables
  distinct : ∀ name ∈ HDR_FIELDS, ∀ current ∈ ["1", "2", "3"],
    responseForArgs name ≠ responseForArgs (name ++ ascii " " ++ ascii current)

theorem exists_headerArm {kind : RequestKind} (hkind : kind = .hdr ∨ kind = .xhdr) :
    ∃ responseWithIndex responseForArgs, HeaderArm kind responseWithIndex responseForArgs := by
  rcases hkind with rfl | rfl
  · refine ⟨hdrResponseForArgsWithIndex, hdrResponseForArgs, ?_, ⟨_, _, fun _ _ _ _ => rfl⟩,
      ⟨_, rfl⟩, by decide +kernel⟩
    intro kept hkept config now memory
    simp only [respond, kept.kind_command, hkept]
    rfl
  · refine ⟨xhdrResponseForArgsWithIndex, xhdrResponseForArgs, ?_, ⟨_, _, fun _ _ _ _ => rfl⟩,
      ⟨_, rfl⟩, by decide +kernel⟩
    intro kept hkept config now memory
    simp only [respond, kept.kind_command, hkept]
    rfl

variable {kind : RequestKind} {responseForArgs : Bytes → Bytes}
  {responseWithIndex : Bytes → Bytes → SessionState → ArticleStoreIndex → Built}

theorem HeaderArm.built_eq (h : HeaderArm kind responseWithIndex responseForArgs)
    (htokens : commandTokens args' = commandTokens args) (response : Bytes) (state : SessionState) :
    responseWithIndex response args' state = responseWithIndex response args state := by
  obtain ⟨statusLine, key, hindexed⟩ := h.indexed
  obtain ⟨hheader, hselector, hcount⟩ := helpers_of_tokens htokens
  funext index
  rw [hindexed, hindexed]
  unfold headerResponseForIndexInto overviewSelectorArg
  rw [hheader, hselector, hcount]

theorem HeaderArm.fixture_eq (h : HeaderArm kind responseWithIndex responseForArgs)
    (htokens : commandTokens args' = commandTokens args) :
    responseForArgs args' = responseForArgs args := by
  obtain ⟨tables, rfl⟩ := h.fixed
  obtain ⟨hheader, hselector, -⟩ := helpers_of_tokens htokens
  unfold headerResponseForArgs overviewSelectorArg
  rw [hheader, hselector]

/-- A lone header is answered from the entry of the current article. -/
theorem HeaderArm.isReply_eq (h : HeaderArm kind responseWithIndex responseForArgs) {header : Bytes}
    (htokens : commandTokens args = [header]) (response : Bytes) (state : SessionState)
    (index : ArticleStoreIndex) :
    (responseWithIndex response args state index).isReply =
      state.currentArticle.any fun article => (index.articleEntry article).isSome := by
  obtain ⟨statusLine, key, hindexed⟩ := h.indexed
  rw [hindexed]
  unfold headerResponseForIndexInto headerQueryNameFromArgs appendCurrentRow appendOneRow
  simp only [firstCommandArg_eq, commandArgCount, htokens, List.head?_cons, List.length_singleton,
    if_true]
  cases state.currentArticle with
  | none => rfl
  | some article =>
    cases hentry : index.articleEntry article with
    | none => simp only [hentry, Option.any_some, Option.isSome_none]
    | some entry => simp only [hentry, Option.any_some, Option.isSome_some]

theorem lone_of_field (h : args ∈ HDR_FIELDS) :
    commandTokens args = [args] ∧ hdrFieldIsSupported args = true := by
  have hall : ∀ name ∈ HDR_FIELDS,
      commandTokens name = [name] ∧ hdrFieldIsSupported name = true := by decide +kernel
  exact hall args h

theorem currentHeaderArgs_eq (args : Bytes) (state : SessionState) :
    currentHeaderArgs args state = if args ∈ HDR_FIELDS then
      (currentArticleSelectorArgs state).map fun current => args ++ ascii " " ++ ascii current
      else none := by
  by_cases hfield : args ∈ HDR_FIELDS
  · have hcount : commandArgCount args = 1 := by
      rw [commandArgCount, (lone_of_field hfield).1]
      rfl
    cases hcurrent : currentArticleSelectorArgs state <;>
      simp [currentHeaderArgs, hcount, hfield, hcurrent]
  · simp [currentHeaderArgs, hfield]

end Headers

section HeaderCommands

variable {config : ServerConfig} {memory : SessionMemory} {kept kept' : KeptCommand}
  {blanks : Bytes}

theorem Padded.missing_eq (h : Padded kept kept' blanks) :
    containsSubslice (lineArgs kept'.line) (ascii "missing") =
      containsSubslice (lineArgs kept.line) (ascii "missing") := by
  rw [containsSubslice_eq_any (by decide) (by decide),
    containsSubslice_eq_any (by decide) (by decide), h.commandTokens_eq]

theorem Padded.overviewSelectorError_header (h : Padded kept kept' blanks)
    (hkind : kept.request.kind = .hdr ∨ kept.request.kind = .xhdr) (state : SessionState)
    (index : Option ArticleStoreIndex) :
    overviewSelectorError kept'.command (some kept'.commandLines) state index =
      overviewSelectorError kept.command (some kept.commandLines) state index := by
  obtain ⟨hheader, hselector, hcount⟩ := helpers_of_tokens h.commandTokens_eq
  unfold overviewSelectorError overviewSelectorArg
  rw [kept.commandArgs_eq, kept'.commandArgs_eq, h.kind_command, h.articleId_eq, h.isSome_messageId,
    kept.kind_command]
  rcases hkind with hkind | hkind
  all_goals
    rw [hkind]
    dsimp only
    rw [hheader, hselector, hcount, h.missing_eq]

theorem overviewSelectorError_of_lone {header : Bytes}
    (hkind : kept.request.kind = .hdr ∨ kept.request.kind = .xhdr)
    (htokens : commandTokens (lineArgs kept.line) = [header])
    (hsupported : hdrFieldIsSupported header = true) (state : SessionState)
    (index : Option ArticleStoreIndex) :
    overviewSelectorError kept.command (some kept.commandLines) state index =
      if !state.groupSelected then some NO_NEWSGROUP_SELECTED
      else if state.currentArticle.isNone then some NO_CURRENT_ARTICLE
      else none := by
  have hheader : headerQueryNameFromArgs (lineArgs kept.line) = some header := by
    rw [headerQueryNameFromArgs, firstCommandArg_eq, htokens]
    rfl
  have hcount : commandArgCount (lineArgs kept.line) = 1 := by
    rw [commandArgCount, htokens]
    rfl
  unfold overviewSelectorError
  rw [kept.commandArgs_eq, kept.kind_command]
  rcases hkind with hkind | hkind
  all_goals simp [hkind, hheader, hsupported, hcount]

theorem mem_of_currentArticleSelectorArgs {state : SessionState} {current : String}
    (h : currentArticleSelectorArgs state = some current) :
    current ∈ ["1", "2", "3"] ∧ state.currentArticle.isNone = false := by
  unfold currentArticleSelectorArgs at h
  split at h
  case h_4 => cases h
  all_goals
    next hcurrent =>
      rw [← Option.some.inj h, hcurrent]
      decide

theorem Padded.header_iff (h : Padded kept kept' blanks)
    (hkind : kept.request.kind = .hdr ∨ kept.request.kind = .xhdr)
    (hargs : lineArgs kept'.line = lineArgs kept.line ++ blanks) (hne : blanks ≠ []) (now : Nat) :
    AnswersAlike config now memory kept kept' ↔
      HeaderTakesBlanks config memory.sessionState (lineArgs kept.line) := by
  obtain ⟨responseWithIndex, responseForArgs, harm⟩ := exists_headerArm hkind
  have hpadded : currentHeaderArgs (lineArgs kept'.line) memory.sessionState = none := by
    have hvisible : ∀ name ∈ HDR_FIELDS, Visible name := by decide
    rw [currentHeaderArgs_eq, if_neg]
    rw [hargs]
    exact fun hmem => not_visible_append hne h.blank (hvisible _ hmem)
  unfold AnswersAlike HeaderTakesBlanks
  rw [harm.respond_eq kept rfl, harm.respond_eq kept' h.kind, seen_handleOverview_eq,
    seen_handleOverview_eq, h.overviewSelectorError_header hkind, harm.built_eq h.commandTokens_eq,
    hpadded, Option.getD_none, harm.fixture_eq h.commandTokens_eq, currentHeaderArgs_eq]
  by_cases hfield : lineArgs kept.line ∈ HDR_FIELDS
  · rw [if_pos hfield]
    cases hcurrent : currentArticleSelectorArgs memory.sessionState with
    | none => simp
    | some current =>
      obtain ⟨hmem, hsome⟩ := mem_of_currentArticleSelectorArgs hcurrent
      obtain ⟨htokens, hsupported⟩ := lone_of_field hfield
      have hother := harm.distinct _ hfield current hmem
      rw [overviewSelectorError_of_lone hkind htokens hsupported, hsome]
      cases hgroup : memory.sessionState.groupSelected with
      | false => simp [overviewReply]
      | true =>
        cases config.articleIndex with
        | none => simpa [overviewReply, hfield] using hother
        | some index =>
          have hreply := harm.isReply_eq htokens memory.auxResponseBuffer memory.sessionState index
          cases hentry : memory.sessionState.currentArticle.any
              fun article => (index.articleEntry article).isSome with
          | true => simp [overviewReply, hreply, hentry]
          | false => simpa [overviewReply, hreply, hentry, hfield] using hother
  · simp [hfield]

end HeaderCommands

section Rows

variable {kept : KeptCommand} {selector statusLine : Bytes}
  {row : IndexedArticleSelector → ArticleStoreEntry → Bytes}

theorem AsksRows.seen_respond (h : AsksRows kept selector statusLine row) (config : ServerConfig)
    (now : Nat) (memory : SessionMemory) :
    seen (respond config now kept.command (some kept.commandLines) memory) =
      .ok (overviewReply
        (overviewSelectorError kept.command (some kept.commandLines) memory.sessionState
          config.articleIndex)
        (config.articleIndex.map fun index =>
          appendSelectedRows index row statusLine memory.sessionState selector)
        (fixtureRows kept.request.kind (lineArgs kept.line) memory.sessionState),
        memory.sessionState, false) := by
  obtain ⟨responseWithIndex, hrows, hrespond⟩ := h.respond_eq
  rw [hrespond, seen_handleOverview_eq, funext (hrows memory.auxResponseBuffer memory.sessionState)]

end Rows

section Trailing

variable {blanks : Bytes} (hblanks : ∀ byte ∈ blanks, isCommandWs byte = true)

include hblanks

theorem whitespace_of_blanks :
    ∀ c ∈ blanks.map fun byte => Char.ofNat byte.toNat, isUnicodeWhitespace c = true := by
  intro c hc
  obtain ⟨byte, hbyte, rfl⟩ := List.mem_map.mp hc
  have hblank := hblanks byte hbyte
  simp only [isCommandWs, Bool.or_eq_true, decide_eq_true_eq] at hblank
  rcases hblank with rfl | rfl <;> decide

theorem fromUtf8_asBytes_append (value : Str) :
    fromUtf8 (asBytes value ++ blanks) =
      some (value ++ blanks.map fun byte => Char.ofNat byte.toNat) := by
  have hascii : ∀ byte ∈ blanks, byte < 128 := by
    intro byte hbyte
    have hblank := hblanks byte hbyte
    simp only [isCommandWs, Bool.or_eq_true, decide_eq_true_eq] at hblank
    rcases hblank with rfl | rfl <;> decide
  rw [← Utf8.encode_map_ofNat hascii, asBytes, ← Utf8.encode_append, Utf8.encode_map_ofNat hascii]
  exact Utf8.decode_encode _

theorem parseArticleIdArg_append (value : Str) :
    parseArticleIdArg (asBytes value ++ blanks) = parseArticleIdArg (asBytes value) := by
  unfold parseArticleIdArg
  rw [fromUtf8_asBytes_append hblanks, fromUtf8_asBytes, Option.bind_some, Option.bind_some,
    trim_append_blanks (whitespace_of_blanks hblanks)]

theorem overviewSelectorIsRange_append (selector : Bytes) :
    overviewSelectorIsRange (selector ++ blanks) = overviewSelectorIsRange selector := by
  have hdash : (45 : UInt8) ∉ blanks := fun hmem => absurd (hblanks 45 hmem) (by decide)
  simp only [overviewSelectorIsRange, List.contains_eq_mem, List.mem_append, hdash, or_false]

theorem messageIdFromSelector_append (messageId : MessageId) :
    messageIdFromSelector (asBytes messageId.value ++ blanks) = some messageId := by
  have hself := messageIdFromSelector_asBytes messageId
  unfold messageIdFromSelector at hself ⊢
  rw [fromUtf8_asBytes_append hblanks, Option.bind_some,
    trim_append_blanks (whitespace_of_blanks hblanks)]
  rwa [fromUtf8_asBytes, Option.bind_some] at hself

theorem listgroupRangeBounds_messageId_append (messageId : MessageId) :
    listgroupRangeBounds (asBytes messageId.value ++ blanks) = none := by
  obtain ⟨rest, hvalue⟩ := exists_rest_of_messageId messageId
  apply listgroupRangeBounds_of_start
  rw [fromUtf8_asBytes_append hblanks, hvalue, List.cons_append]

end Trailing

section MessageIds

variable {config : ServerConfig} {memory : SessionMemory} {kept kept' : KeptCommand}
  {blanks : Bytes}

theorem KeptCommand.exists_trailing (hknown : kept.request.kind ≠ .unknown)
    (hne : lineArgs kept.line ≠ []) : ∃ trailing, (∀ byte ∈ trailing, isCommandWs byte = true) ∧
      lineArgs kept.line = kept.request.args ++ trailing := by
  obtain ⟨trailing, htrailing, hargs⟩ := lineArgs_eq hknown
  refine ⟨trailing, htrailing, ?_⟩
  rw [hargs, if_neg]
  · rfl
  · exact fun hnil => hne ((kept.lineArgs_eq_nil_iff hknown).mpr hnil)

/-- The rows of a message-id with blanks behind it. -/
theorem seen_overview_messageId (hkind : kept.request.kind = .over ∨ kept.request.kind = .xover)
    {messageId : MessageId} {trailing : Bytes}
    (htrailing : ∀ byte ∈ trailing, isCommandWs byte = true)
    (hargs : lineArgs kept.line = asBytes messageId.value ++ trailing) (now : Nat) :
    seen (respond config now kept.command (some kept.commandLines) memory) =
      .ok (overviewReply
        (if overviewSelectorIsRange (asBytes messageId.value) then
          if legacyOverviewUses420ForMissingRange kept.command.kind then
            some (crlfText ["420 no article(s) selected"])
          else some (crlfText ["423 no articles in that range"])
        else if kept.command.articleId.any fun articleId =>
            !memory.sessionState.currentGroupContains articleId config.articleIndex then
          if legacyOverviewUses420ForMissingRange kept.command.kind then
            some (crlfText ["420 no article(s) selected"])
          else some NO_ARTICLE_WITH_NUMBER
        else if containsSubslice (lineArgs kept.line) (ascii "missing") then
          some NO_ARTICLE_WITH_MESSAGE_ID
        else none)
        (config.articleIndex.map fun index =>
          appendSelectedRows index overviewRow (crlfText ["224 Overview information follows"])
            memory.sessionState (asBytes messageId.value))
        OVER_MESSAGE_ID_RESPONSE, memory.sessionState, false) := by
  have hstart : ascii "<" <+: lineArgs kept.line := by
    rw [hargs]
    exact (start_of_messageId messageId).trans (List.prefix_append _ _)
  have hne : lineArgs kept.line ≠ [] := by
    intro hnil
    rw [hnil] at hstart
    exact absurd hstart (by decide)
  have hasks : AsksRows kept (lineArgs kept.line) (crlfText ["224 Overview information follows"])
      overviewRow := .overview hkind rfl hne
  have hbounds : listgroupRangeBounds (lineArgs kept.line) = none := by
    rw [hargs, listgroupRangeBounds_messageId_append htrailing]
  have hnumber := selectorNumberIsMissing_of_start hstart memory.sessionState config.articleIndex
  have hrows (index : ArticleStoreIndex) :
      appendSelectedRows index overviewRow (crlfText ["224 Overview information follows"])
          memory.sessionState (lineArgs kept.line) =
        appendSelectedRows index overviewRow (crlfText ["224 Overview information follows"])
          memory.sessionState (asBytes messageId.value) := by
    rw [appendSelectedRows_messageId, appendSelectedRows, overviewSelectorIsMessageId,
      decide_eq_true hstart, if_pos rfl, hargs, messageIdFromSelector_append htrailing]
    rfl
  have hdash : overviewSelectorIsRange (lineArgs kept.line) =
      overviewSelectorIsRange (asBytes messageId.value) := by
    rw [hargs, overviewSelectorIsRange_append htrailing]
  rw [hasks.seen_respond, hasks.overviewSelectorError_eq,
    fixtureRows_of_start hkind hstart, funext hrows, hnumber, hdash,
    overviewSelectorRangeSelectsArticles, hbounds, overviewSelectorRequiresGroup]
  simp only [hstart, decide_true, Bool.not_true, Bool.false_and, Bool.false_eq_true, if_false,
    Bool.not_false, Bool.and_true, Bool.false_or, Bool.or_true, Bool.true_and]

end MessageIds

/-- The articles of the current group that the arguments select. -/
def selectedArticles (config : ServerConfig) (state : SessionState) (args : Bytes) : List Nat :=
  let articles := (state.currentGroupArticles config.articleIndex).getD []
  match listgroupRangeBounds args with
  | some (start, fin) =>
    articles.filter fun article => start ≤ article && article ≤ fin.getD (2 ^ 64 - 1)
  | none => ((parseArticleIdArg args).filter (articles.contains ·)).toList

/-- The reply with the rows of these articles: from the index if it has them all, from the fixtures
otherwise. -/
def selectedRows (config : ServerConfig) (state : SessionState) (kind : RequestKind)
    (args : Bytes) : Bytes :=
  overviewReply none
    (config.articleIndex.map fun index =>
      appendRows index overviewRow (crlfText ["224 Overview information follows"])
        (selectedArticles config state args))
    (fixtureRows kind args state)

def rangeRefusal (kind : RequestKind) (isRange : Bool) : Bytes :=
  if legacyOverviewUses420ForMissingRange kind then crlfText ["420 no article(s) selected"]
  else if isRange then crlfText ["423 no articles in that range"]
  else NO_ARTICLE_WITH_NUMBER

section Ranges

variable {config : ServerConfig} {state : SessionState} {args : Bytes} {number : Nat}

theorem selects_iff_of_dash (hparse : parseArticleIdArg args = none) :
    overviewSelectorRangeSelectsArticles args ((state.currentGroupArticles config.articleIndex).getD
      []) = true ↔ selectedArticles config state args ≠ [] := by
  unfold overviewSelectorRangeSelectsArticles selectedArticles
  cases listgroupRangeBounds args with
  | none => simp [hparse]
  | some bounds => simp only [List.any_eq_true, ne_eq, List.filter_eq_nil_iff, not_forall, not_not,
      exists_prop]

theorem contains_iff_of_number (hparse : parseArticleIdArg args = some number)
    (hbounds : listgroupRangeBounds args = some (number, some number) ∨
      listgroupRangeBounds args = none) :
    state.currentGroupContains number config.articleIndex = true ↔
      selectedArticles config state args ≠ [] := by
  have hcontains : state.currentGroupContains number config.articleIndex =
      ((state.currentGroupArticles config.articleIndex).getD []).contains number := by
    unfold SessionState.currentGroupContains
    cases state.currentGroupArticles config.articleIndex <;> rfl
  rw [hcontains, List.contains_iff_mem, selectedArticles]
  rcases hbounds with hbounds | hbounds
  · simp only [hbounds, Option.getD_some, ne_eq, List.filter_eq_nil_iff, Bool.and_eq_true,
      decide_eq_true_eq, not_forall, not_not, exists_prop]
    constructor
    · intro hmem
      exact ⟨number, hmem, le_rfl, le_rfl⟩
    · rintro ⟨article, hmem, hle, hge⟩
      rwa [Nat.le_antisymm hle hge]
  · simp [hbounds, hparse, Option.filter_some]

theorem appendSelectedRows_selected (hstart : ¬ ascii "<" <+: args) {index : ArticleStoreIndex}
    (hindex : config.articleIndex = some index) (hfound : selectedArticles config state args ≠ [])
    (response : Bytes) :
    appendSelectedRows index overviewRow response state args =
      appendRows index overviewRow response (selectedArticles config state args) := by
  have hcontains {number : Nat} (hparse : parseArticleIdArg args = some number)
      (hbounds : listgroupRangeBounds args = none) : state.currentGroupContains number
      (some index) = true := by
    rw [← hindex]
    exact (contains_iff_of_number hparse (.inr hbounds)).mpr hfound
  unfold appendSelectedRows
  rw [overviewSelectorIsMessageId, decide_eq_false hstart, if_neg Bool.false_ne_true]
  unfold selectedArticles at hfound ⊢
  cases hbounds : listgroupRangeBounds args with
  | some bounds =>
    simp only [hbounds, hindex] at hfound ⊢
    cases harticles : state.currentGroupArticles (some index) with
    | none => simp [harticles] at hfound
    | some articles => rfl
  | none =>
    simp only [hbounds] at hfound ⊢
    cases hparse : parseArticleIdArg args with
    | none => simp [hparse] at hfound
    | some number =>
      simp only [hparse, Option.filter_some] at hfound ⊢
      split_ifs at hfound with hmem
      · simp only [hcontains hparse hbounds, Bool.not_true, Bool.false_eq_true, if_false, hmem,
          if_true]
        unfold appendOneRow
        cases hentry : index.articleEntry number <;> simp [appendRows, hentry]
      · exact absurd rfl hfound

/-- How the guard reads a range or a number. -/
structure ReadsRange (config : ServerConfig) (state : SessionState) (args : Bytes)
    (articleId : Option Nat) : Prop where
  start : ¬ ascii "<" <+: args
  articleId_eq : articleId = parseArticleIdArg args
  dash : overviewSelectorIsRange args = true → parseArticleIdArg args = none ∧
    selectorNumberIsMissing state config.articleIndex args = false
  number : overviewSelectorIsRange args = false → ∃ number, parseArticleIdArg args = some number ∧
    (listgroupRangeBounds args = some (number, some number) ∨ listgroupRangeBounds args = none) ∧
    (selectorNumberIsMissing state config.articleIndex args = true →
      state.currentGroupContains number config.articleIndex = false)

theorem ReadsRange.overviewSelectorError_eq {kept : KeptCommand}
    (h : ReadsRange config state args kept.command.articleId)
    (hasks : AsksRows kept args (crlfText ["224 Overview information follows"]) overviewRow)
    (hmessageId : kept.command.messageId = none) (hgroup : state.groupSelected = true) :
    overviewSelectorError kept.command (some kept.commandLines) state config.articleIndex =
      if selectedArticles config state args = [] then
        some (rangeRefusal kept.request.kind (overviewSelectorIsRange args))
      else none := by
  rw [hasks.overviewSelectorError_eq, hgroup, hmessageId, decide_eq_false h.start, rangeRefusal,
    kept.kind_command, h.articleId_eq]
  cases hdash : overviewSelectorIsRange args with
  | true =>
    obtain ⟨hparse, hmissing⟩ := h.dash hdash
    have hselects : _ ↔ selectedArticles config state args ≠ [] := selects_iff_of_dash hparse
    rw [hparse, hmissing]
    by_cases hnil : selectedArticles config state args = []
    · simp [hnil, Bool.eq_false_iff.mpr (mt hselects.mp (not_not.mpr hnil)), apply_ite some]
    · simp [hnil, hselects.mpr hnil]
  | false =>
    obtain ⟨number, hparse, hbounds, hmissing⟩ := h.number hdash
    have hcontains : _ ↔ selectedArticles config state args ≠ [] :=
      contains_iff_of_number hparse hbounds
    rw [hparse]
    by_cases hnil : selectedArticles config state args = []
    · simp [hnil, Bool.eq_false_iff.mpr (mt hcontains.mp (not_not.mpr hnil)), apply_ite some]
    · have hinside := hcontains.mpr hnil
      have hfound : selectorNumberIsMissing state config.articleIndex args = false := by
        rw [Bool.eq_false_iff]
        intro hmissed
        rw [hmissing hmissed] at hinside
        cases hinside
      simp [hnil, hinside, hfound]

/-- A range is refused if it selects no article, and answered with the rows otherwise. -/
theorem ReadsRange.seen_respond {kept : KeptCommand} {memory : SessionMemory}
    (h : ReadsRange config memory.sessionState (lineArgs kept.line) kept.command.articleId)
    (hkind : kept.request.kind = .over ∨ kept.request.kind = .xover) (hne : lineArgs kept.line ≠ [])
    (hmessageId : kept.command.messageId = none) (hgroup : memory.sessionState.groupSelected = true)
    (now : Nat) :
    seen (respond config now kept.command (some kept.commandLines) memory) =
      .ok (if selectedArticles config memory.sessionState (lineArgs kept.line) = [] then
          rangeRefusal kept.request.kind (overviewSelectorIsRange (lineArgs kept.line))
        else selectedRows config memory.sessionState kept.request.kind (lineArgs kept.line),
        memory.sessionState, false) := by
  have hasks : AsksRows kept (lineArgs kept.line) (crlfText ["224 Overview information follows"])
      overviewRow := .overview hkind rfl hne
  rw [hasks.seen_respond, h.overviewSelectorError_eq hasks hmessageId hgroup]
  split_ifs with hnil
  · rfl
  · unfold selectedRows
    cases hindex : config.articleIndex with
    | none => rfl
    | some index =>
      rw [Option.map_some, Option.map_some, appendSelectedRows_selected h.start hindex hnil]

end Ranges

theorem parseUnsigned_of_whitespace {value : Str} {c : Char} (hmem : c ∈ value)
    (h : isUnicodeWhitespace c = true) (bound : Nat) : parseUnsigned bound value = none := by
  have hnone {digits : Str} (hmem : c ∈ digits) : parseDigits digits = none := by
    unfold parseDigits
    rw [if_neg]
    rintro ⟨-, hdigits⟩
    have hdigit := List.all_eq_true.mp hdigits c hmem
    have hrange : 48 ≤ c.toNat ∧ c.toNat ≤ 57 := by
      simpa [Char.isDigit, UInt32.le_iff_toNat_le] using hdigit
    simp only [isUnicodeWhitespace, Bool.or_eq_true, Bool.and_eq_true, decide_eq_true_eq] at h
    omega
  unfold parseUnsigned
  dsimp only
  split
  · next rest =>
    rcases List.mem_cons.mp hmem with rfl | hrest
    · exact absurd h (by decide)
    · rw [hnone hrest]
      rfl
  · rw [hnone hmem]
    rfl

section Selectors

variable {kept : KeptCommand} {range : ListGroupRange} {trailing : Bytes}
  (htrailing : ∀ byte ∈ trailing, isCommandWs byte = true)
  (hrequest : kept.request.args = asBytes range.value)

include hrequest in
theorem messageId_of_range : kept.command.messageId = none := by
  obtain ⟨first, rest, hbytes⟩ := List.exists_cons_of_ne_nil range.isArgument.nonempty
  have hmem : first ∈ asBytes range.value := by
    rw [hbytes]
    exact List.mem_cons_self
  apply KeptCommand.messageId_command
  exact KeptCommand.messageId_of_first (hrequest.trans hbytes)
    (range.isArgument.visible.not_whitespace hmem) (bytes_of_range range first hmem).2

include htrailing

/-- A number is read with the blanks behind it, and is none then, or without them. -/
theorem parse_of_no_dash (hsplit : splitOnce '-' range.value = none) :
    ∃ parsed, (fromUtf8 (asBytes range.value ++ trailing)).bind (parseUnsigned (2 ^ 64)) = parsed ∧
      listgroupRangeBounds (asBytes range.value ++ trailing) = parsed.map (fun n => (n, some n)) ∧
      (parsed = some (decimalValue (asBytes range.value)) ∨ parsed = none) := by
  have hwhite := whitespace_of_blanks htrailing
  have hdash : splitOnce '-' (range.value ++ trailing.map fun byte => Char.ofNat byte.toNat) =
      none := by
    unfold splitOnce at hsplit ⊢
    rw [Option.map_eq_none_iff, List.idxOf?_eq_none_iff] at hsplit ⊢
    exact fun hmem => (List.mem_append.mp hmem).elim hsplit
      fun hblank => absurd (hwhite '-' hblank) (by decide)
  refine ⟨_, rfl, ?_, ?_⟩
  · unfold listgroupRangeBounds
    rw [fromUtf8_asBytes_append htrailing]
    simp [-Nat.reducePow, hdash]
  · rw [fromUtf8_asBytes_append htrailing, Option.bind_some]
    cases trailing with
    | nil =>
      rw [List.map_nil, List.append_nil]
      exact .inl (digits_of_no_dash hsplit).2
    | cons blank rest =>
      rw [List.map_cons] at hwhite ⊢
      exact .inr (parseUnsigned_of_whitespace (List.mem_append_right _ List.mem_cons_self)
        (hwhite _ List.mem_cons_self) _)

include hrequest

theorem readsRange_append (config : ServerConfig) (state : SessionState) :
    ReadsRange config state (asBytes range.value ++ trailing) kept.command.articleId where
  start := by
    rintro ⟨rest, hrest⟩
    obtain ⟨first, more, hbytes⟩ := List.exists_cons_of_ne_nil range.isArgument.nonempty
    rw [hbytes, List.cons_append] at hrest
    have hmem : first ∈ asBytes range.value := by
      rw [hbytes]
      exact List.mem_cons_self
    exact (bytes_of_range range first hmem).2 (List.cons.inj hrest).1.symm
  articleId_eq := by rw [kept.articleId_command, hrequest, parseArticleIdArg_append htrailing]
  dash hdash := by
    have hmem : (45 : UInt8) ∈ asBytes range.value ++ trailing := List.contains_iff_mem.mp hdash
    refine ⟨parseArticleIdArg_of_nondigit hmem (by decide) (by decide), ?_⟩
    rw [selectorNumberIsMissing, Bool.and_eq_false_iff]
    exact .inl (List.all_eq_false.mpr ⟨45, hmem, by decide⟩)
  number hdash := by
    rw [overviewSelectorIsRange_append htrailing, overviewSelectorIsRange_range,
      Option.isSome_eq_false_iff, Option.isNone_iff_eq_none] at hdash
    have hvalid := validateNumberRange_of_range range
    rw [validateNumberRange, hdash] at hvalid
    obtain ⟨parsed, hparsed, hbounds, hcases⟩ := parse_of_no_dash htrailing hdash
    refine ⟨decimalValue (asBytes range.value), ?_, ?_, ?_⟩
    · rw [parseArticleIdArg_append htrailing]
      exact parseArticleIdArg_digits (fromUtf8_asBytes _) (digits_of_no_dash hdash).1 hvalid
    · rw [hbounds]
      exact hcases.imp (fun h => by rw [h]; rfl) fun h => by rw [h]; rfl
    · rw [selectorNumberIsMissing, hparsed, Bool.and_eq_true]
      rintro ⟨-, hmissing⟩
      rcases hcases with rfl | rfl
      · simpa using hmissing
      · cases hmissing

end Selectors

section Heads

variable {kind : RequestKind}

theorem head?_fixtureRows (hkind : kind = .over ∨ kind = .xover) (args : Bytes)
    (state : SessionState) : (fixtureRows kind args state).head? = some 50 := by
  rcases hkind with rfl | rfl
  · change (overResponse args state).head? = some 50
    unfold overResponse overResponseForArgs overviewResponseForSelector
    split_ifs <;> decide
  · change (xoverResponse args state).head? = some 50
    unfold xoverResponse xoverResponseForArgs overviewResponseForSelector
    split_ifs <;> decide

theorem prefix_appendRows (index : ArticleStoreIndex) (response : Bytes) (numbers : List Nat) :
    response <+: (appendRows index overviewRow response numbers).buffer := by
  induction numbers generalizing response with
  | nil => exact List.prefix_append _ _
  | cons number numbers ih =>
    unfold appendRows
    split
    · exact (List.prefix_append _ _).trans (ih _)
    · exact List.prefix_refl _

theorem head?_selectedRows (hkind : kind = .over ∨ kind = .xover) (config : ServerConfig)
    (state : SessionState) (args : Bytes) :
    (selectedRows config state kind args).head? = some 50 := by
  have hfixture := head?_fixtureRows hkind args state
  unfold selectedRows overviewReply
  cases config.articleIndex with
  | none => exact hfixture
  | some index =>
    dsimp only [Option.map_some]
    split_ifs
    · exact head?_of_start (prefix_appendRows _ _ _) (by decide)
    · exact hfixture

theorem rangeRefusal_ne (hkind : kind = .over ∨ kind = .xover) (isRange : Bool)
    (config : ServerConfig) (state : SessionState) (args : Bytes) :
    rangeRefusal kind isRange ≠ selectedRows config state kind args := by
  intro h
  have hhead := head?_selectedRows hkind config state args
  rw [← h] at hhead
  revert hhead
  unfold rangeRefusal
  split_ifs <;> decide

end Heads

/-- It is a message-id, no group is selected, or both readings of the range select an article or
neither does, and the rows are the same. -/
def OverviewTakesBlanks (config : ServerConfig) (state : SessionState) (kind : RequestKind)
    (args args' : Bytes) : Prop :=
  overviewSelectorIsMessageId args = true ∨ state.groupSelected = false ∨
    (selectedArticles config state args' = [] ↔ selectedArticles config state args = []) ∧
      (selectedArticles config state args ≠ [] →
        selectedRows config state kind args' = selectedRows config state kind args)

section Overview

variable {config : ServerConfig} {memory : SessionMemory} {kept kept' : KeptCommand}
  {blanks : Bytes}

/-- What the parser accepts behind OVER and XOVER. -/
theorem exists_selector (hkind : kept.request.kind = .over ∨ kept.request.kind = .xover)
    (hne : kept.request.args ≠ []) :
    (∃ messageId : MessageId, kept.request.args = asBytes messageId.value) ∨
      ∃ range : ListGroupRange, kept.request.args = asBytes range.value := by
  have hknown : (RequestLine.parse kept.line).kind ≠ .unknown := by
    rw [show (RequestLine.parse kept.line).kind = kept.request.kind from rfl]
    rcases hkind with hkind | hkind <;> rw [hkind] <;> decide
  have hargs : (RequestLine.parse kept.line).args ≠ [] := hne
  obtain ⟨-, -, -, hclass⟩ := parse_of_known hknown
  rw [show (RequestLine.parse kept.line).kind = kept.request.kind from rfl] at hclass
  rcases hkind with hkind | hkind
  · rw [hkind] at hclass
    have hdirect := classifyDirectCommand_of_classify (ascii "OVER") (by decide +kernel) hclass.symm
    rw [classifyDirectCommand, kindIf, decide_eq_false hargs, Bool.false_or] at hdirect
    split_ifs at hdirect with hvalid
    obtain ⟨value, hvalue, hselector⟩ := (Option.any_eq_true _ _).mp hvalid
    have hbytes : (RequestLine.parse kept.line).args = asBytes value :=
      (Utf8.encode_of_decode hvalue).symm
    rw [validateArticleSelector] at hselector
    split_ifs at hselector with hshape hid
    · exact .inl ⟨⟨value, hselector⟩, hbytes⟩
    · refine .inr ⟨⟨value, ?_⟩, hbytes⟩
      rw [validateListgroupRange, if_neg hshape]
      exact hselector
  · rw [hkind] at hclass
    have hdirect := classifyDirectCommand_of_classify (ascii "XOVER") (by decide +kernel)
      hclass.symm
    rw [classifyDirectCommand, kindIf, decide_eq_false hargs, Bool.false_or] at hdirect
    split_ifs at hdirect with hvalid
    obtain ⟨value, hvalue, hrange⟩ := (Option.any_eq_true _ _).mp hvalid
    exact .inr ⟨⟨value, hrange⟩, (Utf8.encode_of_decode hvalue).symm⟩

theorem seen_overview_unselected (hkind : kept.request.kind = .over ∨ kept.request.kind = .xover)
    (hne : lineArgs kept.line ≠ []) (hstart : ¬ ascii "<" <+: lineArgs kept.line)
    (hgroup : memory.sessionState.groupSelected = false) (now : Nat) :
    seen (respond config now kept.command (some kept.commandLines) memory) =
      .ok (NO_NEWSGROUP_SELECTED, memory.sessionState, false) := by
  have hasks : AsksRows kept (lineArgs kept.line) (crlfText ["224 Overview information follows"])
      overviewRow := .overview hkind rfl hne
  rw [hasks.seen_respond, hasks.overviewSelectorError_eq, hgroup, overviewSelectorRequiresGroup,
    decide_eq_false hstart]
  rfl

theorem Padded.overview_iff (h : Padded kept kept' blanks)
    (hkind : kept.request.kind = .over ∨ kept.request.kind = .xover)
    (hargs : lineArgs kept'.line = lineArgs kept.line ++ blanks) (hne : lineArgs kept.line ≠ [])
    (now : Nat) :
    AnswersAlike config now memory kept kept' ↔
      OverviewTakesBlanks config memory.sessionState kept.request.kind (lineArgs kept.line)
        (lineArgs kept'.line) := by
  have hkind' : kept'.request.kind = .over ∨ kept'.request.kind = .xover := by rwa [h.kind]
  have hne' : lineArgs kept'.line ≠ [] := by simp [hargs, hne]
  obtain ⟨trailing, htrailing, hline⟩ := KeptCommand.exists_trailing h.known hne
  obtain ⟨trailing', htrailing', hline'⟩ := KeptCommand.exists_trailing h.known' hne'
  unfold AnswersAlike OverviewTakesBlanks
  rcases exists_selector hkind (fun hnil => hne ((kept.lineArgs_eq_nil_iff h.known).mpr hnil)) with
    ⟨messageId, hrequest⟩ | ⟨range, hrequest⟩
  · rw [hrequest] at hline
    rw [h.args_eq, hrequest] at hline'
    rw [seen_overview_messageId hkind htrailing hline, seen_overview_messageId hkind' htrailing'
      hline', h.kind_command, h.articleId_eq, h.missing_eq]
    refine ⟨fun _ => .inl ?_, fun _ => rfl⟩
    rw [hline]
    exact decide_eq_true ((start_of_messageId messageId).trans (List.prefix_append _ _))
  · have hrequest' := h.args_eq.trans hrequest
    have hreads := readsRange_append htrailing hrequest config memory.sessionState
    have hreads' := readsRange_append htrailing' hrequest' config memory.sessionState
    rw [← hrequest, ← hline] at hreads
    rw [← hrequest', ← hline'] at hreads'
    rw [overviewSelectorIsMessageId, decide_eq_false hreads.start]
    cases hgroup : memory.sessionState.groupSelected with
    | false =>
      rw [seen_overview_unselected hkind hne hreads.start hgroup,
        seen_overview_unselected hkind' hne' hreads'.start hgroup]
      simp
    | true =>
      rw [hreads.seen_respond hkind hne (messageId_of_range hrequest) hgroup,
        hreads'.seen_respond hkind' hne' (messageId_of_range hrequest') hgroup, h.kind, hargs,
        overviewSelectorIsRange_append h.blank]
      have hother := rangeRefusal_ne hkind (overviewSelectorIsRange (lineArgs kept.line)) config
        memory.sessionState
      simp only [Except.ok.injEq, Prod.mk.injEq, and_true, Bool.false_eq_true, Bool.true_eq_false,
        false_or]
      split_ifs with hnil hnil' hnil'
      · simp [hnil, hnil']
      · simp [hnil, hnil', hother]
      · simp [hnil, hnil', (hother _).symm]
      · simp [hnil, hnil']

end Overview

/-- Blanks behind the arguments do not change how the handler of a command reads them. -/
def TakesBlanks (config : ServerConfig) (state : SessionState) (kind : RequestKind)
    (args args' : Bytes) : Prop :=
  match kind with
  | .group => GroupTakesBlanks config args
  | .listActive | .listActiveTimes | .listNewsgroups =>
    ListsAlike config (listVariantWildmatArgs kind args) (listVariantWildmatArgs kind args')
  | .hdr | .xhdr => HeaderTakesBlanks config state args
  | .over | .xover => OverviewTakesBlanks config state kind args args'
  | _ => True

theorem Padded.answersAlike_iff {config : ServerConfig} {memory : SessionMemory}
    {kept kept' : KeptCommand}
    {blanks : Bytes} (h : Padded kept kept' blanks) (hindexed : config.Indexed)
    (hnil : lineArgs kept.line ≠ []) (hblanks : blanks ≠ []) (now : Nat) :
    AnswersAlike config now memory kept kept' ↔
      TakesBlanks config memory.sessionState kept.request.kind (lineArgs kept.line)
        (lineArgs kept'.line) := by
  have hargs : lineArgs kept'.line = lineArgs kept.line ++ blanks := by
    rw [h.lineArgs_eq, if_neg hnil]
  cases hkind : kept.request.kind
  case group => exact h.group_iff hkind hargs hblanks now
  case listActive | listActiveTimes | listNewsgroups =>
    have hlist : AnswersAlike config now memory kept kept' ↔ _ :=
      h.list_iff hindexed (by rw [hkind]; rfl) now
    rwa [hkind] at hlist
  case hdr => exact h.header_iff (.inl hkind) hargs hblanks now
  case xhdr => exact h.header_iff (.inr hkind) hargs hblanks now
  case «over» =>
    have hrows : AnswersAlike config now memory kept kept' ↔ _ :=
      h.overview_iff (.inl hkind) hargs hnil now
    rwa [hkind] at hrows
  case xover =>
    have hrows : AnswersAlike config now memory kept kept' ↔ _ :=
      h.overview_iff (.inr hkind) hargs hnil now
    rwa [hkind] at hrows
  all_goals exact iff_of_true (h.answersAlike (.inl (by rw [hkind]; rfl)) config now memory) trivial

def hdrSubjectRange : KeptCommand := .ofLine (ascii "HDR Subject 1-2\r\n") (by decide)

def hdrSubjectRangeBlank : KeptCommand := .ofLine (ascii "HDR Subject 1-2 \r\n") (by decide)

def groupAltTestBlank : KeptCommand := .ofLine (ascii "GROUP alt.test \r\n") (by decide)

end NntpBench.Server
