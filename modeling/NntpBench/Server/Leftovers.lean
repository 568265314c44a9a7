import NntpBench.Server.Sessions

namespace NntpBench.Server

open Protocol Terminator

/-- The bytes written for a command, or the error that ends the session. -/
def replyBytes (handled : Except ServerError Handled) : Except ServerError Bytes :=
  handled.map fun handled => handled.reply.bytes

/-- What the client sees of a command and what the session goes on with, without its buffers. -/
def seen (handled : Except ServerError Handled) : Except ServerError
    (Bytes × SessionState × Bool) :=
  handled.map fun handled => (handled.reply.bytes, handled.memory.sessionState, handled.close)

theorem replyBytes_eq_seen (handled : Except ServerError Handled) :
    replyBytes handled = (seen handled).map Prod.fst := by
  cases handled <;> rfl

def listsGroups (kind : RequestKind) : Bool :=
  kind = .listActive || kind = .listActiveTimes || kind = .listNewsgroups

section Buffers

variable {config : ServerConfig} {now : Nat} {command : ParsedCommand}
  {commandLines : Option CommandLineBatch} (state : SessionState)
  (response response' aux aux' : Bytes)

theorem selectedArticleId_eq : selectedArticleId command ⟨state, response, aux⟩ =
    (command.articleId.or state.currentArticle).getD 1 := rfl

theorem seen_handleArticle :
    seen (handleArticle config command commandLines ⟨state, response, aux⟩) =
      seen (handleArticle config command commandLines ⟨state, response', aux'⟩) := by
  unfold handleArticle
  dsimp only
  cases articleSelectorError command commandLines state config true with
  | some refusal => rfl
  | none =>
    dsimp only
    generalize commandLines.bind (commandMessageId command) = messageId
    by_cases hdir : config.articleDir.isSome = true
    · rw [if_pos hdir, if_pos hdir]
      cases storedArticleReply config .article
          (if messageId.isSome then command.articleId
            else command.articleId.or state.currentArticle) messageId with
      | error error => rfl
      | ok found =>
        cases found with
        | none => rfl
        | some reply => cases command.articleId <;> rfl
    · rw [if_neg hdir, if_neg hdir]
      cases messageId with
      | some messageId => rfl
      | none =>
        dsimp only
        rw [selectedArticleId_eq state response aux, selectedArticleId_eq state response' aux']
        split_ifs <;> rfl

theorem seen_handleRetrieval {kind : RequestKind} {first : Bytes}
    {buildMessageId : Bytes → Str → Bytes} {buildSelected : Bytes → Nat → Bytes}
    (hmessageId : ∀ messageId, buildMessageId response messageId = buildMessageId response'
      messageId)
    (hselected : ∀ articleId, buildSelected response articleId = buildSelected response'
      articleId) :
    seen (handleRetrieval config command commandLines ⟨state, response, aux⟩ kind first
        buildMessageId buildSelected) =
      seen (handleRetrieval config command commandLines ⟨state, response', aux'⟩ kind first
        buildMessageId buildSelected) := by
  unfold handleRetrieval
  dsimp only
  cases articleSelectorError command commandLines state config true with
  | some refusal => rfl
  | none =>
    dsimp only
    generalize commandLines.bind (commandMessageId command) = messageId
    cases messageId with
    | some messageId =>
      dsimp only
      cases storedArticleReply config kind none (some messageId) with
      | error error => rfl
      | ok found =>
        cases found with
        | some reply => rfl
        | none =>
          dsimp only [bind, Except.bind]
          rw [hmessageId]
          split_ifs <;> rfl
    | none =>
      dsimp only
      rw [selectedArticleId_eq state response aux, selectedArticleId_eq state response' aux']
      cases storedArticleReply config kind
          (some ((command.articleId.or state.currentArticle).getD 1)) none with
      | error error => rfl
      | ok found =>
        cases found with
        | some reply => rfl
        | none =>
          dsimp only [bind, Except.bind, SessionMemory.withCurrentArticle]
          rw [hselected]
          split_ifs <;> rfl

theorem seen_handleListVariant {kind : RequestKind}
    {responseForIndexInto : Bytes → Bytes → ArticleStoreIndex → Bytes}
    {fixtureResponse : Bytes → Bytes}
    (hindex : config.articleIndex = none) :
    seen (.ok (handleListVariant config command commandLines ⟨state, response, aux⟩ kind
        responseForIndexInto fixtureResponse)) =
      seen (.ok (handleListVariant config command commandLines ⟨state, response', aux'⟩ kind
        responseForIndexInto fixtureResponse)) := by
  unfold handleListVariant
  rw [hindex]
  rfl

theorem seen_handleGroup :
    seen (.ok (handleGroup config command commandLines ⟨state, response, aux⟩)) =
      seen (.ok (handleGroup config command commandLines ⟨state, response', aux'⟩)) := by
  have hclear (args : Bytes) (index : ArticleStoreIndex) :
      groupResponseForArgsWithIndexInto aux args index =
        groupResponseForArgsWithIndexInto aux' args index := rfl
  unfold handleGroup
  dsimp only
  cases config.articleIndex with
  | some index =>
    dsimp only
    rw [hclear]
    split <;> rfl
  | none =>
    dsimp only
    split <;> rfl

theorem seen_handleListGroup :
    seen (.ok (handleListGroup config command commandLines ⟨state, response, aux⟩)) =
      seen (.ok (handleListGroup config command commandLines ⟨state, response', aux'⟩)) := by
  have hclear (args : Bytes) (currentGroup : Option Str) (index : ArticleStoreIndex) :
      listgroupResponseForArgsWithIndexInto aux args currentGroup index =
        listgroupResponseForArgsWithIndexInto aux' args currentGroup index := rfl
  unfold handleListGroup
  dsimp only
  cases listgroupStateError (commandArgs command commandLines) state with
  | some refusal => rfl
  | none =>
    cases config.articleIndex with
    | some index =>
      dsimp only
      rw [hclear]
      split <;> rfl
    | none => rfl

theorem seen_handleNavigation {move move' : Nat → Option Nat} {missing : Bytes}
    {fixtureResponse : Nat → Bytes} (hmove : move = move') :
    seen (handleNavigation config ⟨state, response, aux⟩ move missing fixtureResponse) =
      seen (handleNavigation config ⟨state, response', aux'⟩ move' missing fixtureResponse) := by
  subst hmove
  unfold handleNavigation
  dsimp only
  split_ifs
  · rfl
  · cases state.currentArticle with
    | none => rfl
    | some current =>
      dsimp only
      cases move current with
      | none => rfl
      | some article =>
        have hclear (index : ArticleStoreIndex) :
            buildNavigationArticleResponseInto response index article =
              buildNavigationArticleResponseInto response' index article := rfl
        unfold navigateTo
        dsimp only [SessionMemory.withCurrentArticle]
        cases config.articleIndex with
        | none => rfl
        | some index =>
          dsimp only
          rw [hclear]
          cases buildNavigationArticleResponseInto response' index article <;> rfl

/-- A builder that clears its buffer, or gives up whatever it holds. -/
def Clears (responseWithIndex : Bytes → Bytes → SessionState → ArticleStoreIndex → Built) : Prop :=
  ∀ buffer buffer' args state index,
    responseWithIndex buffer args state index = responseWithIndex buffer' args state index ∨
      (responseWithIndex buffer args state index).isReply = false ∧
        (responseWithIndex buffer' args state index).isReply = false

theorem clears_overviewResponse (statusLine : Bytes) :
    Clears fun response args state index =>
      overviewResponseForIndexInto response statusLine args state index := by
  intro buffer buffer' args state index
  exact .inl rfl

theorem clears_headerResponse (statusLine : Bytes) (messageIdRowKey : HeaderMessageIdRowKey) :
    Clears fun response args state index =>
      headerResponseForIndexInto response statusLine args state index messageIdRowKey := by
  intro buffer buffer' args state index
  unfold headerResponseForIndexInto
  dsimp only
  cases headerQueryNameFromArgs args with
  | none => exact .inr ⟨rfl, rfl⟩
  | some headerName => exact .inl rfl

theorem seen_handleOverview
    {responseWithIndex : Bytes → Bytes → SessionState → ArticleStoreIndex → Built}
    {fixtureResponse : Bytes → SessionState → Bytes} (h : Clears responseWithIndex) :
    seen (.ok (handleOverview config command commandLines ⟨state, response, aux⟩ responseWithIndex
        fixtureResponse)) =
      seen
        (.ok (handleOverview config command commandLines ⟨state, response', aux'⟩ responseWithIndex
        fixtureResponse)) := by
  unfold handleOverview
  dsimp only
  cases overviewSelectorError command commandLines state config.articleIndex with
  | some refusal => rfl
  | none =>
    cases config.articleIndex with
    | none => rfl
    | some index =>
      dsimp only
      rcases h aux aux' (commandArgs command commandLines) state index with heq | ⟨hgiven, hgiven'⟩
      · rw [heq]
        split_ifs <;> rfl
      · rw [hgiven, hgiven']
        rfl

theorem seen_handleNewGroups :
    seen (.ok (handleNewGroups config now command commandLines ⟨state, response, aux⟩)) =
      seen (.ok (handleNewGroups config now command commandLines ⟨state, response', aux'⟩)) := by
  unfold handleNewGroups
  cases config.articleIndex <;> rfl

theorem seen_handleNewNews :
    seen (.ok (handleNewNews config now command commandLines ⟨state, response, aux⟩)) =
      seen (.ok (handleNewNews config now command commandLines ⟨state, response', aux'⟩)) := by
  unfold handleNewNews
  cases config.articleIndex <;> rfl

theorem seen_respond (hkind : listsGroups command.kind = false ∨ config.articleIndex = none) :
    seen (respond config now command commandLines ⟨state, response, aux⟩) =
      seen (respond config now command commandLines ⟨state, response', aux'⟩) := by
  -- Apart from the LIST replies from an index, what the buffers hold does not show.
  unfold respond
  split
  all_goals
    rename_i hcommand
    rw [hcommand] at hkind
    first
    | rfl
    | skip
  · exact seen_handleArticle state response response' aux aux'
  · exact seen_handleRetrieval state response response' aux aux' (fun _ => rfl) fun _ => rfl
  · exact seen_handleRetrieval state response response' aux aux' (fun _ => rfl) fun _ => rfl
  · exact seen_handleRetrieval state response response' aux aux' (fun _ => rfl) fun _ => rfl
  · exact seen_handleListVariant state response response' aux aux' (hkind.resolve_left (by decide))
  · exact seen_handleListVariant state response response' aux aux' (hkind.resolve_left (by decide))
  · exact seen_handleListVariant state response response' aux aux' (hkind.resolve_left (by decide))
  · exact seen_handleGroup state response response' aux aux'
  · exact seen_handleListGroup state response response' aux aux'
  · exact seen_handleNavigation state response response' aux aux' rfl
  · exact seen_handleNavigation state response response' aux aux' rfl
  · exact seen_handleNewGroups state response response' aux aux'
  · exact seen_handleNewNews state response response' aux aux'
  · exact seen_handleOverview state response response' aux aux' (clears_overviewResponse _)
  · exact seen_handleOverview state response response' aux aux' (clears_overviewResponse _)
  · exact seen_handleOverview state response response' aux aux' (clears_headerResponse _ _)
  · exact seen_handleOverview state response response' aux aux' (clears_headerResponse _ _)

theorem replyBytes_respond (hkind : listsGroups command.kind = false) :
    replyBytes (respond config now command commandLines ⟨state, response, aux⟩) =
      replyBytes (respond config now command commandLines ⟨state, response', aux'⟩) := by
  rw [replyBytes_eq_seen, replyBytes_eq_seen,
    seen_respond state response response' aux aux' (.inl hkind)]

theorem replyBytes_respond_lists (now : Nat) (commandLines : Option CommandLineBatch)
    {index : ArticleStoreIndex} (hindex : config.articleIndex = some index)
    (hkind : listsGroups command.kind = true) :
    ∃ reply, ∀ response aux,
      replyBytes (respond config now command commandLines ⟨state, response, aux⟩) =
        .ok (aux ++ reply) := by
  -- The LIST replies from an index stand behind what the buffer holds.
  have hvariant (kind : RequestKind) (statusLine : Bytes)
      (formatLine : Str → ArticleStoreGroup → Bytes) (fixtureResponse : Bytes → Bytes) :
      ∃ reply, ∀ response aux,
        replyBytes (.ok (handleListVariant config command commandLines ⟨state, response, aux⟩ kind
          (fun response args index =>
            formatActiveGroupResponseInto response statusLine args index formatLine)
          fixtureResponse)) = .ok (aux ++ reply) := by
    refine ⟨formatActiveGroupResponseInto [] statusLine
      (listVariantWildmatArgs kind (commandArgs command commandLines)) index formatLine, ?_⟩
    intro response aux
    unfold handleListVariant formatActiveGroupResponseInto
    rw [hindex]
    simp [replyBytes, Except.map, SessionMemory.answerAux, Reply.bytes]
  simp only [listsGroups, Bool.or_eq_true, decide_eq_true_eq] at hkind
  unfold respond
  rcases hkind with (hkind | hkind) | hkind
  · rw [hkind]
    exact hvariant _ _ _ _
  · rw [hkind]
    exact hvariant _ _ _ _
  · rw [hkind]
    exact hvariant _ _ _ _

end Buffers

/-- The reply to a command is a function of the session state unless the command lists groups, whose
reply starts with what `aux_response_buffer` was left with. -/
theorem reply_independent_of_buffers_iff (config : ServerConfig) (index : ArticleStoreIndex)
    (hindex : config.articleIndex = some index) (memory memory' : SessionMemory)
    (hstate : memory.sessionState = memory'.sessionState) (kept : KeptCommand) (now : Nat) :
    replyBytes (respond config now kept.command (some kept.commandLines) memory) =
        replyBytes (respond config now kept.command (some kept.commandLines) memory') ↔
      listsGroups kept.request.kind = false ∨
        memory.auxResponseBuffer = memory'.auxResponseBuffer := by
  obtain ⟨state, response, aux⟩ := memory
  obtain ⟨state', response', aux'⟩ := memory'
  have hstate : state = state' := hstate
  subst hstate
  rw [← kept.kind_command]
  by_cases hkind : listsGroups kept.command.kind = true
  · obtain ⟨reply, hreply⟩ :=
      replyBytes_respond_lists state now (some kept.commandLines) hindex hkind
    rw [hreply, hreply, hkind]
    constructor
    · intro heq
      exact .inr (List.append_cancel_right (Except.ok.inj heq))
    · rintro (hlists | haux)
      · cases hlists
      · rw [show aux = aux' from haux]
  · rw [Bool.not_eq_true] at hkind
    exact ⟨fun _ => .inl hkind, fun _ => replyBytes_respond state response response' aux aux' hkind⟩

def emptyStoreServer : ServerConfig :=
  .fromBoundArgs id ⟨16, 16, .plain, some ⟨[], fun _ => .ok none⟩, 1⟩

def listActive : KeptCommand := .ofLine (ascii "LIST ACTIVE\r\n") (by decide)

def activeListed : SessionMemory :=
  { SessionMemory.initial with
    auxResponseBuffer := crlfText ["215 list of newsgroups follows", "."] }

theorem reply_independent_of_buffers_group :
    emptyStoreServer.articleIndex.isSome = true ∧
      replyBytes (respond emptyStoreServer 0 groupAltTest.command (some groupAltTest.commandLines)
          .initial) =
        replyBytes (respond emptyStoreServer 0 groupAltTest.command (some groupAltTest.commandLines)
          activeListed) := by
  refine ⟨by decide, ?_⟩
  obtain ⟨index, hindex⟩ : ∃ index, emptyStoreServer.articleIndex = some index :=
    Option.isSome_iff_exists.mp (by decide)
  refine (reply_independent_of_buffers_iff emptyStoreServer index hindex .initial activeListed rfl
    groupAltTest 0).mpr (.inl ?_)
  decide

/-- The second of two LIST ACTIVE replies holds the first one as well. -/
theorem list_active_repeats_itself :
    ReachableMemory emptyStoreServer .initial ∧ ReachableMemory emptyStoreServer activeListed ∧
      SessionMemory.initial.sessionState = activeListed.sessionState ∧
      replyBytes (respond emptyStoreServer 0 listActive.command (some listActive.commandLines)
          .initial) =
        .ok (crlfText ["215 list of newsgroups follows", "."]) ∧
      replyBytes (respond emptyStoreServer 0 listActive.command (some listActive.commandLines)
          activeListed) =
        .ok (crlfText ["215 list of newsgroups follows", ".", "215 list of newsgroups follows",
          "."]) := by
  have hrespond : respond emptyStoreServer 0 listActive.command (some listActive.commandLines)
      .initial = .ok (SessionMemory.initial.answerAux
        (crlfText ["215 list of newsgroups follows", "."])) := by decide
  refine ⟨.initial _, ?_, rfl, ?_, ?_⟩
  · exact (ReachableMemory.initial emptyStoreServer).next listActive hrespond
  · decide
  · decide

end NntpBench.Server
