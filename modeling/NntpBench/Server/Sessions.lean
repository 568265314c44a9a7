import NntpBench.Lib.Transitions
import NntpBench.Server.Outcomes

namespace NntpBench.Server

open Protocol Terminator

/-- One command of a session, parsed from a line that its batch keeps and handled at some time. -/
def Handles (config : ServerConfig) (memory next : SessionMemory) : Prop :=
  ∃ (kept : KeptCommand) (now : Nat) (handled : Handled),
    respond config now kept.command (some kept.commandLines) memory = .ok handled ∧
      handled.memory = next

/-- What a session can remember after some commands. -/
def ReachableMemory (config : ServerConfig) : SessionMemory → Prop :=
  Transitions.Reachable (· = SessionMemory.initial) (Handles config)

theorem ReachableMemory.points {config : ServerConfig} {memory : SessionMemory}
    (h : ReachableMemory config memory) : memory.sessionState.Points config.articleIndex := by
  refine Transitions.Reachable.invariant
    (P := fun memory => memory.sessionState.Points config.articleIndex) ?_ ?_ h
  · rintro start rfl
    exact SessionState.points_initial
  · intro memory next _ hpoints hstep
    obtain ⟨kept, now, handled, hrespond, rfl⟩ := hstep
    exact (outcome_of_respond hpoints hrespond).points hpoints

theorem ReachableMemory.initial (config : ServerConfig) : ReachableMemory config .initial :=
  Transitions.reachable_of_initial rfl

theorem ReachableMemory.next {config : ServerConfig} {memory : SessionMemory} {now : Nat}
    {handled : Handled} (h : ReachableMemory config memory) (kept : KeptCommand)
    (hrespond : respond config now kept.command (some kept.commandLines) memory = .ok handled) :
    ReachableMemory config handled.memory :=
  Transitions.Reachable.tail h ⟨kept, now, handled, hrespond, rfl⟩

/-- After any commands, a group is selected exactly when the state says so, and the current article
is one of the selected group's. -/
theorem current_article_in_selected_group (config : ServerConfig) (memory : SessionMemory)
    (h : ReachableMemory config memory) :
    (memory.sessionState.groupSelected = true ↔ memory.sessionState.selectedGroup.isSome = true) ∧
      ∀ article, memory.sessionState.currentArticle = some article →
        memory.sessionState.selectedGroup.isSome = true ∧
          ∃ articles, memory.sessionState.currentGroupArticles config.articleIndex = some articles ∧
            article ∈ articles := by
  have hpoints := h.points
  refine ⟨hpoints.1, ?_⟩
  intro article harticle
  obtain ⟨articles, harticles, hmem⟩ := hpoints.2 article harticle
  refine ⟨?_, articles, harticles, hmem⟩
  obtain ⟨group, hgroup, -⟩ := Option.bind_eq_some_iff.mp harticles
  rw [hgroup]
  rfl

/-- A server without stored articles, and the command that selects `alt.test`. -/
def plainServer : ServerConfig :=
  .fromBoundArgs id ⟨16, 16, .plain, none, 1⟩

def groupAltTest : KeptCommand := .ofLine (ascii "GROUP alt.test\r\n") (by decide)

def altTestSelected : SessionMemory :=
  { SessionMemory.initial with sessionState := .selectGroup (.fixture .altTest) (some 1) }

theorem reachable_altTestSelected : ReachableMemory plainServer altTestSelected := by
  have hrespond : respond plainServer 0 groupAltTest.command (some groupAltTest.commandLines)
      .initial = .ok (altTestSelected.answer GROUP_RESPONSE) := by decide
  exact (ReachableMemory.initial plainServer).next groupAltTest hrespond

theorem current_article_in_alt_test :
    altTestSelected.sessionState.currentArticle = some 1 ∧
      ∃ articles, altTestSelected.sessionState.currentGroupArticles plainServer.articleIndex =
        some articles ∧ 1 ∈ articles :=
  ⟨rfl, ((current_article_in_selected_group plainServer altTestSelected
    reachable_altTestSelected).2 1 rfl).2⟩

theorem head?_buildGeneratedResponse {start : Bytes} (targetBytes : Nat)
    (h : start.head? = some 50) : (buildGeneratedResponse start targetBytes).head? = some 50 := by
  unfold buildGeneratedResponse
  apply head?_appendDotTerminator
  exact head?_of_start (List.prefix_append _ _) h

theorem ServerConfig.answers_fromBoundArgs (encodeStream : Bytes → Bytes) (args : ServerArgs)
    (hstored : ∀ dir, args.articleDir = some dir → ∀ path file,
      dir.openFile path = .ok (some file) → ascii "220" <+: file.bytes) :
    (fromBoundArgs encodeStream args).Answers := by
  have hbody : BODY_RESPONSE_PREFIX.head? = some 50 := by decide
  have harticle : ARTICLE_RESPONSE_PREFIX.head? = some 50 := by decide
  refine ⟨?_, ?_, hstored⟩
  · unfold fromBoundArgs
    dsimp only
    cases args.payloadMode with
    | plain => exact head?_buildGeneratedResponse _ hbody
    | yenc => exact head?_appendDotTerminator (head?_of_start (List.prefix_append _ _) hbody)
  · unfold fromBoundArgs
    dsimp only
    cases args.payloadMode with
    | plain => exact head?_buildGeneratedResponse _ harticle
    | yenc => exact head?_appendDotTerminator (head?_of_start (List.prefix_append _ _) harticle)

/-- Refusals, retrievals by message-id and most commands leave the state as it is, and a successful
retrieval by number moves the pointer to that number and changes nothing else. Of a stored article
only the status matters. -/
theorem session_state_after_reply (encodeStream : Bytes → Bytes) (args : ServerArgs)
    (hstored : ∀ dir, args.articleDir = some dir → ∀ path file,
      dir.openFile path = .ok (some file) → ascii "220" <+: file.bytes)
    (memory : SessionMemory) (kept : KeptCommand) (now : Nat) (handled : Handled)
    (hreachable : ReachableMemory (.fromBoundArgs encodeStream args) memory)
    (h : respond (.fromBoundArgs encodeStream args) now kept.command (some kept.commandLines)
      memory = .ok handled) :
    (handled.reply.isError = true → handled.memory.sessionState = memory.sessionState) ∧
      (isRetrieval kept.request.kind = true → kept.request.messageId.isSome = true →
        handled.memory.sessionState = memory.sessionState) ∧
      (movesPointer kept.request.kind = false →
        handled.memory.sessionState = memory.sessionState) ∧
      ∀ number, isRetrieval kept.request.kind = true → kept.command.articleId = some number →
        handled.reply.isSuccess = true →
          handled.memory.sessionState =
            { memory.sessionState with currentArticle := some number } := by
  have hanswers := ServerConfig.answers_fromBoundArgs encodeStream args hstored
  have houtcome := outcome_of_respond hreachable.points h
  generalize handled.memory.sessionState = state at houtcome ⊢
  generalize handled.reply = reply at houtcome ⊢
  cases houtcome with
  | refused herror =>
    refine ⟨fun _ => rfl, fun _ _ => rfl, fun _ => rfl, ?_⟩
    intro number _ _ hsuccess
    rw [Reply.not_isError_of_isSuccess hsuccess] at herror
    cases herror
  | unchanged hnumber =>
    refine ⟨fun _ => rfl, fun _ _ => rfl, fun _ => rfl, ?_⟩
    intro number hretrieval harticle _
    rw [hnumber hretrieval] at harticle
    cases harticle
  | article article hkind hcontains herror =>
    have hretrieval (hretrieval : isRetrieval kept.request.kind = true) :
        kept.request.messageId = none ∧
          ∀ number, kept.command.articleId = some number → number = article := by
      rcases hkind with hkind | hkind | hkind
      · rw [hkind] at hretrieval
        cases hretrieval
      · rw [hkind] at hretrieval
        cases hretrieval
      · exact hkind.2
    refine ⟨?_, ?_, ?_, ?_⟩
    · intro hrefused
      rw [herror hanswers] at hrefused
      cases hrefused
    · intro hkind hid
      rw [(hretrieval hkind).1] at hid
      cases hid
    · intro hmoves
      rcases hkind with hkind | hkind | hkind
      · rw [hkind] at hmoves
        cases hmoves
      · rw [hkind] at hmoves
        cases hmoves
      · rw [movesPointer, hkind.1] at hmoves
        cases hmoves
    · intro number hkind hnumber _
      rw [(hretrieval hkind).2 number hnumber]
  | group group articles hkind harticles herror =>
    have hother : isRetrieval kept.request.kind = false ∧ movesPointer kept.request.kind =
        true := by
      rcases hkind with hkind | hkind
      · rw [hkind]
        decide
      · rw [hkind]
        decide
    rw [hother.1, hother.2, herror]
    refine ⟨?_, ?_, ?_, ?_⟩
    · intro hrefused
      cases hrefused
    · intro hretrieval
      cases hretrieval
    · intro hmoves
      cases hmoves
    · intro number hretrieval
      cases hretrieval

def statTwo : KeptCommand := .ofLine (ascii "STAT 2\r\n") (by decide)

def statTwoHandled : Handled :=
  (altTestSelected.withCurrentArticle (some 2)).answerBuilt (buildSelectedStatResponseInto [] 2)

theorem session_state_after_stat_two :
    respond plainServer 0 statTwo.command (some statTwo.commandLines) altTestSelected =
        .ok statTwoHandled ∧
      statTwoHandled.memory.sessionState =
        { altTestSelected.sessionState with currentArticle := some 2 } := by
  have hstored : ∀ dir, (none : Option ArticleDir) = some dir → ∀ path file,
      dir.openFile path = .ok (some file) → ascii "220" <+: file.bytes := by
    intro dir hdir
    cases hdir
  have hrespond : respond plainServer 0 statTwo.command (some statTwo.commandLines)
      altTestSelected = .ok statTwoHandled := by decide
  refine ⟨hrespond, ?_⟩
  have hframe := session_state_after_reply id ⟨16, 16, .plain, none, 1⟩ hstored altTestSelected
    statTwo 0 statTwoHandled reachable_altTestSelected hrespond
  exact hframe.2.2.2 2 (by decide) (by decide) (by decide)

end NntpBench.Server
