import NntpBench.Client.Gate

namespace NntpBench.Client

open Protocol

variable {pipelineDepth readChunkBytes : Nat} {s next : Connection}

def Exchange.quits (self : Exchange) : Bool :=
  self.queued.kind = .quit && self.response.status.code = 205

theorem Connection.fail_eq (s : Connection) (error : SharedEngineError) (requests : List Queued)
    (id : Nat) : s.fail error requests id = s.responses id ∨
      s.fail error requests id = some (.error error) := by
  unfold fail
  split_ifs
  · exact .inr rfl
  · exact .inl rfl

theorem WriterStep.responses_eq (h : WriterStep pipelineDepth s next) (id : Nat) :
    next.responses id = s.responses id ∨ ∃ error, next.responses id = some (.error error) := by
  cases h
  case writeFailed => exact (s.fail_eq ..).imp_right fun h => ⟨_, h⟩
  case inflightClosed => exact (s.fail_eq ..).imp_right fun h => ⟨_, h⟩
  case drain => exact (s.fail_eq ..).imp_right fun h => ⟨_, h⟩
  all_goals exact .inl rfl

/-- An exchange is the source of a delivered result. -/
def Completes (s : Connection) (id : Nat) (completed : CompletedRequest) : Prop :=
  ∃ exchange ∈ s.handled, exchange.queued.id = id ∧ exchange.completed = completed ∧
    (exchange.quits = true → s.closed = true)

theorem Completes.mono {id : Nat} {completed : CompletedRequest} (h : Completes s id completed)
    (hhandled : s.handled ⊆ next.handled) (hclosed : s.closed = true → next.closed = true) :
    Completes next id completed := by
  obtain ⟨exchange, hmem, hid, hcompleted, hquits⟩ := h
  exact ⟨exchange, hhandled hmem, hid, hcompleted, fun hquit => hclosed (hquits hquit)⟩

/-- What the reader is about to deliver comes from the exchange it has handled. -/
def Justified (s : Connection) : ReaderState → Prop
  | .delivering queued (.ok completed) => Completes s queued.id completed
  | .closing exchange => exchange ∈ s.handled
  | _ => True

theorem Justified.mono {reader : ReaderState} (h : Justified s reader)
    (hhandled : s.handled ⊆ next.handled) (hclosed : s.closed = true → next.closed = true) :
    Justified next reader := by
  cases reader with
  | delivering queued result =>
    cases result with
    | ok completed => exact Completes.mono h hhandled hclosed
    | error error => trivial
  | closing exchange => exact hhandled h
  | _ => trivial

structure Delivered (s : Connection) : Prop where
  answered : s.reader.broken = false → ∀ exchange ∈ s.handled,
    exchange.queued ∉ s.reader.opened → (s.responses exchange.queued.id).isSome = true
  completes : ∀ id completed, s.responses id = some (.ok completed) → Completes s id completed
  reader : Justified s s.reader

namespace Delivered

theorem writer (h : Delivered s) (hstep : WriterStep pipelineDepth s next) : Delivered next := by
  have hframe := hstep.frame
  have hhandled : s.handled ⊆ next.handled := by
    rw [hframe.handled]
    exact List.Subset.refl _
  have hclosed : s.closed = true → next.closed = true := by
    rw [hframe.closed]
    exact fun hclosed => hclosed
  refine ⟨?_, fun id completed hsent => ?_, ?_⟩
  · rw [hframe.reader, hframe.handled]
    intro hbroken exchange hmem hnot
    have hbefore := h.answered hbroken exchange hmem hnot
    rcases hstep.responses_eq exchange.queued.id with heq | ⟨error, heq⟩ <;> rw [heq]
    · exact hbefore
    · rfl
  · rcases hstep.responses_eq id with heq | ⟨error, heq⟩ <;> rw [heq] at hsent
    · exact (h.completes id completed hsent).mono hhandled hclosed
    · cases hsent
  · rw [hframe.reader]
    exact h.reader.mono hhandled hclosed

theorem of_quiet (h : Delivered s) {reader : ReaderState} (hs : s.reader = reader)
    (hhandled : next.handled = s.handled) (hclosed : next.closed = s.closed)
    (hresponses : next.responses = s.responses) (hjustified : Justified next next.reader)
    (hopened : next.reader.broken = false →
      reader.broken = false ∧ ∀ queued ∈ reader.opened, queued ∈ next.reader.opened) :
    Delivered next := by
  refine ⟨?_, ?_, hjustified⟩
  · rw [hhandled, hresponses]
    intro hbroken exchange hmem hnot
    obtain ⟨hbefore, hkept⟩ := hopened hbroken
    refine h.answered (hs ▸ hbefore) exchange hmem fun hopen => hnot (hkept _ ?_)
    exact hs ▸ hopen
  · rw [hresponses]
    intro id completed hsent
    apply (h.completes id completed hsent).mono
    · rw [hhandled]
      exact List.Subset.refl _
    · rw [hclosed]
      exact fun hclosed => hclosed

theorem of_broken (h : Delivered s) (hhandled : next.handled = s.handled)
    (hclosed : next.closed = s.closed) (hjustified : Justified next next.reader)
    (hresponses : ∀ id, next.responses id = s.responses id ∨
      ∃ error, next.responses id = some (.error error))
    (hbroken : next.reader.broken = true) : Delivered next := by
  refine ⟨fun hnot => ?_, fun id completed hsent => ?_, hjustified⟩
  · rw [hbroken] at hnot
    cases hnot
  · rcases hresponses id with heq | ⟨error, heq⟩ <;> rw [heq] at hsent
    · apply (h.completes id completed hsent).mono
      · rw [hhandled]
        exact List.Subset.refl _
      · rw [hclosed]
        exact fun hclosed => hclosed
    · cases hsent

theorem reader_step (h : Delivered s) (hstep : ReaderStep readChunkBytes s next) :
    Delivered next := by
  cases hstep
  case recv hs hinflight =>
    exact h.of_quiet hs rfl rfl rfl trivial fun _ => ⟨rfl, fun _ hmem => by cases hmem⟩
  case received queued response receiver rounds hs hreceive =>
    refine h.of_quiet hs rfl rfl rfl ?_ ?_ <;> dsimp only <;> split_ifs
    · trivial
    · trivial
    · exact fun _ => ⟨rfl, fun _ hmem => hmem⟩
    · exact fun _ => ⟨rfl, fun _ hmem => hmem⟩
  case decide queued first hs =>
    refine h.of_quiet hs rfl rfl rfl ?_ ?_ <;> dsimp only <;> split_ifs
    · trivial
    · trivial
    · exact fun _ => ⟨rfl, fun _ hmem => hmem⟩
    · exact fun _ => ⟨rfl, fun _ hmem => hmem⟩
  case finished hs hreceive =>
    exact h.of_quiet hs rfl rfl rfl trivial fun _ => ⟨rfl, fun _ hmem => hmem⟩
  case release hs => exact h.of_quiet hs rfl rfl rfl trivial fun _ =>
    ⟨rfl, fun _ hmem => by cases hmem⟩
  case ended hs => exact h.of_quiet hs rfl rfl rfl trivial fun _ =>
    ⟨rfl, fun _ hmem => by cases hmem⟩
  case store exchange hs =>
    refine ⟨fun _ other hmem hnot => ?_, fun id completed hsent => ?_, ?_⟩
    · -- The new exchange is still open, so the other one was handled before.
      rw [ReaderState.opened_stored, List.mem_singleton] at hnot
      rcases List.mem_append.mp hmem with hmem | hmem
      · refine h.answered (by rw [hs]; rfl) other hmem ?_
        rw [hs]
        exact fun hopen => hnot (List.mem_singleton.mp hopen)
      · rw [List.mem_singleton.mp hmem] at hnot
        exact absurd rfl hnot
    · exact (h.completes id completed hsent).mono (List.subset_append_left ..) fun hclosed =>
        hclosed
    · cases hresult : (exchange.transition s.capabilityList).1 with
      | ok done => exact List.mem_append_right _ (List.mem_singleton.mpr rfl)
      | error error => trivial
  case close exchange hs =>
    have hmem : exchange ∈ s.handled := by
      have hreader := h.reader
      rw [hs] at hreader
      exact hreader
    refine ⟨fun _ other hother hnot => ?_, fun id completed hsent => ?_, ?_⟩
    · refine h.answered (by rw [hs]; rfl) other hother ?_
      rw [hs]
      exact hnot
    · refine (h.completes id completed hsent).mono (List.Subset.refl _) fun hclosed => ?_
      simp [hclosed]
    · refine ⟨exchange, hmem, rfl, rfl, fun hquits => ?_⟩
      have hquit : (decide (exchange.queued.kind = .quit) &&
          decide (exchange.response.status.code = 205)) = true := hquits
      simp [hquit]
  case deliver queued result hs =>
    refine ⟨fun _ other hmem hnot => ?_, fun id completed hsent => ?_, trivial⟩
    · by_cases heq : other.queued.id = queued.id
      · dsimp only
        rw [heq, Function.update_self]
        rfl
      · dsimp only
        rw [Function.update_of_ne heq]
        refine h.answered (by rw [hs]; rfl) other hmem ?_
        rw [hs]
        simp only [ReaderState.opened, ReaderState.active, List.mem_singleton]
        exact fun hqueued => heq (by rw [hqueued])
    · dsimp only at hsent
      by_cases heq : id = queued.id
      · subst heq
        rw [Function.update_self, Option.some.injEq] at hsent
        subst hsent
        have hreader := h.reader
        rw [hs] at hreader
        exact hreader
      · rw [Function.update_of_ne heq] at hsent
        exact h.completes id completed hsent
  case failDeliver hs =>
    exact h.of_broken rfl rfl trivial (fun id => (s.fail_eq ..).imp_right fun h => ⟨_, h⟩) rfl
  case failDrain hs hinflight =>
    refine h.of_broken rfl rfl ?_ (fun id => (s.fail_eq ..).imp_right fun h => ⟨_, h⟩) ?_
    · rw [hs]
      trivial
    · rw [hs]
      rfl
  all_goals exact h.of_broken rfl rfl trivial (fun id => .inl rfl) rfl

theorem step (h : Delivered s) (hstep : Step pipelineDepth readChunkBytes s next) :
    Delivered next :=
  hstep.by_task (fun _ _ _ _ _ => ⟨h.answered, h.completes, h.reader⟩) h.writer h.reader_step

end Delivered

variable {events : List ReadEvent} {spare : Nat → Nat}

theorem Reachable.delivered (h : Reachable pipelineDepth readChunkBytes events spare s) :
    Delivered s := by
  refine Transitions.Reachable.invariant ?_ (fun _ _ _ hs hstep => hs.step hstep) h
  rintro start rfl
  refine ⟨fun _ exchange hmem => ?_, fun id completed hsent => ?_, trivial⟩
  · cases hmem
  · cases hsent

end NntpBench.Client
