import NntpBench.Client.Flow

namespace NntpBench.Client

open Protocol

variable {id : Nat} {operation : Operation} {stage : Stage}

variable {pipelineDepth readChunkBytes : Nat} {s next : Connection}

namespace Connection

theorem line_eq (s : Connection) :
    s.line = s.reader.tickets ++ (s.inflight ++ s.writer.written ++ s.unwritten) := by
  simp [line, WriterState.tickets, unwritten]

theorem holds_setStage {other : Nat} :
    (s.setStage id operation stage).holds other ↔
      if other = id then stage.holds = true else s.holds other := by
  unfold holds setStage
  split_ifs with heq
  · subst heq
    simp
  · simp [Function.update_of_ne heq]

theorem holds_congr (h : next.calls = s.calls) (id : Nat) : next.holds id ↔ s.holds id := by
  unfold holds
  rw [h]

theorem holds_iff (h : s.calls id = some ⟨operation, stage⟩) : s.holds id ↔ stage.holds = true := by
  simp [holds, h]

end Connection

theorem CallStep.holds_or_lock {after : Stage} (h : CallStep s id operation stage after)
    (hholds : after.holds = true) :
    stage.holds = true ∨ s.BarrierFree := by
  cases h with
  | lock h => exact .inr h
  | accept h => exact .inl rfl
  | recheck h => exact .inl rfl
  | probed h =>
    split_ifs at hholds <;> cases hholds
  | _ => cases hholds

structure Guarded (s : Connection) : Prop where
  line : s.line.Pairwise fun queued _ => queued.guarded = false
  calls : ∀ id, s.holds id →
    (∀ queued ∈ s.line, queued.guarded = false) ∧ ∀ other, s.holds other → other = id

namespace Guarded

theorem of_sublist (h : Guarded s) (hline : List.Sublist next.line s.line)
    (hholds : ∀ id, next.holds id → s.holds id) : Guarded next where
  line := h.line.sublist hline
  calls id hid := by
    obtain ⟨hfree, hunique⟩ := h.calls id (hholds id hid)
    exact ⟨fun queued hmem => hfree queued (hline.subset hmem),
      fun other hother => hunique other (hholds other hother)⟩

theorem nothing_behind (h : Guarded s) {before after : List Queued} {queued : Queued}
    (hline : s.line = before ++ queued :: after) (hguarded : queued.guarded = true) :
    after = [] := by
  have hpairwise := h.line
  rw [hline, List.pairwise_append, List.pairwise_cons] at hpairwise
  cases after with
  | nil => rfl
  | cons next rest =>
    have hfree := hpairwise.2.1.1 next (by simp)
    rw [hfree] at hguarded
    cases hguarded

theorem no_holder (h : Guarded s) {queued : Queued} (hmem : queued ∈ s.line)
    (hguarded : queued.guarded = true) (id : Nat) : ¬ s.holds id := by
  intro hid
  rw [(h.calls id hid).1 queued hmem] at hguarded
  cases hguarded

theorem lock (h : Guarded s) (hfree : s.BarrierFree) : Guarded (s.setStage id operation stage) where
  line := h.line
  calls holder hholder := by
    refine ⟨hfree.2, fun other hother => ?_⟩
    -- Nobody held the barrier, so whoever holds it now is the call that has just locked it.
    have honly : ∀ call, (s.setStage id operation stage).holds call → call = id := by
      intro call hcall
      rw [Connection.holds_setStage] at hcall
      by_contra hne
      rw [if_neg hne] at hcall
      exact hfree.1 call hcall
    rw [honly other hother, honly holder hholder]

theorem setStage (h : Guarded s)
    (hstage : stage.holds = true → s.holds id) : Guarded (s.setStage id operation stage) := by
  refine h.of_sublist (List.Sublist.refl _) fun other hother => ?_
  rw [Connection.holds_setStage] at hother
  split_ifs at hother with heq
  · subst heq
    exact hstage hother
  · exact hother

/-- A request that is sent goes to the end of the line, which has no guard in it: the sender has
the only one. -/
theorem send (h : Guarded s) (hcall : s.calls id = some ⟨operation, .sending⟩) :
    Guarded { s.setStage id operation (if (Queued.mk id operation).guarded then .pending else .sent)
      with queue := s.queue ++ [⟨id, operation⟩] } := by
  have hholds : s.holds id := (Connection.holds_iff hcall).mpr rfl
  obtain ⟨hfree, hunique⟩ := h.calls id hholds
  have hline : ∀ calls, Connection.line { s with calls, queue := s.queue ++ [⟨id, operation⟩] } =
      s.line ++ [⟨id, operation⟩] := by
    intro calls
    simp [Connection.line]
  refine ⟨?_, fun holder hholder => ?_⟩
  · rw [Connection.setStage, hline, List.pairwise_append]
    refine ⟨h.line, List.pairwise_singleton _ _, fun queued hmem _ _ => hfree queued hmem⟩
  · have honly : ∀ call, (s.setStage id operation
        (if (Queued.mk id operation).guarded then .pending else .sent)).holds call →
          (Queued.mk id operation).guarded = false ∧ call = id := by
      intro call hcall
      rw [Connection.holds_setStage] at hcall
      split_ifs at hcall with heq hguarded
      · cases hcall
      · exact ⟨by simpa using hguarded, heq⟩
      · exact absurd (hunique call hcall) heq
    obtain ⟨hguarded, rfl⟩ := honly holder hholder
    refine ⟨fun queued hmem => ?_, fun other hother => (honly other hother).2⟩
    rw [Connection.setStage, hline, List.mem_append, List.mem_singleton] at hmem
    rcases hmem with hmem | rfl
    · exact hfree queued hmem
    · exact hguarded

theorem writer (h : Guarded s) (hstep : WriterStep pipelineDepth s next) : Guarded next := by
  refine h.of_sublist ?_ fun id => (Connection.holds_congr hstep.frame.calls id).mp
  rw [Connection.line_eq, Connection.line_eq, hstep.frame.reader]
  exact (List.Sublist.refl _).append hstep.flow.sublist

theorem reader (h : Guarded s) (hstep : ReaderStep readChunkBytes s next) : Guarded next := by
  refine h.of_sublist ?_ fun id => (Connection.holds_congr hstep.frame.calls id).mp
  unfold Connection.line
  rw [hstep.frame.writer, hstep.frame.queue]
  exact (hstep.tickets_sublist.append (List.Sublist.refl _)).append (List.Sublist.refl _)

theorem step (h : Guarded s) (hstep : Step pipelineDepth readChunkBytes s next) : Guarded next := by
  cases hstep with
  | start hid hhandle hpublic =>
    refine h.setStage fun hholds => ?_
    unfold Operation.firstStage at hholds
    split at hholds
    · split_ifs at hholds <;> cases hholds
    · cases hholds
  | call hcall hmove =>
    by_cases hfree : s.BarrierFree
    · exact h.lock hfree
    · refine h.setStage fun hholds => ?_
      rcases hmove.holds_or_lock hholds with hstage | hlock
      · exact (Connection.holds_iff hcall).mpr hstage
      · exact absurd hlock hfree
  | probe hcall hlist hchild => 
    exact (h.setStage fun hholds => by cases hholds).setStage fun hholds => by cases hholds
  | send hcall hwriter hroom => exact h.send hcall
  | dropHandle hover => exact ⟨h.line, h.calls⟩
  | writer hwriter => exact h.writer hwriter
  | reader hreader => exact h.reader hreader

end Guarded

variable {events : List ReadEvent} {spare : Nat → Nat}

theorem Reachable.guarded (h : Reachable pipelineDepth readChunkBytes events spare s) :
    Guarded s := by
  refine Transitions.Reachable.invariant ?_ (fun _ _ _ hs hstep => hs.step hstep) h
  rintro start rfl
  exact ⟨List.Pairwise.nil, fun id ⟨call, hcall, _⟩ => by cases hcall⟩

end NntpBench.Client
