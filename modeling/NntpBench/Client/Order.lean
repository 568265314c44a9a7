import Mathlib
import NntpBench.Client.Barrier

namespace NntpBench.Client

open Protocol

variable {id : Nat} {operation : Operation} {stage : Stage} {queued : Queued}

variable {pipelineDepth readChunkBytes : Nat} {s next : Connection}

/-- The stages of a call whose request may be in the connection. -/
def Stage.submitted : Stage → Bool
  | .sent | .pending | .finished _ | .dropped => true
  | _ => false

theorem CallStep.submitted {after : Stage} (h : CallStep s id operation stage after)
    (hstage : stage.submitted = true) :
    after.submitted = true := by
  cases h with
  | unlock => rfl
  | receive h => rfl
  | receiveClosed h hclosed => rfl
  | drop h => rfl
  | _ => cases hstage

def Connection.requests (s : Connection) : List Queued := s.written ++ s.unwritten

/-- A request is in the connection once, and it is the one its call has sent. -/
structure Owned (s : Connection) : Prop where
  nodup : (s.requests.map Queued.id).Nodup
  calls : ∀ queued ∈ s.requests, ∃ stage, s.calls queued.id = some ⟨queued.operation, stage⟩ ∧
    stage.submitted = true

namespace Owned

theorem of_sublist (h : Owned s) (hrequests : List.Sublist next.requests s.requests)
    (hcalls : next.calls = s.calls) : Owned next where
  nodup := h.nodup.sublist (hrequests.map _)
  calls queued hmem := by
    rw [hcalls]
    exact h.calls queued (hrequests.subset hmem)

theorem eq_of_id (h : Owned s) {left right : Queued} (hleft : left ∈ s.requests)
    (hright : right ∈ s.requests) (hid : left.id = right.id) : left = right :=
  List.inj_on_of_nodup_map h.nodup hleft hright hid

theorem not_unwritten (h : Owned s) {other : Queued} (hmem : queued ∈ s.written)
    (hother : other ∈ s.unwritten) : other.id ≠ queued.id := by
  have hnodup := h.nodup
  rw [Connection.requests, List.map_append, List.nodup_append] at hnodup
  intro heq
  exact hnodup.2.2 _ (List.mem_map_of_mem hmem) _ (List.mem_map_of_mem hother) heq.symm

theorem setStage (h : Owned s)
    (hstage : ∀ before, s.calls id = some before → before.stage.submitted = true →
      before.operation = operation ∧ stage.submitted = true) :
    Owned (s.setStage id operation stage) where
  nodup := h.nodup
  calls queued hmem := by
    obtain ⟨before, hcall, hsubmitted⟩ := h.calls queued hmem
    by_cases heq : queued.id = id
    · subst heq
      obtain ⟨hoperation, hnext⟩ := hstage _ hcall hsubmitted
      refine ⟨stage, ?_, hnext⟩
      rw [Connection.calls_setStage_self, ← hoperation]
    · exact ⟨before, by rw [Connection.calls_setStage_of_ne s heq, hcall], hsubmitted⟩

theorem send (h : Owned s) (hcall : s.calls id = some ⟨operation, .sending⟩)
    (hstage : stage.submitted = true) :
    Owned { s.setStage id operation stage with queue := s.queue ++ [⟨id, operation⟩] } := by
  have hrequests : Connection.requests
      { s.setStage id operation stage with queue := s.queue ++ [⟨id, operation⟩] } =
        s.requests ++ [⟨id, operation⟩] := by
    simp [Connection.requests, Connection.unwritten, Connection.written, Connection.setStage]
  -- The call has not submitted anything yet, so no request of the connection is its own.
  have hfresh : ∀ queued ∈ s.requests, queued.id ≠ id := by
    rintro queued hmem rfl
    obtain ⟨before, hbefore, hsubmitted⟩ := h.calls queued hmem
    rw [hcall, Option.some.injEq, Call.mk.injEq] at hbefore
    rw [← hbefore.2] at hsubmitted
    cases hsubmitted
  refine ⟨?_, fun queued hmem => ?_⟩
  · rw [hrequests, List.map_append, List.nodup_append]
    refine ⟨h.nodup, List.nodup_singleton _, fun left hleft right hright => ?_⟩
    obtain ⟨queued, hmem, rfl⟩ := List.mem_map.mp hleft
    rw [List.map_singleton, List.mem_singleton] at hright
    rw [hright]
    exact hfresh queued hmem
  · rw [hrequests, List.mem_append, List.mem_singleton] at hmem
    change ∃ after, (s.setStage id operation stage).calls queued.id = _ ∧ _
    rcases hmem with hmem | rfl
    · rw [Connection.calls_setStage_of_ne s (hfresh queued hmem)]
      exact h.calls queued hmem
    · exact ⟨stage, Connection.calls_setStage_self s _ _ _, hstage⟩

theorem requests_sublist (h : WriterFlow s next) :
    List.Sublist next.requests s.requests := by
  unfold Connection.requests
  cases h with
  | stays hinflight hwritten hunwritten hwire hbroken => rw [hwire, hunwritten]
  | writes queued hinflight hwritten hunwritten hwire hbroken => rw [hwire, hunwritten]; simp
  | registers queued hinflight hwritten hunwritten hwire hbroken => rw [hwire, hunwritten]
  | drops hinflight hwritten hunwritten hwire hbroken =>
    rw [hwire]
    exact (List.Sublist.refl _).append hunwritten

theorem step (h : Owned s) (hstep : Step pipelineDepth readChunkBytes s next) : Owned next := by
  cases hstep with
  | start hid hhandle hpublic =>
    refine h.setStage fun before hbefore _ => ?_
    rw [hid] at hbefore
    cases hbefore
  | call hcall hmove =>
    refine h.setStage fun before hbefore hsubmitted => ?_
    rw [hcall, Option.some.injEq] at hbefore
    subst hbefore
    exact ⟨rfl, hmove.submitted hsubmitted⟩
  | @probe id child operation hcall hlist hchild =>
    have hparent : Owned (s.setStage id operation (.probeCalling child)) := by
      refine h.setStage fun before hbefore hsubmitted => ?_
      rw [hcall, Option.some.injEq] at hbefore
      subst hbefore
      cases hsubmitted
    refine hparent.setStage fun before hbefore _ => ?_
    have hne : child ≠ id := by
      rintro rfl
      rw [hcall] at hchild
      cases hchild
    rw [Connection.calls_setStage_of_ne s hne, hchild] at hbefore
    cases hbefore
  | send hcall hwriter hroom =>
    refine h.send hcall ?_
    split_ifs <;> rfl
  | dropHandle hover => exact ⟨h.nodup, h.calls⟩
  | writer hwriter => exact h.of_sublist (requests_sublist hwriter.flow) hwriter.frame.calls
  | reader hreader =>
    refine h.of_sublist ?_ hreader.frame.calls
    unfold Connection.requests Connection.written Connection.unwritten
    rw [hreader.frame.wire, hreader.frame.writer, hreader.frame.queue]

end Owned

theorem ReaderState.opened_subset {reader : ReaderState}
    (h : queued ∈ reader.opened) : queued ∈ reader.tickets := by
  cases reader with
  | failing failed error stage => cases stage <;> simp_all [opened, tickets, active]
  | _ => first | exact h | cases h

/-- The commands on the wire, in order: those the reader has handled, the one it works on, those
in the in-flight channel, and those the writer has not handed on. A reader that gave up leaves
requests out, and so does a writer that left its loop. -/
structure Ordered (s : Connection) : Prop where
  order : ∃ skipped lost, s.written = s.handled.map Exchange.queued ++ s.reader.unhandled ++
    skipped ++ s.inflight ++ s.writer.written ++ lost ∧
    (s.reader.broken = false → skipped = []) ∧ (s.writer.broken = false → lost = [])
  tickets : ∀ queued ∈ s.reader.tickets ++ s.inflight ++ s.writer.written, queued ∈ s.written

namespace Ordered

theorem writer (h : Ordered s) (hstep : WriterStep pipelineDepth s next) : Ordered next := by
  obtain ⟨skipped, lost, horder, hskipped, hlost⟩ := h.order
  have hframe := hstep.frame
  cases hstep.flow with
  | stays hinflight hwritten hunwritten hwire hbroken =>
    refine ⟨⟨skipped, lost, ?_, ?_, ?_⟩, ?_⟩
    · rw [hwire, hframe.handled, hframe.reader, hinflight, hwritten, horder]
    · rw [hframe.reader]
      exact hskipped
    · intro hnext
      apply hlost
      by_contra hs
      rw [hbroken (by simpa using hs)] at hnext
      cases hnext
    · rw [hframe.reader, hinflight, hwritten, hwire]
      exact h.tickets
  | writes queued hinflight hwritten hunwritten hwire hbroken =>
    refine ⟨⟨skipped, [], ?_, ?_, fun _ => rfl⟩, ?_⟩
    · rw [hwire, hframe.handled, hframe.reader, hinflight, hwritten, horder, hlost hbroken]
      simp
    · rw [hframe.reader]
      exact hskipped
    · rw [hframe.reader, hinflight, hwritten, hwire]
      intro other hmem
      have htickets := h.tickets other
      simp only [List.mem_append, List.mem_singleton] at hmem htickets ⊢
      tauto
  | registers queued hinflight hwritten hunwritten hwire hbroken =>
    refine ⟨⟨skipped, [], ?_, ?_, fun _ => rfl⟩, ?_⟩
    · rw [hwire, hframe.handled, hframe.reader, hinflight, horder, hwritten, hlost hbroken]
      simp
    · rw [hframe.reader]
      exact hskipped
    · rw [hframe.reader, hinflight, hwire]
      intro other hmem
      have htickets := h.tickets other
      rw [hwritten] at htickets
      simp only [List.mem_append, List.mem_cons] at hmem htickets
      tauto
  | drops hinflight hwritten hunwritten hwire hbroken =>
    refine ⟨⟨skipped, s.writer.written ++ lost, ?_, ?_, ?_⟩, ?_⟩
    · rw [hwire, hframe.handled, hframe.reader, hinflight, hwritten, horder]
      simp
    · rw [hframe.reader]
      exact hskipped
    · rw [hbroken]
      exact nofun
    · rw [hframe.reader, hinflight, hwritten, hwire, List.append_nil]
      exact fun other hmem => h.tickets other (List.mem_append_left _ hmem)

theorem reader (h : Ordered s) (hstep : ReaderStep readChunkBytes s next) : Ordered next := by
  obtain ⟨skipped, lost, horder, hskipped, hlost⟩ := h.order
  have hwritten : next.written = s.written := by
    unfold Connection.written
    rw [hstep.frame.wire]
  refine ⟨?_, fun queued hmem => ?_⟩
  · rw [hwritten, hstep.frame.writer, horder]
    cases hstep.flow with
    | advances hbroken hnext hmoved =>
      refine ⟨[], lost, ?_, fun _ => rfl, hlost⟩
      rw [hskipped hbroken, List.append_nil, List.append_nil, hmoved]
    | drops dropped hnext hhandled hmoved =>
      -- What the reader gives up joins what it gave up before.
      have hbehind : s.reader.unhandled ++ skipped ++ s.inflight =
          (skipped ++ dropped) ++ next.inflight := by
        cases hbroken : s.reader.broken with
        | false => rw [hskipped hbroken, List.append_nil, hmoved, List.nil_append]
        | true =>
          rw [ReaderState.unhandled_of_broken hbroken, List.nil_append] at hmoved ⊢
          rw [hmoved, List.append_assoc]
      refine ⟨skipped ++ dropped, lost, ?_, ?_, hlost⟩
      · rw [hhandled, ReaderState.unhandled_of_broken hnext, List.append_nil,
          List.append_assoc (List.map _ _) (skipped ++ dropped), ← hbehind]
        simp
      · rw [hnext]
        exact nofun
  · rw [hwritten]
    apply h.tickets
    rw [hstep.frame.writer, List.mem_append] at hmem
    rw [List.mem_append]
    exact hmem.imp_left fun hmem => hstep.tickets_sublist.subset hmem

theorem step (h : Ordered s) (hstep : Step pipelineDepth readChunkBytes s next) : Ordered next :=
  hstep.by_task (fun _ _ _ _ _ => ⟨h.order, h.tickets⟩) h.writer h.reader

/-- While the writer is in its loop, an open response channel of a written request is with the
reader, in the in-flight channel or among the writer's written requests. -/
theorem written_of_opened (h : Ordered s) (howned : Owned s) (hmem : queued ∈ s.written)
    (hopen : s.Open queued.id) :
    queued ∈ s.reader.opened ++ s.inflight ++ s.writer.written := by
  obtain ⟨other, hother, hid⟩ := hopen
  have hsplit : s.opened = s.reader.opened ++ s.inflight ++ s.writer.written ++ s.unwritten := by
    simp [Connection.opened, WriterState.tickets, Connection.unwritten]
  rw [hsplit, List.mem_append] at hother
  rcases hother with hother | hother
  · have htickets : other ∈ s.reader.tickets ++ s.inflight ++ s.writer.written := by
      simp only [List.mem_append] at hother ⊢
      exact hother.imp_left (Or.imp_left fun hmem => ReaderState.opened_subset hmem)
    have hrequest := List.mem_append_left s.unwritten (h.tickets other htickets)
    rw [← howned.eq_of_id hrequest (List.mem_append_left _ hmem) hid]
    exact hother
  · exact absurd hid (howned.not_unwritten hmem hother)

end Ordered

/-- Whether the writer has counted a request that the in-flight channel has not taken yet. -/
def WriterState.counting : WriterState → Nat
  | .sending _ _ _ => 1
  | _ => 0

theorem WriterState.counting_start (first : Queued) : (start first).counting = 0 := by
  unfold start
  split_ifs <;> rfl

theorem WriterState.counting_writeNext (written todo : List Queued) (held : Option Queued) :
    (writeNext written todo held).counting = 0 := by
  cases todo <;> rfl

/-- The counter is never below the requests that the reader has to finish. -/
def Counted (s : Connection) : Prop :=
  s.reader.counted.length + s.inflight.length + s.writer.counting ≤ s.count

theorem Counted.writer (h : Counted s) (hstep : WriterStep pipelineDepth s next) :
    Counted next := by
  unfold Counted at h ⊢
  cases hstep
  case recv hs hqueue =>
    rw [hs] at h
    rw [WriterState.counting_start]
    exact h
  case takeHeld hs =>
    rw [hs] at h
    rw [WriterState.counting_start]
    exact h
  case hold hs hqueue hlength halone =>
    rw [hs] at h
    rw [WriterState.counting_writeNext]
    exact h
  case collected hs hdone =>
    rw [hs] at h
    rw [WriterState.counting_writeNext]
    exact h
  case wrote hs hsent =>
    rw [hs] at h
    rw [WriterState.counting_writeNext]
    exact h
  case inflight hs hreader hroom =>
    rw [hs] at h
    simp only [WriterState.counting, List.length_append, List.length_singleton] at h ⊢
    split_ifs <;> dsimp only <;> omega
  case inflightClosed hs hreader =>
    rw [hs] at h
    simp only [WriterState.counting] at h ⊢
    omega
  all_goals
    simp only [WriterState.counting, *] at h ⊢
    omega

theorem Counted.reader (h : Counted s) (hstep : ReaderStep readChunkBytes s next) :
    Counted next := by
  unfold Counted at h ⊢
  cases hstep
  case received queued response receiver rounds hs hreceive =>
    rw [hs] at h
    dsimp only
    split_ifs <;> exact h
  case decide queued first hs =>
    rw [hs] at h
    dsimp only
    split_ifs <;> exact h
  case store exchange hs =>
    rw [hs] at h
    rw [ReaderState.counted_stored]
    exact h
  case receiveFailed queued error receiver rounds hs hreceive =>
    rcases hs with hs | ⟨first, hs⟩ <;> rw [hs] at h <;> exact h
  case aborted =>
    simp only [ReaderState.counted, ReaderState.active, List.length_nil]
    omega
  all_goals
    simp only [ReaderState.counted, ReaderState.active, List.length_nil, List.length_cons, *] at h ⊢
    omega

theorem Counted.step (h : Counted s) (hstep : Step pipelineDepth readChunkBytes s next) :
    Counted next :=
  hstep.by_task (fun _ _ _ _ _ => h) h.writer h.reader

theorem ReaderState.opened_eq_nil_of_counted {reader : ReaderState} (h : reader.counted = []) :
    reader.opened = [] := by
  cases reader with
  | failing failed error stage => cases stage <;> first | rfl | cases h
  | _ => first | rfl | cases h

theorem Counted.idle (h : Counted s) (hidle : s.count = 0) :
    s.reader.opened = [] ∧ s.inflight = [] := by
  unfold Counted at h
  refine ⟨ReaderState.opened_eq_nil_of_counted ?_, ?_⟩
  · exact List.length_eq_zero_iff.mp (by omega)
  · exact List.length_eq_zero_iff.mp (by omega)

variable {events : List ReadEvent} {spare : Nat → Nat}

theorem Reachable.owned (h : Reachable pipelineDepth readChunkBytes events spare s) : Owned s := by
  refine Transitions.Reachable.invariant ?_ (fun _ _ _ hs hstep => hs.step hstep) h
  rintro start rfl
  exact ⟨List.nodup_nil, nofun⟩

theorem Reachable.ordered (h : Reachable pipelineDepth readChunkBytes events spare s) :
    Ordered s := by
  refine Transitions.Reachable.invariant ?_ (fun _ _ _ hs hstep => hs.step hstep) h
  rintro start rfl
  exact ⟨⟨[], [], rfl, fun _ => rfl, fun _ => rfl⟩, nofun⟩

theorem Reachable.counted (h : Reachable pipelineDepth readChunkBytes events spare s) :
    Counted s := by
  refine Transitions.Reachable.invariant ?_ (fun _ _ _ hs hstep => hs.step hstep) h
  rintro start rfl
  exact Nat.le_refl 0

end NntpBench.Client
