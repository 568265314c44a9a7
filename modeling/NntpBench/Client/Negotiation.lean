import NntpBench.Client.Pipelining
import NntpBench.Client.Progress

namespace NntpBench.Client

open Protocol

variable {operation : Operation} {exchange : Exchange} {id : Nat} {stage : Stage}

variable {pipelineDepth readChunkBytes : Nat} {s next : Connection}

namespace Exchange

def stores (self : Exchange) : Option CapabilityList :=
  if self.queued.kind = .capabilities ∧ self.response.status.code = 101 then
    CapabilityList.parse (self.response.content.getD [])
  else none

def clears (self : Exchange) : Bool :=
  responseInvalidatesCapabilities self.queued.kind self.response.status

end Exchange

theorem Operation.invalidate_eq (operation : Operation) :
    operation.invalidateCapabilitiesOnSuccess = requestKindInvalidatesCapabilities
      operation.kind := by
  cases operation <;> rfl

theorem Operation.kind_of_mark
    (h : operation.markCapabilitiesOnSuccess = true) : operation.kind = .capabilities := by
  cases operation with
  | queueRequest request => exact of_decide_eq_true h
  | queueRequestExchange request => exact of_decide_eq_true h
  | _ => cases h

theorem clears_eq (exchange : Exchange) :
    (exchange.queued.operation.invalidateCapabilitiesOnSuccess &&
      responseInvalidatesCapabilities exchange.queued.kind exchange.response.status) =
        exchange.clears := by
  rw [Operation.invalidate_eq]
  unfold Exchange.clears responseInvalidatesCapabilities Queued.kind
  cases requestKindInvalidatesCapabilities exchange.queued.operation.kind <;> simp

theorem clears_of_capabilities (h : exchange.queued.kind = .capabilities) :
    exchange.clears = false := by
  unfold Exchange.clears
  rw [h]
  rfl

theorem transition_snd (exchange : Exchange) (list : Option CapabilityList) :
    (exchange.transition list).2 = if exchange.clears then none else exchange.stores.or list := by
  unfold Exchange.transition storeCapabilityTransition Exchange.stores
  rw [clears_eq]
  by_cases hlist : exchange.queued.kind = .capabilities ∧ exchange.response.status.code = 101
  · rw [if_pos hlist, if_pos hlist, clears_of_capabilities hlist.1]
    cases CapabilityList.parse (exchange.response.content.getD []) <;> rfl
  · rw [if_neg hlist, if_neg hlist]
    cases hmark : exchange.queued.operation.markCapabilitiesOnSuccess with
    | true => simp [clears_of_capabilities (Operation.kind_of_mark hmark)]
    | false => simp

/-- The list after some exchanges is that of the last one that stored a list, and none after it
cleared it. -/
theorem exists_stores_of_foldl {exchanges : List Exchange} {list : CapabilityList}
    (h : exchanges.foldl (fun list exchange => (exchange.transition list).2) none = some list) :
    ∃ before exchange after, exchanges = before ++ exchange :: after ∧
      exchange.stores = some list ∧ ∀ later ∈ after, later.clears = false := by
  induction exchanges using List.reverseRecOn with
  | nil => cases h
  | append_singleton earlier last ih =>
    rw [List.foldl_append, List.foldl_cons, List.foldl_nil, transition_snd] at h
    split_ifs at h with hclears
    cases hstores : last.stores with
    | some stored =>
      rw [hstores, Option.some_or, Option.some.injEq] at h
      exact ⟨earlier, last, [], rfl, by rw [hstores, h], fun later hmem => by cases hmem⟩
    | none =>
      rw [hstores, Option.none_or] at h
      obtain ⟨before, exchange, after, rfl, hexchange, hafter⟩ := ih h
      refine ⟨before, exchange, after ++ [last], by simp, hexchange, fun later hmem => ?_⟩
      rcases List.mem_append.mp hmem with hmem | hmem
      · exact hafter later hmem
      · rw [List.mem_singleton.mp hmem]
        simpa using hclears

theorem guarded_of_clears (h : exchange.clears = true) :
    exchange.queued.guarded = true := by
  unfold Exchange.clears responseInvalidatesCapabilities at h
  unfold Queued.guarded
  cases hkind : exchange.queued.kind <;> rw [hkind] at h <;> first | rfl | cases h

def Queued.requires (self : Queued) : Bool := requestKindRequiresCapabilities self.kind

theorem requires_of_article {queued : Queued} (h : queued.article.isSome = true) :
    queued.requires = true := by
  unfold Queued.requires
  rcases Queued.kind_of_article h with hkind | hkind <;> rw [hkind] <;> rfl

structure Negotiated (s : Connection) : Prop where
  list : s.capabilityList =
    s.handled.foldl (fun list exchange => (exchange.transition list).2) none
  queued : ∀ queued ∈ s.inflight ++ s.writer.written ++ s.unwritten, queued.requires = true →
    s.capabilityList.isSome = true
  continuing : ∀ current, s.writer.continuing = some current → s.capabilityList.isSome = true
  calls : ∀ id operation, s.calls id = some ⟨operation, .sending⟩ →
    (Queued.mk id operation).requires = true → s.capabilityList.isSome = true

namespace Negotiated

theorem setStage (h : Negotiated s)
    (hstage : stage = .sending → (Queued.mk id operation).requires = true →
      s.capabilityList.isSome = true) :
    Negotiated (s.setStage id operation stage) where
  list := h.list
  queued := h.queued
  continuing := h.continuing
  calls other call hcall := by
    by_cases heq : other = id
    · subst heq
      rw [Connection.calls_setStage_self, Option.some.injEq, Call.mk.injEq] at hcall
      obtain ⟨rfl, hsending⟩ := hcall
      exact hstage hsending
    · rw [Connection.calls_setStage_of_ne s heq] at hcall
      exact h.calls other call hcall

/-- A call gets to the request channel past a look at the list, or because its request needs no
list. -/
theorem list_of_sending {after : Stage} (h : CallStep s id operation stage after)
    (hafter : after = .sending)
    (hrequires : (Queued.mk id operation).requires = true) : s.capabilityList.isSome = true := by
  cases h with
  | recheck h => exact h
  | accept h =>
    have hrechecks : operation.rechecks = true := by
      cases operation with
      | probe => cases hrequires
      | _ => rfl
    have hkind : requestKindRequiresCapabilities operation.kind = true := hrequires
    rw [hrechecks, hkind] at hafter
    cases hafter
  | probed h => split_ifs at hafter
  | _ => cases hafter

theorem writer (h : Negotiated s) (halone : Alone next) (hstep : WriterStep pipelineDepth s next) :
    Negotiated next := by
  have hframe := hstep.frame
  refine ⟨?_, fun queued hmem => ?_, fun current hcurrent => ?_, ?_⟩
  · rw [hframe.capabilityList, hframe.handled]
    exact h.list
  · rw [hframe.capabilityList]
    exact h.queued queued (hstep.flow.sublist.subset hmem)
  · rw [hframe.capabilityList]
    rcases hstep.continuing_or_sending hcurrent with hbefore | hsending
    · exact h.continuing current hbefore
    · apply h.queued current
      · simp [hsending]
      · exact requires_of_article (halone.continuing current hcurrent).2.1
  · rw [hframe.calls, hframe.capabilityList]
    exact h.calls

theorem of_unchanged (h : Negotiated s) (hstep : ReaderStep readChunkBytes s next)
    (hlist : next.capabilityList = s.capabilityList) (hhandled : next.handled = s.handled)
    (hinflight : List.Sublist next.inflight s.inflight) : Negotiated next := by
  have hframe := hstep.frame
  refine ⟨?_, ?_, ?_, ?_⟩
  · rw [hlist, hhandled]
    exact h.list
  · unfold Connection.unwritten
    rw [hlist, hframe.writer, hframe.queue]
    intro queued hmem
    apply h.queued queued
    have hsublist := (hinflight.append (List.Sublist.refl s.writer.written)).append
      (List.Sublist.refl (s.writer.unwritten ++ s.queue))
    exact hsublist.subset hmem
  · rw [hlist, hframe.writer]
    exact h.continuing
  · rw [hlist, hframe.calls]
    exact h.calls

/-- The exchange that clears the list holds the barrier: nothing that needs the list is behind
it. -/
theorem store (h : Negotiated s) (hguarded : Guarded s) (halone : Alone s)
    (hs : s.reader = .storing exchange) :
    Negotiated { s with capabilityList := (exchange.transition s.capabilityList).2
                        handled := s.handled ++ [exchange]
                        reader := .stored exchange (exchange.transition s.capabilityList).1 } := by
  have hline : s.line = [] ++ exchange.queued ::
      (s.inflight ++ s.writer.written ++ s.unwritten) := by
    simp [Connection.line_eq, hs, ReaderState.tickets, ReaderState.active]
  have hlist : exchange.clears = false → s.capabilityList.isSome = true →
      (exchange.transition s.capabilityList).2.isSome = true := by
    intro hclears hsome
    rw [transition_snd, hclears]
    simp [hsome]
  have hfold : (exchange.transition s.capabilityList).2 =
      (s.handled ++ [exchange]).foldl (fun list exchange => (exchange.transition list).2) none := by
    rw [List.foldl_append, ← h.list]
    rfl
  cases hclears : exchange.clears with
  | false =>
    exact ⟨hfold, fun queued hmem hrequires => hlist hclears (h.queued queued hmem hrequires),
      fun current hcurrent => hlist hclears (h.continuing current hcurrent),
      fun id operation hcall hrequires => hlist hclears (h.calls id operation hcall hrequires)⟩
  | true =>
    have hguard := guarded_of_clears hclears
    have hbehind := hguarded.nothing_behind hline hguard
    refine ⟨hfold, fun queued hmem => ?_, fun current hcurrent => ?_, fun id operation hcall => ?_⟩
    · have hnone : queued ∈ s.inflight ++ s.writer.written ++ s.unwritten := hmem
      rw [hbehind] at hnone
      cases hnone
    · obtain ⟨-, harticle, honly⟩ := halone.continuing current hcurrent
      have heq := honly exchange.queued (by simp [hs, ReaderState.opened, ReaderState.active])
      -- POST and IHAVE do not clear the list.
      unfold Exchange.clears at hclears
      rw [heq] at hclears
      rcases Queued.kind_of_article harticle with hkind | hkind <;> rw [hkind] at hclears <;>
        cases hclears
    · have hholds : s.holds id := (Connection.holds_iff hcall).mpr rfl
      refine absurd hholds (hguarded.no_holder ?_ hguard id)
      rw [hline]
      exact List.mem_cons_self

theorem reader (h : Negotiated s) (hguarded : Guarded s) (halone : Alone s)
    (hstep : ReaderStep readChunkBytes s next) : Negotiated next := by
  have hsame := h.of_unchanged hstep
  cases hstep
  case store exchange hs => exact h.store hguarded halone hs
  case recv hs hinflight => exact hsame rfl rfl (by simp [hinflight])
  case failDrain hs hinflight => exact hsame rfl rfl (by simp [hinflight])
  case failLeave => exact hsame rfl rfl (List.nil_sublist _)
  case aborted => exact hsame rfl rfl (List.nil_sublist _)
  all_goals exact hsame rfl rfl (List.Sublist.refl _)

theorem send (h : Negotiated s) (hcall : s.calls id = some ⟨operation, .sending⟩)
    (hstage : stage ≠ .sending) :
    Negotiated { s.setStage id operation stage with queue := s.queue ++ [⟨id, operation⟩] } := by
  have hset : Negotiated (s.setStage id operation stage) :=
    h.setStage fun hsending => absurd hsending hstage
  refine ⟨hset.list, fun queued hmem hrequires => ?_, hset.continuing, hset.calls⟩
  have hmem : queued ∈ (s.inflight ++ s.writer.written ++ s.unwritten) ++ [⟨id, operation⟩] := by
    simpa [Connection.unwritten, Connection.setStage] using hmem
  rcases List.mem_append.mp hmem with hmem | hmem
  · exact h.queued queued hmem hrequires
  · rw [List.mem_singleton.mp hmem] at hrequires
    exact h.calls id operation hcall hrequires

theorem step (h : Negotiated s) (hguarded : Guarded s) (halone : Alone s) (hnext : Alone next)
    (hstep : Step pipelineDepth readChunkBytes s next) : Negotiated next := by
  cases hstep with
  | start hid hhandle hpublic =>
    refine h.setStage fun hsending => ?_
    unfold Operation.firstStage at hsending
    split at hsending
    · split_ifs at hsending
    · cases hsending
  | call hcall hmove => exact h.setStage fun hsending => list_of_sending hmove hsending
  | probe hcall hlist hchild =>
    exact (h.setStage fun hsending => by cases hsending).setStage fun hsending => by cases hsending
  | send hcall hwriter hroom =>
    refine h.send hcall ?_
    split_ifs <;> simp
  | dropHandle hover => exact ⟨h.list, h.queued, h.continuing, h.calls⟩
  | writer hwriter => exact h.writer hnext hwriter
  | reader hreader => exact h.reader hguarded halone hreader

end Negotiated

theorem Reachable.negotiated {events : List ReadEvent} {spare : Nat → Nat}
    (h : Reachable pipelineDepth readChunkBytes events spare s) : Negotiated s := by
  refine Transitions.Reachable.invariant ?_ (fun s next hs hnegotiated hstep => ?_) h
  · rintro start rfl
    refine ⟨rfl, fun queued hmem => ?_, fun current hcurrent => ?_, fun id operation hcall => ?_⟩
    · cases hmem
    · cases hcurrent
    · cases hcall
  · exact hnegotiated.step (Reachable.guarded hs) (Reachable.alone hs)
      (Reachable.alone (hs.tail hstep)) hstep

/-- For every interleaving: when a request that needs the capability list is written, the list is
that of an earlier 101 response to CAPABILITIES, and no response handled after it cleared it. -/
theorem capability_list_known_when_written (pipelineDepth readChunkBytes : Nat)
    (events : List ReadEvent) (spare : Nat → Nat) (s next : Connection) (queued : Queued)
    (h : Reachable pipelineDepth readChunkBytes events spare s)
    (hstep : Step pipelineDepth readChunkBytes s next)
    (hwrites : next.bytesOf queued ≠ s.bytesOf queued)
    (hrequires : requestKindRequiresCapabilities queued.kind = true) :
    ∃ list before exchange after, s.capabilityList = some list ∧
      s.handled = before ++ exchange :: after ∧ exchange.queued.kind = .capabilities ∧
      exchange.response.status.code = 101 ∧
      CapabilityList.parse (exchange.response.content.getD []) = some list ∧
      ∀ later ∈ after,
        responseInvalidatesCapabilities later.queued.kind later.response.status = false := by
  have hnegotiated := h.negotiated
  obtain ⟨piece, hpiece, rfl⟩ := h.wired.current_of_bytesOf_ne hstep hwrites
  have hsome : s.capabilityList.isSome = true := by
    cases hs : s.writer with
    | writing written current todo held =>
      rw [hs] at hpiece
      obtain rfl : Piece.command current = piece := Option.some.inj hpiece
      refine hnegotiated.queued current ?_ hrequires
      simp [Connection.unwritten, hs, WriterState.unwritten]
    | posting current pending held => exact hnegotiated.continuing current (by rw [hs]; rfl)
    | _ =>
      rw [hs] at hpiece
      cases hpiece
  obtain ⟨list, hlist⟩ := Option.isSome_iff_exists.mp hsome
  obtain ⟨before, exchange, after, hhandled, hstores, hafter⟩ :=
    exists_stores_of_foldl (hnegotiated.list.symm.trans hlist)
  unfold Exchange.stores at hstores
  split_ifs at hstores with hcapabilities
  exact ⟨list, before, exchange, after, hlist, hhandled, hcapabilities.1, hcapabilities.2, hstores,
    hafter⟩

/-- The article is written with the list of the response before it. -/
theorem capability_list_known_when_posting_written :
    ∃ s next, Reachable 1 64 postingServer (fun _ => 4096) s ∧ Step 1 64 s next ∧
      next.bytesOf posting ≠ s.bytesOf posting ∧ s.capabilityList.isSome = true := by
  obtain ⟨s, next, hreachable, hstep, hwrites, -⟩ := postingServer_writes_posting
  obtain ⟨list, -, -, -, hlist, -⟩ := capability_list_known_when_written 1 64 postingServer
    (fun _ => 4096) s next posting hreachable hstep hwrites (by decide)
  exact ⟨s, next, hreachable, hstep, hwrites, Option.isSome_iff_exists.mpr ⟨list, hlist⟩⟩

end NntpBench.Client
