import NntpBench.Client.Frames
import NntpBench.Client.Pipelining
import NntpBench.Client.Progress

namespace NntpBench.Client

open Protocol

variable {exchange : Exchange} {stream rest : Bytes} {id : Nat} {operation : Operation}
  {stage : Stage}

variable {pipelineDepth readChunkBytes : Nat} {s next : Connection}

/-- The last frame of the responses to one request, and what follows it. -/
def takeFinalFrame (queued : Queued) (stream : Bytes) : Option (FramedResponse × Bytes) :=
  match takeFrame queued.kind stream with
  | none => none
  | some (first, rest) =>
    if queued.article.isSome && queued.proceeds first.status then takeFrame queued.kind rest
    else some (first, rest)

/-- The stream split into the final frames of some requests, as far as it goes. -/
def finalFrames : List Queued → Bytes → List FramedResponse
  | [], _ => []
  | queued :: rest, stream =>
    match takeFinalFrame queued stream with
    | none => []
    | some (framed, stream) => framed :: finalFrames rest stream

/-- The responses of an exchange are the next frames of the stream. -/
def Exchange.Fits (self : Exchange) (stream rest : Bytes) : Prop :=
  match self.second with
  | none => (self.queued.article.isSome && self.queued.proceeds self.first.status) = false ∧
      Takes self.queued.kind stream self.first rest
  | some second => (self.queued.article.isSome && self.queued.proceeds self.first.status) = true ∧
      ∃ middle, Takes self.queued.kind stream self.first middle ∧
        Takes self.queued.kind middle second rest

def Splits : List Exchange → Bytes → Bytes → Prop
  | [], stream, rest => rest = stream
  | exchange :: later, stream, rest => ∃ middle, exchange.Fits stream middle ∧
      Splits later middle rest

theorem Splits.snoc {exchanges : List Exchange} {middle : Bytes}
    (h : Splits exchanges stream middle) (hfits : exchange.Fits middle rest) :
    Splits (exchanges ++ [exchange]) stream rest := by
  induction exchanges generalizing stream with
  | nil =>
    obtain rfl : middle = stream := h
    exact ⟨rest, hfits, rfl⟩
  | cons first later ih =>
    obtain ⟨between, hfirst, hlater⟩ := h
    exact ⟨between, hfirst, ih hlater⟩

theorem Exchange.Fits.takeFinalFrame (h : exchange.Fits stream rest) :
    ∃ framed, takeFinalFrame exchange.queued stream = some (framed, rest) ∧
      framed.intoOwnedResponse = .ok exchange.response := by
  unfold Fits at h
  unfold Client.takeFinalFrame Exchange.response
  cases hsecond : exchange.second with
  | none =>
    simp only [hsecond] at h
    obtain ⟨hproceeds, first, hframe, howned⟩ := h
    rw [(FramedResponse.of_intoOwnedResponse howned).2] at hproceeds
    simp only [hframe, hproceeds]
    exact ⟨first, rfl, howned⟩
  | some second =>
    simp only [hsecond] at h
    obtain ⟨hproceeds, middle, ⟨first, hframe, howned⟩, last, hlast, hownedLast⟩ := h
    rw [(FramedResponse.of_intoOwnedResponse howned).2] at hproceeds
    simp only [hframe, hproceeds]
    exact ⟨last, hlast, hownedLast⟩

theorem Splits.getElem? {exchanges : List Exchange} (h : Splits exchanges stream rest)
    (later : List Queued) {i : Nat} (hi : exchanges[i]? = some exchange) :
    ∃ framed, (finalFrames (exchanges.map Exchange.queued ++ later) stream)[i]? = some framed ∧
      framed.intoOwnedResponse = .ok exchange.response := by
  induction exchanges generalizing stream i with
  | nil => cases hi
  | cons first others ih =>
    obtain ⟨middle, hfits, hothers⟩ := h
    obtain ⟨framed, htake, howned⟩ := hfits.takeFinalFrame
    rw [List.map_cons, List.cons_append, finalFrames, htake]
    cases i with
    | zero =>
      obtain rfl : first = exchange := by simpa using hi
      exact ⟨framed, rfl, howned⟩
    | succ i => exact ih hothers (by simpa using hi)

/-- What the reader has taken from the stream since the last handled exchange, which ended at
`stream`. -/
def Positioned (stream remaining : Bytes) : ReaderState → Prop
  | .deciding queued first => queued.article.isSome = true ∧
      Takes queued.kind stream first remaining
  | .finishing queued first =>
    (queued.article.isSome && queued.proceeds first.status) = true ∧
      Takes queued.kind stream first remaining
  | .storing exchange => exchange.Fits stream remaining
  | .failing _ _ _ => True
  | .stopped => True
  | _ => remaining = stream

def Matched (stream : Bytes) (s : Connection) : Prop :=
  ∃ middle, Splits s.handled stream middle ∧ Positioned middle s.receiver.remaining s.reader

theorem Matched.reader (h : Matched stream s)
    (hstep : ReaderStep readChunkBytes s next) : Matched stream next := by
  obtain ⟨middle, hsplits, hposition⟩ := h
  cases hstep
  case received queued response receiver rounds hs hreceive =>
    have htakes := BufferedResponseReceiver.takes_of_receiveFor hreceive
    rw [hs] at hposition
    have hstart : s.receiver.remaining = middle := hposition
    rw [hstart] at htakes
    refine ⟨middle, hsplits, ?_⟩
    dsimp only
    split_ifs with harticle
    · exact ⟨harticle, htakes⟩
    · exact ⟨by simp [harticle], htakes⟩
  case decide queued first hs =>
    rw [hs] at hposition
    obtain ⟨harticle, htakes⟩ := hposition
    refine ⟨middle, hsplits, ?_⟩
    dsimp only
    split_ifs with hproceeds
    · exact ⟨by simp [harticle, hproceeds], htakes⟩
    · exact ⟨by simp [hproceeds], htakes⟩
  case finished queued first response receiver rounds hs hreceive =>
    have hlast := BufferedResponseReceiver.takes_of_receiveFor hreceive
    rw [hs] at hposition
    obtain ⟨hproceeds, htakes⟩ := hposition
    exact ⟨middle, hsplits, hproceeds, _, htakes, hlast⟩
  case store exchange hs =>
    rw [hs] at hposition
    refine ⟨_, hsplits.snoc hposition, ?_⟩
    cases (exchange.transition s.capabilityList).1 <;> exact rfl
  case failDrain queued waiting error rest hs hinflight =>
    rw [hs] at hposition
    refine ⟨middle, hsplits, ?_⟩
    rw [hs]
    trivial
  case recv hs hinflight =>
    rw [hs] at hposition
    exact ⟨middle, hsplits, hposition⟩
  case close hs =>
    rw [hs] at hposition
    exact ⟨middle, hsplits, hposition⟩
  case deliver hs =>
    rw [hs] at hposition
    exact ⟨middle, hsplits, hposition⟩
  case release hs =>
    rw [hs] at hposition
    exact ⟨middle, hsplits, hposition⟩
  case ended hs =>
    rw [hs] at hposition
    exact ⟨middle, hsplits, hposition⟩
  all_goals exact ⟨middle, hsplits, trivial⟩

theorem Matched.step (h : Matched stream s)
    (hstep : Step pipelineDepth readChunkBytes s next) : Matched stream next := by
  refine hstep.by_task (fun _ _ _ _ _ => h) (fun hwriter => ?_) h.reader
  unfold Matched
  rw [hwriter.frame.handled, hwriter.frame.receiver, hwriter.frame.reader]
  exact h

/-- A call that returned a response returned what the reader delivered for its request. -/
def Finished (s : Connection) : Prop :=
  ∀ id operation completed, s.calls id = some ⟨operation, .finished (.ok completed)⟩ →
    Completes s id completed

theorem CallStep.completed {after : Stage} {completed : CompletedRequest}
    (h : CallStep s id operation stage after)
    (hafter : after = .finished (.ok completed)) : s.responses id = some (.ok completed) := by
  cases h with
  | @receive result h =>
    rw [h]
    cases result with
    | ok delivered =>
      simp only [Except.mapError, Stage.finished.injEq, Except.ok.injEq] at hafter
      rw [hafter]
    | error error => simp [Except.mapError] at hafter
  | accept h => split_ifs at hafter
  | probed h =>
    split_ifs at hafter
    simp at hafter
  | _ => simp at hafter

theorem handled_subset (hstep : Step pipelineDepth readChunkBytes s next) :
    s.handled ⊆ next.handled := by
  refine Step.by_task (motive := fun next => s.handled ⊆ next.handled) hstep
    (fun _ _ _ _ _ => List.Subset.refl _) (fun hwriter => ?_) fun hreader => ?_
  · rw [hwriter.frame.handled]
    exact List.Subset.refl _
  · cases hreader
    case store => exact List.subset_append_left ..
    all_goals exact List.Subset.refl _

theorem Completes.step {completed : CompletedRequest} (h : Completes s id completed)
    (hstep : Step pipelineDepth readChunkBytes s next) : Completes next id completed := by
  refine h.mono (handled_subset hstep) fun hclosed => closed_step hclosed hstep

theorem calls_setStage_cases {other : Nat} {call : Call}
    (h : (s.setStage id operation stage).calls other = some call) :
    (other = id ∧ call = ⟨operation, stage⟩) ∨ s.calls other = some call := by
  by_cases heq : other = id
  · subst heq
    rw [Connection.calls_setStage_self, Option.some.injEq] at h
    exact .inl ⟨rfl, h.symm⟩
  · rw [Connection.calls_setStage_of_ne s heq] at h
    exact .inr h

theorem finished_or_received (hstep : Step pipelineDepth readChunkBytes s next)
    {completed : CompletedRequest}
    (h : next.calls id = some ⟨operation, .finished (.ok completed)⟩) :
    s.calls id = some ⟨operation, .finished (.ok completed)⟩ ∨
      s.responses id = some (.ok completed) := by
  -- A call gets its response from its response channel.
  cases hstep with
  | @start started submitted hid hhandle hpublic =>
    rcases calls_setStage_cases h with ⟨-, heq⟩ | hbefore
    · have hstage := (Call.mk.inj heq).2
      unfold Operation.firstStage at hstage
      split at hstage
      · split_ifs at hstage
      · cases hstage
    · exact .inl hbefore
  | call hcall hmove =>
    rcases calls_setStage_cases h with ⟨rfl, heq⟩ | hbefore
    · exact .inr (hmove.completed (Call.mk.inj heq).2.symm)
    · exact .inl hbefore
  | probe hcall hlist hchild =>
    rcases calls_setStage_cases h with ⟨-, heq⟩ | hparent
    · cases (Call.mk.inj heq).2
    · rcases calls_setStage_cases hparent with ⟨-, heq⟩ | hbefore
      · cases (Call.mk.inj heq).2
      · exact .inl hbefore
  | send hcall hwriter hroom =>
    rcases calls_setStage_cases h with ⟨-, heq⟩ | hbefore
    · have hstage := (Call.mk.inj heq).2
      split_ifs at hstage
    · exact .inl hbefore
  | dropHandle hover => exact .inl h
  | writer hwriter =>
    rw [hwriter.frame.calls] at h
    exact .inl h
  | reader hreader =>
    rw [hreader.frame.calls] at h
    exact .inl h

theorem Finished.step (h : Finished s) (hdelivered : Delivered s)
    (hstep : Step pipelineDepth readChunkBytes s next) : Finished next := by
  intro id operation completed hcall
  apply Completes.step _ hstep
  rcases finished_or_received hstep hcall with hbefore | hreceived
  · exact h id operation completed hbefore
  · exact hdelivered.completes id completed hreceived

section

variable {events : List ReadEvent} {spare : Nat → Nat}

theorem Reachable.matched (h : Reachable pipelineDepth readChunkBytes events spare s) :
    Matched (BufferedResponseReceiver.unread events) s := by
  refine Transitions.Reachable.invariant ?_ (fun _ _ _ hs hstep => hs.step hstep) h
  rintro start rfl
  exact ⟨_, rfl, rfl⟩

theorem Reachable.finished (h : Reachable pipelineDepth readChunkBytes events spare s) :
    Finished s := by
  refine Transitions.Reachable.invariant ?_ (fun _ _ hs hfinished hstep =>
    hfinished.step (Reachable.delivered hs) hstep) h
  rintro start rfl id operation completed hcall
  cases hcall

theorem Reachable.getElem?_of_handled (h : Reachable pipelineDepth readChunkBytes events spare s)
    (hmem : exchange ∈ s.handled) :
    ∃ (i : Nat) (framed : FramedResponse), s.written[i]? = some exchange.queued ∧
      (finalFrames s.written (BufferedResponseReceiver.unread events))[i]? = some framed ∧
      framed.intoOwnedResponse = .ok exchange.response := by
  obtain ⟨skipped, lost, horder, -, -⟩ := h.ordered.order
  obtain ⟨middle, hsplits, -⟩ := h.matched
  obtain ⟨i, hi⟩ := List.mem_iff_getElem?.mp hmem
  simp only [List.append_assoc] at horder
  obtain ⟨framed, hframed, howned⟩ := hsplits.getElem?
    (s.reader.unhandled ++ (skipped ++ (s.inflight ++ (s.writer.written ++ lost)))) hi
  rw [← horder] at hframed
  refine ⟨i, framed, ?_, hframed, howned⟩
  have hlength : i < (s.handled.map Exchange.queued).length := by
    rw [List.length_map]
    exact (List.getElem?_eq_some_iff.mp hi).1
  rw [horder, List.getElem?_append_left hlength, List.getElem?_map, hi]
  rfl

theorem Reachable.operation_of_handled (h : Reachable pipelineDepth readChunkBytes events spare s)
    (hmem : exchange ∈ s.handled) (hcall : s.calls exchange.queued.id = some ⟨operation, stage⟩) :
    exchange.queued.operation = operation := by
  obtain ⟨i, -, hi, -, -⟩ := h.getElem?_of_handled hmem
  have hwritten : exchange.queued ∈ s.requests :=
    List.mem_append_left _ (List.mem_iff_getElem?.mpr ⟨i, hi⟩)
  obtain ⟨before, hbefore, -⟩ := h.owned.calls exchange.queued hwritten
  rw [hcall, Option.some.injEq, Call.mk.injEq] at hbefore
  exact hbefore.1.symm

end

theorem broken_step (hbroken : s.reader.broken = true)
    (hstep : Step pipelineDepth readChunkBytes s next) :
    next.reader.broken = true ∧ next.handled = s.handled := by
  refine Step.by_task (motive := fun next => next.reader.broken = true ∧ next.handled = s.handled)
    hstep (fun _ _ _ _ _ => ⟨hbroken, rfl⟩) (fun hwriter => ?_) fun hreader => ?_
  · rw [hwriter.frame.reader, hwriter.frame.handled]
    exact ⟨hbroken, rfl⟩
  · cases hreader.flow with
    | advances hnot hnext hmoved =>
      rw [hbroken] at hnot
      cases hnot
    | drops dropped hnext hhandled hmoved => exact ⟨hnext, hhandled⟩

/-- For every interleaving: a call that returns a response returns its own request and the final
frame at the place of that request among the written ones; after a receive error only those calls
return a response whose exchange was complete before the error. -/
theorem responses_follow_the_order_of_writing (pipelineDepth readChunkBytes : Nat)
    (events : List ReadEvent) (spare : Nat → Nat) (s : Connection)
    (h : Reachable pipelineDepth readChunkBytes events spare s) :
    (∀ id operation completed, s.calls id = some ⟨operation, .finished (.ok completed)⟩ →
      completed.request = operation.request ∧
        ∃ (i : Nat) (framed : FramedResponse), s.written[i]? = some ⟨id, operation⟩ ∧
          (finalFrames s.written (BufferedResponseReceiver.unread events))[i]? = some framed ∧
          completed.response.asBytes = framed.bytes ∧
          completed.response.status = framed.status) ∧
      (s.written.map Queued.id).Nodup ∧
      (s.reader.broken = true → ∀ later,
        Relation.ReflTransGen (Step pipelineDepth readChunkBytes) s later →
          ∀ id operation completed,
            later.calls id = some ⟨operation, .finished (.ok completed)⟩ →
              ∃ exchange ∈ s.handled, exchange.queued.id = id) := by
  refine ⟨fun id operation completed hcall => ?_, ?_,
    fun hbroken later hsteps id operation completed
    hcall => ?_⟩
  · obtain ⟨exchange, hmem, rfl, rfl, -⟩ := h.finished id operation completed hcall
    have hoperation := h.operation_of_handled hmem hcall
    obtain ⟨i, framed, hi, hframed, howned⟩ := h.getElem?_of_handled hmem
    obtain ⟨hbytes, hstatus⟩ := FramedResponse.of_intoOwnedResponse howned
    refine ⟨congrArg Operation.request hoperation, i, framed, ?_, hframed, hbytes, hstatus⟩
    rw [hi, ← hoperation]
  · have hnodup := h.owned.nodup
    rw [Connection.requests, List.map_append] at hnodup
    exact (List.nodup_append.mp hnodup).1
  · have hfrozen : later.reader.broken = true ∧ later.handled = s.handled := by
      refine Transitions.Reachable.frozen (P := fun s => s.reader.broken = true) ?_ h hbroken hsteps
      intro s next _ hbroken hstep
      exact broken_step hbroken hstep
    obtain ⟨exchange, hmem, hid, -, -⟩ :=
      Reachable.finished (Transitions.Reachable.trans h hsteps) id operation completed hcall
    rw [hfrozen.2] at hmem
    exact ⟨exchange, hmem, hid⟩

/-- CAPABILITIES gets the first frame, and the article behind it gets its second response. -/
theorem posting_follows_the_listing :
    ∃ s, Reachable 1 64 postingServer (fun _ => 4096) s ∧ s.written = [listing, posting] ∧
      s.calls listing.id = some ⟨listing.operation,
        .finished (.ok ⟨listing.operation.request, capabilitiesListed⟩)⟩ ∧
      s.calls posting.id = some ⟨posting.operation,
        .finished (.ok ⟨posting.operation.request, articleReceived⟩)⟩ ∧
      ∃ first second : FramedResponse,
        (finalFrames s.written (BufferedResponseReceiver.unread postingServer))[0]? = some first ∧
        (finalFrames s.written (BufferedResponseReceiver.unread postingServer))[1]? = some second ∧
        capabilitiesListed.asBytes = first.bytes ∧ articleReceived.asBytes = second.bytes := by
  obtain ⟨s, hreachable, hlisting, hposting, -, hwritten, -⟩ := postingServer_takes_posting
  obtain ⟨hreturned, -⟩ :=
    responses_follow_the_order_of_writing 1 64 postingServer (fun _ => 4096) s hreachable
  obtain ⟨-, i, first, hi, hfirst, hlisted, -⟩ := hreturned _ _ _ hlisting
  obtain ⟨-, j, second, hj, hsecond, hreceived, -⟩ := hreturned _ _ _ hposting
  have hother : listing ≠ posting := by decide
  rw [hwritten] at hi hj
  obtain rfl : i = 0 := by
    rcases i with - | - | i
    · rfl
    · exact absurd (Option.some.inj hi).symm hother
    · cases hi
  obtain rfl : j = 1 := by
    rcases j with - | - | j
    · exact absurd (Option.some.inj hj) hother
    · rfl
    · cases hj
  exact ⟨s, hreachable, hwritten, hlisting, hposting, first, second, hfirst, hsecond, hlisted,
    hreceived⟩

end NntpBench.Client
