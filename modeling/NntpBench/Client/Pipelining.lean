import NntpBench.Client.Delivery
import NntpBench.Client.Progress

namespace NntpBench.Client

open Protocol

variable {pipelineDepth readChunkBytes : Nat} {s next : Connection}

/-- The stages between the look at the closed flag and the request channel. -/
def Stage.admitted : Stage → Bool
  | .checking | .sending => true
  | _ => false

theorem CallStep.admitted {id : Nat} {operation : Operation} {stage after : Stage}
    (h : CallStep s id operation stage after) (hafter : after.admitted = true) :
    stage.admitted = true ∨ s.closed = false := by
  cases h with
  | accept h => exact .inr h
  | recheck h => exact .inl rfl
  | probed h => split_ifs at hafter <;> cases hafter
  | _ => cases hafter

theorem WriterStep.continuing_or_sending (h : WriterStep pipelineDepth s next) {current : Queued}
    (hcurrent : next.writer.continuing = some current) :
    s.writer.continuing = some current ∨ current ∈ s.writer.written := by
  cases h
  case recv => rw [WriterState.continuing_start] at hcurrent; cases hcurrent
  case takeHeld => rw [WriterState.continuing_start] at hcurrent; cases hcurrent
  case hold => rw [WriterState.continuing_writeNext] at hcurrent; cases hcurrent
  case collected => rw [WriterState.continuing_writeNext] at hcurrent; cases hcurrent
  case wrote => rw [WriterState.continuing_writeNext] at hcurrent; cases hcurrent
  case write => exact .inl hcurrent
  case inflight sending pending held hs hreader hroom =>
    right
    rw [hs]
    split_ifs at hcurrent
    · obtain rfl : sending = current := by simpa [WriterState.continuing] using hcurrent
      exact List.mem_cons_self
    · cases hcurrent
  case proceed hs hdecided hproceeds =>
    rw [hs]
    exact .inl hcurrent
  case drain hs hqueue =>
    rw [hs] at hcurrent
    cases hcurrent
  all_goals cases hcurrent

/-- A closed connection has nothing left to write and takes nothing new. -/
structure Shut (s : Connection) : Prop where
  tickets : s.writer.tickets = []
  queue : s.queue = []
  continuing : s.writer.continuing = none
  calls : ∀ id call, s.calls id = some call → call.stage.admitted = false

namespace Shut

theorem setStage (h : Shut s) {id : Nat} {operation : Operation} {stage : Stage}
    (hstage : stage.admitted = false) : Shut (s.setStage id operation stage) where
  tickets := h.tickets
  queue := h.queue
  continuing := h.continuing
  calls other call hcall := by
    by_cases heq : other = id
    · subst heq
      rw [Connection.calls_setStage_self, Option.some.injEq] at hcall
      subst hcall
      exact hstage
    · rw [Connection.calls_setStage_of_ne s heq] at hcall
      exact h.calls other call hcall

theorem piece_eq_none (h : Shut s) : s.writer.piece = none := by
  have htickets := h.tickets
  have hcontinuing := h.continuing
  cases hs : s.writer with
  | writing written current todo held =>
    rw [hs] at htickets
    simp [WriterState.tickets, WriterState.unwritten] at htickets
  | posting current pending held =>
    rw [hs] at hcontinuing
    cases hcontinuing
  | _ => rfl

theorem writer (h : Shut s) (hstep : WriterStep pipelineDepth s next) : Shut next := by
  obtain ⟨hwritten, hheld⟩ := List.append_eq_nil_iff.mp h.tickets
  have hunwritten : s.unwritten = [] := by
    rw [Connection.unwritten, hheld, h.queue, List.append_nil]
  have hempty : next.writer.written = [] ∧ next.unwritten = [] := by
    cases hstep.flow with
    | stays hinflight hsame hrest hwire hbroken =>
        exact ⟨hsame.trans hwritten, hrest.trans hunwritten⟩
    | writes queued hinflight hsame hrest hwire hbroken =>
      rw [hunwritten] at hrest
      cases hrest
    | registers queued hinflight hsame hrest hwire hbroken =>
      rw [hwritten] at hsame
      cases hsame
    | drops hinflight hnone hrest hwire hbroken =>
      rw [hunwritten] at hrest
      exact ⟨hnone, List.sublist_nil.mp hrest⟩
  obtain ⟨hrest, hqueue⟩ := List.append_eq_nil_iff.mp hempty.2
  refine ⟨by rw [WriterState.tickets, hempty.1, hrest, List.append_nil], hqueue, ?_, ?_⟩
  · by_contra hne
    obtain ⟨current, hcurrent⟩ := Option.ne_none_iff_exists'.mp hne
    rcases hstep.continuing_or_sending hcurrent with hbefore | hsending
    · rw [h.continuing] at hbefore
      cases hbefore
    · rw [hwritten] at hsending
      cases hsending
  · rw [hstep.frame.calls]
    exact h.calls

theorem reader (h : Shut s) (hstep : ReaderStep readChunkBytes s next) : Shut next := by
  have hframe := hstep.frame
  refine ⟨?_, ?_, ?_, ?_⟩
  · rw [hframe.writer]
    exact h.tickets
  · rw [hframe.queue]
    exact h.queue
  · rw [hframe.writer]
    exact h.continuing
  · rw [hframe.calls]
    exact h.calls

theorem step (h : Shut s) (hclosed : s.closed = true)
    (hstep : Step pipelineDepth readChunkBytes s next) : Shut next := by
  cases hstep with
  | @start id operation hid hhandle hpublic =>
    apply h.setStage
    unfold Operation.firstStage
    split
    · split_ifs <;> rfl
    · rfl
  | call hcall hmove =>
    apply h.setStage
    by_contra hafter
    rcases hmove.admitted (by simpa using hafter) with hbefore | hopen
    · rw [h.calls _ _ hcall] at hbefore
      cases hbefore
    · rw [hclosed] at hopen
      cases hopen
  | probe hcall hlist hchild => exact (h.setStage rfl).setStage rfl
  | send hcall hwriter hroom =>
    have hadmitted := h.calls _ _ hcall
    cases hadmitted
  | dropHandle hover => exact ⟨h.tickets, h.queue, h.continuing, h.calls⟩
  | writer hwriter => exact h.writer hwriter
  | reader hreader => exact h.reader hreader

theorem of_quit (hguarded : Guarded s) (halone : Alone s) {exchange : Exchange}
    (hreader : s.reader = .closing exchange) (hquits : exchange.quits = true) : Shut s := by
  -- The QUIT whose response closes the connection holds the barrier: it is alone in line.
  have hkind : exchange.queued.kind = .quit := by
    have hquits := hquits
    unfold Exchange.quits at hquits
    simpa using (Bool.and_eq_true_iff.mp hquits).1
  have hbarrier : exchange.queued.guarded = true := by
    unfold Queued.guarded
    rw [hkind]
    rfl
  have hline : s.line = [] ++ exchange.queued ::
      (s.inflight ++ (s.writer.tickets ++ s.queue)) := by
    simp [Connection.line, hreader, ReaderState.tickets, ReaderState.active]
  have hbehind := hguarded.nothing_behind hline hbarrier
  simp only [List.append_eq_nil_iff] at hbehind
  refine ⟨hbehind.2.1, hbehind.2.2, ?_, fun id call hcall => ?_⟩
  · by_contra hne
    obtain ⟨current, hcurrent⟩ := Option.ne_none_iff_exists'.mp hne
    obtain ⟨-, harticle, honly⟩ := halone.continuing current hcurrent
    -- The continuation would be the QUIT itself, which has no article.
    have heq := honly exchange.queued (by simp [hreader, ReaderState.opened, ReaderState.active])
    have hpost := Queued.kind_of_article harticle
    rw [← heq, hkind] at hpost
    rcases hpost with hpost | hpost <;> cases hpost
  · have hmem : exchange.queued ∈ s.line := by
      rw [hline]
      exact List.mem_cons_self
    by_contra hadmitted
    apply hguarded.no_holder hmem hbarrier id
    refine ⟨call, hcall, ?_⟩
    revert hadmitted
    cases call.stage <;> first | exact fun _ => rfl | exact fun h => absurd rfl h

end Shut

theorem shut_of_closed_step (hguarded : Guarded s) (halone : Alone s)
    (h : s.closed = true → Shut s) (hstep : Step pipelineDepth readChunkBytes s next)
    (hclosed : next.closed = true) : Shut next := by
  cases hbefore : s.closed with
  | true => exact (h hbefore).step hbefore hstep
  | false =>
    revert hclosed
    refine Step.by_task (motive := fun next => next.closed = true → Shut next) hstep
      (fun _ _ _ _ _ hclosed => ?_) (fun hwriter hclosed => ?_) fun hreader hclosed => ?_
    · exact absurd (hbefore.symm.trans hclosed) (by decide)
    · rw [hwriter.frame.closed, hbefore] at hclosed
      cases hclosed
    · cases hreader
      case close exchange hs =>
        have hquits : exchange.quits = true := by simpa [hbefore, Exchange.quits] using hclosed
        have hshut := Shut.of_quit hguarded halone hs hquits
        exact ⟨hshut.tickets, hshut.queue, hshut.continuing, hshut.calls⟩
      all_goals exact absurd (hbefore.symm.trans hclosed) (by decide)

section

variable {events : List ReadEvent} {spare : Nat → Nat}

theorem Reachable.shut (h : Reachable pipelineDepth readChunkBytes events spare s)
    (hclosed : s.closed = true) : Shut s := by
  refine Transitions.Reachable.invariant (P := fun s => s.closed = true → Shut s) ?_
    (fun _ _ hs hshut hstep => shut_of_closed_step (Reachable.guarded hs) (Reachable.alone hs)
      hshut hstep) h hclosed
  rintro start rfl hclosed
  cases hclosed

end

theorem output_of_shut (h : Shut s) (hstep : Step pipelineDepth readChunkBytes s next) :
    next.output = s.output := by
  have hpiece := h.piece_eq_none
  refine Step.by_task (motive := fun next => next.output = s.output) hstep
    (fun _ _ _ _ _ => rfl) (fun hwriter => ?_) fun hreader => ?_
  · cases hwriter
    case write hs hbytes hchunk =>
      rw [hpiece] at hs
      cases hs
    case wrote hs hsent =>
      rw [hs] at hpiece
      cases hpiece
    case posted hs hsent =>
      rw [hs] at hpiece
      cases hpiece
    all_goals rfl
  · unfold Connection.output Connection.sent
    rw [hreader.frame.wire, hreader.frame.unfinished]

theorem closed_step (hclosed : s.closed = true) (hstep : Step pipelineDepth readChunkBytes s next) :
    next.closed = true := by
  refine Step.by_task (motive := fun next => next.closed = true) hstep (fun _ _ _ _ _ => hclosed)
    (fun hwriter => hwriter.frame.closed.trans hclosed) fun hreader => ?_
  cases hreader
  case close => simp [hclosed]
  all_goals exact hclosed

/-- The result of the request has been delivered: the response channel is used, or the reader has
failed and dropped it, which the caller sees as the failure. -/
def Connection.Answered (s : Connection) (id : Nat) : Prop :=
  ¬ s.Open id ∧ ((s.responses id).isSome = true ∨ s.reader.broken = true)

theorem Connection.open_of_mem {queued : Queued}
    (h : queued ∈ s.reader.opened ++ s.inflight ++ s.writer.written) : s.Open queued.id := by
  refine ⟨queued, ?_, rfl⟩
  simp only [opened, WriterState.tickets, List.mem_append] at h ⊢
  tauto

theorem ReaderState.unhandled_subset {reader : ReaderState} {queued : Queued}
    (h : queued ∈ reader.unhandled) : queued ∈ reader.opened := by
  cases reader <;> first | exact h | cases h

theorem answered_of_closed (hordered : Ordered s) (hdelivered : Delivered s)
    (hbroken : s.writer.broken = false) {queued : Queued} (hmem : queued ∈ s.written)
    (hclosed : ¬ s.Open queued.id) : s.Answered queued.id := by
  refine ⟨hclosed, ?_⟩
  cases hreader : s.reader.broken with
  | true => exact .inr rfl
  | false =>
    left
    obtain ⟨skipped, lost, horder, hskipped, hlost⟩ := hordered.order
    rw [horder, hskipped hreader, hlost hbroken] at hmem
    simp only [List.append_nil, List.mem_append, List.mem_map] at hmem
    have hopened : queued ∉ s.reader.opened ++ s.inflight ++ s.writer.written :=
      fun hopen => hclosed (Connection.open_of_mem hopen)
    simp only [List.mem_append, not_or] at hopened
    rcases hmem with ((⟨exchange, hhandled, rfl⟩ | hmem) | hmem) | hmem
    · exact hdelivered.answered hreader exchange hhandled hopened.1.1
    · exact absurd (ReaderState.unhandled_subset hmem) hopened.1.1
    · exact absurd hmem hopened.1.2
    · exact absurd hmem hopened.2

/-- While a piece is being written, an earlier request whose response is outstanding neither ends
the pipeline nor precedes an exclusive request. -/
theorem not_open_of_writing (hguarded : Guarded s) (howned : Owned s) (hordered : Ordered s)
    (halone : Alone s) {piece : Piece} {other : Queued} (hpiece : s.writer.piece = some piece)
    (hmem : other ∈ s.written) (hne : other ≠ piece.queued)
    (hends : other.guarded = true ∨ piece.queued.exclusive = true) : ¬ s.Open other.id := by
  intro hopen
  have hbefore := hordered.written_of_opened howned hmem hopen
  cases hs : s.writer with
  | writing written current todo held =>
    rw [hs] at hpiece hbefore
    obtain rfl : Piece.command current = piece := Option.some.inj hpiece
    rcases hends with hguard | hexclusive
    · -- `other` is in line before `current`.
      have hline : s.line.Pairwise fun queued _ => queued.guarded = false := hguarded.line
      rw [Connection.line_eq, ← List.append_assoc, List.pairwise_append] at hline
      have hticket : other ∈ s.reader.tickets ++ (s.inflight ++ s.writer.written) := by
        rw [hs]
        simp only [List.mem_append] at hbefore ⊢
        rcases hbefore with (hmem | hmem) | hmem
        · exact .inl (ReaderState.opened_subset hmem)
        · exact .inr (.inl hmem)
        · exact .inr (.inr hmem)
      have hfree := hline.2.2 other hticket current (by
        rw [Connection.unwritten, hs]
        simp [WriterState.unwritten])
      rw [hfree] at hguard
      cases hguard
    · have hbatch := halone.batch current
      rw [hs] at hbatch
      obtain ⟨hsingle, -, hopened, hinflight⟩ := hbatch (by simp [WriterState.batch]) hexclusive
      have hnone : written = [] := by
        simp only [WriterState.batch] at hsingle
        have hlength := congrArg List.length hsingle
        simp only [List.length_append, List.length_cons, List.length_nil] at hlength
        exact List.length_eq_zero_iff.mp (by omega)
      rw [hopened, hinflight, hnone] at hbefore
      cases hbefore
  | posting current pending held =>
    rw [hs] at hpiece hbefore
    obtain rfl : Piece.article current = piece := Option.some.inj hpiece
    obtain ⟨htickets, -, honly⟩ := halone.continuing current (by rw [hs]; rfl)
    rw [hs] at htickets
    have hnone : pending = [] := (List.append_eq_nil_iff.mp htickets).1
    rw [hnone] at hbefore
    simp only [WriterState.written, List.append_nil] at hbefore
    exact hne (honly other hbefore)
  | _ =>
    rw [hs] at hpiece
    cases hpiece

section

variable {events : List ReadEvent} {spare : Nat → Nat}

theorem Reachable.answered_of_writing (h : Reachable pipelineDepth readChunkBytes events spare s)
    (hstep : Step pipelineDepth readChunkBytes s next) {queued other : Queued}
    (hwrites : next.bytesOf queued ≠ s.bytesOf queued) (hother : s.bytesOf other ≠ [])
    (hne : other ≠ queued) (hends : other.guarded = true ∨ queued.exclusive = true) :
    s.Answered other.id := by
  obtain ⟨piece, hpiece, rfl⟩ := h.wired.current_of_bytesOf_ne hstep hwrites
  have hbroken := WriterState.broken_of_piece hpiece
  have hmem : other ∈ s.written := by
    rcases h.wired.written_or_current hbroken hother with hmem | ⟨current, hcurrent, rfl⟩
    · exact hmem
    · rw [hpiece, Option.some.injEq] at hcurrent
      exact absurd (by rw [hcurrent]) hne
  exact answered_of_closed h.ordered h.delivered hbroken hmem
    (not_open_of_writing h.guarded h.owned h.ordered h.alone hpiece hmem hne hends)

theorem Reachable.closed_of_quit (h : Reachable pipelineDepth readChunkBytes events spare s)
    {id : Nat} {completed : CompletedRequest} (hdelivered : s.responses id = some (.ok completed))
    (hrequest : completed.request = .quit) (hstatus : completed.response.status.code = 205) :
    s.closed = true := by
  obtain ⟨exchange, -, -, rfl, hquits⟩ := h.delivered.completes id completed hdelivered
  apply hquits
  have hkind : exchange.queued.kind = .quit := congrArg Request.kind hrequest
  have hcode : exchange.response.status.code = 205 := hstatus
  simp [Exchange.quits, hkind, hcode]

end

/-- For every interleaving: when a byte of a request is written, each other request on the wire
that ends the pipeline has its answer; if the request that is written is exclusive, all the others
have theirs; and after the 205 to a QUIT nothing more is written. -/
theorem requests_are_written_through_the_gate (pipelineDepth readChunkBytes : Nat)
    (events : List ReadEvent) (spare : Nat → Nat) (s : Connection)
    (h : Reachable pipelineDepth readChunkBytes events spare s) :
    (∀ next queued other, Step pipelineDepth readChunkBytes s next →
      next.bytesOf queued ≠ s.bytesOf queued → s.bytesOf other ≠ [] → other ≠ queued →
        (other.kind.coordination.allowsFollowingPipeline = false → s.Answered other.id) ∧
        (queued.kind.coordination.requiresExclusiveConnection = true → s.Answered other.id)) ∧
      ∀ id completed later, s.responses id = some (.ok completed) → completed.request = .quit →
        completed.response.status.code = 205 →
          Relation.ReflTransGen (Step pipelineDepth readChunkBytes) s later →
            later.output = s.output := by
  constructor
  · intro next queued other hstep hwrites hother hne
    constructor
    · intro hends
      apply h.answered_of_writing hstep hwrites hother hne
      left
      simp [Queued.guarded, requestKindRequiresBarrier, hends]
    · intro hexclusive
      exact h.answered_of_writing hstep hwrites hother hne (.inr hexclusive)
  · intro id completed later hdelivered hrequest hstatus hsteps
    have hclosed := h.closed_of_quit hdelivered hrequest hstatus
    have hfrozen : later.closed = true ∧ later.output = s.output := by
      refine Transitions.Reachable.frozen (P := fun s => s.closed = true) ?_ h hclosed hsteps
      intro s next hs hclosed hstep
      exact ⟨closed_step hclosed hstep, output_of_shut (Reachable.shut hs hclosed) hstep⟩
    exact hfrozen.2

/-- The article is written after the response to CAPABILITIES. -/
theorem posting_is_written_through_the_gate :
    ∃ s next, Reachable 1 64 postingServer (fun _ => 4096) s ∧ Step 1 64 s next ∧
      next.bytesOf posting ≠ s.bytesOf posting ∧ s.bytesOf listing ≠ [] ∧
      s.Answered listing.id := by
  obtain ⟨s, next, hreachable, hstep, hwrites, hlisting⟩ := postingServer_writes_posting
  obtain ⟨hgate, -⟩ :=
    requests_are_written_through_the_gate 1 64 postingServer (fun _ => 4096) s hreachable
  have hanswered := (hgate next posting listing hstep hwrites hlisting (by decide)).2 (by decide)
  exact ⟨s, next, hreachable, hstep, hwrites, hlisting, hanswered⟩

end NntpBench.Client
