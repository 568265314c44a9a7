import NntpBench.Client.Matching

namespace NntpBench.Client

open Protocol

variable {queued other : Queued} {first : OwnedResponse} {before after : List Piece}

variable {pipelineDepth readChunkBytes : Nat} {s next : Connection}

/-- What is on the wire, piece by piece; the last one may be incomplete. -/
def Connection.parts (s : Connection) : List (Piece × Bytes) :=
  (s.wire.map fun piece => (piece, piece.bytes)) ++ s.unfinished.toList

def Connection.pieces (s : Connection) : List Piece := s.wire ++ s.unfinished.toList.map Prod.fst

/-- The requests on the wire that the writer still has to hand on or to send an article for. -/
def WriterState.trail (self : WriterState) : List Queued := self.continuing.toList ++ self.written

/-- The reader received 340 for POST or 335 for IHAVE as the first response to the command. -/
def GoAhead (s : Connection) (queued : Queued) : Prop :=
  ∃ first, s.decided queued.id = some first ∧ queued.proceeds first.status = true

theorem Connection.map_fst_parts (s : Connection) : s.parts.map Prod.fst = s.pieces := by
  unfold parts pieces
  rw [List.map_append, List.map_map]
  congr 1
  exact List.map_id _

theorem Connection.output_eq_parts (s : Connection) : s.output = s.parts.flatMap Prod.snd := by
  unfold output parts sent
  rw [List.flatMap_append, List.flatMap_map]
  cases s.unfinished <;> simp

theorem pieces_step (hwired : Wired s) (hstep : WriterStep pipelineDepth s next) :
    next.pieces = s.pieces ∨ ∃ piece, s.writer.piece = some piece ∧ s.unfinished = none ∧
      next.pieces = s.pieces ++ [piece] := by
  -- The writer adds at most the piece it is sending.
  have hadds : ∀ piece, s.writer.piece = some piece →
      next.pieces = s.wire ++ [piece] → next.pieces = s.pieces ∨ ∃ piece,
        s.writer.piece = some piece ∧ s.unfinished = none ∧ next.pieces = s.pieces ++ [piece] := by
    intro piece hpiece hnext
    unfold Connection.pieces at hnext ⊢
    cases hs : s.unfinished with
    | none =>
      refine .inr ⟨piece, hpiece, rfl, ?_⟩
      simpa using hnext
    | some part =>
      have hpart := hwired.unfinished (WriterState.broken_of_piece hpiece) part hs
      rw [hpiece, Option.some.injEq] at hpart
      left
      rw [hnext, hpart]
      rfl
  cases hstep
  case write piece chunk rest hpiece hbytes hchunk => exact hadds piece hpiece rfl
  case wrote written todo current held hs hsent =>
    refine hadds (.command current) (by rw [hs]; rfl) ?_
    simp [Connection.pieces]
  case posted current pending held hs hsent =>
    refine hadds (.article current) (by rw [hs]; rfl) ?_
    simp [Connection.pieces]
  all_goals exact .inl rfl

def Behind (pieces : List Piece) : Prop :=
  ∀ before queued after, pieces = before ++ .article queued :: after →
    [.command queued] <:+ before

theorem behind_concat {pieces : List Piece} {piece : Piece} (h : Behind pieces)
    (hpiece : ∀ queued, piece = .article queued → [.command queued] <:+ pieces) :
    Behind (pieces ++ [piece]) := by
  intro before queued after heq
  rcases List.eq_nil_or_concat after with rfl | ⟨middle, last, rfl⟩
  · obtain ⟨rfl, hlast⟩ := List.append_inj' heq rfl
    exact hpiece queued (List.singleton_inj.mp hlast)
  · rw [List.concat_eq_append, ← List.cons_append, ← List.append_assoc] at heq
    exact h before queued middle (List.append_inj' heq rfl).1

/-- The commands that the writer is not done with are the last ones on the wire. -/
structure Laid (s : Connection) : Prop where
  trail : s.writer.trail.map Piece.command <:+ s.wire
  behind : Behind s.pieces

namespace WriterState

theorem trail_start (first : Queued) : (start first).trail = [] := by
  unfold trail
  rw [continuing_start, written_start]
  rfl

theorem trail_writeNext (written todo : List Queued) (held : Option Queued) :
    (writeNext written todo held).trail = written := by
  unfold trail
  rw [continuing_writeNext, written_writeNext]
  rfl

theorem continuing_of_article {writer : WriterState}
    (h : writer.piece = some (.article queued)) : writer.continuing = some queued := by
  cases writer with
  | posting current pending held =>
    obtain rfl : current = queued := by simpa [piece] using h
    rfl
  | writing written current todo held => simp [piece] at h
  | _ => cases h

end WriterState

theorem Alone.trail (h : Alone s) {current : Queued}
    (hcurrent : s.writer.continuing = some current) : s.writer.trail = [current] := by
  obtain ⟨htickets, -, -⟩ := h.continuing current hcurrent
  unfold WriterState.trail
  rw [hcurrent, (List.append_eq_nil_iff.mp htickets).1]
  rfl

theorem trail_step (halone : Alone s) (h : s.writer.trail.map Piece.command <:+ s.wire)
    (hstep : WriterStep pipelineDepth s next) : next.writer.trail.map Piece.command <:+
      next.wire := by
  have hempty : ∀ {wire : List Piece}, ([] : List Queued).map Piece.command <:+ wire :=
    fun {_} => List.nil_suffix
  cases hstep
  case recv hs hqueue =>
    rw [WriterState.trail_start]
    exact hempty
  case takeHeld hs =>
    rw [WriterState.trail_start]
    exact hempty
  case hold hs hqueue hlength hexclusive =>
    rw [WriterState.trail_writeNext]
    exact hempty
  case collected hs hdone =>
    rw [WriterState.trail_writeNext]
    exact hempty
  case write => exact h
  case wrote written todo current held hs hsent =>
    rw [WriterState.trail_writeNext, List.map_append]
    rw [hs] at h
    obtain ⟨earlier, hwire⟩ := h
    exact ⟨earlier, by rw [← hwire, List.append_assoc]; rfl⟩
  case register queued pending held hs =>
    rw [hs] at h
    exact h
  case inflight current pending held hs hreader hroom =>
    rw [hs] at h
    split_ifs
    · exact h
    · exact (List.suffix_cons ..).trans h
  case proceed current pending held first hs hdecided hproceeds =>
    rw [hs] at h
    exact h
  case skip current pending held hs hdecided =>
    rw [hs] at h
    exact (List.suffix_cons ..).trans h
  case posted current pending held hs hsent =>
    have hcurrent : s.writer.continuing = some current := by
      rw [hs]
      rfl
    have htrail := halone.trail hcurrent
    rw [hs] at htrail
    obtain rfl : pending = [] := (List.cons.inj htrail).2
    exact hempty
  case drain hs hqueue =>
    rw [hs]
    exact hempty
  all_goals exact hempty

theorem Laid.writer (h : Laid s) (halone : Alone s) (hwired : Wired s)
    (hstep : WriterStep pipelineDepth s next) : Laid next := by
  refine ⟨trail_step halone h.trail hstep, ?_⟩
  rcases pieces_step hwired hstep with hsame | ⟨piece, hpiece, hunfinished, hadds⟩
  · rw [hsame]
    exact h.behind
  · rw [hadds]
    refine behind_concat h.behind fun queued harticle => ?_
    have hcurrent := WriterState.continuing_of_article (harticle ▸ hpiece)
    have htrail := h.trail
    rw [halone.trail hcurrent] at htrail
    unfold Connection.pieces
    rw [hunfinished]
    simpa using htrail

theorem Laid.step (h : Laid s) (halone : Alone s) (hwired : Wired s)
    (hstep : Step pipelineDepth readChunkBytes s next) : Laid next := by
  refine hstep.by_task (fun _ _ _ _ _ => ⟨h.trail, h.behind⟩) (h.writer halone hwired)
    fun hreader => ⟨?_, ?_⟩
  · rw [hreader.frame.writer, hreader.frame.wire]
    exact h.trail
  · unfold Connection.pieces
    rw [hreader.frame.wire, hreader.frame.unfinished]
    exact h.behind

theorem decided_step (hstep : Step pipelineDepth readChunkBytes s next) :
    next.decided = s.decided ∨ ∃ queued first, s.reader = .deciding queued first ∧
      s.undecided = queued :: next.undecided ∧
      next.decided = Function.update s.decided queued.id (some first) := by
  refine Step.by_task (motive := fun next => next.decided = s.decided ∨ ∃ queued first,
    s.reader = .deciding queued first ∧ s.undecided = queued :: next.undecided ∧
      next.decided = Function.update s.decided queued.id (some first)) hstep
    (fun _ _ _ _ _ => .inl rfl) (fun hwriter => .inl hwriter.frame.decided) fun hreader => ?_
  cases hreader
  case decide queued first hs =>
    refine .inr ⟨queued, first, hs, ?_, rfl⟩
    unfold Connection.undecided
    rw [hs]
    dsimp only
    split_ifs <;> rfl
  all_goals exact .inl rfl

theorem ReaderState.undecided_stored (exchange : Exchange) (result : Except ClientError Unit) :
    (stored exchange result).undecided = [] := by
  cases result <;> rfl

theorem ReaderStep.undecided_sublist (h : ReaderStep readChunkBytes s next) :
    List.Sublist (next.reader.undecided ++ next.inflight) (s.reader.undecided ++ s.inflight) := by
  cases h
  case received queued response receiver rounds hs hreceive =>
    dsimp only
    split_ifs <;> simp [hs, ReaderState.undecided]
  case decide queued first hs =>
    dsimp only
    split_ifs <;> simp [hs, ReaderState.undecided]
  case store exchange hs =>
    rw [ReaderState.undecided_stored, hs]
    exact List.Sublist.refl _
  case receiveFailed queued error receiver rounds hs hreceive =>
    rcases hs with hs | ⟨first, hs⟩ <;> simp [hs, ReaderState.undecided]
  all_goals simp [ReaderState.undecided, *]

namespace Connection

theorem undecided_eq (s : Connection) :
    s.undecided = s.reader.undecided ++ (s.inflight ++ s.writer.written ++ s.unwritten) := by
  simp [undecided, WriterState.tickets, unwritten]

end Connection

theorem mem_undecided_of_step (hstep : Step pipelineDepth readChunkBytes s next)
    (hmem : queued ∈ next.undecided) :
    queued ∈ s.undecided ∨ s.calls queued.id = some ⟨queued.operation, .sending⟩ := by
  -- Only a new request gets a sender for the word on its article.
  cases hstep with
  | writer hwriter =>
    left
    rw [Connection.undecided_eq, List.mem_append] at hmem ⊢
    rw [hwriter.frame.reader] at hmem
    exact hmem.imp_right fun hmem => hwriter.flow.sublist.subset hmem
  | reader hreader =>
    left
    have hsublist := hreader.undecided_sublist.subset
    have hframe := hreader.frame
    unfold Connection.undecided at hmem ⊢
    rw [hframe.writer, hframe.queue, List.append_assoc, List.mem_append] at hmem
    rw [List.append_assoc, List.mem_append]
    exact hmem.imp_left fun hmem => hsublist hmem
  | @send id operation hcall hwriter hroom =>
    have hsplit : queued ∈ s.undecided ++ [⟨id, operation⟩] := by
      unfold Connection.undecided at hmem ⊢
      rw [List.append_assoc]
      exact hmem
    rcases List.mem_append.mp hsplit with hmem | hmem
    · exact .inl hmem
    · rw [List.mem_singleton.mp hmem]
      exact .inr hcall
  | start hid hhandle hpublic => exact .inl hmem
  | call hcall hmove => exact .inl hmem
  | probe hcall hlist hchild => exact .inl hmem
  | dropHandle hover => exact .inl hmem

theorem ReaderState.undecided_sublist_unhandled (reader : ReaderState) :
    List.Sublist reader.undecided reader.unhandled := by
  cases reader <;> simp [undecided, unhandled]

theorem undecided_nodup (howned : Owned s) (hordered : Ordered s) :
    (s.undecided.map Queued.id).Nodup := by
  obtain ⟨skipped, lost, horder, -, -⟩ := hordered.order
  refine howned.nodup.sublist (List.Sublist.map _ ?_)
  rw [Connection.undecided_eq, Connection.requests, horder, ← List.append_assoc]
  apply List.Sublist.append _ (List.Sublist.refl _)
  rw [← List.append_assoc]
  have hreader : List.Sublist s.reader.undecided
      (s.handled.map Exchange.queued ++ s.reader.unhandled ++ skipped) :=
    (s.reader.undecided_sublist_unhandled.trans (List.sublist_append_right ..)).trans
      (List.sublist_append_left ..)
  have hwritten := (hreader.append (List.Sublist.refl s.inflight)).append
    (List.Sublist.refl s.writer.written)
  exact hwritten.trans (List.sublist_append_left ..)

theorem Owned.ne_of_sending (h : Owned s) {id : Nat} {operation : Operation}
    (hcall : s.calls id = some ⟨operation, .sending⟩)
    (hmem : queued ∈ s.requests) : queued.id ≠ id := by
  rintro rfl
  obtain ⟨before, hbefore, hsubmitted⟩ := h.calls queued hmem
  rw [hcall, Option.some.injEq, Call.mk.injEq] at hbefore
  rw [← hbefore.2] at hsubmitted
  cases hsubmitted

/-- The reader gives its word once, and only for a request on the wire. -/
structure Decided (s : Connection) : Prop where
  undecided : ∀ queued ∈ s.undecided, s.decided queued.id = none
  written : ∀ id first, s.decided id = some first → ∃ queued ∈ s.written, queued.id = id

theorem written_subset (hstep : Step pipelineDepth readChunkBytes s next) :
    s.written ⊆ next.written := by
  refine Step.by_task (motive := fun next => s.written ⊆ next.written) hstep
    (fun _ _ _ _ _ => List.Subset.refl _) (fun hwriter => ?_) fun hreader => ?_
  · cases hwriter.flow with
    | writes queued hinflight hwritten hunwritten hwire hbroken =>
      rw [hwire]
      exact List.subset_append_left ..
    | _ => simp_all
  · unfold Connection.written
    rw [hreader.frame.wire]
    exact List.Subset.refl _

namespace Decided

theorem stable (h : Decided s) (hstep : Step pipelineDepth readChunkBytes s next) {id : Nat}
    (hfirst : s.decided id = some first) : next.decided id = some first := by
  rcases decided_step hstep with hsame | ⟨queued, word, -, hundecided, hnext⟩
  · rw [hsame]
    exact hfirst
  · have hnone := h.undecided queued (by rw [hundecided]; exact List.mem_cons_self)
    have hne : id ≠ queued.id := by
      rintro rfl
      rw [hnone] at hfirst
      cases hfirst
    rw [hnext, Function.update_of_ne hne]
    exact hfirst

theorem step (h : Decided s) (howned : Owned s) (hordered : Ordered s)
    (hstep : Step pipelineDepth readChunkBytes s next) : Decided next := by
  have hfresh : ∀ queued : Queued, s.calls queued.id = some ⟨queued.operation, .sending⟩ →
      s.decided queued.id = none := by
    intro queued hcall
    by_contra hne
    obtain ⟨first, hfirst⟩ := Option.ne_none_iff_exists'.mp hne
    obtain ⟨other, hother, hid⟩ := h.written queued.id first hfirst
    exact howned.ne_of_sending hcall (List.mem_append_left _ hother) hid
  have hbefore : ∀ queued ∈ next.undecided, s.decided queued.id = none := by
    intro queued hmem
    rcases mem_undecided_of_step hstep hmem with hmem | hcall
    · exact h.undecided queued hmem
    · exact hfresh queued hcall
  have hkept : ∀ id first, s.decided id = some first → ∃ queued ∈ next.written, queued.id = id := by
    intro id first hfirst
    obtain ⟨queued, hmem, hid⟩ := h.written id first hfirst
    exact ⟨queued, written_subset hstep hmem, hid⟩
  rcases decided_step hstep with hsame | ⟨queued, first, hs, hundecided, hnext⟩
  · rw [← hsame] at hbefore hkept
    exact ⟨hbefore, hkept⟩
  · have hnodup := undecided_nodup howned hordered
    rw [hundecided, List.map_cons, List.nodup_cons] at hnodup
    refine ⟨fun other hmem => ?_, fun id word hword => ?_⟩
    · have hne : other.id ≠ queued.id := by
        intro heq
        exact hnodup.1 (heq ▸ List.mem_map_of_mem hmem)
      rw [hnext, Function.update_of_ne hne]
      exact hbefore other hmem
    · by_cases hid : id = queued.id
      · have hticket : queued ∈ s.reader.tickets ++ s.inflight ++ s.writer.written := by
          rw [hs]
          simp [ReaderState.tickets, ReaderState.active]
        exact ⟨queued, written_subset hstep (hordered.tickets queued hticket), hid.symm⟩
      · rw [hnext, Function.update_of_ne hid] at hword
        exact hkept id word hword

end Decided

theorem GoAhead.step (h : GoAhead s queued) (hdecided : Decided s)
    (hstep : Step pipelineDepth readChunkBytes s next) : GoAhead next queued := by
  obtain ⟨first, hfirst, hproceeds⟩ := h
  exact ⟨first, hdecided.stable hstep hfirst, hproceeds⟩

/-- An article is on the wire only when the reader has asked for it. -/
structure Allowed (s : Connection) : Prop where
  pieces : ∀ queued, Piece.article queued ∈ s.pieces → GoAhead s queued
  piece : ∀ queued, s.writer.piece = some (.article queued) → GoAhead s queued

theorem WriterState.piece_start (first : Queued) (queued : Queued) :
    (start first).piece ≠ some (.article queued) := by
  unfold start
  split_ifs <;> simp [piece]

theorem WriterState.piece_writeNext (written todo : List Queued) (held : Option Queued)
    (queued : Queued) : (writeNext written todo held).piece ≠ some (.article queued) := by
  cases todo <;> simp [writeNext, piece]

theorem goAhead_of_piece (hstep : WriterStep pipelineDepth s next)
    (hpiece : next.writer.piece = some (.article queued)) :
    s.writer.piece = some (.article queued) ∨ GoAhead s queued := by
  cases hstep
  case recv hs hqueue => exact (WriterState.piece_start _ _ hpiece).elim
  case takeHeld hs => exact (WriterState.piece_start _ _ hpiece).elim
  case hold hs hqueue hlength hexclusive => exact (WriterState.piece_writeNext _ _ _ _ hpiece).elim
  case collected hs hdone => exact (WriterState.piece_writeNext _ _ _ _ hpiece).elim
  case wrote hs hsent => exact (WriterState.piece_writeNext _ _ _ _ hpiece).elim
  case write => exact .inl hpiece
  case drain => exact .inl hpiece
  case inflight current pending held hs hreader hroom => split_ifs at hpiece <;> cases hpiece
  case proceed current pending held first hs hdecided hproceeds =>
    obtain rfl : current = queued := by simpa [WriterState.piece] using hpiece
    exact .inr ⟨first, hdecided, hproceeds⟩
  all_goals simp [WriterState.piece] at hpiece

theorem Allowed.step (h : Allowed s) (hwired : Wired s) (hdecided : Decided s)
    (hstep : Step pipelineDepth readChunkBytes s next) : Allowed next := by
  have hword : ∀ {queued : Queued}, GoAhead s queued → GoAhead next queued :=
    fun {_} hgo => hgo.step hdecided hstep
  cases hstep with
  | writer hwriter =>
    refine ⟨fun queued hmem => ?_, fun queued hpiece => ?_⟩
    · apply hword
      rcases pieces_step hwired hwriter with hsame | ⟨piece, hpiece, -, hadds⟩
      · rw [hsame] at hmem
        exact h.pieces queued hmem
      · rw [hadds, List.mem_append, List.mem_singleton] at hmem
        rcases hmem with hmem | rfl
        · exact h.pieces queued hmem
        · exact h.piece queued hpiece
    · apply hword
      rcases goAhead_of_piece hwriter hpiece with hbefore | hgo
      · exact h.piece queued hbefore
      · exact hgo
  | reader hreader =>
    refine ⟨fun queued hmem => ?_, fun queued hpiece => ?_⟩
    · unfold Connection.pieces at hmem
      rw [hreader.frame.wire, hreader.frame.unfinished] at hmem
      exact hword (h.pieces queued hmem)
    · rw [hreader.frame.writer] at hpiece
      exact hword (h.piece queued hpiece)
  | _ => exact ⟨fun queued hmem => hword (h.pieces queued hmem),
      fun queued hpiece => hword (h.piece queued hpiece)⟩

/-- The writer is done with a continuation: it has sent the article it was asked for, or it was
told not to, or it will never be told. -/
def Resolved (s : Connection) (queued : Queued) : Prop :=
  (GoAhead s queued ∧ Piece.article queued ∈ s.wire) ∨
    (∃ first, s.decided queued.id = some first ∧ queued.proceeds first.status = false) ∨
    (s.decided queued.id = none ∧ queued ∉ s.undecided)

theorem wire_subset (hstep : Step pipelineDepth readChunkBytes s next) : s.wire ⊆ next.wire := by
  refine Step.by_task (motive := fun next => s.wire ⊆ next.wire) hstep
    (fun _ _ _ _ _ => List.Subset.refl _) (fun hwriter => ?_) fun hreader => ?_
  · cases hwriter
    case wrote => exact List.subset_append_left ..
    case posted => exact List.subset_append_left ..
    all_goals exact List.Subset.refl _
  · rw [hreader.frame.wire]
    exact List.Subset.refl _

theorem Resolved.step (h : Resolved s queued) (howned : Owned s) (hordered : Ordered s)
    (hdecided : Decided s) (hmem : queued ∈ s.written)
    (hstep : Step pipelineDepth readChunkBytes s next) : Resolved next queued := by
  rcases h with ⟨hgo, harticle⟩ | ⟨first, hfirst, hrefused⟩ | ⟨hnone, hgone⟩
  · exact .inl ⟨hgo.step hdecided hstep, wire_subset hstep harticle⟩
  · exact .inr (.inl ⟨first, hdecided.stable hstep hfirst, hrefused⟩)
  · have hrequest : queued ∈ s.requests := List.mem_append_left _ hmem
    refine .inr (.inr ⟨?_, fun hback => ?_⟩)
    · rcases decided_step hstep with hsame | ⟨other, word, hs, hundecided, hnext⟩
      · rw [hsame]
        exact hnone
      · have hticket : other ∈ s.reader.tickets ++ s.inflight ++ s.writer.written := by
          rw [hs]
          simp [ReaderState.tickets, ReaderState.active]
        have hother : other ∈ s.requests := List.mem_append_left _ (hordered.tickets other hticket)
        have hne : queued.id ≠ other.id := by
          intro hid
          obtain rfl := howned.eq_of_id hrequest hother hid
          exact hgone (by rw [hundecided]; exact List.mem_cons_self)
        rw [hnext, Function.update_of_ne hne]
        exact hnone
    · rcases mem_undecided_of_step hstep hback with hback | hcall
      · exact hgone hback
      · exact howned.ne_of_sending hcall hrequest rfl

/-- A continuation is resolved before the writer goes on, and stays so after the writer stopped. -/
structure Settled (s : Connection) : Prop where
  past : s.writer.broken = false → ∀ queued ∈ s.written, queued.article.isSome = true →
    queued ∈ s.writer.trail ∨ Resolved s queued
  followed : ∀ before queued after, s.pieces = before ++ .command queued :: after →
    queued.article.isSome = true → ∀ other, Piece.command other ∈ after → Resolved s queued

theorem mem_written_of_command (h : Piece.command queued ∈ s.wire) :
    queued ∈ s.written :=
  List.mem_filterMap.mpr ⟨.command queued, h, rfl⟩

theorem past_writer (h : Settled s) (hallowed : Allowed s)
    (hstep : WriterStep pipelineDepth s next)
    (hkeep : ∀ queued ∈ s.written, Resolved s queued → Resolved next queued)
    (hbroken : next.writer.broken = false) (queued : Queued) (hmem : queued ∈ next.written)
    (harticle : queued.article.isSome = true) :
    queued ∈ next.writer.trail ∨ Resolved next queued := by
  -- The writer keeps what it is not done with, and leaves a continuation when it is resolved.
  have hstays : s.writer.broken = false → queued ∈ s.written →
      (queued ∈ s.writer.trail → queued ∈ next.writer.trail ∨ Resolved next queued) →
      queued ∈ next.writer.trail ∨ Resolved next queued := by
    intro hloop hwritten htrail
    rcases h.past hloop queued hwritten harticle with hbefore | hresolved
    · exact htrail hbefore
    · exact .inr (hkeep queued hwritten hresolved)
  -- Where the writer has nothing on the wire to care for, nothing can leave its trail.
  have hidle : s.writer.broken = false → queued ∈ s.written → s.writer.trail = [] →
      queued ∈ next.writer.trail ∨ Resolved next queued := by
    intro hloop hwritten hnil
    refine hstays hloop hwritten fun hbefore => ?_
    rw [hnil] at hbefore
    cases hbefore
  cases hstep
  case recv hs hqueue => exact hidle (by rw [hs]; rfl) hmem (by rw [hs]; rfl)
  case takeHeld hs => exact hidle (by rw [hs]; rfl) hmem (by rw [hs]; rfl)
  case idle hs hcount => exact hidle (by rw [hs]; rfl) hmem (by rw [hs]; rfl)
  case collect hs hqueue hlength hexclusive => exact hidle (by rw [hs]; rfl) hmem (by rw [hs]; rfl)
  case hold hs hqueue hlength hexclusive => exact hidle (by rw [hs]; rfl) hmem (by rw [hs]; rfl)
  case collected hs hdone => exact hidle (by rw [hs]; rfl) hmem (by rw [hs]; rfl)
  case next held hs => exact hidle (by rw [hs]; rfl) hmem (by rw [hs]; rfl)
  case write piece chunk rest hpiece hbytes hchunk =>
    exact hstays (WriterState.broken_of_piece hpiece) hmem .inl
  case wrote written todo current held hs hsent =>
    have hnext : queued ∈ s.written ∨ queued = current := by
      simpa [Connection.written, Piece.command?] using hmem
    rw [WriterState.trail_writeNext] at hstays ⊢
    rcases hnext with hwritten | rfl
    · refine hstays (by rw [hs]; rfl) hwritten fun hbefore => ?_
      rw [hs] at hbefore
      exact .inl (List.mem_append_left _ hbefore)
    · exact .inl (List.mem_append_right _ (List.mem_singleton_self _))
  case register first pending held hs =>
    refine hstays (by rw [hs]; rfl) hmem fun hbefore => ?_
    rw [hs] at hbefore
    exact .inl hbefore
  case inflight current pending held hs hreader hroom =>
    refine hstays (by rw [hs]; rfl) hmem fun hbefore => ?_
    rw [hs] at hbefore
    left
    split_ifs with hcontinues
    · exact hbefore
    · rcases List.mem_cons.mp hbefore with rfl | hbefore
      · exact absurd harticle hcontinues
      · exact hbefore
  case proceed current pending held first hs hdecided hproceeds =>
    refine hstays (by rw [hs]; rfl) hmem fun hbefore => ?_
    rw [hs] at hbefore
    exact .inl hbefore
  case skip current pending held hs hdecided =>
    refine hstays (by rw [hs]; rfl) hmem fun hbefore => ?_
    rw [hs] at hbefore
    rcases List.mem_cons.mp hbefore with rfl | hbefore
    · exact .inr (hkeep queued hmem (.inr hdecided))
    · exact .inl hbefore
  case posted current pending held hs hsent =>
    have hwritten : queued ∈ s.written := by
      simpa [Connection.written, Piece.command?] using hmem
    refine hstays (by rw [hs]; rfl) hwritten fun hbefore => ?_
    rw [hs] at hbefore
    rcases List.mem_cons.mp hbefore with rfl | hbefore
    · have hgo := hallowed.piece queued (by rw [hs]; rfl)
      exact .inr (.inl ⟨hgo, List.mem_append_right _ (List.mem_singleton_self _)⟩)
    · exact .inl hbefore
  case drain hs hqueue =>
    rw [hs] at hbroken
    cases hbroken
  all_goals cases hbroken

theorem resolved_of_command (h : Settled s) (halone : Alone s)
    (hpiece : s.writer.piece = some (.command other)) (hmem : queued ∈ s.written)
    (harticle : queued.article.isSome = true) : Resolved s queued := by
  -- When the first byte of a command is written, no continuation is left open.
  rcases h.past (WriterState.broken_of_piece hpiece) queued hmem harticle with htrail | hresolved
  · cases hs : s.writer with
    | writing written current todo held =>
      rw [hs] at htrail
      have hbatch := halone.batch queued
      rw [hs] at hbatch
      have hwritten : queued ∈ written := htrail
      obtain ⟨hsingle, -⟩ := hbatch (List.mem_append_left _ hwritten)
        (Queued.exclusive_of_article harticle)
      -- The continuation would be the whole batch, but the current command is in it too.
      have hlength := congrArg List.length hsingle
      have hpositive := List.length_pos_of_mem hwritten
      simp only [WriterState.batch, List.length_append, List.length_cons,
        List.length_nil] at hlength
      omega
    | posting current pending held =>
      rw [hs] at hpiece
      simp [WriterState.piece] at hpiece
    | _ =>
      rw [hs] at hpiece
      cases hpiece
  · exact hresolved

theorem mem_written_of_followed {piece : Piece}
    (hpieces : s.pieces = before ++ .command queued :: after) (hpiece : piece ∈ after) :
    queued ∈ s.written := by
  apply mem_written_of_command
  unfold Connection.pieces at hpieces
  rcases List.eq_nil_or_concat after with rfl | ⟨middle, last, rfl⟩
  · cases hpiece
  · cases hs : s.unfinished with
    | none =>
      rw [hs, Option.toList_none, List.map_nil, List.append_nil] at hpieces
      rw [hpieces]
      simp
    | some part =>
      rw [hs, List.concat_eq_append, ← List.cons_append, ← List.append_assoc] at hpieces
      rw [(List.append_inj' hpieces rfl).1]
      simp

theorem followed_writer (h : Settled s) (halone : Alone s) (hwired : Wired s)
    (hstep : WriterStep pipelineDepth s next)
    (hpieces : next.pieces = before ++ .command queued :: after)
    (harticle : queued.article.isSome = true) (hother : Piece.command other ∈ after) :
    queued ∈ s.written ∧ Resolved s queued := by
  rcases pieces_step hwired hstep with hsame | ⟨piece, hpiece, hunfinished, hadds⟩
  · rw [hsame] at hpieces
    exact ⟨mem_written_of_followed hpieces hother,
      h.followed before queued after hpieces harticle other hother⟩
  · rcases List.eq_nil_or_concat after with rfl | ⟨middle, last, rfl⟩
    · cases hother
    · rw [hadds, List.concat_eq_append, ← List.cons_append, ← List.append_assoc] at hpieces
      obtain ⟨hbefore, hlast⟩ := List.append_inj' hpieces rfl
      obtain rfl := List.singleton_inj.mp hlast
      have hmem : queued ∈ s.written := by
        apply mem_written_of_command
        have hwire : s.pieces = s.wire := by simp [Connection.pieces, hunfinished]
        rw [← hwire, hbefore]
        simp
      rw [List.concat_eq_append, List.mem_append, List.mem_singleton] at hother
      rcases hother with hother | rfl
      · exact ⟨hmem, h.followed before queued middle hbefore harticle other hother⟩
      · exact ⟨hmem, resolved_of_command h halone hpiece hmem harticle⟩

theorem Settled.step (h : Settled s) (howned : Owned s) (hordered : Ordered s) (halone : Alone s)
    (hwired : Wired s) (hdecided : Decided s) (hallowed : Allowed s)
    (hstep : Step pipelineDepth readChunkBytes s next) : Settled next := by
  have hkeep : ∀ queued ∈ s.written, Resolved s queued → Resolved next queued :=
    fun queued hmem hresolved => hresolved.step howned hordered hdecided hmem hstep
  have hsame : next.writer = s.writer → next.wire = s.wire → next.unfinished = s.unfinished →
      Settled next := by
    intro hwriter hwire hunfinished
    have hwritten : next.written = s.written := by
      unfold Connection.written
      rw [hwire]
    have hpieces : next.pieces = s.pieces := by
      unfold Connection.pieces
      rw [hwire, hunfinished]
    refine ⟨?_, ?_⟩
    · rw [hwriter, hwritten]
      intro hbroken queued hmem harticle
      exact (h.past hbroken queued hmem harticle).imp_right (hkeep queued hmem)
    · rw [hpieces]
      intro before queued after heq harticle other hother
      exact hkeep queued (mem_written_of_followed heq hother)
        (h.followed before queued after heq harticle other hother)
  cases hstep with
  | writer hwriter =>
    refine ⟨past_writer h hallowed hwriter hkeep, ?_⟩
    intro before queued after hpieces harticle other hother
    obtain ⟨hmem, hresolved⟩ := followed_writer h halone hwired hwriter hpieces harticle hother
    exact hkeep queued hmem hresolved
  | reader hreader => exact hsame hreader.frame.writer hreader.frame.wire hreader.frame.unfinished
  | _ => exact hsame rfl rfl rfl

/-- The reader's word on a continuation was its first response. -/
def Recorded (s : Connection) : ReaderState → Prop
  | .finishing queued first => s.decided queued.id = some first
  | .storing exchange =>
    exchange.queued.article.isSome = true → s.decided exchange.queued.id = some exchange.first
  | _ => True

structure Answers (s : Connection) : Prop where
  handled : ∀ exchange ∈ s.handled, exchange.queued.article.isSome = true →
    s.decided exchange.queued.id = some exchange.first
  reader : Recorded s s.reader

theorem Recorded.mono {reader : ReaderState} (h : Recorded s reader)
    (hdecided : ∀ id first, s.decided id = some first → next.decided id = some first) :
    Recorded next reader := by
  cases reader with
  | finishing queued first => exact hdecided _ _ h
  | storing exchange => exact fun harticle => hdecided _ _ (h harticle)
  | _ => trivial

theorem Answers.reader_step (h : Answers s) (hstep : ReaderStep readChunkBytes s next)
    (hdecided : ∀ id first, s.decided id = some first → next.decided id = some first) :
    Answers next := by
  have hhandled : ∀ exchange ∈ s.handled, exchange.queued.article.isSome = true →
      next.decided exchange.queued.id = some exchange.first :=
    fun exchange hmem harticle => hdecided _ _ (h.handled exchange hmem harticle)
  have hreader := h.reader
  cases hstep
  case received queued response receiver rounds hs hreceive =>
    refine ⟨hhandled, ?_⟩
    dsimp only
    split_ifs with harticle
    · trivial
    · exact fun hsome => absurd hsome harticle
  case decide queued first hs =>
    refine ⟨hhandled, ?_⟩
    dsimp only
    split_ifs
    · exact Function.update_self ..
    · exact fun _ => Function.update_self ..
  case finished queued first response receiver rounds hs hreceive =>
    rw [hs] at hreader
    exact ⟨hhandled, fun _ => hreader⟩
  case store exchange hs =>
    rw [hs] at hreader
    refine ⟨fun other hmem harticle => ?_, ?_⟩
    · rcases List.mem_append.mp hmem with hmem | hmem
      · exact hhandled other hmem harticle
      · obtain rfl := List.mem_singleton.mp hmem
        exact hreader harticle
    · dsimp only
      cases (exchange.transition s.capabilityList).1 <;> trivial
  case failDrain hs hinflight =>
    refine ⟨hhandled, ?_⟩
    rw [hs]
    trivial
  all_goals exact ⟨hhandled, trivial⟩

theorem Answers.step (h : Answers s) (hdecided : Decided s)
    (hstep : Step pipelineDepth readChunkBytes s next) : Answers next := by
  have hstable : ∀ id first, s.decided id = some first → next.decided id = some first :=
    fun id first => hdecided.stable hstep
  cases hstep with
  | reader hreader => exact h.reader_step hreader hstable
  | writer hwriter =>
    refine ⟨?_, ?_⟩
    · rw [hwriter.frame.handled]
      exact fun exchange hmem harticle => hstable _ _ (h.handled exchange hmem harticle)
    · rw [hwriter.frame.reader]
      exact h.reader.mono hstable
  | _ => exact ⟨h.handled, h.reader⟩

section

variable {events : List ReadEvent} {spare : Nat → Nat}

theorem Reachable.laid (h : Reachable pipelineDepth readChunkBytes events spare s) : Laid s := by
  refine Transitions.Reachable.invariant ?_ (fun _ _ hs hlaid hstep =>
    hlaid.step (Reachable.alone hs) (Reachable.wired hs) hstep) h
  rintro start rfl
  refine ⟨List.nil_suffix, fun before queued after heq => ?_⟩
  simp [Connection.pieces, Connection.new] at heq

theorem Reachable.decided (h : Reachable pipelineDepth readChunkBytes events spare s) :
    Decided s := by
  refine Transitions.Reachable.invariant ?_ (fun _ _ hs hdecided hstep =>
    hdecided.step (Reachable.owned hs) (Reachable.ordered hs) hstep) h
  rintro start rfl
  exact ⟨fun _ _ => rfl, fun id first hfirst => by cases hfirst⟩

theorem Reachable.allowed (h : Reachable pipelineDepth readChunkBytes events spare s) :
    Allowed s := by
  refine Transitions.Reachable.invariant ?_ (fun _ _ hs hallowed hstep =>
    hallowed.step (Reachable.wired hs) (Reachable.decided hs) hstep) h
  rintro start rfl
  refine ⟨fun queued hmem => ?_, fun queued hpiece => ?_⟩
  · cases hmem
  · cases hpiece

theorem Reachable.settled (h : Reachable pipelineDepth readChunkBytes events spare s) :
    Settled s := by
  refine Transitions.Reachable.invariant ?_ (fun _ _ hs hsettled hstep =>
    hsettled.step (Reachable.owned hs) (Reachable.ordered hs) (Reachable.alone hs)
      (Reachable.wired hs) (Reachable.decided hs) (Reachable.allowed hs) hstep) h
  rintro start rfl
  refine ⟨fun _ queued hmem => ?_, fun before queued after heq => ?_⟩
  · cases hmem
  · simp [Connection.pieces, Connection.new] at heq

theorem Reachable.answers (h : Reachable pipelineDepth readChunkBytes events spare s) :
    Answers s := by
  refine Transitions.Reachable.invariant ?_ (fun _ _ hs hanswers hstep =>
    hanswers.step (Reachable.decided hs) hstep) h
  rintro start rfl
  refine ⟨fun exchange hmem => ?_, trivial⟩
  cases hmem

/-- Once the writer is done with a continuation, its article is on the wire exactly if the reader
asked for it. -/
theorem Resolved.article_iff (h : Resolved s queued) (hallowed : Allowed s) :
    Piece.article queued ∈ s.wire ↔ GoAhead s queued := by
  refine ⟨fun hmem => hallowed.pieces queued (List.mem_append_left _ hmem), fun hgo => ?_⟩
  obtain ⟨first, hfirst, hproceeds⟩ := hgo
  rcases h with ⟨-, hmem⟩ | ⟨other, hother, hrefused⟩ | ⟨hnone, -⟩
  · exact hmem
  · rw [hfirst, Option.some.injEq] at hother
    rw [hother, hrefused] at hproceeds
    cases hproceeds
  · rw [hnone] at hfirst
    cases hfirst

theorem Splits.fits {exchanges : List Exchange} {stream rest : Bytes}
    (h : Splits exchanges stream rest) {exchange : Exchange} (hmem : exchange ∈ exchanges) :
    ∃ before after, exchange.Fits before after := by
  induction exchanges generalizing stream with
  | nil => cases hmem
  | cons first others ih =>
    obtain ⟨middle, hfits, hothers⟩ := h
    rcases List.mem_cons.mp hmem with rfl | hmem
    · exact ⟨stream, middle, hfits⟩
    · exact ih hothers hmem

end

theorem complete_of_followed {init after : List (Piece × Bytes)} {part : Piece × Bytes}
    (h : s.parts = init ++ part :: after) :
    init <+: s.wire.map fun piece => (piece, piece.bytes) := by
  rcases List.append_eq_append_iff.mp h with ⟨middle, hinit, hlast⟩ | ⟨middle, hwire, -⟩
  · have hlength := congrArg List.length hlast
    have hshort : s.unfinished.toList.length ≤ 1 := by cases s.unfinished <;> simp
    simp only [List.length_append, List.length_cons] at hlength
    have hnil : middle = [] := List.length_eq_zero_iff.mp (by omega)
    rw [hinit, hnil, List.append_nil]
  · exact ⟨middle, hwire.symm⟩

theorem Owned.command_unique (h : Owned s) {left right : List Piece}
    (hleft : s.wire = left ++ .command queued :: right)
    (hbefore : s.wire = before ++ .command queued :: after) : left = before ∧ right = after := by
  have hnodup : s.written.Nodup := by
    have hids := h.nodup
    rw [Connection.requests, List.map_append] at hids
    exact (List.nodup_append.mp hids).1.of_map
  have hhere : (Piece.command queued).command? = some queued := rfl
  unfold Connection.written at hnodup
  rw [hleft, List.filterMap_append, List.filterMap_cons_some hhere, List.nodup_middle,
    List.nodup_cons, List.mem_append] at hnodup
  have hnot : ∀ pieces : List Piece, queued ∉ pieces.filterMap Piece.command? →
      Piece.command queued ∉ pieces :=
    fun pieces hnone hmem => hnone (List.mem_filterMap.mpr ⟨_, hmem, rfl⟩)
  have hsplit := hleft.symm.trans hbefore
  rw [List.append_cons_inj_of_notMem (hnot _ fun hmem => hnodup.1 (.inl hmem))
    (hnot _ fun hmem => hnodup.1 (.inr hmem))] at hsplit
  exact ⟨hsplit.1, hsplit.2.2⟩

theorem Behind.between {between : List Piece}
    (h : Behind (before ++ .command queued :: (between ++ after)))
    (hbetween : ∀ piece ∈ between, piece.command? = none) :
    between = [] ∨ between = [.article queued] := by
  -- Between a command and the next request stands nothing, or the command's article.
  cases between with
  | nil => exact .inl rfl
  | cons piece rest =>
    cases piece with
    | command other => cases hbetween (.command other) List.mem_cons_self
    | article other =>
      right
      have hfirst := h (before ++ [.command queued]) other (rest ++ after) (by simp)
      obtain rfl : other = queued := by
        have hlast := hfirst.getLast (List.cons_ne_nil _ _)
        simpa using hlast
      cases rest with
      | nil => rfl
      | cons piece more =>
        cases piece with
        | command another =>
          cases hbetween (.command another) (List.mem_cons_of_mem _ List.mem_cons_self)
        | article another =>
          have hsecond := h (before ++ [.command other, .article other]) another (more ++ after)
            (by simp)
          have hlast := hsecond.getLast (List.cons_ne_nil _ _)
          simp at hlast

theorem goAhead_iff (h : s.decided queued.id = some first) :
    GoAhead s queued ↔ queued.proceeds first.status = true := by
  refine ⟨fun ⟨other, hother, hproceeds⟩ => ?_, fun hproceeds => ⟨first, h, hproceeds⟩⟩
  rw [h, Option.some.injEq] at hother
  rwa [hother]

theorem Exchange.Fits.asked {second : Option OwnedResponse} {before after : Bytes}
    (h : Exchange.Fits ⟨queued, first, second⟩ before after)
    (hdecided : s.decided queued.id = some first) (harticle : queued.article.isSome = true) :
    (GoAhead s queued ∧ second = some (second.getD first)) ∨
      (¬ GoAhead s queued ∧ second = none ∧ second.getD first = first) := by
  rw [goAhead_iff hdecided]
  unfold Exchange.Fits at h
  cases second with
  | none =>
    right
    have hrefused := h.1
    rw [harticle, Bool.true_and] at hrefused
    exact ⟨by simp [hrefused], rfl, rfl⟩
  | some response =>
    left
    have hproceeds := h.1
    rw [harticle, Bool.true_and] at hproceeds
    exact ⟨hproceeds, rfl⟩

theorem Reachable.between {events : List ReadEvent} {spare : Nat → Nat}
    (h : Reachable pipelineDepth readChunkBytes events spare s)
    {before between after : List (Piece × Bytes)} {line start : Bytes}
    (harticle : queued.article.isSome = true)
    (hparts : s.parts = before ++ (.command queued, line) ::
      (between ++ (.command other, start) :: after))
    (hbetween : ∀ part ∈ between, part.1.command? = none) :
    line = queued.request.writeWireTo ∧
      ((between = [] ∧ ¬ GoAhead s queued) ∨
        (between = [(.article queued, writeDotStuffedArticle (queued.article.getD []))] ∧
          GoAhead s queued)) := by
  have hpieces : s.pieces = before.map Prod.fst ++ .command queued ::
      (between.map Prod.fst ++ .command other :: after.map Prod.fst) := by
    rw [← s.map_fst_parts, hparts]
    simp
  have hfront : before ++ (.command queued, line) :: between <+:
      s.wire.map fun piece => (piece, piece.bytes) := by
    have hsplit : s.parts = (before ++ (.command queued, line) :: between) ++
        (.command other, start) :: after := by
      rw [hparts]
      simp
    exact complete_of_followed hsplit
  have hcomplete : ∀ part ∈ before ++ (.command queued, line) :: between,
      part.2 = part.1.bytes := by
    intro part hmem
    obtain ⟨piece, -, rfl⟩ := List.mem_map.mp (hfront.subset hmem)
    rfl
  have hresolved : Resolved s queued :=
    h.settled.followed _ queued _ hpieces harticle other (by simp)
  refine ⟨hcomplete (.command queued, line) (by simp), ?_⟩
  have hbehind := h.laid.behind
  rw [hpieces] at hbehind
  have hkinds := hbehind.between (fun piece hmem => by
    obtain ⟨part, hpart, rfl⟩ := List.mem_map.mp hmem
    exact hbetween part hpart)
  rcases hkinds with hnone | harticles
  · obtain rfl := List.map_eq_nil_iff.mp hnone
    refine .inl ⟨rfl, fun hgo => ?_⟩
    -- The article would stand right behind the command, where the next command is.
    obtain ⟨left, right, hwire⟩ := List.append_of_mem ((hresolved.article_iff h.allowed).mpr hgo)
    have hsplit : s.pieces = left ++ .article queued ::
        (right ++ s.unfinished.toList.map Prod.fst) := by
      rw [Connection.pieces, hwire]
      simp
    obtain ⟨earlier, rfl⟩ := h.laid.behind left queued _ hsplit
    obtain ⟨later, hlater⟩ := hfront
    have hcommand : s.wire = before.map Prod.fst ++ .command queued :: later.map Prod.fst := by
      have hfst := congrArg (List.map Prod.fst) hlater
      simpa [Function.comp_def] using hfst.symm
    have hnext : s.wire = earlier ++ .command queued :: .article queued :: right := by
      rw [hwire]
      simp
    obtain ⟨rfl, -⟩ := h.owned.command_unique hnext hcommand
    rw [hsplit, List.map_nil, List.nil_append, List.append_assoc] at hpieces
    simp at hpieces
  · obtain ⟨part, rfl, hpart⟩ := List.map_eq_singleton_iff.mp harticles
    have hbytes := hcomplete part (by simp)
    obtain ⟨piece, bytes⟩ := part
    obtain rfl : piece = .article queued := hpart
    obtain rfl : bytes = (Piece.article queued).bytes := hbytes
    exact .inr ⟨rfl, h.allowed.pieces queued (by rw [hpieces]; simp)⟩

/-- For every interleaving: the bytes of an article are on the wire only after the reader asked
for it; between the command and the next request there is nothing, or the whole article if it was
asked for; while the writer is in its loop, an article it is done with is on the wire exactly if it
was asked for; and the caller gets the second response if it was, and the first one otherwise. -/
theorem articles_are_sent_when_asked_for (pipelineDepth readChunkBytes : Nat)
    (events : List ReadEvent) (spare : Nat → Nat) (s : Connection)
    (h : Reachable pipelineDepth readChunkBytes events spare s) :
    s.output = s.parts.flatMap Prod.snd ∧
      (∀ queued bytes, (Piece.article queued, bytes) ∈ s.parts → GoAhead s queued) ∧
      (∀ before queued line between other start after, queued.article.isSome = true →
        s.parts = before ++ (.command queued, line) ::
          (between ++ (.command other, start) :: after) →
        (∀ part ∈ between, part.1.command? = none) →
          line = queued.request.writeWireTo ∧
            ((between = [] ∧ ¬ GoAhead s queued) ∨
              (between = [(.article queued, writeDotStuffedArticle (queued.article.getD []))] ∧
                GoAhead s queued))) ∧
      (s.writer.broken = false → ∀ queued ∈ s.written, queued.article.isSome = true →
        queued ∉ s.writer.trail → (Piece.article queued ∈ s.wire ↔ GoAhead s queued)) ∧
      (∀ id operation completed, s.calls id = some ⟨operation, .finished (.ok completed)⟩ →
        operation.article.isSome = true →
          ∃ first second, ⟨⟨id, operation⟩, first, second⟩ ∈ s.handled ∧
            s.decided id = some first ∧
            (∃ before after, Exchange.Fits ⟨⟨id, operation⟩, first, second⟩ before after) ∧
            ((GoAhead s ⟨id, operation⟩ ∧ second = some completed.response) ∨
              (¬ GoAhead s ⟨id, operation⟩ ∧ second = none ∧ completed.response = first))) := by
  refine ⟨s.output_eq_parts, ?_, ?_, ?_, ?_⟩
  · intro queued bytes hmem
    apply h.allowed.pieces
    rw [← s.map_fst_parts]
    exact List.mem_map_of_mem hmem
  · intro before queued line between other start after harticle hparts hbetween
    exact h.between harticle hparts hbetween
  · intro hbroken queued hmem harticle htrail
    rcases h.settled.past hbroken queued hmem harticle with hbefore | hresolved
    · exact absurd hbefore htrail
    · exact hresolved.article_iff h.allowed
  · intro id operation completed hcall harticle
    obtain ⟨⟨queued, first, second⟩, hmem, rfl, rfl, -⟩ := h.finished id operation completed hcall
    obtain rfl : queued.operation = operation := h.operation_of_handled hmem hcall
    obtain ⟨middle, hsplits, -⟩ := h.matched
    obtain ⟨before, after, hfits⟩ := hsplits.fits hmem
    have hdecided : s.decided queued.id = some first := h.answers.handled _ hmem harticle
    refine ⟨first, second, hmem, hdecided, ⟨before, after, hfits⟩, ?_⟩
    exact hfits.asked hdecided harticle

/-- The article is on the wire, and its caller has the second response. -/
theorem posting_is_sent_when_asked_for :
    ∃ s, Reachable 1 64 postingServer (fun _ => 4096) s ∧ Piece.article posting ∈ s.wire ∧
      ∃ second, (⟨posting, articleWanted, second⟩ : Exchange) ∈ s.handled ∧
        second = some articleReceived := by
  obtain ⟨s, hreachable, -, hcall, hwriter, hwritten, hdecided⟩ := postingServer_takes_posting
  obtain ⟨-, -, -, hdone, hreturned⟩ :=
    articles_are_sent_when_asked_for 1 64 postingServer (fun _ => 4096) s hreachable
  have hgo : GoAhead s posting := ⟨articleWanted, hdecided, by decide⟩
  have hmem : posting ∈ s.written := by
    rw [hwritten]
    decide
  have harticle :=
    (hdone (by rw [hwriter]; rfl) posting hmem rfl (by rw [hwriter]; exact nofun)).mpr hgo
  obtain ⟨first, second, hhandled, hfirst, -, hcases⟩ := hreturned _ _ _ hcall rfl
  obtain rfl : articleWanted = first := by
    rw [hdecided, Option.some.injEq] at hfirst
    exact hfirst
  rcases hcases with ⟨-, hsecond⟩ | ⟨hnot, -⟩
  · exact ⟨s, hreachable, harticle, second, hhandled, hsecond⟩
  · exact absurd hgo hnot

/-- The reader waits for the second response, and may have it, before the article is written; and at
an end of file it stops the writer, which then never writes the article it was asked for. -/
theorem second_response_before_the_article :
    (¬ ∀ s, Reachable 1 64 postingServer (fun _ => 4096) s → ∀ queued first second,
      s.reader = .storing ⟨queued, first, some second⟩ → Piece.article queued ∈ s.wire) ∧
      ¬ ∀ s, Reachable 1 64 closingServer (fun _ => 4096) s → s.writer = .stopped →
        ∀ queued ∈ s.written, queued.article.isSome = true → GoAhead s queued →
          Piece.article queued ∈ s.wire := by
  constructor
  · intro h
    obtain ⟨s, hreachable, hreader, -, hwire, -⟩ := postingServer_answers_early
    have hmem := h s hreachable posting articleWanted articleReceived hreader
    rw [hwire] at hmem
    revert hmem
    decide
  · intro h
    obtain ⟨s, hreachable, hstopped, hwire, -, hdecided⟩ := closingServer_stops_writer
    have hwritten : posting ∈ s.written := by
      rw [Connection.written, hwire]
      decide
    have hmem := h s hreachable hstopped posting hwritten rfl ⟨articleWanted, hdecided, by decide⟩
    rw [hwire] at hmem
    revert hmem
    decide

end NntpBench.Client
