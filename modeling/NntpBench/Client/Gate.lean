import NntpBench.Client.Order

namespace NntpBench.Client

open Protocol

variable {queued : Queued}

variable {pipelineDepth readChunkBytes : Nat} {s next : Connection}

namespace WriterState

def held : WriterState → Option Queued
  | .ready held => held
  | .writing _ _ _ held => held
  | .registering _ held => held
  | .sending _ _ held => held
  | .awaiting _ _ held => held
  | .posting _ _ held => held
  | _ => none

def batch : WriterState → List Queued
  | .collecting batch => batch
  | .writing written current todo _ => written ++ current :: todo
  | .registering pending _ => pending
  | .sending current pending _ => current :: pending
  | _ => []

def collects : WriterState → List Queued
  | .collecting batch => batch
  | _ => []

/-- The continuation whose article the writer may have to send. -/
def continuing : WriterState → Option Queued
  | .awaiting current _ _ => some current
  | .posting current _ _ => some current
  | _ => none

theorem batch_writeNext (written todo : List Queued) (held : Option Queued) :
    (writeNext written todo held).batch = written ++ todo := by
  cases todo <;> simp [writeNext, batch]

theorem held_writeNext (written todo : List Queued) (held : Option Queued) :
    (writeNext written todo held).held = held := by
  cases todo <;> rfl

theorem collects_writeNext (written todo : List Queued) (held : Option Queued) :
    (writeNext written todo held).collects = [] := by
  cases todo <;> rfl

theorem mem_batch_of_collects {writer : WriterState}
    (h : queued ∈ writer.collects) : queued ∈ writer.batch := by
  cases writer <;> first | exact h | cases h

theorem continuing_writeNext (written todo : List Queued) (held : Option Queued) :
    (writeNext written todo held).continuing = none := by
  cases todo <;> rfl

theorem continuing_of_broken {writer : WriterState} (h : writer.broken = true) :
    writer.continuing = none := by
  cases writer <;> first | rfl | cases h

theorem broken_of_piece {writer : WriterState} {piece : Piece} (h : writer.piece = some piece) :
    writer.broken = false := by
  cases writer <;> first | rfl | cases h

theorem continuing_start (first : Queued) : (start first).continuing = none := by
  unfold start
  split_ifs <;> rfl

end WriterState

theorem Queued.kind_of_article (h : queued.article.isSome = true) :
    queued.kind = .post ∨ queued.kind = .ihave := by
  obtain ⟨id, operation⟩ := queued
  cases operation with
  | postArticle article => exact .inl rfl
  | ihaveArticle messageId article => exact .inr rfl
  | _ => cases h

theorem Queued.exclusive_of_article (h : queued.article.isSome = true) :
    queued.exclusive = true := by
  unfold exclusive
  rcases kind_of_article h with hkind | hkind <;> rw [hkind] <;> rfl

/-- An exclusive request is alone with the writer, and from the moment the gate was idle until it
is in flight no response is outstanding. -/
structure Alone (s : Connection) : Prop where
  batch : ∀ queued ∈ s.writer.batch, queued.exclusive = true → s.writer.batch = [queued] ∧
    s.writer.held = none ∧ s.reader.opened = [] ∧ s.inflight = []
  collects : ∀ queued ∈ s.writer.collects, queued.exclusive = false
  continuing : ∀ current, s.writer.continuing = some current → s.writer.tickets = [] ∧
    current.article.isSome = true ∧ ∀ queued ∈ s.reader.opened ++ s.inflight, queued = current

namespace Alone

theorem of_shared {writer : WriterState} (hs : s.writer = writer)
    (hbatch : ∀ queued ∈ writer.batch, queued.exclusive = false)
    (hcontinuing : writer.continuing = none) : Alone s where
  batch queued hmem hexclusive := by
    rw [hs] at hmem
    rw [hbatch queued hmem] at hexclusive
    cases hexclusive
  collects queued hmem := by
    rw [hs] at hmem
    exact hbatch queued (WriterState.mem_batch_of_collects hmem)
  continuing current hcurrent := by
    rw [hs, hcontinuing] at hcurrent
    cases hcurrent

theorem of_empty {writer : WriterState} (hs : s.writer = writer) (hbatch : writer.batch = [])
    (hcontinuing : writer.continuing = none) : Alone s := by
  refine of_shared hs (fun queued hmem => ?_) hcontinuing
  rw [hbatch] at hmem
  cases hmem

theorem start {first : Queued} (hs : s.writer = .start first) : Alone s := by
  unfold WriterState.start at hs
  split_ifs at hs with hexclusive hlarge
  · exact of_empty hs rfl rfl
  · refine of_shared hs ?_ rfl
    simpa [WriterState.batch] using hexclusive
  · refine of_shared hs ?_ rfl
    simpa [WriterState.batch] using hexclusive

theorem of_batch_eq (h : Alone s) {writer : WriterState} (hs : next.writer = writer)
    (hbatch : writer.batch = s.writer.batch) (hheld : writer.held = s.writer.held)
    (hcollects : writer.collects = []) (hcontinuing : writer.continuing = none)
    (hreader : next.reader = s.reader) (hinflight : next.inflight = s.inflight) : Alone next where
  batch queued hmem hexclusive := by
    rw [hs, hbatch] at hmem
    rw [hs, hbatch, hheld, hreader, hinflight]
    exact h.batch queued hmem hexclusive
  collects queued hmem := by
    rw [hs, hcollects] at hmem
    cases hmem
  continuing current hcurrent := by
    rw [hs, hcontinuing] at hcurrent
    cases hcurrent

theorem of_continuing {current : Queued} {writer : WriterState} (hs : s.writer = writer)
    (hcurrent : writer.continuing = some current) (htickets : writer.tickets = [])
    (hbatch : writer.batch = []) (hcollects : writer.collects = [])
    (harticle : current.article.isSome = true)
    (honly : ∀ queued ∈ s.reader.opened ++ s.inflight, queued = current) : Alone s where
  batch queued hmem := by
    rw [hs, hbatch] at hmem
    cases hmem
  collects queued hmem := by
    rw [hs, hcollects] at hmem
    cases hmem
  continuing other hother := by
    rw [hs, hcurrent, Option.some.injEq] at hother
    subst hother
    exact ⟨by rw [hs, htickets], harticle, honly⟩

theorem registering (h : Alone s) {current : Queued} {pending : List Queued} {held : Option Queued}
    (hs : s.writer = .awaiting current pending held ∨ s.writer = .posting current pending held)
    (hnext : next.writer = .registering pending held) : Alone next := by
  have hempty : pending = [] := by
    rcases hs with hs | hs <;>
      · have hcurrent := (h.continuing current (by rw [hs]; rfl)).1
        rw [hs] at hcurrent
        exact (List.append_eq_nil_iff.mp hcurrent).1
  subst hempty
  exact of_empty hnext rfl rfl

theorem writer (h : Alone s) (hcounted : Counted s) (hstep : WriterStep pipelineDepth s next) :
    Alone next := by
  cases hstep
  case recv => exact start rfl
  case takeHeld => exact start rfl
  case idle first hs hidle =>
    obtain ⟨hopened, hinflight⟩ := hcounted.idle hidle
    refine ⟨fun queued hmem _ => ?_, fun queued hmem => ?_, fun current hcurrent => ?_⟩
    · obtain rfl : queued = first := by simpa [WriterState.batch] using hmem
      exact ⟨rfl, rfl, hopened, hinflight⟩
    · cases hmem
    · cases hcurrent
  case collect batch rest queued hs hqueue hlength halone =>
    have hcollects := h.collects
    rw [hs] at hcollects
    refine of_shared rfl (fun other hmem => ?_) rfl
    rcases List.mem_append.mp hmem with hmem | hmem
    · exact hcollects other hmem
    · rw [List.mem_singleton.mp hmem]
      exact (Bool.or_eq_false_iff.mp halone).1
  case hold batch rest queued hs hqueue hlength halone =>
    refine of_shared rfl ?_ (WriterState.continuing_writeNext ..)
    have hcollects := h.collects
    rw [hs] at hcollects
    rw [WriterState.batch_writeNext]
    exact hcollects
  case collected batch hs hdone =>
    refine of_shared rfl ?_ (WriterState.continuing_writeNext ..)
    have hcollects := h.collects
    rw [hs] at hcollects
    rw [WriterState.batch_writeNext]
    exact hcollects
  case write => exact ⟨h.batch, h.collects, h.continuing⟩
  case wrote written todo current held hs hsent =>
    refine h.of_batch_eq rfl ?_ ?_ (WriterState.collects_writeNext ..)
      (WriterState.continuing_writeNext ..) rfl rfl
    · rw [WriterState.batch_writeNext, hs]
      simp [WriterState.batch]
    · rw [WriterState.held_writeNext, hs]
      rfl
  case register queued pending held hs =>
    exact h.of_batch_eq rfl (by rw [hs]; rfl) (by rw [hs]; rfl) rfl rfl rfl rfl
  case inflight current pending held hs hreader hroom =>
    have hbatch := h.batch
    rw [hs] at hbatch
    split_ifs with harticle
    · obtain ⟨hsingle, hheld, hopened, hinflight⟩ := hbatch current (by simp [WriterState.batch])
        (Queued.exclusive_of_article harticle)
      refine of_continuing rfl rfl ?_ rfl rfl harticle ?_
      · simp only [WriterState.batch, List.cons.injEq, true_and] at hsingle
        simp only [WriterState.held] at hheld
        simp [WriterState.tickets, WriterState.written, WriterState.unwritten, hsingle, hheld]
      · simp [hopened, hinflight]
    · refine of_shared rfl (fun queued hmem => ?_) rfl
      by_contra hexclusive
      -- An exclusive request would have been the whole batch, but `current` is in it as well.
      have hsingle := (hbatch queued (List.mem_cons_of_mem _ hmem) (by simpa using hexclusive)).1
      simp only [WriterState.batch, List.cons.injEq] at hsingle
      rw [hsingle.2] at hmem
      cases hmem
  case proceed current pending held first hs hdecided hproceeds =>
    obtain ⟨htickets, harticle, honly⟩ := h.continuing current (by rw [hs]; rfl)
    rw [hs] at htickets
    exact of_continuing rfl rfl htickets rfl rfl harticle honly
  case skip current pending held hs hdecided => exact h.registering (.inl hs) rfl
  case posted current pending held hs hsent => exact h.registering (.inr hs) rfl
  case drain hs hqueue => exact of_empty hs rfl rfl
  all_goals exact of_empty rfl rfl rfl

theorem reader (h : Alone s) (hstep : ReaderStep readChunkBytes s next) : Alone next := by
  have hsublist := hstep.opened_sublist
  refine ⟨?_, ?_, ?_⟩ <;> rw [hstep.frame.writer]
  · intro queued hmem hexclusive
    obtain ⟨hsingle, hheld, hopened, hinflight⟩ := h.batch queued hmem hexclusive
    rw [hopened, hinflight] at hsublist
    obtain ⟨hopened, hinflight⟩ := List.append_eq_nil_iff.mp (List.sublist_nil.mp hsublist)
    exact ⟨hsingle, hheld, hopened, hinflight⟩
  · exact h.collects
  · intro current hcurrent
    obtain ⟨htickets, harticle, honly⟩ := h.continuing current hcurrent
    exact ⟨htickets, harticle, fun queued hmem => honly queued (hsublist.subset hmem)⟩

theorem step (h : Alone s) (hcounted : Counted s)
    (hstep : Step pipelineDepth readChunkBytes s next) : Alone next :=
  hstep.by_task (fun _ _ _ _ _ => ⟨h.batch, h.collects, h.continuing⟩)
    (h.writer hcounted) h.reader

end Alone

/-- The bytes in progress are those of the writer's current piece, and a request with bytes on the
wire is either completely written or that piece's. -/
structure Wired (s : Connection) : Prop where
  unfinished : s.writer.broken = false → ∀ part ∈ s.unfinished, s.writer.piece = some part.1
  articles : ∀ queued, Piece.article queued ∈ s.wire → queued ∈ s.written
  continuing : ∀ current, s.writer.continuing = some current → current ∈ s.written

namespace Wired

theorem unfinished_eq_none (h : Wired s) (hbroken : s.writer.broken = false)
    (hpiece : s.writer.piece = none) : s.unfinished = none := by
  by_contra hne
  obtain ⟨part, hpart⟩ := Option.ne_none_iff_exists'.mp hne
  have hcurrent := h.unfinished hbroken part hpart
  rw [hpiece] at hcurrent
  cases hcurrent

theorem of_idle (h : Wired s) {writer : WriterState} (hs : s.writer = writer)
    (hbroken : writer.broken = false) (hpiece : writer.piece = none) (hwire : next.wire = s.wire)
    (hunfinished : next.unfinished = s.unfinished)
    (hcontinuing : ∀ current, next.writer.continuing = some current → current ∈ s.written) :
    Wired next := by
  refine ⟨fun _ part hpart => ?_, ?_, ?_⟩
  · rw [hunfinished, h.unfinished_eq_none (hs ▸ hbroken) (hs ▸ hpiece)] at hpart
    cases hpart
  · unfold Connection.written
    rw [hwire]
    exact h.articles
  · unfold Connection.written
    rw [hwire]
    exact hcontinuing

theorem of_idle_of_none (h : Wired s) {writer : WriterState} (hs : s.writer = writer)
    (hbroken : writer.broken = false) (hpiece : writer.piece = none) (hwire : next.wire = s.wire)
    (hunfinished : next.unfinished = s.unfinished) (hcontinuing : next.writer.continuing = none) :
    Wired next := by
  refine h.of_idle hs hbroken hpiece hwire hunfinished fun current hcurrent => ?_
  rw [hcontinuing] at hcurrent
  cases hcurrent

theorem of_broken (h : Wired s) (hbroken : next.writer.broken = true) (hwire : next.wire = s.wire) :
    Wired next := by
  refine ⟨fun hnot => ?_, ?_, fun current hcurrent => ?_⟩
  · rw [hbroken] at hnot
    cases hnot
  · unfold Connection.written
    rw [hwire]
    exact h.articles
  · rw [WriterState.continuing_of_broken hbroken] at hcurrent
    cases hcurrent

theorem writer (h : Wired s) (hordered : Ordered s) (hstep : WriterStep pipelineDepth s next) :
    Wired next := by
  cases hstep
  case recv hs hqueue =>
    exact h.of_idle_of_none hs rfl rfl rfl rfl (WriterState.continuing_start ..)
  case takeHeld hs =>
    exact h.of_idle_of_none hs rfl rfl rfl rfl (WriterState.continuing_start ..)
  case hold hs hqueue hlength halone =>
    exact h.of_idle_of_none hs rfl rfl rfl rfl (WriterState.continuing_writeNext ..)
  case collected hs hdone =>
    exact h.of_idle_of_none hs rfl rfl rfl rfl (WriterState.continuing_writeNext ..)
  case idle hs hidle => exact h.of_idle_of_none hs rfl rfl rfl rfl rfl
  case collect hs hqueue hlength halone => exact h.of_idle_of_none hs rfl rfl rfl rfl rfl
  case register hs => exact h.of_idle_of_none hs rfl rfl rfl rfl rfl
  case next hs => exact h.of_idle_of_none hs rfl rfl rfl rfl rfl
  case skip hs hdecided => exact h.of_idle_of_none hs rfl rfl rfl rfl rfl
  case proceed current pending held first hs hdecided hproceeds =>
    refine h.of_idle hs rfl rfl rfl rfl ?_
    rintro _ ⟨⟩
    exact h.continuing current (by rw [hs]; rfl)
  case inflight current pending held hs hreader hroom =>
    refine h.of_idle hs rfl rfl rfl rfl fun queued hqueued => ?_
    have hcurrent : current ∈ s.written := by
      apply hordered.tickets
      rw [hs]
      simp [WriterState.written]
    split_ifs at hqueued
    · obtain rfl : current = queued := by simpa [WriterState.continuing] using hqueued
      exact hcurrent
    · cases hqueued
  case write piece chunk rest hpiece hbytes hchunk =>
    refine ⟨?_, h.articles, h.continuing⟩
    rintro _ part ⟨⟩
    exact hpiece
  case wrote written todo current held hs hsent =>
    refine ⟨fun _ part hpart => ?_, fun queued hmem => ?_, fun queued hqueued => ?_⟩
    · cases hpart
    · have hbefore : Piece.article queued ∈ s.wire := by simpa using hmem
      simp only [Connection.written, List.filterMap_append, List.mem_append]
      exact .inl (h.articles queued hbefore)
    · rw [WriterState.continuing_writeNext] at hqueued
      cases hqueued
  case posted current pending held hs hsent =>
    refine ⟨fun _ part hpart => ?_, fun queued hmem => ?_, fun queued hqueued => ?_⟩
    · cases hpart
    · simp only [Connection.written, List.filterMap_append, List.mem_append]
      left
      rcases List.mem_append.mp hmem with hmem | hmem
      · exact h.articles queued hmem
      · obtain rfl : queued = current := by simpa using hmem
        exact h.continuing queued (by rw [hs]; rfl)
    · cases hqueued
  case drain hs hqueue => exact h.of_broken (by rw [hs]; rfl) rfl
  all_goals exact h.of_broken rfl rfl

theorem reader (h : Wired s) (hstep : ReaderStep readChunkBytes s next) : Wired next := by
  have hframe := hstep.frame
  refine ⟨?_, ?_, ?_⟩
  · rw [hframe.writer, hframe.unfinished]
    exact h.unfinished
  · unfold Connection.written
    rw [hframe.wire]
    exact h.articles
  · unfold Connection.written
    rw [hframe.writer, hframe.wire]
    exact h.continuing

theorem step (h : Wired s) (hordered : Ordered s)
    (hstep : Step pipelineDepth readChunkBytes s next) : Wired next :=
  hstep.by_task (fun _ _ _ _ _ => ⟨h.unfinished, h.articles, h.continuing⟩) (h.writer hordered)
    h.reader

end Wired

namespace Connection

theorem bytesOf_congr (hwire : next.wire = s.wire) (hunfinished : next.unfinished = s.unfinished)
    (queued : Queued) : next.bytesOf queued = s.bytesOf queued := by
  unfold bytesOf
  rw [hwire, hunfinished]

theorem bytesOf_eq (s : Connection) (queued : Queued) :
    s.bytesOf queued = (s.wire.flatMap fun piece => if piece.queued = queued then piece.bytes
      else []) ++
      s.unfinished.elim [] fun part => if part.1.queued = queued then part.2 else [] := by
  unfold bytesOf
  rw [List.flatMap_append, List.flatMap_map]
  cases s.unfinished <;> simp

theorem bytesOf_finish {piece : Piece} (hpart : ∀ part ∈ s.unfinished, part.1 = piece)
    (hsent : s.sent = piece.bytes) (hwire : next.wire = s.wire ++ [piece])
    (hunfinished : next.unfinished = none) (queued : Queued) :
    next.bytesOf queued = s.bytesOf queued := by
  rw [bytesOf_eq, bytesOf_eq, hwire, hunfinished, List.flatMap_append]
  cases hs : s.unfinished with
  | none =>
    rw [sent, hs] at hsent
    simp [← hsent]
  | some part =>
    rw [sent, hs] at hsent
    simp [hpart part hs, ← hsent]

theorem exists_of_bytesOf (h : s.bytesOf queued ≠ []) :
    (∃ piece ∈ s.wire, piece.queued = queued) ∨ ∃ part ∈ s.unfinished, part.1.queued = queued := by
  by_contra hnone
  push Not at hnone
  apply h
  rw [bytesOf_eq, List.append_eq_nil_iff]
  constructor
  · rw [List.flatMap_eq_nil_iff]
    exact fun piece hmem => if_neg (hnone.1 piece hmem)
  · cases hs : s.unfinished with
    | none => rfl
    | some part => exact if_neg (hnone.2 part hs)

end Connection

namespace Wired

theorem written_or_current (h : Wired s) (hbroken : s.writer.broken = false)
    (hbytes : s.bytesOf queued ≠ []) :
    queued ∈ s.written ∨ ∃ piece, s.writer.piece = some piece ∧ piece.queued = queued := by
  rcases Connection.exists_of_bytesOf hbytes with ⟨piece, hmem, rfl⟩ | ⟨part, hpart, rfl⟩
  · left
    cases piece with
    | command queued => exact List.mem_filterMap.mpr ⟨.command queued, hmem, rfl⟩
    | article queued => exact h.articles queued hmem
  · exact .inr ⟨part.1, h.unfinished hbroken part hpart, rfl⟩

theorem current_of_bytesOf_ne (h : Wired s) (hstep : Step pipelineDepth readChunkBytes s next)
    (hne : next.bytesOf queued ≠ s.bytesOf queued) :
    ∃ piece, s.writer.piece = some piece ∧ piece.queued = queued := by
  -- Only the writer's current piece gets bytes onto the wire.
  revert hne
  refine Step.by_task (motive := fun next => next.bytesOf queued ≠ s.bytesOf queued → _) hstep
    (fun _ _ _ _ _ hne => absurd rfl hne) (fun hwriter hne => ?_) fun hreader hne => ?_
  · cases hwriter
    case write piece chunk rest hpiece hbytes hchunk =>
      refine ⟨piece, hpiece, ?_⟩
      by_contra hother
      apply hne
      have hbroken := WriterState.broken_of_piece hpiece
      rw [Connection.bytesOf_eq, Connection.bytesOf_eq]
      congr 1
      cases hs : s.unfinished with
      | none => exact if_neg hother
      | some part =>
        have heq := h.unfinished hbroken part hs
        rw [hpiece, Option.some.injEq] at heq
        rw [Option.elim_some, Option.elim_some, ← heq, if_neg hother, if_neg hother]
    case wrote written todo current held hs hsent =>
      refine absurd (Connection.bytesOf_finish (fun part hpart => ?_) hsent rfl rfl queued) hne
      have heq := h.unfinished (by rw [hs]; rfl) part hpart
      rw [hs] at heq
      exact (Option.some.inj heq).symm
    case posted current pending held hs hsent =>
      refine absurd (Connection.bytesOf_finish (fun part hpart => ?_) hsent rfl rfl queued) hne
      have heq := h.unfinished (by rw [hs]; rfl) part hpart
      rw [hs] at heq
      exact (Option.some.inj heq).symm
    all_goals exact absurd rfl hne
  · exact absurd (Connection.bytesOf_congr hreader.frame.wire hreader.frame.unfinished queued) hne

end Wired

variable {events : List ReadEvent} {spare : Nat → Nat}

theorem Reachable.alone (h : Reachable pipelineDepth readChunkBytes events spare s) : Alone s := by
  refine Transitions.Reachable.invariant ?_ (fun _ _ hs halone hstep =>
    halone.step (Reachable.counted hs) hstep) h
  rintro start rfl
  exact Alone.of_empty rfl rfl rfl

theorem Reachable.wired (h : Reachable pipelineDepth readChunkBytes events spare s) : Wired s := by
  refine Transitions.Reachable.invariant ?_ (fun _ _ hs hwired hstep =>
    hwired.step (Reachable.ordered hs) hstep) h
  rintro start rfl
  refine ⟨fun _ part hpart => ?_, fun queued hmem => ?_, fun queued hqueued => ?_⟩
  · cases hpart
  · cases hmem
  · cases hqueued

end NntpBench.Client
