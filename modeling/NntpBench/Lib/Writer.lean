import Mathlib

namespace Writer

variable {α σ : Type*}

/-- `IoSlice::advance_slices`: the slices behind the first `n` elements. Slices that are used up
are dropped, also empty ones at the cut. -/
def advanceSlices : List (List α) → Nat → List (List α)
  | [], _ => []
  | buf :: bufs, n =>
    if buf.length ≤ n then advanceSlices bufs (n - buf.length) else buf.drop n :: bufs

theorem flatten_advanceSlices (slices : List (List α)) (n : Nat) :
    (advanceSlices slices n).flatten = slices.flatten.drop n := by
  induction slices generalizing n with
  | nil => simp [advanceSlices]
  | cons buf bufs ih =>
    unfold advanceSlices
    split_ifs with hle
    · rw [ih, List.flatten_cons, List.drop_append, List.drop_eq_nil_of_le hle, List.nil_append]
    · rw [List.flatten_cons, List.flatten_cons, List.drop_append_of_le_length (by omega)]

theorem advanceSlices_of_le {slices : List (List α)} {n : Nat} (h : slices.flatten.length ≤ n) :
    advanceSlices slices n = [] := by
  induction slices generalizing n with
  | nil => rfl
  | cons buf bufs ih =>
    rw [List.flatten_cons, List.length_append] at h
    unfold advanceSlices
    rw [if_pos (by omega)]
    apply ih
    omega

/-- A writer answers an offer with how many of the first elements it takes. -/
structure AsyncWrite (α σ : Type*) where
  pollWrite : σ → List α → Nat × σ
  pollWriteVectored : σ → List (List α) → Nat × σ

/-- The writer takes at least one element when there is one, and only what it is offered. -/
structure AsyncWrite.Accepts (writer : AsyncWrite α σ) : Prop where
  pollWrite_pos : ∀ state buf, buf ≠ [] → 0 < (writer.pollWrite state buf).1
  pollWrite_le : ∀ state buf, (writer.pollWrite state buf).1 ≤ buf.length
  pollWriteVectored_pos : ∀ state slices, slices.flatten ≠ [] →
    0 < (writer.pollWriteVectored state slices).1
  pollWriteVectored_le : ∀ state slices,
    (writer.pollWriteVectored state slices).1 ≤ slices.flatten.length

/-- A writer's state and all that it has taken. -/
structure Output (α σ : Type*) where
  state : σ
  delivered : List α

inductive WriteError where
  | writeZero
  /-- The writer claims more than it was offered, and the caller's slicing panics. -/
  | pastEnd
  | invalidData
  deriving DecidableEq, Repr

def writeAll (writer : AsyncWrite α σ) (buf : List α) (out : Output α σ) :
    Except WriteError (Output α σ) :=
  if buf.isEmpty then .ok out
  else
    match writer.pollWrite out.state buf with
    | (written, state) =>
      if written > buf.length then .error .pastEnd
      else if written = 0 then .error .writeZero
      else writeAll writer (buf.drop written) ⟨state, out.delivered ++ buf.take written⟩
termination_by buf.length
decreasing_by
  rw [List.length_drop]
  omega

/-- The program succeeds from every state of the writer and hands over exactly `elems`. -/
def Delivers (program : Output α σ → Except WriteError (Output α σ)) (elems : List α) : Prop :=
  ∀ out, ∃ state, program out = .ok ⟨state, out.delivered ++ elems⟩

theorem delivers_ok : Delivers (fun out : Output α σ => .ok out) [] := by
  intro out
  refine ⟨out.state, ?_⟩
  rw [List.append_nil]

theorem Delivers.bind {first second : Output α σ → Except WriteError (Output α σ)}
    {xs ys : List α} (hfirst : Delivers first xs) (hsecond : Delivers second ys) :
    Delivers (fun out => first out >>= second) (xs ++ ys) := by
  intro out
  obtain ⟨state, heq⟩ := hfirst out
  obtain ⟨last, hlast⟩ := hsecond ⟨state, out.delivered ++ xs⟩
  refine ⟨last, ?_⟩
  rw [← List.append_assoc, ← hlast]
  simp only [heq]
  rfl

theorem Delivers.foldlM {β : Type*} {program : β → Output α σ → Except WriteError (Output α σ)}
    {elems : β → List α} (items : List β)
    (h : ∀ item ∈ items, Delivers (program item) (elems item)) :
    Delivers (fun out => items.foldlM (fun out item => program item out) out)
      (items.flatMap elems) := by
  induction items with
  | nil => exact delivers_ok
  | cons item items ih =>
    obtain ⟨hitem, hitems⟩ := List.forall_mem_cons.mp h
    exact hitem.bind (ih hitems)

theorem delivers_writeAll {writer : AsyncWrite α σ} (h : writer.Accepts) (buf : List α) :
    Delivers (writeAll writer buf) buf := by
  intro out
  fun_induction writeAll writer buf out with
  | case1 buf out hempty =>
    refine ⟨out.state, ?_⟩
    rw [List.isEmpty_iff.mp hempty, List.append_nil]
  | case2 buf out hempty written state hpoll hpast =>
    have hle := h.pollWrite_le out.state buf
    rw [hpoll] at hle
    omega
  | case3 buf out hempty state hpoll hpast =>
    have hpos := h.pollWrite_pos out.state buf (by simpa using hempty)
    rw [hpoll] at hpos
    omega
  | case4 buf out hempty written state hpoll hpast hzero ih =>
    obtain ⟨last, hrest⟩ := ih
    refine ⟨last, ?_⟩
    rw [hrest, List.append_assoc, List.take_append_drop]

end Writer
