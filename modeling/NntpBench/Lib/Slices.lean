import Mathlib

namespace Slices

variable {α : Type*}

/-- `xs[at..at + ys.len()].copy_from_slice(ys)`. -/
def writeAt (xs : List α) (pos : Nat) (ys : List α) : List α :=
  xs.take pos ++ ys ++ xs.drop (pos + ys.length)

/-- `xs.copy_within(start..stop, dest)`. -/
def copyWithin (xs : List α) (start stop dest : Nat) : List α :=
  writeAt xs dest (xs.extract start stop)

@[simp]
theorem length_writeAt {xs ys : List α} {pos : Nat} (h : pos + ys.length ≤ xs.length) :
    (writeAt xs pos ys).length = xs.length := by
  simp only [writeAt, List.length_append, List.length_take, List.length_drop]
  omega

@[simp]
theorem length_copyWithin {xs : List α} {start stop dest : Nat}
    (h : dest + (stop - start) ≤ xs.length) :
    (copyWithin xs start stop dest).length = xs.length := by
  refine length_writeAt ?_
  simp only [List.extract_eq_take_drop, List.length_take, List.length_drop]
  omega

theorem take_writeAt {xs ys : List α} {pos : Nat} (h : pos + ys.length ≤ xs.length) :
    (writeAt xs pos ys).take (pos + ys.length) = xs.take pos ++ ys := by
  have hlen : (xs.take pos ++ ys).length = pos + ys.length := by
    simp only [List.length_append, List.length_take]
    omega
  rw [writeAt, ← hlen, List.take_left]

theorem take_copyWithin_zero {xs : List α} {start stop : Nat} (hs : start ≤ stop)
    (hstop : stop ≤ xs.length) :
    (copyWithin xs start stop 0).take (stop - start) = xs.extract start stop := by
  have hlen : (xs.extract start stop).length = stop - start := by
    simp only [List.extract_eq_take_drop, List.length_take, List.length_drop]
    omega
  have h : (writeAt xs 0 (xs.extract start stop)).take (0 + (xs.extract start stop).length) =
      xs.take 0 ++ xs.extract start stop := take_writeAt (by omega)
  simpa [copyWithin, hlen] using h

theorem take_flatten_replicate (count copies : Nat) (block : List α) :
    (List.replicate count block).flatten.take (copies * block.length) =
      (List.replicate (min copies count) block).flatten := by
  induction count generalizing copies with
  | zero => simp
  | succ count ih =>
    cases copies with
    | zero => simp
    | succ copies =>
      have hlength : (copies + 1) * block.length = block.length + copies * block.length := by
        rw [Nat.succ_mul, Nat.add_comm]
      rw [List.replicate_succ, List.flatten_cons, hlength, List.take_length_add_append, ih,
        Nat.add_min_add_right, List.replicate_succ, List.flatten_cons]

end Slices
