import NntpBench.Lib.Search

namespace ListSearch

variable {α : Type*}

def windows (size : Nat) : List α → List (List α)
  | [] => []
  | x :: xs => if size ≤ xs.length + 1 then (x :: xs).take size :: windows size xs else []

variable [DecidableEq α] {pat xs : List α}

theorem findSub_eq_none_of_length (h : xs.length < pat.length) : findSub pat xs = none := by
  rw [findSub_eq_none_iff]
  intro i hi hprefix
  have hle := length_le_of_prefix_drop hi hprefix
  omega

theorem findIdx?_windows (hpat : pat ≠ []) :
    (windows pat.length xs).findIdx? (· = pat) = findSub pat xs := by
  -- The first window that is the pattern.
  induction xs with
  | nil =>
    rw [findSub, if_neg hpat]
    rfl
  | cons x xs ih =>
    rw [windows]
    split_ifs with hsize
    · have hwindow : (x :: xs).take pat.length = pat ↔ pat <+: x :: xs := by
        rw [List.prefix_iff_eq_take]
        exact eq_comm
      rw [List.findIdx?_cons, findSub, ih]
      by_cases hprefix : pat <+: x :: xs
      · rw [if_pos hprefix, hwindow.mpr hprefix]
        simp
      · rw [if_neg hprefix]
        have hne : ¬ (x :: xs).take pat.length = pat := fun heq => hprefix (hwindow.mp heq)
        simp [hne]
    · rw [findSub_eq_none_of_length]
      · rfl
      · rw [List.length_cons]
        omega

section Blocks

variable {width : Nat}

theorem findSub_of_take {size i : Nat} (h : findSub pat (xs.take size) = some i) :
    findSub pat xs = some i := by
  obtain ⟨hle, hprefix, hmin⟩ := findSub_eq_some_iff.mp h
  have hend := length_le_of_prefix_drop hle hprefix
  have hsplit : xs.take size ++ xs.drop size = xs := List.take_append_drop size xs
  rw [findSub_eq_some_iff]
  have hlength : (xs.take size).length ≤ xs.length := by
    rw [List.length_take]
    exact Nat.min_le_right _ _
  refine ⟨by omega, ?_, ?_⟩
  · rw [← hsplit, prefix_drop_append_iff hend]
    exact hprefix
  · intro j hj hearlier
    apply hmin j hj
    rw [← hsplit, prefix_drop_append_iff (by omega)] at hearlier
    exact hearlier

/-- A block without an occurrence holds no start of one, but for the elements it shares with the
next block. -/
theorem findSub_of_take_none (hpat : pat ≠ []) (hlength : width + (pat.length - 1) ≤ xs.length)
    (h : findSub pat (xs.take (width + (pat.length - 1))) = none) :
    findSub pat xs = (findSub pat (xs.drop width)).map (width + ·) := by
  have hpos : 0 < pat.length := List.length_pos_iff.mpr hpat
  have hstart : ∀ j < width, ¬ pat <+: xs.drop j := by
    intro j hj hprefix
    have htake : (xs.take (width + (pat.length - 1))).length = width + (pat.length - 1) := by
      rw [List.length_take, Nat.min_eq_left hlength]
    refine findSub_eq_none_iff.mp h j (by omega) ?_
    rw [← List.take_append_drop (width + (pat.length - 1)) xs,
      prefix_drop_append_iff (by omega)] at hprefix
    exact hprefix
  cases hrest : findSub pat (xs.drop width) with
  | none =>
    rw [findSub_eq_none_iff] at hrest
    rw [Option.map_none, findSub_eq_none_iff]
    intro j hj hprefix
    by_cases hlt : j < width
    · exact hstart j hlt hprefix
    · apply hrest (j - width)
      · rw [List.length_drop]
        omega
      · rw [List.drop_drop, show width + (j - width) = j by omega]
        exact hprefix
  | some i =>
    obtain ⟨hle, hprefix, hmin⟩ := findSub_eq_some_iff.mp hrest
    rw [Option.map_some, findSub_eq_some_iff]
    rw [List.length_drop] at hle
    rw [List.drop_drop] at hprefix
    refine ⟨by omega, hprefix, ?_⟩
    intro j hj hearlier
    by_cases hlt : j < width
    · exact hstart j hlt hearlier
    · apply hmin (j - width) (by omega)
      rw [List.drop_drop, show width + (j - width) = j by omega]
      exact hearlier

end Blocks

end ListSearch
