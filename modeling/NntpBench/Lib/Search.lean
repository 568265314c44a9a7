import Mathlib

namespace ListSearch

variable {α : Type*} [DecidableEq α]

/-- Index of the leftmost occurrence of `pat`, as a substring search returns it. -/
def findSub (pat : List α) : List α → Option Nat
  | [] => if pat = [] then some 0 else none
  | x :: xs => if pat <+: x :: xs then some 0 else (findSub pat xs).map (· + 1)

theorem findSub_of_startsWith {pat xs : List α} (h : pat <+: xs) : findSub pat xs = some 0 := by
  cases xs with
  | nil => simp [findSub, List.prefix_nil.mp h]
  | cons x xs => simp [findSub, h]

theorem findSub_cons_of_not_startsWith {pat xs : List α} {x : α} (h : ¬ pat <+: x :: xs) :
    findSub pat (x :: xs) = (findSub pat xs).map (· + 1) := by
  simp [findSub, h]

theorem findSub_eq_some_iff {pat xs : List α} {i : Nat} :
    findSub pat xs = some i ↔
      i ≤ xs.length ∧ pat <+: xs.drop i ∧ ∀ j < i, ¬ pat <+: xs.drop j := by
  induction xs generalizing i with
  | nil =>
    rw [findSub]
    split_ifs with hp
    · subst hp
      constructor
      · intro h
        obtain rfl := Option.some.inj h
        simp
      · rintro ⟨hle, -, -⟩
        simp at hle
        simp [hle]
    · simp [hp]
  | cons x xs ih =>
    by_cases hp : pat <+: x :: xs
    · rw [findSub_of_startsWith hp]
      constructor
      · intro h
        obtain rfl := Option.some.inj h
        simpa using hp
      · rintro ⟨-, -, hmin⟩
        cases i with
        | zero => rfl
        | succ i => exact absurd (by simpa using hp) (hmin 0 (Nat.succ_pos i))
    · rw [findSub_cons_of_not_startsWith hp, Option.map_eq_some_iff]
      constructor
      · rintro ⟨k, hk, rfl⟩
        obtain ⟨hle, hpre, hmin⟩ := ih.mp hk
        refine ⟨by simpa using hle, by simpa using hpre, ?_⟩
        intro j hj
        cases j with
        | zero => simpa using hp
        | succ j => simpa using hmin j (by omega)
      · rintro ⟨hle, hpre, hmin⟩
        cases i with
        | zero => exact absurd (by simpa using hpre) hp
        | succ i =>
          refine ⟨i, ih.mpr ⟨by simpa using hle, by simpa using hpre, ?_⟩, rfl⟩
          intro j hj
          simpa using hmin (j + 1) (by omega)

theorem findSub_eq_none_iff {pat xs : List α} :
    findSub pat xs = none ↔ ∀ j ≤ xs.length, ¬ pat <+: xs.drop j := by
  induction xs with
  | nil => simp [findSub]
  | cons x xs ih =>
    by_cases hp : pat <+: x :: xs
    · rw [findSub_of_startsWith hp]
      simp only [reduceCtorEq, false_iff, not_forall, not_not]
      exact ⟨0, by simp, by simpa using hp⟩
    · rw [findSub_cons_of_not_startsWith hp, Option.map_eq_none_iff, ih]
      constructor
      · intro h j hj
        cases j with
        | zero => simpa using hp
        | succ j => simpa using h j (by simpa using hj)
      · intro h j hj
        simpa using h (j + 1) (by simpa using hj)

omit [DecidableEq α] in
theorem length_le_of_prefix_drop {pat xs : List α} {i : Nat} (hi : i ≤ xs.length)
    (h : pat <+: xs.drop i) : i + pat.length ≤ xs.length := by
  have hlen := h.length_le
  simp only [List.length_drop] at hlen
  omega

theorem findSub_append_of_notMem {p : α} {pat xs : List α} (h : p ∉ xs) (ys : List α) :
    findSub (p :: pat) (xs ++ (p :: pat ++ ys)) = some xs.length := by
  induction xs with
  | nil => exact findSub_of_startsWith (List.prefix_append _ _)
  | cons x xs ih =>
    obtain ⟨hne, hxs⟩ := List.ne_and_not_mem_of_not_mem_cons h
    have hstart : ¬ p :: pat <+: x :: (xs ++ (p :: pat ++ ys)) :=
      fun hprefix => hne (List.cons_prefix_cons.mp hprefix).1
    rw [List.cons_append, findSub_cons_of_not_startsWith hstart, ih hxs]
    rfl

theorem findSub_end_le {pat xs : List α} {i : Nat} (h : findSub pat xs = some i) :
    i + pat.length ≤ xs.length := by
  obtain ⟨hle, hpre, -⟩ := findSub_eq_some_iff.mp h
  exact length_le_of_prefix_drop hle hpre

omit [DecidableEq α] in
theorem prefix_drop_append_iff {pat xs ys : List α} {i : Nat} (h : i + pat.length ≤ xs.length) :
    pat <+: (xs ++ ys).drop i ↔ pat <+: xs.drop i := by
  rw [List.drop_append_of_le_length (by omega)]
  constructor
  · intro hp
    have hlen : pat.length ≤ (xs.drop i).length := by
      simp only [List.length_drop]
      omega
    exact List.prefix_of_prefix_length_le hp (List.prefix_append _ _) hlen
  · intro hp
    exact hp.trans (List.prefix_append _ _)

theorem findSub_append_of_some {pat xs : List α} {i : Nat} (ys : List α)
    (h : findSub pat xs = some i) : findSub pat (xs ++ ys) = some i := by
  have hend := findSub_end_le h
  obtain ⟨hle, hpre, hmin⟩ := findSub_eq_some_iff.mp h
  refine findSub_eq_some_iff.mpr ⟨by simp; omega, (prefix_drop_append_iff hend).mpr hpre, ?_⟩
  intro j hj
  rw [prefix_drop_append_iff (by omega)]
  exact hmin j hj

/-- When the text so far has no match, a match in the extended text starts in the last
`pat.length - 1` elements of the old text, so those are all a streaming search has to keep. -/
theorem findSub_append_of_none {pat xs ys : List α} {n : Nat} (hn : pat.length ≤ n + 1)
    (h : findSub pat xs = none) :
    findSub pat (xs ++ ys) = (findSub pat (xs.rtake n ++ ys)).map (· + (xs.length - n)) := by
  have hold : ∀ j < xs.length - n, ¬ pat <+: (xs ++ ys).drop j := by
    intro j hj
    rw [prefix_drop_append_iff (by omega)]
    exact findSub_eq_none_iff.mp h j (by omega)
  have hshift : ∀ j, (xs ++ ys).drop (j + (xs.length - n)) = (xs.rtake n ++ ys).drop j := by
    intro j
    rw [Nat.add_comm, ← List.drop_drop, List.drop_append_of_le_length (Nat.sub_le _ _)]
    rfl
  have hlen : (xs.rtake n ++ ys).length + (xs.length - n) = (xs ++ ys).length := by
    simp only [List.rtake, List.length_append, List.length_drop]
    omega
  cases hnew : findSub pat (xs.rtake n ++ ys) with
  | none =>
    refine findSub_eq_none_iff.mpr ?_
    intro j hj
    by_cases hlt : j < xs.length - n
    · exact hold j hlt
    · have := findSub_eq_none_iff.mp hnew (j - (xs.length - n)) (by omega)
      rwa [← hshift, Nat.sub_add_cancel (by omega)] at this
  | some i =>
    obtain ⟨hle, hpre, hmin⟩ := findSub_eq_some_iff.mp hnew
    rw [Option.map_some]
    refine findSub_eq_some_iff.mpr ⟨by omega, by rwa [hshift], ?_⟩
    intro j hj
    by_cases hlt : j < xs.length - n
    · exact hold j hlt
    · have := hmin (j - (xs.length - n)) (by omega)
      rwa [← hshift, Nat.sub_add_cancel (by omega)] at this

omit [DecidableEq α] in
theorem rtake_of_length_le {xs : List α} {n : Nat} (h : xs.length ≤ n) : xs.rtake n = xs := by
  simp [List.rtake, Nat.sub_eq_zero_of_le h]

omit [DecidableEq α] in
theorem rtake_append_of_length_le {xs ys : List α} {n : Nat} (h : ys.length ≤ n) :
    (xs ++ ys).rtake n = xs.rtake (n - ys.length) ++ ys := by
  unfold List.rtake
  have hleft : xs.length + ys.length - n = xs.length - (n - ys.length) := by omega
  have hright : xs.length + ys.length - n - xs.length = 0 := by omega
  rw [List.length_append, List.drop_append, hright, hleft, List.drop_zero]

omit [DecidableEq α] in
theorem rtake_append_of_le_length {xs ys : List α} {n : Nat} (h : n ≤ ys.length) :
    (xs ++ ys).rtake n = ys.rtake n := by
  unfold List.rtake
  have hright : xs.length + ys.length - n - xs.length = ys.length - n := by omega
  rw [List.length_append, List.drop_append, hright, List.drop_of_length_le (by omega),
    List.nil_append]

omit [DecidableEq α] in
theorem rtake_rtake_append (xs ys : List α) (n : Nat) :
    (xs.rtake n ++ ys).rtake n = (xs ++ ys).rtake n := by
  have hsplit : (xs ++ ys).rtake n = ((xs ++ ys).drop (xs.length - n)).rtake n := by
    simp only [List.rtake, List.drop_drop, List.length_drop, List.length_append]
    congr 1
    omega
  rw [hsplit, List.drop_append_of_le_length (Nat.sub_le _ _)]
  rfl

end ListSearch
