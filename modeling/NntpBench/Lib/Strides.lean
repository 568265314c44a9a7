import Mathlib

namespace Strides

/-- How many of the numbers below `total` hand `index` gets. -/
def share (total parts index : Nat) : Nat := total / parts + if index < total % parts then 1 else 0

variable {total parts index turn : Nat}

theorem lt_share_iff (hindex : index < parts) :
    turn < share total parts index ↔ index + turn * parts < total := by
  -- The turns of a hand are those whose number is still below the total.
  have hparts : 0 < parts := Nat.zero_lt_of_lt hindex
  have hdiv := Nat.div_add_mod total parts
  have hmod := Nat.mod_lt total hparts
  unfold share
  generalize total / parts = quotient at hdiv
  generalize total % parts = remainder at hdiv hmod
  rw [← hdiv]
  constructor
  · intro hturn
    have hle : turn * parts ≤ (quotient + if index < remainder then 1 else 0) * parts - parts := by
      rw [← Nat.sub_one_mul]
      exact Nat.mul_le_mul_right parts (by omega)
    split_ifs at hturn hle with hfirst
    · rw [Nat.add_mul, Nat.one_mul, Nat.add_sub_cancel, Nat.mul_comm quotient] at hle
      omega
    · rw [Nat.add_zero, Nat.mul_comm quotient] at hle
      have hpos : parts ≤ parts * quotient := Nat.le_mul_of_pos_right parts (by omega)
      omega
  · intro hlt
    by_contra hturn
    have hge : (quotient + if index < remainder then 1 else 0) * parts ≤ turn * parts :=
      Nat.mul_le_mul_right parts (Nat.le_of_not_lt hturn)
    rw [Nat.add_mul, Nat.mul_comm quotient] at hge
    split_ifs at hge <;> omega

theorem hand_of_number (hindex : index < parts) (turn : Nat) :
    (index + turn * parts) % parts = index ∧ (index + turn * parts) / parts = turn := by
  have hparts : 0 < parts := Nat.zero_lt_of_lt hindex
  constructor
  · rw [Nat.add_mul_mod_self_right, Nat.mod_eq_of_lt hindex]
  · rw [Nat.add_mul_div_right _ _ hparts, Nat.div_eq_of_lt hindex, Nat.zero_add]

theorem share_le (hparts : 0 < parts) (index : Nat) : share total parts index ≤ total := by
  have hdiv := Nat.div_add_mod total parts
  have hquotient : total / parts ≤ parts * (total / parts) := Nat.le_mul_of_pos_left _ hparts
  unfold share
  split_ifs <;> omega

theorem sum_share_range' (total parts first count : Nat) :
    ((List.range' first count).map (share total parts)).sum =
      count * (total / parts) + min count (total % parts - first) := by
  induction count generalizing first with
  | zero => simp
  | succ count ih =>
    rw [List.range'_succ, List.map_cons, List.sum_cons, ih, share, Nat.succ_mul]
    split_ifs <;> omega

/-- What hands in a row get is within the total exactly if the quotients of those beyond the number
of parts fit into what the remainder leaves. -/
theorem sum_share_range'_le_iff (hparts : 0 < parts) (first count : Nat) :
    ((List.range' first count).map (share total parts)).sum ≤ total ↔
      (count - parts) * (total / parts) ≤ min (total % parts) first := by
  have hdiv := Nat.div_add_mod total parts
  have hmod := Nat.mod_lt total hparts
  rw [sum_share_range']
  generalize total / parts = quotient at hdiv ⊢
  generalize total % parts = remainder at hdiv hmod ⊢
  rw [← hdiv, Nat.sub_mul, Nat.mul_comm parts]
  by_cases hfew : count ≤ parts
  · have hle : count * quotient ≤ parts * quotient := Nat.mul_le_mul_right quotient hfew
    rw [Nat.mul_comm quotient]
    omega
  · have hle : parts * quotient ≤ count * quotient :=
      Nat.mul_le_mul_right quotient (Nat.le_of_not_le hfew)
    rw [Nat.mul_comm quotient]
    omega

theorem takeWhile_range' (first count bound : Nat) :
    (List.range' first count).takeWhile (· < bound) =
      List.range' first (min count (bound - first)) := by
  induction count generalizing first with
  | zero => simp
  | succ count ih =>
    rw [List.range'_succ]
    by_cases hlt : first < bound
    · have hcount : min (count + 1) (bound - first) = min count (bound - (first + 1)) + 1 := by
        omega
      rw [List.takeWhile_cons_of_pos (by simpa using hlt), ih, hcount, List.range'_succ]
    · rw [List.takeWhile_cons_of_neg (by simpa using hlt),
        Nat.sub_eq_zero_of_le (Nat.le_of_not_lt hlt), Nat.min_zero, List.range'_zero]

def hand (total parts index : Nat) : List Nat :=
  (List.range (share total parts index)).map fun turn => index + turn * parts

theorem mem_hand_iff {number : Nat} (hindex : index < parts) :
    number ∈ hand total parts index ↔ number < total ∧ number % parts = index := by
  have hparts : 0 < parts := Nat.zero_lt_of_lt hindex
  simp only [hand, List.mem_map, List.mem_range]
  constructor
  · rintro ⟨turn, hturn, rfl⟩
    exact ⟨(lt_share_iff hindex).mp hturn, (hand_of_number hindex turn).1⟩
  · rintro ⟨hlt, rfl⟩
    have hnumber := Nat.mod_add_div' number parts
    refine ⟨number / parts, ?_, hnumber⟩
    rw [lt_share_iff hindex, hnumber]
    exact hlt

theorem nodup_hand (hindex : index < parts) : (hand total parts index).Nodup := by
  apply List.Nodup.map_on _ List.nodup_range
  intro turn _ turn' _ h
  have hturn := congrArg (· / parts) h
  simpa only [(hand_of_number hindex _).2] using hturn

theorem hands_perm_range (hparts : 0 < parts) :
    ((List.range parts).flatMap (hand total parts)).Perm (List.range total) := by
  have hnodup : ((List.range parts).flatMap (hand total parts)).Nodup := by
    rw [List.nodup_flatMap]
    refine ⟨fun index hindex => nodup_hand (List.mem_range.mp hindex), ?_⟩
    apply List.Nodup.pairwise_of_forall_ne List.nodup_range
    intro index hindex index' hindex' hne
    rw [List.mem_range] at hindex hindex'
    intro number hnumber hnumber'
    apply hne
    rw [← ((mem_hand_iff hindex).mp hnumber).2, ((mem_hand_iff hindex').mp hnumber').2]
  rw [List.perm_ext_iff_of_nodup hnodup List.nodup_range]
  intro number
  rw [List.mem_flatMap, List.mem_range]
  constructor
  · rintro ⟨index, hindex, hnumber⟩
    exact ((mem_hand_iff (List.mem_range.mp hindex)).mp hnumber).1
  · intro hlt
    have hindex := Nat.mod_lt number hparts
    exact ⟨number % parts, List.mem_range.mpr hindex, (mem_hand_iff hindex).mpr ⟨hlt, rfl⟩⟩

end Strides
