import NntpBench.Load.Session

namespace NntpBench.Load.OfferedLoadSchedule

open Protocol

variable (self : OfferedLoadSchedule) (index : UInt64)

/-- The clock has room for the time at which the request is due. -/
def HasRoom : Prop := self.started + index.toNat * self.interval ≤ INSTANT_MAX_NANOS

/-- The index that `deadline` uses. -/
def lowIndex (index : UInt64) : Nat := index.toNat % 2 ^ 32

theorem lowIndex_le : lowIndex index ≤ index.toNat := Nat.mod_le _ _

variable {self index}

theorem deadline_eq (h : self.HasRoom index) :
    self.deadline index = self.started + lowIndex index * self.interval := by
  unfold HasRoom at h
  have hlow : self.interval * (index.toNat % 2 ^ 32) ≤ index.toNat * self.interval := by
    rw [Nat.mul_comm]
    exact Nat.mul_le_mul_right self.interval (lowIndex_le index)
  have hduration : INSTANT_MAX_NANOS ≤ DURATION_MAX_NANOS := by
    unfold INSTANT_MAX_NANOS DURATION_MAX_NANOS
    omega
  unfold deadline lowIndex
  dsimp only
  rw [Nat.min_eq_left (by omega), if_pos (by omega), Nat.mul_comm]

theorem add_mul_le_iff {now : Nat} (hnow : self.started ≤ now) (count : Nat) :
    self.started + count * self.interval ≤ now ↔ count ≤ (now - self.started) / self.interval := by
  rw [Nat.le_div_iff_mul_le self.interval_pos]
  omega

theorem lt_dueCount_iff {now : Nat} (hnow : self.started ≤ now) :
    index.toNat < self.dueCount now ↔
      self.started + index.toNat * self.interval ≤ now ∧ index.toNat ≠ 2 ^ 64 - 1 := by
  have hindex := index.toNat_lt
  rw [add_mul_le_iff hnow, dueCount, if_neg (Nat.not_lt.mpr hnow)]
  omega

theorem deadline_agrees_iff (hroom : self.HasRoom index) {now : Nat} (hnow : self.started ≤ now) :
    (self.deadline index ≤ now ↔ index.toNat < self.dueCount now) ↔
      now < self.started + index.toNat % 2 ^ 32 * self.interval ∨
        self.started + index.toNat * self.interval ≤ now ∧ index.toNat ≠ 2 ^ 64 - 1 := by
  have hle : index.toNat % 2 ^ 32 * self.interval ≤ index.toNat * self.interval :=
    Nat.mul_le_mul_right self.interval (lowIndex_le index)
  rw [deadline_eq hroom, lt_dueCount_iff hnow, lowIndex]
  omega

/-- **A deadline has passed exactly if the request is counted as due, at all times for an index of
32 bits and for no other.** For a larger index this holds until the wrapped index is due, and again
once the request itself is. The deadlines of two requests are ordered as their wrapped indexes
are. -/
theorem deadline_agrees_with_dueCount_iff (self : OfferedLoadSchedule) (index : UInt64)
    (hroom : self.HasRoom index) :
    ((∀ now, self.started ≤ now → (self.deadline index ≤ now ↔ index.toNat < self.dueCount now)) ↔
      index.toNat < 2 ^ 32) ∧
      (∀ now, self.started ≤ now →
        ((self.deadline index ≤ now ↔ index.toNat < self.dueCount now) ↔
          now < self.started + index.toNat % 2 ^ 32 * self.interval ∨
            self.started + index.toNat * self.interval ≤ now ∧ index.toNat ≠ 2 ^ 64 - 1)) ∧
      ∀ later, self.HasRoom later →
        (self.deadline index ≤ self.deadline later ↔
          index.toNat % 2 ^ 32 ≤ later.toNat % 2 ^ 32) := by
  refine ⟨⟨?_, ?_⟩, fun now hnow => deadline_agrees_iff hroom hnow, ?_⟩
  · intro h
    -- when the wrapped index is due, the request itself must be
    have hnow : self.started ≤ self.started + index.toNat % 2 ^ 32 * self.interval :=
      Nat.le_add_right _ _
    have hdue := (deadline_agrees_iff hroom hnow).mp (h _ hnow)
    have hmul : index.toNat * self.interval ≤ index.toNat % 2 ^ 32 * self.interval := by omega
    have hindex := Nat.le_of_mul_le_mul_right hmul self.interval_pos
    exact hindex.trans_lt (Nat.mod_lt _ (by decide))
  · intro hsmall now hnow
    rw [deadline_agrees_iff hroom hnow, Nat.mod_eq_of_lt hsmall]
    omega
  · intro later hlater
    rw [deadline_eq hroom, deadline_eq hlater, Nat.add_le_add_iff_left,
      Nat.mul_le_mul_right_iff self.interval_pos]
    rfl

/-- The second of two requests with a nanosecond between them. -/
theorem second_deadline_agrees :
    ((⟨0, 1, Nat.one_pos⟩ : OfferedLoadSchedule).deadline 1 ≤ 5 ↔
      UInt64.toNat 1 < (⟨0, 1, Nat.one_pos⟩ : OfferedLoadSchedule).dueCount 5) := by
  have hroom : (⟨0, 1, Nat.one_pos⟩ : OfferedLoadSchedule).HasRoom 1 := by
    unfold HasRoom
    decide
  exact (deadline_agrees_with_dueCount_iff ⟨0, 1, Nat.one_pos⟩ 1 hroom).1.mpr (by decide) 5
    (by decide)

/-- Request 2^32 has the deadline of the first request, which is before that of the second, and it
is not due when that deadline has passed. -/
theorem wrapped_index_is_early :
    ∃ (self : OfferedLoadSchedule) (index : UInt64) (now : Nat), self.HasRoom index ∧
      self.started ≤ now ∧ self.deadline index ≤ now ∧ ¬ index.toNat < self.dueCount now ∧
      (1 : UInt64) ≤ index ∧ self.deadline index < self.deadline 1 := by
  refine ⟨⟨0, 1, Nat.one_pos⟩, 2 ^ 32, 1, ?_, ?_⟩
  · unfold HasRoom
    decide
  · decide

end NntpBench.Load.OfferedLoadSchedule
