import NntpBench.Load.Schedule

namespace NntpBench.Load.LoadSession

open Protocol

variable {self : LoadSession}

/-- The capacity of a batch in a round of the loop, and the state in front of it. -/
inductive BatchAt (self : LoadSession) (s : LoadState) (input : RoundInput) : Nat → LoadState →
    Prop where
  | idle (hidle : s.inFlight = 0) : BatchAt self s input self.pipelineDepth s
  | refill {busy after : LoadState} (hissue : self.issueWhenIdle input.first s = (.ok (), busy))
      (hbusy : busy.inFlight ≠ 0) (hreceive : self.receive input busy = (.ok (), after))
      (hhalf : after.inFlight ≤ self.pipelineDepth / 2) :
      BatchAt self s input (self.pipelineDepth - after.inFlight) after

theorem BatchAt.withinQuota {s before : LoadState} {input : RoundInput} {capacity : Nat}
    (h : BatchAt self s input capacity before) (hhead : self.LoopHead s) :
    self.WithinQuota before.issued.toNat := by
  have htracks : ∃ count, Tracks self count before := by
    obtain ⟨count, htracks⟩ := exists_tracks hhead
    cases h with
    | idle hidle => exact ⟨count, htracks⟩
    | refill hissue hbusy hreceive hhalf =>
      rcases issueWhenIdle_spec htracks input.first with ⟨exit, next, hend, -⟩ | ⟨count, next,
        hnext, hbefore⟩
      · rw [hissue] at hend
        cases hend
      · rw [hissue] at hnext
        cases hnext
        have hafter := (receive_spec hbefore hbusy input).2
        rw [hreceive] at hafter
        exact ⟨count, hafter rfl⟩
  obtain ⟨count, htracks⟩ := htracks
  intro requests hrequests
  rw [htracks.issued, UInt64.toNat_ofNat']
  exact (Nat.mod_le _ _).trans (htracks.quota requests hrequests)

/-- How many requests a batch can write, when nothing but the quota and the pipeline ends it. -/
def batchSlots (self : LoadSession) (capacity : Nat) (s : LoadState) : Nat :=
  if s.stop then 0
  else self.requests.elim capacity fun requests => min capacity (requests.toNat - s.issued.toNat)

def undisturbed (arrived late : Nat) : BatchInput :=
  ⟨fun _ => false, fun _ => 0, .completed, 0, false, arrived, late, 0⟩

theorem filled_le_batchSlots {s next : LoadState} {capacity filled : Nat} {input : BatchInput}
    (hquota : self.WithinQuota s.issued.toNat)
    (h : self.timedLoadBatch capacity input s = (.ok filled, next)) : filled ≤
      self.batchSlots capacity s := by
  unfold batchSlots
  split_ifs with hstop
  · -- the loop does not get past its first test
    have hfill : self.fillRequests s input capacity 0 [] = .ok (0, []) := by
      cases capacity with
      | zero => rfl
      | succ capacity => rw [fillRequests, hstop]; rfl
    unfold timedLoadBatch issueLoadBatch writeLoadBatch at h
    rw [hfill] at h
    cases hschedule : self.schedule <;> cases htimedOut : input.timedOut <;> simp_all
  · rcases timedLoadBatch_spec UInt64.ofNat_toNat.symm hquota capacity input with
      ⟨exit, after, hend, -⟩ | ⟨count, hle, after, hwithin, hend, -⟩
    · rw [h] at hend
      cases hend
    · rw [h] at hend
      cases hend
      cases hrequests : self.requests with
      | none => exact hle
      | some requests =>
        have hcount := hwithin requests hrequests
        show filled ≤ min capacity (requests.toNat - s.issued.toNat)
        omega

theorem fillRequests_undisturbed {s : LoadState} (hstop : s.stop = false)
    (arrived late extra slots : Nat) : ∀ filled buffer, s.issued.toNat + (filled + slots) < 2 ^ 64 →
      self.WithinQuota (s.issued.toNat + (filled + slots)) →
      ∃ more out, self.fillRequests s (undisturbed arrived late) (slots + extra) filled buffer =
        .ok (filled + slots + more, out) := by
  induction slots with
  | zero =>
    intro filled buffer _ hquota
    obtain ⟨more, -, -, hfill⟩ :=
      fillRequests_spec UInt64.ofNat_toNat.symm (undisturbed arrived late) extra filled
      buffer hquota
    rw [Nat.zero_add]
    exact ⟨more, _, hfill⟩
  | succ slots ih =>
    intro filled buffer hsmall hquota
    have hindex : (s.issued + .ofNat filled).toNat = s.issued.toNat + filled := by
      rw [UInt64.toNat_add, UInt64.toNat_ofNat', Nat.mod_eq_of_lt (by omega : filled < 2 ^ 64)]
      omega
    have hgo : (!(s.stop || (undisturbed arrived late).stop filled) &&
        (self.requests.all fun requests => s.issued + .ofNat filled < requests) &&
        !self.transferLimitReached ((undisturbed arrived late).bytesSent filled)) = true := by
      have hlimit : self.transferLimitReached 0 = false := by
        unfold transferLimitReached
        grind
      have hleft : (self.requests.all fun requests => s.issued + .ofNat filled < requests) =
          true := by
        rw [Option.all_eq_true]
        intro requests hrequests
        have hle := hquota requests hrequests
        rw [decide_eq_true_eq, UInt64.lt_iff_toNat_lt, hindex]
        omega
      rw [hstop, hleft]
      show (!self.transferLimitReached 0) = true
      rw [hlimit]
      rfl
    rw [Nat.add_right_comm, fillRequests, if_pos hgo,
      LoadWorkloadRequest.appendLoadWorkloadRequest_eq]
    dsimp only
    have hcount : filled + (slots + 1) = filled + 1 + slots := by omega
    rw [hcount] at hsmall hquota ⊢
    exact ih (filled + 1) _ hsmall hquota

theorem timedLoadBatch_undisturbed {s : LoadState} {capacity : Nat} (arrived late : Nat)
    (hquota : self.WithinQuota s.issued.toNat)
    (hsmall : s.issued.toNat + self.batchSlots capacity s < 2 ^ 64)
    (hstop : s.stop = false) :
    ∃ next, self.timedLoadBatch capacity (undisturbed arrived late) s =
      (.ok (self.batchSlots capacity s), next) := by
  -- Undisturbed, a batch uses all its slots.
  have hslots : self.batchSlots capacity s ≤ capacity ∧
      self.WithinQuota (s.issued.toNat + (0 + self.batchSlots capacity s)) := by
    unfold batchSlots
    rw [hstop, if_neg Bool.false_ne_true]
    cases hrequests : self.requests with
    | none => exact ⟨le_rfl, fun requests hsome => by rw [hrequests] at hsome; cases hsome⟩
    | some requests =>
      refine ⟨Nat.min_le_left _ _, fun quota hquota' => ?_⟩
      have hle := hquota requests hrequests
      rw [hrequests] at hquota'
      cases hquota'
      show s.issued.toNat + (0 + min capacity (requests.toNat - s.issued.toNat)) ≤ requests.toNat
      omega
  obtain ⟨more, out, hfill⟩ :=
    fillRequests_undisturbed hstop arrived late (capacity - self.batchSlots capacity s)
    (self.batchSlots capacity s) 0 [] (by omega) hslots.2
  rw [Nat.add_sub_cancel' hslots.1, Nat.zero_add] at hfill
  have hreturns : ∃ next, self.timedLoadBatch capacity (undisturbed arrived late) s =
      (.ok (self.batchSlots capacity s + more), next) := by
    unfold timedLoadBatch issueLoadBatch writeLoadBatch
    rw [hfill, if_neg (show ¬ (undisturbed arrived late).timedOut = true from Bool.false_ne_true)]
    dsimp only
    split_ifs with hnone
    · rw [hnone]
      cases self.schedule <;> exact ⟨_, rfl⟩
    · cases self.schedule <;> exact ⟨_, rfl⟩
  obtain ⟨next, hnext⟩ := hreturns
  have hle := filled_le_batchSlots hquota hnext
  obtain rfl : more = 0 := by omega
  exact ⟨next, hnext⟩

/-- The deadlines of a batch's requests have passed when it is written, and as many requests are
due. -/
def OnSchedule (self : LoadSession) (issued : UInt64) (filled now : Nat) : Prop :=
  ∀ schedule ∈ self.schedule, ∀ index < filled, schedule.deadline (issued + .ofNat index) ≤ now ∧
    issued.toNat + index + 1 ≤ schedule.dueCount now

theorem deadline_le (schedule : OfferedLoadSchedule) (index : UInt64) :
    schedule.deadline index ≤ schedule.started + index.toNat * schedule.interval := by
  have hlow : schedule.interval * (index.toNat % 2 ^ 32) ≤ index.toNat * schedule.interval := by
    rw [Nat.mul_comm]
    exact Nat.mul_le_mul_right schedule.interval (Nat.mod_le _ _)
  unfold OfferedLoadSchedule.deadline
  dsimp only
  split_ifs <;> omega

theorem onSchedule_iff {schedule : OfferedLoadSchedule} {issued : UInt64} {filled now : Nat}
    (hschedule : self.schedule = some schedule) (hnow : schedule.started ≤ now)
    (hfew : issued.toNat + filled < 2 ^ 32) :
    self.OnSchedule issued filled now ↔
      filled = 0 ∨ schedule.started + (issued.toNat + filled - 1) * schedule.interval ≤ now := by
  -- A batch is on schedule if its last request is due.
  have hindex : ∀ index < filled, (issued + .ofNat index).toNat = issued.toNat + index := by
    intro index hlt
    rw [UInt64.toNat_add, UInt64.toNat_ofNat', Nat.mod_eq_of_lt (by omega : index < 2 ^ 64)]
    omega
  have hdue : ∀ index < filled, (issued.toNat + index + 1 ≤ schedule.dueCount now ↔
      schedule.started + (issued.toNat + index) * schedule.interval ≤ now) := by
    intro index hlt
    have hcount := @OfferedLoadSchedule.lt_dueCount_iff schedule (issued + .ofNat index) now hnow
    rw [hindex index hlt] at hcount
    rw [Nat.add_one_le_iff, hcount]
    omega
  constructor
  · intro h
    rcases Nat.eq_zero_or_pos filled with hzero | hpos
    · exact .inl hzero
    · right
      have hlast :=
        (hdue (filled - 1) (by omega)).mp (h schedule hschedule (filled - 1) (by omega)).2
      rwa [← Nat.add_sub_assoc hpos] at hlast
  · intro h found hfound index hlt
    obtain rfl : schedule = found := Option.some.inj (hschedule.symm.trans hfound)
    have hpassed : schedule.started + (issued.toNat + index) * schedule.interval ≤ now := by
      have hlast := h.resolve_left (by omega)
      have hle : (issued.toNat + index) * schedule.interval ≤
          (issued.toNat + filled - 1) * schedule.interval :=
        Nat.mul_le_mul_right schedule.interval (by omega)
      omega
    have hdeadline := deadline_le schedule (issued + .ofNat index)
    rw [hindex index hlt] at hdeadline
    exact ⟨hdeadline.trans hpassed, (hdue index hlt).mpr hpassed⟩

theorem deadline_le_wake (schedule : OfferedLoadSchedule) (issued : UInt64) (arrived late : Nat) :
    schedule.deadline issued ≤ schedule.wake issued arrived late ∧
      arrived ≤ schedule.wake issued arrived late := by
  unfold OfferedLoadSchedule.wake
  split_ifs <;> omega

/-- **A batch stays on schedule, whatever happens while it is written, exactly if it has room for no
request, or for the one that the sleep waits for, or if the last one it has room for is due when the
sleep is over.** -/
theorem batch_on_schedule_iff {schedule : OfferedLoadSchedule} {s before : LoadState}
    {input : RoundInput} {capacity : Nat} (arrived late : Nat)
    (hschedule : self.schedule = some schedule) (hhead : self.LoopHead s)
    (hbatch : BatchAt self s input capacity before) (harrived : schedule.started ≤ arrived)
    (hfew : before.issued.toNat + self.batchSlots capacity before < 2 ^ 32) :
    (∀ env : BatchInput, env.arrived = arrived → env.late = late → ∀ filled next,
      self.timedLoadBatch capacity env before = (.ok filled, next) →
        self.OnSchedule before.issued filled (schedule.wake before.issued arrived late)) ↔
      self.batchSlots capacity before = 0 ∨
        (self.batchSlots capacity before = 1 ∧ schedule.HasRoom before.issued) ∨
        schedule.started + (before.issued.toNat + self.batchSlots capacity before - 1) *
          schedule.interval ≤ schedule.wake before.issued arrived late := by
  have hquota := hbatch.withinQuota hhead
  obtain ⟨hslept, hclock⟩ := deadline_le_wake schedule before.issued arrived late
  have hnow := harrived.trans hclock
  constructor
  · intro h
    by_cases hstop : before.stop = true
    · left
      rw [batchSlots, if_pos hstop]
    · obtain ⟨next, hnext⟩ := timedLoadBatch_undisturbed arrived late hquota
        (hfew.trans (by decide)) (by simpa using hstop)
      have hall := (onSchedule_iff hschedule hnow hfew).mp
        (h (undisturbed arrived late) rfl rfl _ _ hnext)
      exact hall.imp_right .inr
  · intro h env _ _ filled next hnext
    have hle := filled_le_batchSlots hquota hnext
    rw [onSchedule_iff hschedule hnow (by omega)]
    rcases Nat.eq_zero_or_pos filled with hzero | hpos
    · exact .inl hzero
    · right
      have hlast : schedule.started + (before.issued.toNat + self.batchSlots capacity before - 1) *
          schedule.interval ≤ schedule.wake before.issued arrived late := by
        rcases h with hnone | ⟨hone, hroom⟩ | hlast
        · omega
        · -- the sleep ends when this request is due
          rw [OfferedLoadSchedule.deadline_eq hroom, OfferedLoadSchedule.lowIndex,
            Nat.mod_eq_of_lt (by omega)] at hslept
          rw [hone, Nat.add_sub_cancel]
          exact hslept
        · exact hlast
      have hmul : (before.issued.toNat + filled - 1) * schedule.interval ≤
          (before.issued.toNat + self.batchSlots capacity before - 1) * schedule.interval :=
        Nat.mul_le_mul_right schedule.interval (by omega)
      omega

def pacedSession (pipelineDepth : Nat) : LoadSession :=
  { segments := none, clientIndex := 0, totalClients := 1, requests := none, transferBytes := 0
    nextId := 1, workloadPolicy := .disjoint, verificationPolicy := .none
    schedule := some ⟨0, 10 ^ 9, by decide⟩, pipelineDepth, commandMix := .article }

/-- Two requests are written a second after the start, when the second one is due. -/
theorem second_request_on_schedule :
    ((pacedSession 2).timedLoadBatch 2 (undisturbed (10 ^ 9) 0)
        { connection := ⟨.new 16 64, []⟩ }).1 = .ok 2 ∧
      (pacedSession 2).OnSchedule 0 2 (10 ^ 9) := by
  have hhead : (pacedSession 2).LoopHead { connection := ⟨.new 16 64, []⟩ } :=
    Transitions.reachable_of_initial ⟨_, rfl⟩
  have hbatch : ∀ input, BatchAt (pacedSession 2) { connection := ⟨.new 16 64, []⟩ } input 2
      { connection := ⟨.new 16 64, []⟩ } := fun _ => .idle rfl
  have hfilled : ((pacedSession 2).timedLoadBatch 2 (undisturbed (10 ^ 9) 0)
      { connection := ⟨.new 16 64, []⟩ }).1 = .ok 2 := by decide +kernel
  have hall := (batch_on_schedule_iff (10 ^ 9) 0 rfl hhead
    (hbatch ⟨undisturbed 0 0, false, false, 0, undisturbed 0 0⟩) (by decide) (by decide)).mpr
      (.inr (.inr (by decide)))
  exact ⟨hfilled, hall (undisturbed (10 ^ 9) 0) rfl rfl 2 _ (Prod.ext hfilled rfl)⟩

/-- Two requests are written at the start, and the second is due a second later. -/
theorem second_request_ahead_of_schedule :
    ∃ next, (pacedSession 2).timedLoadBatch 2 (undisturbed 0 0) { connection := ⟨.new 16 64, []⟩ } =
        (.ok 2, next) ∧
      ∃ schedule, (pacedSession 2).schedule = some schedule ∧ schedule.wake 0 0 0 = 0 ∧
        ¬ schedule.deadline 1 ≤ 0 ∧ ¬ 2 ≤ schedule.dueCount 0 := by
  have hfilled : ((pacedSession 2).timedLoadBatch 2 (undisturbed 0 0)
      { connection := ⟨.new 16 64, []⟩ }).1 = .ok 2 := by decide +kernel
  exact ⟨_, Prod.ext hfilled rfl, _, rfl, by decide, by decide, by decide⟩

end NntpBench.Load.LoadSession
