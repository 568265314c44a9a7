import NntpBench.Server.DateReply

namespace NntpBench.Server

open Protocol

/-- The minutes of the zone, which a zone by its name does not have. -/
def Rfc2822Parts.zoneMinutes (parts : Rfc2822Parts) : Nat :=
    (parseDigits (parts.zone.drop 3)).getD 0

/-- The fields of a header are those of a date, a time of day and a zone that exist. -/
structure FieldsInRange (parts : Rfc2822Parts) : Prop where
  date : Calendar.IsDate parts.year parts.month parts.day
  hour_le : parts.hour ≤ 23
  minute_le : parts.minute ≤ 59
  second_le : parts.second ≤ 60
  zone_le : parts.zoneMinutes ≤ 59

/-- Local time minus the offset of the zone. -/
def Rfc2822Parts.unixTime (parts : Rfc2822Parts) : Int :=
  Calendar.dayNumber parts.year parts.month parts.day * 86400 +
    (parts.hour * 3600 + parts.minute * 60 + parts.second : Nat) - parts.offsetSeconds

/-- No arithmetic overflows, and a date that is found is the instant that the header names. -/
def DateKeyExact (value : Bytes) : Prop :=
  ∃ key, parseRfc2822DateKey value = .ok key ∧ ∀ seconds, key = some seconds →
    ∃ parts, rfc2822Parts value = some parts ∧ FieldsInRange parts ∧
      (seconds : Int) = parts.unixTime

/-- The time of day fits 32 bits, and unless the fields add up to a time before 1970 they are in
range; a header without the fields of a date, or with a day that no month has, is never looked at
that far. -/
def SoundDate (value : Bytes) : Prop :=
  ∀ parts, rfc2822Parts value = some parts → 1 ≤ parts.day ∧ parts.day ≤ 31 →
    parts.hour * 3600 + parts.minute * 60 + parts.second < 2 ^ 32 ∧
      (0 ≤ parts.unixTime → FieldsInRange parts)

theorem monthNumber_bounds {name : Str} {month : Nat} (h : monthNumber name = some month) :
    1 ≤ month ∧ month ≤ 12 := by
  obtain ⟨index, hindex, rfl⟩ := Option.map_eq_some_iff.mp h
  have hlt := (List.findIdx?_eq_some_iff_findIdx_eq.mp hindex).1
  have hlength : MONTHS.length = 12 := rfl
  omega

theorem rfc2822Parts_bounds {value : Bytes} {parts : Rfc2822Parts}
    (h : rfc2822Parts value = some parts) :
    parts.day < 2 ^ 32 ∧ 1 ≤ parts.month ∧ parts.month ≤ 12 := by
  unfold rfc2822Parts at h
  simp only [Option.bind_eq_bind, Option.bind_eq_some_iff] at h
  obtain ⟨_, -, tokens, -, h⟩ := h
  -- The tokens with a zone and those without one are read by the same steps.
  split at h
  case h_3 => exact absurd h (by simp)
  all_goals
    simp only [Option.bind_some, Option.bind_eq_some_iff] at h
    obtain ⟨day, hday, month, hmonth, _, -, h⟩ := h
    have hparts : parts.day = day ∧ parts.month = month := by
      split at h
      · simp only [Option.bind_eq_some_iff] at h
        obtain ⟨_, -, _, -, _, -, _, -, h⟩ := h
        cases h
        exact ⟨rfl, rfl⟩
      · exact absurd h (by simp)
    rw [hparts.1, hparts.2]
    exact ⟨of_decide_eq_true (Option.filter_eq_some_iff.mp hday).2, monthNumber_bounds hmonth⟩

theorem parseRfc2822DateKey_eq {value : Bytes} {parts : Rfc2822Parts}
    (h : rfc2822Parts value = some parts) : parseRfc2822DateKey value =
      if 1 ≤ parts.day ∧ parts.day ≤ 31 then
        (secondOfDay parts.hour parts.minute parts.second).map fun _ =>
          if parts.unixTime ≥ 0 then some parts.unixTime.toNat else none
      else .ok none := by
  obtain ⟨hday, hmonth⟩ := rfc2822Parts_bounds h
  have hcast : asI32 parts.day = if parts.day < 2 ^ 31 then (parts.day : Int) else parts.day -
      2 ^ 32 := by
    rw [asI32, Int.bmod_def]
    split_ifs <;> omega
  unfold parseRfc2822DateKey
  simp only [h]
  by_cases hrange : 1 ≤ parts.day ∧ parts.day ≤ 31
  · rw [if_pos hrange, hcast, if_pos (by omega), daysFromCivil_eq _ hmonth (by omega)]
    dsimp only [secondOfDay]
    split <;> rfl
  · have hnone : daysFromCivil parts.year parts.month (asI32 parts.day) = none := by
      unfold daysFromCivil
      rw [hcast]
      apply if_pos
      split_ifs <;> omega
    rw [if_neg hrange, hnone]

/-- **The date of an article is the instant that its header names when the header's time of day fits
32 bits and its fields are in range.** -/
theorem date_key_exact_iff (value : Bytes) : DateKeyExact value ↔ SoundDate value := by
  unfold DateKeyExact SoundDate
  cases hparts : rfc2822Parts value with
  | none =>
    have hkey : parseRfc2822DateKey value = .ok none := by
      unfold parseRfc2822DateKey
      rw [hparts]
    constructor
    · intro _ parts hsome
      exact absurd hsome (by simp)
    · intro _
      exact ⟨none, hkey, by simp⟩
  | some parts =>
    rw [parseRfc2822DateKey_eq hparts]
    simp only [Option.some.injEq, forall_eq', exists_eq_left']
    by_cases hday : 1 ≤ parts.day ∧ parts.day ≤ 31
    swap
    · simp [hday]
    rw [if_pos hday]
    by_cases htime : parts.hour * 3600 + parts.minute * 60 + parts.second < 2 ^ 32
    swap
    · have hover : secondOfDay parts.hour parts.minute parts.second = .error .arithmeticOverflow :=
        if_neg fun hfits => htime hfits.2.2
      rw [hover]
      simp [Except.map, hday, htime, -Nat.reducePow]
    have hfits : secondOfDay parts.hour parts.minute parts.second =
        .ok (parts.hour * 3600 + parts.minute * 60 + parts.second) := by
      rw [secondOfDay, if_pos (by omega)]
    rw [hfits]
    by_cases hpast : parts.unixTime ≥ 0
    · simp [Except.map, hpast, hday, htime, -Nat.reducePow]
    · simp [Except.map, hpast, htime, -Nat.reducePow]

/-- A day that February does not have is found, and a time of day that does not fit 32 bits
overflows. -/
theorem thirty_first_of_february_found :
    ¬ DateKeyExact (ascii "31 Feb 2024 00:00:00 +0000") ∧
      parseRfc2822DateKey (ascii "31 Feb 2024 00:00:00 +0000") = .ok (some 1709337600) ∧
      parseRfc2822DateKey (ascii "1 Jan 2024 1193047:00:00 +0000") =
        .error .arithmeticOverflow := by
  have hkey : parseRfc2822DateKey (ascii "31 Feb 2024 00:00:00 +0000") = .ok (some 1709337600) := by
    decide +kernel
  have hparts : (rfc2822Parts (ascii "31 Feb 2024 00:00:00 +0000")).map
      (fun parts => (parts.year, parts.month, parts.day)) = some (2024, 2, 31) := by
    decide +kernel
  refine ⟨?_, hkey, by decide +kernel⟩
  rintro ⟨key, hfound, hexact⟩
  rw [hkey] at hfound
  cases hfound
  obtain ⟨parts, hread, hrange, -⟩ := hexact _ rfl
  rw [hread] at hparts
  have hday := hrange.date.day_le
  simp only [Option.map_some, Option.some.injEq, Prod.mk.injEq] at hparts
  rw [hparts.1, hparts.2.1, hparts.2.2] at hday
  exact absurd hday (by decide)

end NntpBench.Server
