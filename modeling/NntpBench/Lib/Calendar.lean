import Mathlib

namespace Calendar

def IsLeap (year : Int) : Prop := year % 4 = 0 ∧ (year % 100 ≠ 0 ∨ year % 400 = 0)

instance (year : Int) : Decidable (IsLeap year) := inferInstanceAs (Decidable (_ ∧ _))

def monthLength (year : Int) (month : Nat) : Int :=
  if month = 2 then if IsLeap year then 29 else 28
  else if month = 4 ∨ month = 6 ∨ month = 9 ∨ month = 11 then 30
  else 31

theorem monthLength_le (year : Int) (month : Nat) : monthLength year month ≤ 31 := by
  unfold monthLength
  split_ifs <;> omega

/-- A day that exists. -/
structure IsDate (year : Int) (month : Nat) (day : Int) : Prop where
  month_pos : 1 ≤ month
  month_le : month ≤ 12
  day_pos : 1 ≤ day
  day_le : day ≤ monthLength year month

/-- The days from the beginning of the year 0 to the beginning of a year. -/
def daysBeforeYear (year : Int) : Int :=
  365 * year + (year + 3) / 4 - (year + 99) / 100 + (year + 399) / 400

/-- The days of a year in front of a month. -/
def daysBeforeMonth (year : Int) (month : Nat) : Int :=
  ((List.range (month - 1)).map fun i => monthLength year (i + 1)).sum

/-- The number of a day; that of 1970-01-01 is zero. -/
def dayNumber (year : Int) (month : Nat) (day : Int) : Int :=
  daysBeforeYear year - daysBeforeYear 1970 + daysBeforeMonth year month + (day - 1)

theorem daysBeforeMonth_eq (year : Int) {month : Nat} (hmin : 1 ≤ month) (hmax : month ≤ 12) :
    daysBeforeMonth year month =
      if month ≤ 2 then 31 * ((month : Int) - 1)
      else (153 * (month : Int) - 457) / 5 + 31 + monthLength year 2 := by
  unfold daysBeforeMonth
  generalize hfebruary : monthLength year 2 = february
  interval_cases month <;> simp [List.range_succ, hfebruary] <;> simp [monthLength] <;> omega

theorem dayNumber_eq (year : Int) {month : Nat} (hmin : 1 ≤ month) (hmax : month ≤ 12) (day : Int) :
    dayNumber year month day =
      let y := year - if month ≤ 2 then 1 else 0
      let mp := (month : Int) + if month > 2 then -3 else 9
      365 * y + y / 4 - y / 100 + y / 400 + (153 * mp + 2) / 5 + day - 1 - 719468 := by
  unfold dayNumber daysBeforeYear
  rw [daysBeforeMonth_eq year hmin hmax]
  unfold monthLength IsLeap
  dsimp only
  split_ifs <;> omega

end Calendar
