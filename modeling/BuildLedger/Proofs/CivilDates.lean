import BuildLedger.Proofs.CalendarReach
import Mathlib.Tactic.IntervalCases

/-!
# Dates and the days they stand for

A date stands for the days before its year, its month and itself, where months have the lengths of
the Gregorian calendar in all years. The date of a day is real and stands for that day, also before
1970 and beyond four digits.
-/
namespace BuildLedger

namespace Date

def isLeap (year : Int) : Bool := year % 4 = 0 && (year % 100 ≠ 0 || year % 400 = 0)

def monthLength (year : Int) : Nat → Nat
  | 0 => 0
  | 2 => if isLeap year then 29 else 28
  | 4 | 6 | 9 | 11 => 30
  | _ => 31

/-- The days of a year before one of its months. -/
def daysBeforeMonth (year : Int) : Nat → Nat
  | 0 => 0
  | month + 1 => daysBeforeMonth year month + monthLength year month

/-- The calendar has the date. -/
structure IsReal (date : Date) : Prop where
  month : 1 ≤ date.month ∧ date.month ≤ 12
  day : 1 ≤ date.day ∧ date.day ≤ monthLength date.year date.month

instance (date : Date) : Decidable date.IsReal :=
  decidable_of_iff ((1 ≤ date.month ∧ date.month ≤ 12) ∧
    1 ≤ date.day ∧ date.day ≤ monthLength date.year date.month)
    ⟨fun both => ⟨both.1, both.2⟩, fun real => ⟨real.month, real.day⟩⟩

/-- Days after the first of January 1970. -/
def number (date : Date) : Int :=
  newYear date.year + daysBeforeMonth date.year date.month + (date.day - 1)

/-! ## Years -/

theorem march_after_new_year (year : Int) :
    firstOfMarch year = newYear year + daysBeforeMonth year 3 := by
  have february : (daysBeforeMonth year 3 : Int) = if isLeap year then 60 else 59 := by
    simp only [daysBeforeMonth, monthLength]
    split <;> rfl
  rw [february]
  simp only [newYear, firstOfMarch, isLeap, Bool.and_eq_true, Bool.or_eq_true, decide_eq_true_eq]
  split <;> omega

/-! ## Months -/

/-- The months from March on have the same days in every year. -/
theorem days_from_march (year : Int) : ∀ month < 10,
    daysBeforeMonth year (month + 3) = daysBeforeMonth year 3 + (153 * month + 2) / 5 ∧
      (153 * (month + 1) + 2) / 5 = (153 * month + 2) / 5 + monthLength year (month + 3) := by
  intro month small
  interval_cases month <;> simp [daysBeforeMonth, monthLength]

theorem of_march_spring {march : Int} {day month : Nat} (named : (5 * day + 2) / 153 = month)
    (spring : month < 10) :
    (ofMarch march day).number = firstOfMarch march + day ∧ (ofMarch march day).IsReal := by
  obtain ⟨before, length⟩ := days_from_march march month spring
  have date : ofMarch march day = ⟨march, month + 3, day - (153 * month + 2) / 5 + 1⟩ := by
    simp [ofMarch, named, spring]
  rw [date]
  constructor
  · simp only [number, before, march_after_new_year]
    omega
  · constructor
    · exact ⟨Nat.le_add_left 1 _, Nat.add_le_add_right (Nat.le_of_lt_succ spring) 3⟩
    · simp only
      omega

/-- January and February belong to the next year. -/
theorem of_march_winter {march : Int} {day month : Nat} (named : (5 * day + 2) / 153 = month)
    (winter : 10 ≤ month) (short : firstOfMarch march + day < firstOfMarch (march + 1)) :
    (ofMarch march day).number = firstOfMarch march + day ∧ (ofMarch march day).IsReal := by
  rw [march_after_new_year (march + 1), new_year_after_march] at short
  have limit : daysBeforeMonth (march + 1) 3 = 31 + monthLength (march + 1) 2 := by
    simp [daysBeforeMonth, monthLength]
  have february : monthLength (march + 1) 2 ≤ 29 := by
    simp only [monthLength]
    split <;> decide
  have january : month = 10 ∨ month = 11 := by omega
  rcases january with rfl | rfl
  · have date : ofMarch march day = ⟨march + 1, 1, day - 306 + 1⟩ := by
      simp [ofMarch, named]
    have length : monthLength (march + 1) 1 = 31 := rfl
    rw [date]
    constructor
    · simp only [number, daysBeforeMonth, monthLength, new_year_after_march]
      omega
    · constructor <;> simp only [length] <;> omega
  · have date : ofMarch march day = ⟨march + 1, 2, day - 337 + 1⟩ := by
      simp [ofMarch, named]
    rw [date]
    constructor
    · simp only [number, daysBeforeMonth, monthLength, new_year_after_march]
      omega
    · constructor <;> simp only <;> omega

/-- The date of a day is in the calendar and stands for that day. -/
theorem of_days_number (days : Int) : (ofDays days).number = days ∧ (ofDays days).IsReal := by
  obtain ⟨march, day, begins, ends, date⟩ := of_days_march days
  rw [date, begins]
  by_cases spring : (5 * day + 2) / 153 < 10
  · exact of_march_spring rfl spring
  · exact of_march_winter rfl (Nat.le_of_not_lt spring) (begins ▸ ends)

end Date

end BuildLedger
