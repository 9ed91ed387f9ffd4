import BuildLedger.Calendar
import Mathlib.Tactic.Ring

/-!
# How far back the calendar reaches

A year ends on the day before the next one begins, and the date of a day lies in the year that has
begun on it. So an instant is out of the calendar by its day alone, and going back a number of days
stays in the calendar exactly as long as the first of January of its first year is not passed.
-/
namespace BuildLedger

namespace Date

/-- The days of an era that lie before one of its years. Years begin in March. -/
def daysBefore (year : Nat) : Nat := 365 * year + year / 4 - year / 100 + year / 400

def firstOfMarch (year : Int) : Int :=
  365 * year + year / 4 - year / 100 + year / 400 - marchZero

/-- The first of January, in days after the one of 1970. -/
def newYear (year : Int) : Int := firstOfMarch (year - 1) + 306

theorem first_of_march_of_era (era : Int) {year : Nat} (bound : year ≤ 400) :
    firstOfMarch (year + era * 400) = 146097 * era + daysBefore year - marchZero := by
  unfold firstOfMarch daysBefore
  omega

/-- The four-year cycle that a day of an era lies in, and the days of that cycle before it. -/
theorem cycle_of_day {day century : Nat} (_ : day < 146096) (known : day / 36524 = century) :
    ∃ leaps rest, day + century = 1461 * leaps + rest ∧ rest < 1461 ∧ leaps / 25 = century := by
  refine ⟨(day + century) / 1461, (day + century) % 1461, ?_, ?_, ?_⟩ <;> omega

/-- A day of an era lies between the beginnings of its year and of the next one. -/
theorem year_of_era {day year : Nat} (bound : day < 146097)
    (known : (day - day / 1460 + day / 36524 - day / 146096) / 365 = year) :
    year < 400 ∧ daysBefore year ≤ day ∧ day < daysBefore (year + 1) := by
  by_cases last : day = 146096
  · subst last known
    decide
  · obtain ⟨century, named⟩ : ∃ century, day / 36524 = century := ⟨_, rfl⟩
    obtain ⟨leaps, rest, split, short, leapsCentury⟩ := cycle_of_day (by omega) named
    have noEra : day / 146096 = 0 := by omega
    rw [noEra, named] at known
    -- The leap day of the cycle is counted one day early, without leaving the cycle's last year.
    have inCycle : 4 * leaps ≤ year ∧ year ≤ 4 * leaps + 3 ∧ 365 * (year - 4 * leaps) ≤ rest ∧
        (year < 4 * leaps + 3 → rest < 365 * (year - 4 * leaps) + 365) := by
      rcases Nat.lt_or_ge (day / 1460) (leaps + 1) with early | late
      · have counted : day / 1460 = leaps := by omega
        have number : (1460 * leaps + rest) / 365 = year := by
          rw [← known]
          congr 1
          omega
        omega
      · have counted : day / 1460 = leaps + 1 := by omega
        have number : (1460 * leaps + (rest - 1)) / 365 = year := by
          rw [← known]
          congr 1
          omega
        omega
    have fours : year / 4 = leaps := by omega
    have hundreds : year / 100 = century := by omega
    have nextFours : (year + 1) / 4 = if year = 4 * leaps + 3 then leaps + 1 else leaps := by
      split <;> omega
    have nextHundreds :
        (year + 1) / 100 = if year = 100 * century + 99 then century + 1 else century := by
      split <;> omega
    have nextEra : (year + 1) / 400 = if year = 399 then 1 else 0 := by split <;> omega
    unfold daysBefore
    refine ⟨by omega, by omega, ?_⟩
    rw [nextFours, nextHundreds, nextEra]
    split_ifs <;> omega

theorem new_year_le {first second : Int} (before : first ≤ second) :
    newYear first ≤ newYear second := by
  unfold newYear firstOfMarch
  omega

theorem new_year_after_march (year : Int) : newYear (year + 1) = firstOfMarch year + 306 := by
  unfold newYear
  rw [Int.add_sub_cancel]

/-- The date a number of days after the first of March of a year that begins there. -/
def ofMarch (march : Int) (day : Nat) : Date :=
  let monthFromMarch := (5 * day + 2) / 153
  let month := if monthFromMarch < 10 then monthFromMarch + 3 else monthFromMarch - 9
  { year := march + (if month ≤ 2 then 1 else 0)
    month
    day := day - (153 * monthFromMarch + 2) / 5 + 1 }

/-- A day lies in the year that begins on the last first of March up to it. -/
theorem of_days_march (days : Int) :
    ∃ march day, days = firstOfMarch march + (day : Nat) ∧ days < firstOfMarch (march + 1) ∧
      ofDays days = ofMarch march day := by
  have cycle : days + marchZero = 146097 * ((days + marchZero) / 146097) +
      ((days + marchZero) % 146097).toNat := by omega
  have short : ((days + marchZero) % 146097).toNat < 146097 := by omega
  unfold ofDays
  simp only
  generalize (days + marchZero) / 146097 = era at *
  generalize ((days + marchZero) % 146097).toNat = day at *
  obtain ⟨year, known⟩ :
      ∃ year, (day - day / 1460 + day / 36524 - day / 146096) / 365 = year := ⟨_, rfl⟩
  obtain ⟨bound, begun, ends⟩ := year_of_era short known
  have before : 365 * year + year / 4 - year / 100 = daysBefore year := by
    unfold daysBefore
    omega
  have start := first_of_march_of_era era (Nat.le_of_lt bound)
  have next : firstOfMarch ((year + 1 : Nat) + era * 400) = _ :=
    first_of_march_of_era era (Nat.succ_le_of_lt bound)
  refine ⟨year + era * 400, day - daysBefore year, ?_, ?_, ?_⟩
  · rw [start]
    omega
  · rw [show (year : Int) + era * 400 + 1 = (year + 1 : Nat) + era * 400 by push_cast; ring, next]
    omega
  · rw [known, before]
    rfl

/-- The date of a day lies in the year that has begun on it. -/
theorem year_bounds (days : Int) :
    newYear (ofDays days).year ≤ days ∧ days < newYear ((ofDays days).year + 1) := by
  obtain ⟨march, day, begins, ends, date⟩ := of_days_march days
  have previous : newYear march ≤ firstOfMarch march := by
    unfold newYear firstOfMarch
    omega
  have length : firstOfMarch (march + 1) ≤ firstOfMarch march + 366 := by
    unfold firstOfMarch
    omega
  rw [date]
  by_cases late : 306 ≤ day
  · have year : (ofMarch march day).year = march + 1 := by
      have month : ¬(5 * day + 2) / 153 < 10 := by omega
      have winter : (5 * day + 2) / 153 - 9 ≤ 2 := by omega
      simp [ofMarch, month, winter]
    rw [year, new_year_after_march, new_year_after_march]
    omega
  · have year : (ofMarch march day).year = march := by
      have month : (5 * day + 2) / 153 < 10 := by omega
      have summer : ¬(5 * day + 2) / 153 + 3 ≤ 2 := by omega
      simp [ofMarch, month, summer]
    rw [year, new_year_after_march]
    omega

theorem year_le_iff (year days : Int) : year ≤ (ofDays days).year ↔ newYear year ≤ days := by
  obtain ⟨begun, ends⟩ := year_bounds days
  constructor
  · intro before
    exact (new_year_le before).trans begun
  · intro before
    by_contra after
    have next : newYear ((ofDays days).year + 1) ≤ newYear year := new_year_le (by omega)
    omega

end Date

namespace Instant

/-- How many days back from an instant the calendar still reaches. -/
def reach (now : Instant) : Int := now.day - Date.newYear firstYear

/-- The instant a number of days earlier, whether or not the calendar has it. -/
def daysEarlier (now : Instant) (days : Nat) : Instant :=
  { now with seconds := now.seconds - days * secondsPerDay }

theorem days_earlier_day (now : Instant) (days : Nat) :
    (now.daysEarlier days).day = now.day - days := by
  simp only [day, daysEarlier, secondsPerDay]
  omega

theorem days_earlier_millis (now : Instant) (days : Nat) :
    (now.daysEarlier days).millis = now.millis - days * 86400000 := by
  unfold millis daysEarlier secondsPerDay
  ring

theorem days_earlier_valid {now : Instant} (valid : now.isValid = true) (days : Nat) :
    (now.daysEarlier days).isValid = true ↔ (days : Int) ≤ now.reach := by
  simp only [isValid, Bool.and_eq_true, decide_eq_true_eq] at valid ⊢
  obtain ⟨⟨_, last⟩, fraction⟩ := valid
  have first := Date.year_le_iff firstYear (now.daysEarlier days).day
  have upper : (now.daysEarlier days).date.year ≤ now.date.year := by
    apply (Date.year_le_iff _ _).mpr
    have begun := (Date.year_bounds (now.daysEarlier days).day).1
    exact begun.trans (by rw [days_earlier_day]; omega)
  constructor
  · rintro ⟨⟨before, _⟩, _⟩
    have reached := first.mp before
    rw [days_earlier_day] at reached
    unfold reach
    omega
  · intro near
    refine ⟨⟨first.mpr ?_, upper.trans last⟩, fraction⟩
    rw [days_earlier_day]
    unfold reach at near
    omega

/-- Going back fails where the calendar ends, and nowhere else. -/
theorem minus_days_eq {now : Instant} (valid : now.isValid = true) (days : Nat) :
    now.minusDays? days =
      if (days : Int) ≤ now.reach then some (now.daysEarlier days) else none := by
  have known := days_earlier_valid valid days
  change (if (now.daysEarlier days).isValid = true then some (now.daysEarlier days) else none) = _
  simp only [known]

/-- From 1970 on more than ninety-six million days are in reach, and up to the year 9999 fewer than
a hundred million. -/
theorem reach_bounds {now : Instant} (since : 1970 ≤ now.date.year)
    (before : now.date.year ≤ 9999) : 96465292 ≤ now.reach ∧ now.reach < 99398189 := by
  have begun := (Date.year_le_iff 1970 now.day).mp since
  have ended : ¬10000 ≤ now.date.year := by omega
  rw [date, Date.year_le_iff] at ended
  have first : Date.newYear firstYear = -96465292 := by decide
  have origin : Date.newYear 1970 = 0 := by decide
  have distant : Date.newYear 10000 = 2932897 := by decide
  unfold reach
  omega

end Instant

end BuildLedger
