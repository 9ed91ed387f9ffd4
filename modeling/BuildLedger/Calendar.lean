/-!
# Instants and the text of a start time

An instant counts seconds since the first of January 1970 in universal time and has a fraction in
nanoseconds. A fraction of a whole second or more is in the leap second that follows the counted
one. After the last second of a minute it shows as second sixty, and after any other second like the
one that follows. Time stamps have leap seconds only at the end of a minute. Dates are proleptic
Gregorian, from the year −262143 to the year 262142.
-/
namespace BuildLedger

/-- A point in universal time. -/
structure Instant where
  seconds : Int
  nanos : Nat
deriving Repr, DecidableEq, Inhabited

/-- A day of the proleptic Gregorian calendar; the year before the year 1 is the year 0. -/
structure Date where
  year : Int
  month : Nat
  day : Nat
deriving Repr, DecidableEq

namespace Date

/-- The number of days from the first of January 1970 to the first of March of the year 0. -/
def marchZero : Int := 719468

/-- The date a number of days after the first of January 1970. Years begin in March here, so that
a leap day ends its year, and 400 years have 146097 days. -/
def ofDays (days : Int) : Date :=
  let shifted := days + marchZero
  let era := shifted / 146097
  let dayOfEra := (shifted % 146097).toNat
  let yearOfEra := (dayOfEra - dayOfEra / 1460 + dayOfEra / 36524 - dayOfEra / 146096) / 365
  let dayOfYear := dayOfEra - (365 * yearOfEra + yearOfEra / 4 - yearOfEra / 100)
  let monthFromMarch := (5 * dayOfYear + 2) / 153
  let month := if monthFromMarch < 10 then monthFromMarch + 3 else monthFromMarch - 9
  { year := (yearOfEra : Int) + era * 400 + (if month ≤ 2 then 1 else 0)
    month := month
    day := dayOfYear - (153 * monthFromMarch + 2) / 5 + 1 }

end Date

/-- A natural number in decimal, with zeros in front up to a width. -/
def padded (width value : Nat) : String :=
  let digits := Nat.toDigits 10 value
  String.ofList (List.replicate (width - digits.length) '0' ++ digits)

namespace Instant

def secondsPerDay : Int := 86400

def day (instant : Instant) : Int := instant.seconds / secondsPerDay

def secondOfDay (instant : Instant) : Nat := (instant.seconds % secondsPerDay).toNat

def date (instant : Instant) : Date := Date.ofDays instant.day

def firstYear : Int := -262143

def lastYear : Int := 262142

/-- Whether the calendar has the instant: its year is in range, and at most one leap second follows
the counted one. -/
def isValid (instant : Instant) : Bool :=
  firstYear ≤ instant.date.year && instant.date.year ≤ lastYear && instant.nanos < 2000000000

/-- The instant of a time stamp, whose fraction stays below a second but at the end of a minute. -/
def ofUnix? (seconds : Int) (nanos : Nat) : Option Instant :=
  let instant : Instant := ⟨seconds, nanos⟩
  if instant.isValid && (nanos < 1000000000 || instant.secondOfDay % 60 == 59) then some instant
  else none

def ofMillis (millis : Int) : Instant :=
  ⟨millis / 1000, (millis % 1000).toNat * 1000000⟩

/-- Milliseconds since the first of January 1970; a leap second adds its fraction in full. -/
def millis (instant : Instant) : Int :=
  instant.seconds * 1000 + (instant.nanos / 1000000 : Nat)

/-- The instant a number of days earlier, if the calendar reaches it. -/
def minusDays? (instant : Instant) (days : Nat) : Option Instant :=
  let earlier := { instant with seconds := instant.seconds - days * secondsPerDay }
  if earlier.isValid then some earlier else none

/-- Four digits from 0 to 9999, otherwise a sign and at least four digits. -/
def yearText (year : Int) : String :=
  if 0 ≤ year && year ≤ 9999 then padded 4 year.toNat
  else (if year < 0 then "-" else "+") ++ padded 4 year.natAbs

/-- The start time of a record: date, time with milliseconds, and the offset of universal time. -/
def startedText (instant : Instant) : String :=
  let date := instant.date
  let second := instant.secondOfDay
  let leap := instant.nanos / 1000000000
  let fraction := instant.nanos % 1000000000 / 1000000
  yearText date.year ++ "-" ++ padded 2 date.month ++ "-" ++ padded 2 date.day ++ "T" ++
    padded 2 (second / 3600) ++ ":" ++ padded 2 (second / 60 % 60) ++ ":" ++
    padded 2 (second % 60 + leap) ++ "." ++ padded 3 fraction ++ "+0000"

end Instant

end BuildLedger
