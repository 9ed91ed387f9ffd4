import BuildLedger.Proofs.CivilDates
import BuildLedger.Proofs.ExactCollection
import BuildLedger.Proofs.Splitting
import BuildLedger.Publication

/-!
# What the text of a start time says

A moment is what a text states: a date and a time of day in universal time, to the millisecond. Each
real moment is read back from its text, in years of any size. The text of a start time states the
moment whose milliseconds since 1970 are those of the start, which are also the number of a record
without a number and the time stamp of uploads. So two texts of start times differ exactly when the
milliseconds do, or when only one of them is in a leap second.
-/
namespace BuildLedger

/-- A date and a time of day; second sixty is a leap second. -/
structure Moment where
  date : Date
  hour : Nat
  minute : Nat
  second : Nat
  milli : Nat
deriving DecidableEq

namespace Moment

structure IsReal (moment : Moment) : Prop where
  date : moment.date.IsReal
  hour : moment.hour < 24
  minute : moment.minute < 60
  second : moment.second ≤ 60
  milli : moment.milli < 1000

instance (moment : Moment) : Decidable moment.IsReal :=
  decidable_of_iff (moment.date.IsReal ∧ moment.hour < 24 ∧ moment.minute < 60 ∧
    moment.second ≤ 60 ∧ moment.milli < 1000)
    ⟨fun ⟨date, hour, minute, second, milli⟩ => ⟨date, hour, minute, second, milli⟩,
      fun real => ⟨real.date, real.hour, real.minute, real.second, real.milli⟩⟩

/-- Milliseconds after the beginning of 1970. -/
def millis (moment : Moment) : Int :=
  (((moment.date.number * 24 + moment.hour) * 60 + moment.minute) * 60 + moment.second) * 1000 +
    moment.milli

def text (moment : Moment) : String :=
  Instant.yearText moment.date.year ++ "-" ++ padded 2 moment.date.month ++ "-" ++
    padded 2 moment.date.day ++ "T" ++ padded 2 moment.hour ++ ":" ++ padded 2 moment.minute ++
    ":" ++ padded 2 moment.second ++ "." ++ padded 3 moment.milli ++ "+0000"

/-! ## Reading -/

/-- A number of at least four digits, and what follows it. -/
def longNumber? (text : List Char) : Option (Int × List Char) :=
  let digits := text.takeWhile Char.isDigit
  if 4 ≤ digits.length then
    some (Nat.ofDigitChars 10 digits 0, text.dropWhile Char.isDigit)
  else none

/-- A year with or without a sign, and what follows it. -/
def year? : List Char → Option (Int × List Char)
  | '-' :: rest => (longNumber? rest).map fun (year, behind) => (-year, behind)
  | '+' :: rest => longNumber? rest
  | text => longNumber? text

/-- A number of a given width behind a mark, and what follows it. -/
def field? (mark : Char) (width : Nat) : List Char → Option (Nat × List Char)
  | [] => none
  | first :: rest =>
      let digits := rest.take width
      if first = mark ∧ digits.length = width ∧ digits.all Char.isDigit then
        some (Nat.ofDigitChars 10 digits 0, rest.drop width)
      else none

/-- The real moment that a text states as year, month and day, hour, minute, second and millisecond,
and the offset of universal time. -/
def read? (text : List Char) : Option Moment := do
  let (year, behind) ← year? text
  let (month, behind) ← field? '-' 2 behind
  let (day, behind) ← field? '-' 2 behind
  let (hour, behind) ← field? 'T' 2 behind
  let (minute, behind) ← field? ':' 2 behind
  let (second, behind) ← field? ':' 2 behind
  let (milli, behind) ← field? '.' 3 behind
  let moment : Moment := ⟨⟨year, month, day⟩, hour, minute, second, milli⟩
  if moment.IsReal ∧ behind = ['+', '0', '0', '0', '0'] then some moment else none

theorem padded_characters (width value : Nat) :
    (padded width value).toList =
      List.replicate (width - (Nat.toDigits 10 value).length) '0' ++ Nat.toDigits 10 value :=
  String.toList_ofList

theorem padded_digits (width value : Nat) :
    ∀ character ∈ (padded width value).toList, character.isDigit = true := by
  intro character member
  rw [padded_characters, List.mem_append, List.mem_replicate] at member
  rcases member with ⟨_, rfl⟩ | member
  · rfl
  · exact Nat.isDigit_of_mem_toDigits (by decide) (by decide) member

theorem padded_value (width value : Nat) :
    Nat.ofDigitChars 10 (padded width value).toList 0 = value := by
  rw [padded_characters, Nat.ofDigitChars_append, Nat.ofDigitChars_replicate_zero, Nat.mul_zero,
    Nat.ofDigitChars_ten_toDigits]

theorem padded_reaches (width value : Nat) : width ≤ (padded width value).toList.length := by
  rw [padded_characters, List.length_append, List.length_replicate]
  omega

theorem padded_fits {width value : Nat} (present : 0 < width) (fits : value < 10 ^ width) :
    (padded width value).toList.length = width := by
  have short := (Nat.length_toDigits_le_iff (by decide) present).mpr fits
  rw [padded_characters, List.length_append, List.length_replicate]
  omega

theorem field_padded (mark : Char) {width value : Nat} (present : 0 < width)
    (fits : value < 10 ^ width) (rest : List Char) :
    field? mark width (mark :: ((padded width value).toList ++ rest)) = some (value, rest) := by
  have length := padded_fits present fits
  have taken : ((padded width value).toList ++ rest).take width = (padded width value).toList := by
    rw [List.take_append_of_le_length (Nat.le_of_eq length.symm), List.take_of_length_le
      (Nat.le_of_eq length)]
  have left : ((padded width value).toList ++ rest).drop width = rest := by
    rw [List.drop_append_of_le_length (Nat.le_of_eq length.symm), List.drop_of_length_le
      (Nat.le_of_eq length), List.nil_append]
  have digits : (padded width value).toList.all Char.isDigit = true :=
    List.all_eq_true.mpr (padded_digits width value)
  simp only [field?, taken, left, length, digits, padded_value, and_self, if_true]

theorem long_number_padded (value : Nat) {rest : List Char}
    (stops : ∀ character ∈ rest.head?, character.isDigit = false) :
    longNumber? ((padded 4 value).toList ++ rest) = some ((value : Int), rest) := by
  obtain ⟨taken, left⟩ := run_cut (padded_digits 4 value) stops
  simp only [longNumber?, taken, left, padded_reaches, padded_value, if_true]

/-- A year is read back with its sign. -/
theorem year_text (year : Int) {rest : List Char}
    (stops : ∀ character ∈ rest.head?, character.isDigit = false) :
    year? ((Instant.yearText year).toList ++ rest) = some (year, rest) := by
  have number := fun value : Nat => long_number_padded value stops
  by_cases plain : 0 ≤ year ∧ year ≤ 9999
  · have spelled : Instant.yearText year = padded 4 year.toNat := by
      simp [Instant.yearText, plain]
    obtain ⟨first, others, begins⟩ :=
      List.exists_cons_of_length_pos (Nat.lt_of_lt_of_le (by decide) (padded_reaches 4 year.toNat))
    have digit : first.isDigit = true :=
      padded_digits 4 year.toNat first (by rw [begins]; exact List.mem_cons_self)
    have noMinus : first ≠ '-' := by
      rintro rfl
      cases digit
    have noPlus : first ≠ '+' := by
      rintro rfl
      cases digit
    have read := number year.toNat
    rw [begins, List.cons_append, Int.toNat_of_nonneg plain.1] at read
    rw [spelled, begins, List.cons_append]
    simpa [year?, noMinus, noPlus] using read
  · by_cases below : year < 0
    · have spelled : (Instant.yearText year).toList = '-' :: (padded 4 year.natAbs).toList := by
        simp [Instant.yearText, plain, below]
      have value : -(year.natAbs : Int) = year := by omega
      rw [spelled, List.cons_append, year?, number, Option.map_some]
      simp only [value]
    · have spelled : (Instant.yearText year).toList = '+' :: (padded 4 year.natAbs).toList := by
        simp [Instant.yearText, plain, below]
      have value : (year.natAbs : Int) = year := by omega
      rw [spelled, List.cons_append, year?, number, value]

theorem text_characters (moment : Moment) :
    moment.text.toList = (Instant.yearText moment.date.year).toList ++
      '-' :: ((padded 2 moment.date.month).toList ++ '-' :: ((padded 2 moment.date.day).toList ++
        'T' :: ((padded 2 moment.hour).toList ++ ':' :: ((padded 2 moment.minute).toList ++
          ':' :: ((padded 2 moment.second).toList ++ '.' :: ((padded 3 moment.milli).toList ++
            ['+', '0', '0', '0', '0'])))))) := by
  simp [text]

theorem month_length_le (year : Int) (month : Nat) : Date.monthLength year month ≤ 31 := by
  unfold Date.monthLength
  split <;> first | decide | (split <;> decide)

/-- Each real moment is read back from its text. -/
theorem read_text {moment : Moment} (real : moment.IsReal) :
    read? moment.text.toList = some moment := by
  have month : moment.date.month < 10 ^ 2 := Nat.lt_of_le_of_lt real.date.month.2 (by decide)
  have day : moment.date.day < 10 ^ 2 :=
    Nat.lt_of_le_of_lt (real.date.day.2.trans (month_length_le _ _)) (by decide)
  have hour : moment.hour < 10 ^ 2 := Nat.lt_trans real.hour (by decide)
  have minute : moment.minute < 10 ^ 2 := Nat.lt_trans real.minute (by decide)
  have second : moment.second < 10 ^ 2 := Nat.lt_of_le_of_lt real.second (by decide)
  have milli : moment.milli < 10 ^ 3 := real.milli
  have dash : ∀ rest : List Char, ∀ character ∈ ('-' :: rest).head?, character.isDigit = false := by
    intro rest character first
    cases first
    rfl
  rw [text_characters, read?, year_text _ (dash _)]
  simp only [Option.bind_eq_bind, Option.bind_some, field_padded _ (Nat.zero_lt_two) month,
    field_padded _ (Nat.zero_lt_two) day, field_padded _ (Nat.zero_lt_two) hour,
    field_padded _ (Nat.zero_lt_two) minute, field_padded _ (Nat.zero_lt_two) second,
    field_padded _ (Nat.zero_lt_succ 2) milli]
  exact if_pos ⟨real, trivial⟩

end Moment

namespace Instant

/-- In a leap second a minute's last second is over, and its fraction is a second or more. -/
def InLeapSecond (instant : Instant) : Prop :=
  1000000000 ≤ instant.nanos ∧ instant.secondOfDay % 60 = 59

/-- The moment that the text of a start time states. -/
def moment (instant : Instant) : Moment where
  date := instant.date
  hour := instant.secondOfDay / 3600
  minute := instant.secondOfDay / 60 % 60
  second := instant.secondOfDay % 60 + instant.nanos / 1000000000
  milli := instant.nanos % 1000000000 / 1000000

theorem started_text_moment (instant : Instant) : instant.startedText = instant.moment.text := rfl

variable {instant first second : Instant}

theorem valid_nanos (valid : instant.isValid = true) : instant.nanos < 2000000000 := by
  simp only [isValid, Bool.and_eq_true, decide_eq_true_eq] at valid
  exact valid.2

theorem second_of_day_lt (instant : Instant) : instant.secondOfDay < 86400 := by
  unfold secondOfDay secondsPerDay
  omega

theorem moment_real (valid : instant.isValid = true) : instant.moment.IsReal := by
  have bound := valid_nanos valid
  have short := second_of_day_lt instant
  constructor
  · exact (Date.of_days_number instant.day).2
  all_goals
    simp only [moment]
    omega

theorem moment_millis (instant : Instant) : instant.moment.millis = instant.millis := by
  have day : instant.date.number = instant.day := (Date.of_days_number instant.day).1
  have split : instant.seconds = instant.day * 86400 + instant.secondOfDay := by
    unfold Instant.day secondOfDay secondsPerDay
    omega
  simp only [Moment.millis, moment, day, millis, split]
  omega

theorem moment_leaps (valid : instant.isValid = true) :
    instant.moment.second = 60 ↔ instant.InLeapSecond := by
  have bound := valid_nanos valid
  simp only [InLeapSecond, moment]
  omega

theorem read_started_text (valid : instant.isValid = true) :
    Moment.read? instant.startedText.toList = some instant.moment := by
  rw [started_text_moment]
  exact Moment.read_text (moment_real valid)

/-- Seconds that stay within a minute change nothing before the second. -/
theorem within_minute {later : Instant} {passed : Nat}
    (after : later.seconds = instant.seconds + passed)
    (fits : instant.secondOfDay % 60 + passed < 60) :
    later.day = instant.day ∧ later.secondOfDay = instant.secondOfDay + passed := by
  simp only [day, secondOfDay, secondsPerDay] at fits ⊢
  omega

/-- Outside leap seconds the milliseconds say all that a text states. A fraction of a second or more
begins the next second, but it is of the same minute. -/
theorem moment_of_millis (bound : instant.nanos < 2000000000) (plain : ¬instant.InLeapSecond) :
    instant.moment = (ofMillis instant.millis).moment := by
  have after : (ofMillis instant.millis).seconds =
      instant.seconds + (instant.nanos / 1000000000 : Nat) := by
    simp only [ofMillis, millis]
    omega
  have fraction : (ofMillis instant.millis).nanos =
      instant.nanos % 1000000000 / 1000000 * 1000000 := by
    simp only [ofMillis, millis]
    omega
  have fits : instant.secondOfDay % 60 + instant.nanos / 1000000000 < 60 := by
    unfold InLeapSecond at plain
    omega
  obtain ⟨sameDay, later⟩ := within_minute after fits
  simp only [moment, date, sameDay, later, fraction, Moment.mk.injEq, true_and]
  omega

/-- In a leap second a text states the moment one second earlier, but as second sixty. -/
theorem leap_moment_of_millis (bound : instant.nanos < 2000000000) (leap : instant.InLeapSecond) :
    instant.moment = { (ofMillis (instant.millis - 1000)).moment with second := 60 } := by
  obtain ⟨long, last⟩ := leap
  have before : instant.millis - 1000 =
      millis { instant with nanos := instant.nanos - 1000000000 } := by
    simp only [millis]
    omega
  have plain : ¬InLeapSecond { instant with nanos := instant.nanos - 1000000000 } := by
    unfold InLeapSecond
    simp only
    omega
  rw [before, ← moment_of_millis (by simp only; omega) plain]
  simp only [moment, date, Instant.day, secondOfDay] at last ⊢
  simp only [Moment.mk.injEq, true_and]
  omega

theorem started_text_eq_iff (firstValid : first.isValid = true)
    (secondValid : second.isValid = true) :
    first.startedText = second.startedText ↔
      first.millis = second.millis ∧ (first.InLeapSecond ↔ second.InLeapSecond) := by
  constructor
  · intro same
    have read := read_started_text firstValid
    rw [same, read_started_text secondValid] at read
    have moments : second.moment = first.moment := Option.some.inj read
    rw [← moment_millis first, ← moment_millis second, ← moment_leaps firstValid,
      ← moment_leaps secondValid, moments]
    exact ⟨rfl, Iff.rfl⟩
  · rintro ⟨same, leaps⟩
    rw [started_text_moment, started_text_moment]
    have firstBound := valid_nanos firstValid
    have secondBound := valid_nanos secondValid
    by_cases inLeap : first.InLeapSecond
    · rw [leap_moment_of_millis firstBound inLeap,
        leap_moment_of_millis secondBound (leaps.mp inLeap), same]
    · rw [moment_of_millis firstBound inLeap, moment_of_millis secondBound (mt leaps.mpr inLeap),
        same]

end Instant

namespace Publication

open Collection

/-- The text of a start time is read back as a moment with the start's milliseconds. They are the
number of a record that is given none, and the time stamp of each upload for which neither the
upload nor its module nor the settings have one. Two texts are equal exactly when the milliseconds
are and both starts or none are in a leap second. -/
theorem start_is_told_consistently (settings : Settings) (info : RunInfo) (now : Instant)
    (valid : info.started.isValid = true) :
    let millis := info.started.millis
    let header := header settings info now
    (∃ moment, Moment.read? header.started.toList = some moment ∧ moment.IsReal ∧
      moment.millis = millis ∧ (moment.second = 60 ↔ info.started.InLeapSecond)) ∧
    (settings.build.number = none → header.number = toString millis) ∧
    (∀ graph snapshot extractor collection,
      collect settings header info.started graph snapshot extractor = .ok collection →
        collection.record.started = header.started ∧
        collection.record.number = header.number ∧
        List.Forall₂ (fun unit wanted => ∃ bare offered, Tells extractor unit bare offered ∧
            List.Forall₂ (fun told upload =>
              upload.properties.get? "build.timestamp" =
                (told.properties.get? "build.timestamp").or
                  ((moduleValue settings unit bare "build.timestamp").or (toString millis)))
              offered wanted.uploads)
          (snapshot.worked graph) collection.units) ∧
    ∀ other : Instant, other.isValid = true →
      (other.startedText = info.started.startedText ↔
        other.millis = millis ∧ (other.InLeapSecond ↔ info.started.InLeapSecond)) := by
  intro millis header
  refine ⟨⟨info.started.moment, ?_, ?_, ?_, ?_⟩, ?_, ?_, ?_⟩
  · exact Instant.read_started_text valid
  · exact Instant.moment_real valid
  · exact Instant.moment_millis info.started
  · exact Instant.moment_leaps valid
  · intro unnumbered
    simp only [header, Publication.header, unnumbered, Option.getD_none]
    rfl
  · intro graph snapshot extractor collection collected
    have uploads := collect_uploads collected
    obtain ⟨found, _, rfl⟩ := collect_ok_iff.mp collected
    refine ⟨rfl, rfl, uploads.imp ?_⟩
    rintro unit wanted ⟨_, bare, offered, tells, completed⟩
    refine ⟨bare, offered, tells, completed.imp ?_⟩
    intro told upload complete
    exact complete.values "build.timestamp"
  · exact fun other otherValid => Instant.started_text_eq_iff otherValid valid

/-- The second half of a leap second has the milliseconds of the next second, and another text. -/
theorem leap_second_is_told_apart :
    let info : RunInfo := ⟨"shop", ⟨1483228799, 1500999999⟩⟩
    let later : Instant := ⟨1483228800, 500000000⟩
    info.started.isValid = true ∧ info.started.startedText = "2016-12-31T23:59:60.500+0000" ∧
      (∃ moment, Moment.read? info.started.startedText.toList = some moment ∧
        moment.millis = 1483228800500 ∧ moment.second = 60) ∧
      later.millis = info.started.millis ∧ later.startedText ≠ info.started.startedText := by
  intro info later
  have valid : info.started.isValid = true := by decide
  obtain ⟨⟨moment, read, _, millis, leap⟩, _, _, texts⟩ :=
    start_is_told_consistently {} info info.started valid
  have inLeap : info.started.InLeapSecond := by
    unfold Instant.InLeapSecond
    decide
  have notInLeap : ¬later.InLeapSecond := by
    unfold Instant.InLeapSecond
    decide
  have told : info.started.millis = 1483228800500 := by decide
  have same : later.millis = 1483228800500 := by decide
  refine ⟨valid, by decide +kernel, ⟨moment, read, millis.trans told, leap.mpr inLeap⟩,
    same.trans told.symm, ?_⟩
  intro same
  exact notInLeap (((texts later (by decide)).mp same).2.mpr inLeap)

end Publication

end BuildLedger
