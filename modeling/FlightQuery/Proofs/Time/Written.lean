import FlightQuery.Proofs.Number.Decimal
import FlightQuery.Proofs.Text.Blank
import FlightQuery.Proofs.Time.Calendar
import Mathlib.Algebra.Group.Nat.Defs

/-! Dates, times of day and offsets as they are written, and the parts that are read from them. -/

namespace FlightQuery

open Moment Number Text

/-! ### Numbers -/

/-- Digits have a value with no more digits. -/
theorem ofDigitChars_lt {digits : List Char} (all : ∀ c ∈ digits, isDigit c = true) :
    Nat.ofDigitChars 10 digits 0 < 10 ^ digits.length := by
  -- The first digit has the highest place, and the others are less than this place.
  induction digits with
  | nil => exact Nat.one_pos
  | cons c digits ih =>
    obtain ⟨digit, others⟩ := List.forall_mem_cons.1 all
    obtain ⟨_, below⟩ : '0' ≤ c ∧ c ≤ '9' := by simpa [isDigit] using digit
    have value : c.toNat - '0'.toNat ≤ 9 := Nat.sub_le_of_le_add below
    have scaled := Nat.mul_le_mul_left (10 ^ digits.length) value
    have others_lt := ih others
    rw [Nat.ofDigitChars_cons, Nat.ofDigitChars_eq_ofDigitChars_zero, List.length_cons,
      Nat.mul_zero, Nat.zero_add, Nat.pow_succ]
    omega

namespace Moment

/-- A number is written with exactly the given number of digits if it does not need more. -/
theorem length_writePadded {width value : Nat} (positive : 0 < width) (fits : value < 10 ^ width) :
    (writePadded width value).length = width := by
  -- A value below the power has no more digits than the width, and zeros fill up the rest.
  have short := (Nat.length_toDigits_le_iff (by decide) positive).2 fits
  simp only [writePadded, List.length_append, List.length_replicate]
  omega

/-- A number is written in digits. -/
theorem isDigit_of_mem_writePadded {width value : Nat} :
    ∀ c ∈ writePadded width value, isDigit c = true := by
  -- The text is zeros followed by the digits of the value.
  refine List.forall_mem_append.2 ⟨fun c zero => ?_, all_isDigit_toDigits value⟩
  rw [List.eq_of_mem_replicate zero]
  rfl

/-- The digits of a number have its value. -/
theorem ofDigitChars_writePadded (width value : Nat) :
    Nat.ofDigitChars 10 (writePadded width value) 0 = value := by
  rw [writePadded, Nat.ofDigitChars_append, Nat.ofDigitChars_replicate_zero, Nat.mul_zero,
    Nat.ofDigitChars_ten_toDigits]

/-- A written number starts with a digit. -/
theorem exists_writePadded (width value : Nat) :
    ∃ c rest, writePadded width value = c :: rest ∧ isDigit c = true := by
  -- A value has at least one digit, so the text is not empty.
  cases written : writePadded width value with
  | nil => exact absurd (List.append_eq_nil_iff.1 written).2 Nat.toDigits_ne_nil
  | cons c rest =>
    exact ⟨c, rest, rfl, isDigit_of_mem_writePadded c (written ▸ List.mem_cons_self)⟩

/-- A digit is visible, and no sign, letter or mark of a written time. -/
theorem visible_of_isDigit {c : Char} (digit : isDigit c = true) :
    isBlank c = false ∧ c ∉ ['-', '+', '.', ':', 'T', 'Z'] := by
  refine of_isDigit (p := fun c => isBlank c = false ∧ c ∉ ['-', '+', '.', ':', 'T', 'Z']) ?_ digit
  decide

/-- A text that ends with digits is visible at its end. -/
theorem endsBlank_append_digits (first : List Char) {digits : List Char} (nonempty : digits ≠ [])
    (all : ∀ c ∈ digits, isDigit c = true) : endsBlank (first ++ digits) = false := by
  rw [endsBlank_append first nonempty, endsBlank]
  -- The last character is a digit, and a digit is visible.
  obtain ⟨c, rest, reversed⟩ := List.exists_cons_of_ne_nil (List.reverse_ne_nil_iff.2 nonempty)
  have listed : c ∈ digits := List.mem_reverse.1 (reversed ▸ List.mem_cons_self)
  rw [reversed]
  exact (visible_of_isDigit (all c listed)).1

/-- A text that ends with a number is visible at its end. -/
theorem endsBlank_append_writePadded (first : List Char) (width value : Nat) :
    endsBlank (first ++ writePadded width value) = false := by
  obtain ⟨c, rest, written, _⟩ := exists_writePadded width value
  exact endsBlank_append_digits first (by simp [written]) isDigit_of_mem_writePadded

/-- A number is read from digits that are as many as there may be. -/
theorem readNumber?_append {least : Nat} {digits : List Char}
    (all : ∀ c ∈ digits, isDigit c = true) (enough : least ≤ digits.length) (rest : List Char) :
    readNumber? least digits.length (digits ++ rest) =
      some (Nat.ofDigitChars 10 digits 0, rest) := by
  -- Exactly the digits are taken, because no more than their number is looked at.
  have taken : ((digits ++ rest).take digits.length).takeWhile isDigit = digits := by
    rw [List.take_left, List.takeWhile_eq_self_iff]
    exact all
  simp only [readNumber?, taken, List.drop_left]
  rw [if_neg (Nat.not_lt.2 enough)]

/-- A number is read as it was written. -/
theorem readNumber?_writePadded {least width value : Nat} (positive : 0 < width)
    (fits : value < 10 ^ width) (enough : least ≤ width) (rest : List Char) :
    readNumber? least width (writePadded width value ++ rest) = some (value, rest) := by
  have length_eq := length_writePadded positive fits
  have read := readNumber?_append isDigit_of_mem_writePadded (length_eq.symm ▸ enough) rest
  rwa [length_eq, ofDigitChars_writePadded] at read

/-- A number of two digits is read as it was written. -/
theorem readNumber?_two {value : Nat} (fits : value < 100) (rest : List Char) :
    readNumber? 2 2 (writePadded 2 value ++ rest) = some (value, rest) :=
  readNumber?_writePadded (by decide) fits (Nat.le_refl 2) rest

/-- A number of two digits is read as it was written, where blanks may stand in front of it. -/
theorem readShort?_writePadded {value : Nat} (fits : value < 100) (rest : List Char) :
    readShort? (writePadded 2 value ++ rest) = some (value, rest) := by
  -- The number starts with a digit, so that no blank is skipped.
  have visible : startsBlank (writePadded 2 value ++ rest) = false := by
    obtain ⟨c, digits, written, digit⟩ := exists_writePadded 2 value
    rw [written]
    exact (visible_of_isDigit digit).1
  rw [readShort?, trimStart_eq_self visible]
  exact readNumber?_writePadded (by decide) fits (by decide) rest

end Moment

/-! ### Dates -/

namespace Date

/-- Write a date by its year, its month and its day. -/
def write (date : Date) : List Char :=
  writeYear date.year ++ '-' :: writePadded 2 date.month ++ '-' :: writePadded 2 date.day

/-- A date is of the years that are written with four digits and without a sign. -/
structure IsCommon (date : Date) : Prop where
  valid : date.isValid = true
  first : 1 ≤ date.year
  last : date.year ≤ 9999

namespace IsCommon

variable {date : Date}

/-- The parts of a date have four, two and two digits at most. -/
theorem lt (common : date.IsCommon) :
    date.year.toNat < 10 ^ 4 ∧ date.month < 100 ∧ date.day < 100 := by
  obtain ⟨_, month_le, _, day_le⟩ := isValid_iff.1 common.valid
  have length_le := (monthLength_bounds date.year date.month).2
  have last := common.last
  omega

/-- A year is that of its digits. -/
theorem year_eq (common : date.IsCommon) : (date.year.toNat : Int) = date.year :=
  Int.toNat_of_nonneg (Int.le_trans (by decide) common.first)

/-- How a date is written. -/
theorem write_eq (common : date.IsCommon) (rest : List Char) :
    date.write ++ rest = writePadded 4 date.year.toNat ++
      ('-' :: (writePadded 2 date.month ++ '-' :: (writePadded 2 date.day ++ rest))) := by
  have first := common.first
  have last := common.last
  -- A common year has four digits and no sign.
  have unsigned : writeYear date.year = writePadded 4 date.year.toNat := by
    rw [writeYear, if_neg (by omega), if_neg (by omega), List.nil_append]
    congr 1
    omega
  simp only [write, unsigned, List.append_assoc, List.cons_append]

/-- A date is read as it was written. -/
theorem readDate?_write (common : date.IsCommon) (rest : List Char) :
    readDate? (date.write ++ rest) = some (date, rest) := by
  obtain ⟨year_lt, month_lt, day_lt⟩ := common.lt
  obtain ⟨c, digits, written, digit⟩ := exists_writePadded 4 date.year.toNat
  obtain ⟨visible, unmarked⟩ := visible_of_isDigit digit
  -- The year starts with a digit, so that it has no sign.
  have year_read (rest : List Char) :
      readYear? (writePadded 4 date.year.toNat ++ rest) = some (date.year, rest) := by
    have read : readNumber? 1 4 (writePadded 4 date.year.toNat ++ rest) =
        some (date.year.toNat, rest) :=
      readNumber?_writePadded (by decide) year_lt (by decide) rest
    rw [written] at read ⊢
    rw [readYear?, trimStart_eq_self (by rw [List.cons_append]; exact visible)]
    split
    · rename_i minus
      cases (List.cons.inj minus).1
      simp at unmarked
    · rename_i plus
      cases (List.cons.inj plus).1
      simp at unmarked
    · simp only [read, Option.map_some, common.year_eq]
  -- Month and day have two digits each, with a hyphen in front.
  rw [common.write_eq]
  simp only [readDate?, year_read, readChar?, readShort?_writePadded month_lt,
    readShort?_writePadded day_lt, Option.bind_eq_bind, Option.bind_some, if_true]
  rfl

/-- Nothing is trimmed from a written date, nor from what is visible at its end behind it. -/
theorem trim_write (common : date.IsCommon) {rest : List Char} (ends : endsBlank rest = false) :
    trim (date.write ++ rest) = date.write ++ rest := by
  -- The date starts and ends with a digit.
  obtain ⟨c, digits, written, digit⟩ := exists_writePadded 4 date.year.toNat
  have starts : startsBlank date.write = false := by
    rw [← List.append_nil date.write, common.write_eq, written]
    exact (visible_of_isDigit digit).1
  have nonempty : date.write ≠ [] := by simp [write]
  have ends' : endsBlank date.write = false := by
    have parts : date.write = (writeYear date.year ++ '-' :: writePadded 2 date.month ++ ['-']) ++
        writePadded 2 date.day := by simp [write]
    rw [parts]
    exact endsBlank_append_writePadded _ 2 date.day
  rw [trim_append_of_visible nonempty starts ends', trimEnd_eq_self ends]

end IsCommon
end Date

/-! ### Times of day -/

/-- A time of day, with the digits of a fraction of a second if there is one. -/
structure Clock where
  hour : Nat
  minute : Nat
  second : Nat
  fraction : List Char
  hour_lt : hour < 24
  minute_lt : minute < 60
  second_lt : second < 60
  isDigit_of_mem : ∀ c ∈ fraction, isDigit c = true
  length_le : fraction.length ≤ 9

namespace Clock

/-- Write a fraction of a second behind a point. -/
def writeFraction : List Char → List Char
  | [] => []
  | digits => '.' :: digits

/-- Write a time of day. -/
def write (clock : Clock) : List Char :=
  writePadded 2 clock.hour ++ ':' :: writePadded 2 clock.minute ++ ':' ::
    writePadded 2 clock.second ++ writeFraction clock.fraction

/-- The thousandths of a second in a fraction, the rest of which is cut off. -/
def thousandths (digits : List Char) : Nat :=
  Nat.ofDigitChars 10 digits 0 * 1000 / 10 ^ digits.length

/-- The milliseconds of a day in front of a time. -/
def milliseconds (clock : Clock) : Nat :=
  (clock.hour * 3600 + clock.minute * 60 + clock.second) * 1000 + thousandths clock.fraction

/-- The time at which a day starts. -/
def midnight : Clock where
  hour := 0
  minute := 0
  second := 0
  fraction := []
  hour_lt := by decide
  minute_lt := by decide
  second_lt := by decide
  isDigit_of_mem := by simp
  length_le := by decide

/-- The moment of a time on a date, by a clock that is some seconds ahead of universal time. -/
def on (clock : Clock) (date : Date) (offset : Int) : Moment where
  date
  hour := clock.hour
  minute := clock.minute
  second := clock.second
  nanosecond := Nat.ofDigitChars 10 clock.fraction 0 * Nat.pow 10 (9 - clock.fraction.length)
  offset

/-- Neither a digit nor a point, with which a fraction could go on, comes first. -/
def Stops (text : List Char) : Prop := ∀ c ∈ text.head?, isDigit c = false ∧ c ≠ '.'

/-- A fraction does not go on where the text ends. -/
theorem stops_nil : Stops [] := nofun

/-- Cutting off all but nine digits of a fraction, and then all but three, leaves three. -/
theorem thousandths_eq {digits : List Char} (short : digits.length ≤ 9) :
    Nat.ofDigitChars 10 digits 0 * 10 ^ (9 - digits.length) / 1000000 = thousandths digits := by
  unfold thousandths
  -- The value does not matter, only how many digits it has.
  generalize Nat.ofDigitChars 10 digits 0 = value
  generalize digits.length = count at short
  have places : 10 ^ (9 - count) * 10 ^ count = 1000000 * 1000 := by
    rw [← Nat.pow_add, Nat.sub_add_cancel short]
  have positive : 0 < 10 ^ count := Nat.pow_pos (by decide)
  calc value * 10 ^ (9 - count) / 1000000
      = value * 10 ^ (9 - count) * 10 ^ count / (1000000 * 10 ^ count) :=
        (Nat.mul_div_mul_right _ _ positive).symm
    _ = 1000000 * (value * 1000) / (1000000 * 10 ^ count) := by
        rw [Nat.mul_assoc, places, ← Nat.mul_assoc, Nat.mul_comm value, Nat.mul_assoc]
    _ = value * 1000 / 10 ^ count := Nat.mul_div_mul_left _ _ (by decide)

/-- A fraction has less than a thousand thousandths. -/
theorem thousandths_lt {digits : List Char} (all : ∀ c ∈ digits, isDigit c = true) :
    thousandths digits < 1000 := by
  have value_lt := ofDigitChars_lt all
  rw [thousandths, Nat.div_lt_iff_lt_mul (Nat.pow_pos (by decide))]
  omega

/-- The milliseconds of a moment are those of its date and its time. -/
theorem milliseconds_on (clock : Clock) (date : Date) (offset : Int) :
    (clock.on date offset).milliseconds =
      date.number * 86400000 + clock.milliseconds - offset * 1000 := by
  -- Both sides are sums of days, hours, minutes and seconds, with a fraction that is cut.
  have cut := thousandths_eq clock.length_le
  change (date.number * 86400 +
    (clock.hour * 3600 + clock.minute * 60 + clock.second : Nat) - offset) * 1000 +
      (Nat.ofDigitChars 10 clock.fraction 0 * 10 ^ (9 - clock.fraction.length) / 1000000 : Nat) = _
  rw [cut, milliseconds]
  omega

/-- A time of day comes before the end of the day. -/
theorem milliseconds_lt (clock : Clock) : clock.milliseconds < 86400000 := by
  have hour_lt := clock.hour_lt
  have minute_lt := clock.minute_lt
  have second_lt := clock.second_lt
  have fraction_lt := thousandths_lt clock.isDigit_of_mem
  rw [milliseconds]
  omega

/-- A moment of a common date exists, however far the clock is ahead or behind. -/
theorem milliseconds?_on (clock : Clock) {date : Date} (common : date.IsCommon) {offset : Int}
    (short : offset.natAbs < 86400) : (clock.on date offset).milliseconds? =
      some (date.number * 86400000 + clock.milliseconds - offset * 1000) := by
  obtain ⟨first, last⟩ := Date.number_bounds common.valid
    (Int.le_trans (by decide) common.first) common.last
  have time_lt := clock.milliseconds_lt
  -- The calendar goes far beyond the years of four digits.
  have near (number : Int) (least : -719530 ≤ number) (most : number ≤ 2932940) :
      isInCalendar number = true := by
    have start : Date.number ⟨-262143, 1, 1⟩ = -96465292 := by decide
    have stop : Date.number ⟨262142, 12, 31⟩ = 95026236 := by decide
    rw [isInCalendar, start, stop, Bool.and_eq_true, decide_eq_true_eq, decide_eq_true_eq]
    omega
  -- The offset moves the date by one day at most.
  have dated : isInCalendar date.number = true := near _ (by omega) (by omega)
  have timed : isInCalendar ((clock.on date offset).milliseconds / 86400000) = true := by
    rw [milliseconds_on]
    exact near _ (by omega) (by omega)
  -- No second is a leap second here, for a clock has less than sixty.
  have regular : (clock.on date offset).second ≠ 60 := Nat.ne_of_lt clock.second_lt
  have second_le : clock.second ≤ 60 := Nat.le_of_lt clock.second_lt
  unfold Moment.milliseconds?
  simp only [if_neg regular, Int.sub_zero, timed]
  rw [milliseconds_on]
  simp only [on, common.valid, dated, clock.hour_lt, clock.minute_lt, second_le, short,
    decide_true, Bool.and_self, if_true]

/-- A fraction is read as it was written. -/
theorem readFraction?_writeFraction {digits rest : List Char}
    (all : ∀ c ∈ digits, isDigit c = true) (short : digits.length ≤ 9) (stops : Stops rest) :
    readFraction? (writeFraction digits ++ rest) =
      some (Nat.ofDigitChars 10 digits 0 * Nat.pow 10 (9 - digits.length), rest) := by
  -- Without digits there is no point, and what follows must not be one.
  cases digits with
  | nil =>
    cases rest with
    | nil => rfl
    | cons c rest =>
      unfold readFraction?
      split
      · rename_i point
        cases point
        exact absurd rfl (stops '.' rfl).2
      · simp [writeFraction]
  | cons c digits =>
    -- The digits end where the rest stops them.
    obtain ⟨taken, dropped⟩ := span_append all fun c first => (stops c first).1
    change readFraction? ('.' :: (c :: digits ++ rest)) = _
    simp only [readFraction?, taken, dropped, List.take_of_length_le short,
      if_neg (List.cons_ne_nil c digits)]

/-- The parts of a time have two digits at most. -/
theorem lt (clock : Clock) : clock.hour < 100 ∧ clock.minute < 100 ∧ clock.second < 100 :=
  ⟨Nat.lt_trans clock.hour_lt (by decide), Nat.lt_trans clock.minute_lt (by decide),
    Nat.lt_trans clock.second_lt (by decide)⟩

/-- A time is read as it was written. -/
theorem readTime?_write (clock : Clock) (date : Date) {rest : List Char} (stops : Stops rest) :
    readTime? date (clock.write ++ rest) = some (clock.on date 0, rest) := by
  -- All numbers fit their digits, so that each of them is read as it was written.
  obtain ⟨hour_lt, minute_lt, second_lt⟩ := clock.lt
  have fraction := readFraction?_writeFraction clock.isDigit_of_mem clock.length_le stops
  simp only [write, List.append_assoc, List.cons_append, readTime?, readChar?,
    readShort?_writePadded hour_lt, readShort?_writePadded minute_lt,
    readShort?_writePadded second_lt, fraction, Option.bind_eq_bind, Option.bind_some, if_true]
  rfl

/-- A written time is visible at its end. -/
theorem endsBlank_write (clock : Clock) (front : List Char) :
    endsBlank (front ++ clock.write) = false := by
  -- The time ends with the digits of the fraction, or with those of the second.
  cases digits : clock.fraction with
  | nil =>
    have parts : front ++ clock.write = (front ++ writePadded 2 clock.hour ++ ':' ::
        writePadded 2 clock.minute ++ [':']) ++ writePadded 2 clock.second := by
      simp [write, digits, writeFraction]
    rw [parts]
    exact endsBlank_append_writePadded _ 2 clock.second
  | cons c rest =>
    have parts : front ++ clock.write = (front ++ writePadded 2 clock.hour ++ ':' ::
        writePadded 2 clock.minute ++ ':' :: writePadded 2 clock.second ++ ['.']) ++
          clock.fraction := by
      simp [write, digits, writeFraction]
    rw [parts]
    exact endsBlank_append_digits _ (by simp [digits]) clock.isDigit_of_mem

end Clock

/-! ### Offsets -/

/-- An offset from universal time in whole minutes, of less than a day. -/
structure Offset where
  /-- Whether the clock is behind universal time. -/
  isBehind : Bool
  hours : Nat
  minutes : Nat
  hours_lt : hours < 24
  minutes_lt : minutes < 60

namespace Offset

/-- Write an offset behind its sign. -/
def write (offset : Offset) : List Char :=
  (if offset.isBehind then '-' else '+') ::
    (writePadded 2 offset.hours ++ ':' :: writePadded 2 offset.minutes)

/-- The seconds by which the clock is ahead of universal time. -/
def seconds (offset : Offset) : Int :=
  let apart : Nat := offset.hours * 3600 + offset.minutes * 60
  if offset.isBehind then -apart else apart

/-- An offset is less than a day. -/
theorem natAbs_seconds_lt (offset : Offset) : offset.seconds.natAbs < 86400 := by
  have hours_lt := offset.hours_lt
  have minutes_lt := offset.minutes_lt
  simp only [seconds]
  split <;> omega

/-- An offset is read as it was written. -/
theorem readOffset?_write (offset : Offset) (rest : List Char) :
    readOffset? (readChar? ':') (offset.write ++ rest) = some (offset.seconds, rest) := by
  -- Both numbers have two digits, and the minutes are less than an hour.
  have hours_lt : offset.hours < 100 := Nat.lt_trans offset.hours_lt (by decide)
  have minutes_lt : offset.minutes < 100 := Nat.lt_trans offset.minutes_lt (by decide)
  have whole : ¬ 60 ≤ offset.minutes := Nat.not_le.2 offset.minutes_lt
  unfold write seconds
  cases offset.isBehind <;>
    simp only [readOffset?, List.cons_append, List.append_assoc, readNumber?_two hours_lt,
      readNumber?_two minutes_lt, readChar?, Option.bind_eq_bind, Option.bind_some,
      Option.pure_def, if_true, if_neg whole, Bool.false_eq_true, if_false]

/-- A written offset does not go on with a fraction. -/
theorem stops_write (offset : Offset) : Clock.Stops offset.write := by
  rintro c ⟨⟩
  split <;> decide

/-- A written offset is visible at its end. -/
theorem endsBlank_write (offset : Offset) (front : List Char) :
    endsBlank (front ++ offset.write) = false := by
  have parts : front ++ offset.write = (front ++ (if offset.isBehind then '-' else '+') ::
      (writePadded 2 offset.hours ++ [':'])) ++ writePadded 2 offset.minutes := by
    simp [write]
  rw [parts]
  exact endsBlank_append_writePadded _ 2 offset.minutes

end Offset
end FlightQuery
