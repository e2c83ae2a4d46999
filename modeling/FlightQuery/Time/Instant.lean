import FlightQuery.Number.Layout
import FlightQuery.Number.Reader
import FlightQuery.Text.Blank
import FlightQuery.Time.Calendar

/-! Points in time in milliseconds, read from and written as texts.

A text without an offset from universal time is taken as universal time. -/

namespace FlightQuery

/-- A date, a time of day, and the seconds by which the clock is ahead of universal time. -/
structure Moment where
  date : Date
  hour : Nat := 0
  minute : Nat := 0
  /-- The second, of which 60 is a leap second. -/
  second : Nat := 0
  nanosecond : Nat := 0
  offset : Int := 0
  deriving DecidableEq, Repr, Inhabited

namespace Moment

/-- The range of the numbers of dates. -/
def isInCalendar (number : Int) : Bool :=
  Date.number ⟨-262143, 1, 1⟩ ≤ number && number ≤ Date.number ⟨262142, 12, 31⟩

/-- The milliseconds of a moment since the start of 1970, fractions of them being cut off. -/
def milliseconds (moment : Moment) : Int :=
  (moment.date.number * 86400 + (moment.hour * 3600 + moment.minute * 60 + moment.second : Nat) -
    moment.offset) * 1000 + (moment.nanosecond / 1000000 : Nat)

/-- The milliseconds of a moment, if it exists. -/
def milliseconds? (moment : Moment) : Option Int :=
  let time := moment.milliseconds
  -- A leap second belongs to the day in which it starts.
  let startDay := (time - if moment.second = 60 then 1000 else 0) / 86400000
  if moment.date.isValid && isInCalendar moment.date.number && isInCalendar startDay &&
      moment.hour < 24 && moment.minute < 60 && moment.second ≤ 60 &&
      moment.offset.natAbs < 86400 then some time
  else none

/-! ### Parts of a text -/

/-- Read a number with at least and at most the given numbers of digits. -/
def readNumber? (least most : Nat) (text : List Char) : Option (Nat × List Char) :=
  let digits := (text.take most).takeWhile Number.isDigit
  if digits.length < least then none
  else some (Nat.ofDigitChars 10 digits 0, text.drop digits.length)

/-- Read the given character. -/
def readChar? (c : Char) : List Char → Option (List Char)
  | d :: rest => if c = d then some rest else none
  | [] => none

/-- Read a fraction of a second, of which nine digits count. -/
def readFraction? : List Char → Option (Nat × List Char)
  | '.' :: rest =>
    let digits := rest.takeWhile Number.isDigit
    let counted := digits.take 9
    if digits = [] then none
    else
      some (Nat.ofDigitChars 10 counted 0 * Nat.pow 10 (9 - counted.length),
        rest.dropWhile Number.isDigit)
  | text => some (0, text)

/-- Read an offset from universal time in hours and minutes, in seconds. -/
def readOffset? (separator : List Char → Option (List Char)) (text : List Char) :
    Option (Int × List Char) := do
  let (negative, rest) ← match text with
    | '+' :: rest => some (false, rest)
    | '-' :: rest => some (true, rest)
    | '−' :: rest => some (true, rest)
    | _ => none
  let (hours, rest) ← readNumber? 2 2 rest
  let (minutes, rest) ← readNumber? 2 2 (← separator rest)
  if 60 ≤ minutes then none
  let seconds : Int := (hours * 3600 + minutes * 60 : Nat)
  return (if negative then -seconds else seconds, rest)

/-! ### The strict form -/

/-- Read the form of internet timestamps, in which every number has all of its digits. -/
def readStrict? (text : List Char) : Option (Moment × List Char) := do
  let (year, rest) ← readNumber? 4 4 text
  let (month, rest) ← readNumber? 2 2 (← readChar? '-' rest)
  let (day, rest) ← readNumber? 2 2 (← readChar? '-' rest)
  let rest ← match rest with
    | c :: rest => if c = 'T' ∨ c = 't' ∨ c = ' ' then some rest else none
    | [] => none
  let (hour, rest) ← readNumber? 2 2 rest
  let (minute, rest) ← readNumber? 2 2 (← readChar? ':' rest)
  let (second, rest) ← readNumber? 2 2 (← readChar? ':' rest)
  let (nanosecond, rest) ← readFraction? rest
  let (offset, rest) ← match rest with
    | 'Z' :: rest => some (0, rest)
    | 'z' :: rest => some (0, rest)
    | _ => readOffset? (readChar? ':') rest
  return ({ date := { year, month, day }, hour, minute, second, nanosecond, offset }, rest)

/-! ### The relaxed forms -/

/-- Read a number of at most two digits, which blanks may precede. -/
def readShort? (text : List Char) : Option (Nat × List Char) :=
  readNumber? 1 2 (Text.trimStart text)

/-- Read a year of at most four digits, or of any number of digits behind a sign. -/
def readYear? (text : List Char) : Option (Int × List Char) :=
  match Text.trimStart text with
  | '-' :: rest => (readNumber? 1 rest.length rest).map fun (year, rest) => (-(year : Int), rest)
  | '+' :: rest => (readNumber? 1 rest.length rest).map fun (year, rest) => ((year : Int), rest)
  | rest => (readNumber? 1 4 rest).map fun (year, rest) => ((year : Int), rest)

/-- Read a date. -/
def readDate? (text : List Char) : Option (Date × List Char) := do
  let (year, rest) ← readYear? text
  let (month, rest) ← readShort? (← readChar? '-' rest)
  let (day, rest) ← readShort? (← readChar? '-' rest)
  return ({ year, month, day }, rest)

/-- Read a time of day on a date. -/
def readTime? (date : Date) (text : List Char) : Option (Moment × List Char) := do
  let (hour, rest) ← readShort? text
  let (minute, rest) ← readShort? (← readChar? ':' rest)
  let (second, rest) ← readShort? (← readChar? ':' rest)
  let (nanosecond, rest) ← readFraction? rest
  return ({ date, hour, minute, second, nanosecond }, rest)

/-- Read a date and a time, between which the letter T stands. -/
def readLetter? (text : List Char) : Option (Moment × List Char) := do
  let (date, rest) ← readDate? text
  readTime? date (← readChar? 'T' rest)

/-- Read a date and a time, between which blanks may stand. -/
def readSpaced? (text : List Char) : Option (Moment × List Char) := do
  let (date, rest) ← readDate? text
  readTime? date rest

/-- Drop the colons and blanks between the hours and the minutes of an offset. -/
def dropSeparators (text : List Char) : List Char :=
  text.dropWhile fun c => c == ':' || Text.isBlank c

/-- Read a date, a time and an offset, between which blanks may stand. -/
def readSpacedOffset? (text : List Char) : Option (Moment × List Char) := do
  let (moment, rest) ← readSpaced? text
  let (offset, rest) ← readOffset? (fun rest => some (dropSeparators rest)) (Text.trimStart rest)
  return ({ moment with offset }, rest)

/-- Read a date as its midnight. -/
def readMidnight? (text : List Char) : Option (Moment × List Char) :=
  (readDate? text).map fun (date, rest) => ({ date }, rest)

/-- The forms of a moment in the order in which they are tried. -/
def forms : List (List Char → Option (Moment × List Char)) :=
  [readStrict?, readSpacedOffset?, readLetter?, readSpaced?, readMidnight?]

/-- Read a text in one of the forms. -/
def readForm? (form : List Char → Option (Moment × List Char)) (text : List Char) : Option Int :=
  match form text with
  | some (moment, []) => moment.milliseconds?
  | _ => none

/-- The milliseconds of a moment written in any of the forms. -/
def read? (text : String) : Option Int :=
  let text := Text.trim text.toList
  forms.findSome? fun form => readForm? form text

/-! ### Writing -/

/-- Write a number with at least the given number of digits. -/
def writePadded (width value : Nat) : List Char :=
  let digits := Nat.toDigits 10 value
  List.replicate (width - digits.length) '0' ++ digits

/-- Write a year with at least four digits, and with a sign outside of the years 0 to 9999. -/
def writeYear (year : Int) : List Char :=
  let sign := if year < 0 then ['-'] else if 9999 < year then ['+'] else []
  sign ++ writePadded 4 year.natAbs

/-- Write milliseconds since the start of 1970 as a date and a time of day. -/
def write (milliseconds : Int) : List Char :=
  let date := Date.ofNumber (milliseconds / 86400000)
  let time := (milliseconds % 86400000).toNat
  writeYear date.year ++ '-' :: writePadded 2 date.month ++ '-' :: writePadded 2 date.day ++
    'T' :: writePadded 2 (time / 3600000) ++ ':' :: writePadded 2 (time / 60000 % 60) ++
    ':' :: writePadded 2 (time / 1000 % 60) ++ '.' :: writePadded 3 (time % 1000) ++
    ['+', '0', '0', '0', '0']

end Moment
end FlightQuery
