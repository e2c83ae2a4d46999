/-! The proleptic Gregorian calendar, with dates numbered from the first of January 1970. -/

namespace FlightQuery

/-- A date of the calendar, if its month and day exist. -/
structure Date where
  year : Int
  month : Nat
  day : Nat
  deriving DecidableEq, Repr, Inhabited

namespace Date

/-- Whether a year has a leap day. -/
def isLeap (year : Int) : Bool :=
  year % 4 == 0 && (year % 100 != 0 || year % 400 == 0)

/-- The number of days of a month. -/
def monthLength (year : Int) : (month : Nat) → Nat
  | 2 => if isLeap year then 29 else 28
  | 4 | 6 | 9 | 11 => 30
  | _ => 31

/-- Whether the month and the day of a date exist. -/
def isValid (date : Date) : Bool :=
  1 ≤ date.month && date.month ≤ 12 && 1 ≤ date.day &&
    date.day ≤ monthLength date.year date.month

/-- The number of days of a year in front of a month. -/
def daysBeforeMonth (year : Int) (month : Nat) : Nat :=
  (List.range (month - 1)).foldl (fun days before => days + monthLength year (before + 1)) 0

/-- The number of days from the first day of the year 1 to the first day of a year. -/
def daysBeforeYear (year : Int) : Int :=
  let past := year - 1
  365 * past + past / 4 - past / 100 + past / 400

/-- The number of a date, which is zero for the first of January 1970. -/
def number (date : Date) : Int :=
  daysBeforeYear date.year - daysBeforeYear 1970 +
    (daysBeforeMonth date.year date.month + (date.day - 1 : Nat) : Nat)

/-- The month and day of a year with the given number of days in front of them. -/
def ofDayOfYear (year : Int) : (months : List Nat) → (days : Nat) → Date
  | [], days => { year, month := 12, day := days + 1 }
  | month :: months, days =>
    let length := monthLength year month
    if days < length then { year, month, day := days + 1 }
    else ofDayOfYear year months (days - length)

/-- The date with a number. -/
def ofNumber (number : Int) : Date :=
  let days := number + daysBeforeYear 1970
  -- Four hundred years have 146097 days, so the guess is off by one year at most.
  let guess := days * 400 / 146097 + 1
  let year :=
    if days < daysBeforeYear guess then guess - 1
    else if daysBeforeYear (guess + 1) ≤ days then guess + 1
    else guess
  ofDayOfYear year [1, 2, 3, 4, 5, 6, 7, 8, 9, 10, 11] (days - daysBeforeYear year).toNat

end Date
end FlightQuery
