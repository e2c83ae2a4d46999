import FlightQuery.Number.Binary64

/-! Readers of integers and of binary numbers written in decimal. -/

namespace FlightQuery.Number

/-- Whether a character is one of the ten digits. -/
def isDigit (c : Char) : Bool := '0' ≤ c && c ≤ '9'

/-- The value of a hexadecimal digit of either case. -/
def hexDigit? (c : Char) : Option Nat :=
  if isDigit c then some (c.toNat - '0'.toNat)
  else if 'a' ≤ c ∧ c ≤ 'f' then some (c.toNat - 'a'.toNat + 10)
  else if 'A' ≤ c ∧ c ≤ 'F' then some (c.toNat - 'A'.toNat + 10)
  else none

/-- The value of a text of one or more digits. -/
def readDigits? (text : List Char) : Option Nat :=
  if text ≠ [] ∧ text.all isDigit then some (Nat.ofDigitChars 10 text 0) else none

/-- Split an optional sign from a text, `true` standing for a minus. -/
def splitSign : List Char → Bool × List Char
  | '-' :: rest => (true, rest)
  | '+' :: rest => (false, rest)
  | text => (false, text)

/-- Read digits with an optional sign. -/
def readInt? (text : List Char) : Option Int :=
  match splitSign text with
  | (negative, digits) =>
    (readDigits? digits).map fun value => if negative then -(value : Int) else value

/-- The 64-bit integer of a value, unless the value is out of range. -/
def toInt64? (value : Int) : Option Int64 :=
  if Int64.minValue.toInt ≤ value ∧ value ≤ Int64.maxValue.toInt then some (Int64.ofInt value)
  else none

/-- The 32-bit natural number of a value, unless the value is out of range. -/
def toUInt32? (value : Int) : Option UInt32 :=
  if 0 ≤ value ∧ value < UInt32.size then some (UInt32.ofNat value.toNat) else none

/-- Read a 64-bit integer with an optional sign. -/
def readInt64? (text : List Char) : Option Int64 := (readInt? text).bind toInt64?

/-- Read a 32-bit natural number with an optional plus. -/
def readUInt32? (text : List Char) : Option UInt32 :=
  let digits := match text with
    | '+' :: rest => rest
    | _ => text
  (readDigits? digits).bind fun value => toUInt32? value

/-- Read digits with an optional fraction and exponent, with a digit in front of the exponent. -/
def readUnsigned? (negative : Bool) (text : List Char) : Option Binary64 :=
  let whole := text.takeWhile isDigit
  let rest := text.dropWhile isDigit
  let (fraction, rest) := match rest with
    | '.' :: rest => (rest.takeWhile isDigit, rest.dropWhile isDigit)
    | _ => ([], rest)
  if whole = [] ∧ fraction = [] then none
  else
    let digits := Nat.ofDigitChars 10 (whole ++ fraction) 0
    let value (exponent : Int) :=
      Binary64.ofDecimal negative digits (exponent - fraction.length)
    match rest with
    | [] => some (value 0)
    | e :: rest =>
      if e = 'e' ∨ e = 'E' then (readInt? rest).map value else none

/-- Read a binary number in decimal, or one of the names of the values that are not finite. -/
def readBinary64? (text : List Char) : Option Binary64 :=
  match splitSign text with
  | (negative, unsigned) =>
    let name := unsigned.map Char.toLower
    if name = "inf".toList ∨ name = "infinity".toList then some (.infinite negative)
    else if name = "nan".toList then some .notNumber
    else readUnsigned? negative unsigned

end FlightQuery.Number
