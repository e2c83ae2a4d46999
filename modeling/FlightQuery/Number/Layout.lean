import FlightQuery.Number.Shortest

/-! How decimal numbers are laid out as text. -/

namespace FlightQuery

/-- The choices left open by the shortest digits of a number. -/
structure Layout where
  /-- Whether a number whose first digit stands for `10 ^ place` avoids an exponent. -/
  positional : (place : Int) → Bool
  /-- Whether whole numbers end in a point and a zero. -/
  wholePoint : Bool
  /-- Whether exponents that are not negative carry a sign. -/
  plusSign : Bool
  /-- The choice between two equally near numbers of the fewest digits. -/
  tie : Decimal.Tie

namespace Layout

/-- Numbers in documents and raw values have an exponent from `10 ^ 16` on and below `10 ^ -5`. -/
def document : Layout where
  positional place := -5 ≤ place && place < 16
  wholePoint := true
  plusSign := true
  tie := .toEven

/-- Numbers in messages never have an exponent and show whole numbers bare. -/
def message : Layout where
  positional _ := true
  wholePoint := false
  plusSign := true
  tie := .upward

/-- Numbers in tables differ from those in documents by leaving out the plus of an exponent. -/
def table : Layout where
  positional := document.positional
  wholePoint := true
  plusSign := false
  tie := document.tie

/-- Place a decimal point in digits whose first one stands for `10 ^ place`. -/
def writePositional (wholePoint : Bool) (digits : List Char) (place : Int) : List Char :=
  if place < 0 then
    '0' :: '.' :: List.replicate (place.natAbs - 1) '0' ++ digits
  else
    let whole := place.toNat + 1
    if digits.length ≤ whole then
      digits ++ List.replicate (whole - digits.length) '0' ++
        (if wholePoint then ['.', '0'] else [])
    else digits.take whole ++ '.' :: digits.drop whole

/-- Write digits with a point after the first one and an exponent. -/
def writeExponent (plusSign : Bool) (digits : List Char) (place : Int) : List Char :=
  let fraction := if digits.length ≤ 1 then [] else '.' :: digits.drop 1
  let sign := if place < 0 then ['-'] else if plusSign then ['+'] else []
  digits.take 1 ++ fraction ++ 'e' :: sign ++ Nat.toDigits 10 place.natAbs

/-- Write a decimal that is not negative. -/
def writeDecimal (layout : Layout) (decimal : Decimal) : List Char :=
  let digits := Nat.toDigits 10 decimal.digits
  let place : Int := decimal.exponent + digits.length - 1
  if layout.positional place then writePositional layout.wholePoint digits place
  else writeExponent layout.plusSign digits place

/-- Write a binary number by its shortest digits. -/
def write (layout : Layout) : Binary64 → List Char
  | .finite negative mantissa exponent =>
    (if negative then ['-'] else []) ++ layout.writeDecimal (.shortest layout.tie mantissa exponent)
  | .infinite negative => if negative then ['-', 'i', 'n', 'f'] else ['i', 'n', 'f']
  | .notNumber => ['N', 'a', 'N']

end Layout

/-- Write an integer in decimal. -/
def writeInt (value : Int) : List Char :=
  if value < 0 then '-' :: Nat.toDigits 10 value.natAbs else Nat.toDigits 10 value.natAbs

/-- Write a quotient with two decimal places, a half going to the even hundredth. -/
def writeHundredths (numerator denominator : Nat) : List Char :=
  let hundredths := Binary64.roundQuotient (numerator * 100) denominator
  Nat.toDigits 10 (hundredths / 100) ++
    ['.', Nat.digitChar (hundredths % 100 / 10), Nat.digitChar (hundredths % 10)]

end FlightQuery
