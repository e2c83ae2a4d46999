/-! Binary floating-point numbers of 64 bits, rounded to nearest with ties to even. -/

namespace FlightQuery

/-- A 64-bit binary number. A finite one stands for `± mantissa · 2 ^ exponent`. -/
inductive Binary64 where
  | finite (negative : Bool) (mantissa : Nat) (exponent : Int)
  | infinite (negative : Bool)
  | notNumber
  deriving DecidableEq, Repr, Inhabited

namespace Binary64

/-- The exponent of the least positive number. -/
def leastExponent : Int := -1074

/-- The exponent of the largest finite number. -/
def greatestExponent : Int := 971

/-- A zero of either sign. -/
def zero (negative : Bool) : Binary64 := .finite negative 0 leastExponent

/-- Divide to the nearest integer, and to the even one of two equally near. -/
def roundQuotient (numerator denominator : Nat) : Nat :=
  let quotient := numerator / denominator
  let twice := 2 * (numerator % denominator)
  if twice < denominator then quotient
  else if denominator < twice then quotient + 1
  else quotient + quotient % 2

/-- The nearest integer to `numerator / denominator / 2 ^ exponent`. -/
def scaledQuotient (numerator denominator : Nat) (exponent : Int) : Nat :=
  if exponent < 0 then roundQuotient (numerator * Nat.pow 2 exponent.natAbs) denominator
  else roundQuotient numerator (denominator * Nat.pow 2 exponent.natAbs)

/-- The exponent whose mantissas around the positive `numerator / denominator` have 53 digits. -/
def quotientExponent (numerator denominator : Nat) : Int :=
  let guess : Int := (numerator.log2 : Int) - denominator.log2 - 52
  -- The two logarithms are rounded down, so their difference can be one too large.
  let reached : Bool :=
    if guess < 0 then denominator * Nat.pow 2 52 ≤ numerator * Nat.pow 2 guess.natAbs
    else denominator * Nat.pow 2 (52 + guess.natAbs) ≤ numerator
  max leastExponent (if reached then guess else guess - 1)

/-- The number nearest to `± numerator / denominator`. -/
def ofQuotient (negative : Bool) (numerator denominator : Nat) : Binary64 :=
  if numerator = 0 then zero negative
  else
    let exponent := quotientExponent numerator denominator
    let mantissa := scaledQuotient numerator denominator exponent
    -- Rounding up can carry into a mantissa of 54 digits.
    let (mantissa, exponent) :=
      if mantissa = Nat.pow 2 53 then (Nat.pow 2 52, exponent + 1) else (mantissa, exponent)
    if greatestExponent < exponent then .infinite negative
    else .finite negative mantissa exponent

/-- The number nearest to an integer. -/
def ofInt (value : Int) : Binary64 :=
  ofQuotient (decide (value < 0)) value.natAbs 1

/-- The number nearest to `± digits · 10 ^ exponent`. -/
def ofDecimal (negative : Bool) (digits : Nat) (exponent : Int) : Binary64 :=
  if digits = 0 then zero negative
  else
    -- The value lies below `10 ^ reach` and not below `10 ^ (reach - 3)`.
    let reach : Int := exponent + (digits.log2 * 30103 / 100000 + 2 : Nat)
    if 400 < reach then .infinite negative
    else if reach < -400 then zero negative
    else if exponent < 0 then ofQuotient negative digits (Nat.pow 10 exponent.natAbs)
    else ofQuotient negative (digits * Nat.pow 10 exponent.natAbs) 1

/-- Whether a number is neither infinite nor undefined. -/
def isFinite : Binary64 → Bool
  | finite .. => true
  | _ => false

/-- The number with the other sign. -/
def negate : Binary64 → Binary64
  | finite negative mantissa exponent => finite (!negative) mantissa exponent
  | infinite negative => infinite (!negative)
  | notNumber => notNumber

/-- Whether a number is a zero of either sign. -/
def isZero : Binary64 → Bool
  | finite _ mantissa _ => mantissa == 0
  | _ => false

/-- Whether two numbers have the same value: both zeros do, an undefined number never does. -/
def same : Binary64 → Binary64 → Bool
  | finite negative mantissa exponent, finite negative' mantissa' exponent' =>
    (mantissa == 0 && mantissa' == 0) ||
      (negative == negative' && mantissa == mantissa' && exponent == exponent')
  | infinite negative, infinite negative' => negative == negative'
  | _, _ => false

/-- The exact magnitude of a finite number as a numerator over a denominator. -/
def ratio (mantissa : Nat) (exponent : Int) : Nat × Nat :=
  if exponent < 0 then (mantissa, Nat.pow 2 exponent.natAbs)
  else (mantissa * Nat.pow 2 exponent.natAbs, 1)

/-- The product of two finite numbers, rounded. -/
def times : Binary64 → Binary64 → Binary64
  | finite negative mantissa exponent, finite negative' mantissa' exponent' =>
    let (numerator, denominator) := ratio (mantissa * mantissa') (exponent + exponent')
    ofQuotient (negative != negative') numerator denominator
  | _, _ => notNumber

/-- The quotient of two finite numbers, rounded, the divisor not being a zero. -/
def dividedBy : Binary64 → Binary64 → Binary64
  | finite negative mantissa exponent, finite negative' mantissa' exponent' =>
    let (numerator, denominator) := ratio mantissa (exponent - exponent')
    ofQuotient (negative != negative') numerator (denominator * mantissa')
  | _, _ => notNumber

/-- The number nearest to a power of ten. -/
def powerOfTen (exponent : Nat) : Binary64 := ofDecimal false 1 exponent

end Binary64
end FlightQuery
