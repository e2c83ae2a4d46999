import FlightQuery.Number.Binary64

/-! The fewest decimal digits that read back as a given binary number. -/

namespace FlightQuery

/-- The decimal number `digits · 10 ^ exponent`. -/
structure Decimal where
  digits : Nat
  exponent : Int
  deriving DecidableEq, Repr, Inhabited

namespace Decimal

/-- Move the trailing zeros of the digits into the exponent, at most `limit` of them. -/
def stripZeros : (limit : Nat) → Decimal → Decimal
  | 0, decimal => decimal
  | limit + 1, decimal =>
    if decimal.digits % 10 = 0 then
      stripZeros limit { digits := decimal.digits / 10, exponent := decimal.exponent + 1 }
    else decimal

/-- Which of two nearest neighbours stands for a value in the middle between them. -/
inductive Tie where
  | toEven
  | upward
  deriving DecidableEq, Repr

/-- The choice between a number and the number after it. -/
def Tie.choose (tie : Tie) (below : Nat) : Nat :=
  match tie with
  | toEven => below + below % 2
  | upward => below + 1

/-- The grid of multiples of `10 ^ exponent`, measured beside a quarter of a binary step.

One grid step is `step / unit` quarters. -/
structure Grid where
  exponent : Int
  step : Nat
  unit : Nat

/-- The decimal grid `10 ^ exponent` beside the quarters of `2 ^ binaryExponent`. -/
def Grid.of (exponent binaryExponent : Int) : Grid where
  exponent := exponent
  step := Nat.pow 10 exponent.toNat * Nat.pow 2 (2 - binaryExponent).toNat
  unit := Nat.pow 10 (-exponent).toNat * Nat.pow 2 (binaryExponent - 2).toNat

/-- The quarters below a mantissa down to the middle between it and its lower neighbour.

The step below a power of two is half as wide as the step above. -/
def quartersBelow (mantissa : Nat) (binaryExponent : Int) : Nat :=
  if mantissa = Nat.pow 2 52 ∧ Binary64.leastExponent < binaryExponent then 1 else 2

/-- Whether a point of the grid reads back as the mantissa.

The two middles between neighbours read as the neighbour with the even mantissa. -/
def Grid.readsBack (grid : Grid) (mantissa : Nat) (binaryExponent : Int) (point : Nat) : Bool :=
  let low := (4 * mantissa - quartersBelow mantissa binaryExponent) * grid.unit
  let high := (4 * mantissa + 2) * grid.unit
  let value := point * grid.step
  if mantissa % 2 = 0 then low ≤ value && value ≤ high else low < value && value < high

/-- The nearest point of the grid that reads back, among the two neighbours of the value. -/
def Grid.nearest? (grid : Grid) (tie : Tie) (mantissa : Nat) (binaryExponent : Int) :
    Option Nat :=
  let value := 4 * mantissa * grid.unit
  let below := value / grid.step
  let above := below + 1
  let twice := 2 * (value % grid.step)
  match grid.readsBack mantissa binaryExponent below,
      grid.readsBack mantissa binaryExponent above with
  | false, false => none
  | true, false => some below
  | false, true => some above
  | true, true =>
    if twice < grid.step then some below
    else if grid.step < twice then some above
    else some (tie.choose below)

/-- Search finer and finer grids for a point that reads back. -/
def searchGrids (tie : Tie) (mantissa : Nat) (binaryExponent : Int) :
    (grids : Nat) → Int → Decimal
  | 0, exponent => { digits := 0, exponent := exponent }
  | grids + 1, exponent =>
    match (Grid.of exponent binaryExponent).nearest? tie mantissa binaryExponent with
    | some point => { digits := point, exponent := exponent }
    | none => searchGrids tie mantissa binaryExponent grids (exponent - 1)

/-- The shortest decimal that reads back as `mantissa · 2 ^ binaryExponent`. -/
def shortest (tie : Tie) (mantissa : Nat) (binaryExponent : Int) : Decimal :=
  if mantissa = 0 then { digits := 0, exponent := 0 }
  else
    -- The value lies below `10 ^ coarse`, and seventeen digits always suffice.
    let coarse := Int.fdiv (((mantissa.log2 : Int) + binaryExponent + 1) * 30103) 100000 + 1
    stripZeros 20 (searchGrids tie mantissa binaryExponent 21 coarse)

end Decimal
end FlightQuery
