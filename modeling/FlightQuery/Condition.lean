import FlightQuery.Expression
import FlightQuery.Literal.Reader
import FlightQuery.FieldTree

/-! Conditions: expressions with their field resolved and their constants read. -/

namespace FlightQuery

/-- A condition on a field. -/
inductive Condition where
  | null (check : NullCheck)
  | compare (comparator : Comparator) (value : Literal)
  | membership (negated : Bool) (values : List Literal)
  | range (outer inner : Comparator) (low high : Literal)
  deriving Repr, Inhabited

namespace Condition

/-- How the operator of a condition is told. -/
def describe : Condition → String
  | null check => check.sign
  | compare comparator _ => comparator.sign
  | membership negated _ => BinaryOperator.membershipSign negated
  | range outer inner _ _ => outer.sign ++ " ... " ++ inner.sign

/-- Read an operand as the quoted name of a field. -/
def readName (token : String) : Outcome String := do
  match ← Literal.parse token with
  | .text name => return name
  | other => .error (.malformed (.fieldNameExpected other.display))

/-- Read an operand as a constant that is no list. -/
def readScalar (token : String) : Outcome Literal := do
  let literal ← Literal.parse token
  if literal.isList then .error (.malformed (.listOperand token)) else return literal

/-- Read the values of a membership, of which there is at least one. -/
def readValues (negated : Bool) (token : String) : Outcome (List Literal) := do
  match ← Literal.parse token with
  | .list [] => .error (.malformed (.noValues (BinaryOperator.membershipSign negated)))
  | .list items => return items
  | single => return [single]

/-- The field that an operand names. -/
def resolveField (store : Store) (token : String) : Outcome Field := do
  store.searchField (← readName token)

/-- The field that the right operand names, if it names one. -/
def mirroredField? (store : Store) (right : String) : Option Field :=
  (resolveField store right).toOption

/-- Resolve a comparison of a constant with the field that the right operand names. When it names
none, the comparison fails with another error. -/
def resolveMirrored (store : Store) (left : String) (comparator : Comparator) (right : String)
    (otherwise : Error) : Outcome (Field × Condition) :=
  match mirroredField? store right with
  | some field => do return (field, .compare comparator.flip (← readScalar left))
  | none => .error otherwise

/-- Resolve a comparison. The field stands on the left.

When the left operand names no field and the right one does, the sides are exchanged and the
comparison is mirrored. -/
def resolveComparison (store : Store) (left : String) (comparator : Comparator) (right : String) :
    Outcome (Field × Condition) :=
  match readName left with
  | .error fault => resolveMirrored store left comparator right fault
  | .ok name =>
    match store.searchField name with
    | .ok field => do return (field, .compare comparator (← readScalar right))
    | .error (.unknownField keyword) =>
      resolveMirrored store left comparator right (.unknownField keyword)
    | .error error => .error error

/-- Resolve the field of an expression and read its constants. -/
def resolve (store : Store) : Expression → Outcome (Field × Condition)
  | .check operand check => do
    return (← resolveField store operand, .null check)
  | .binary left (.membership negated) right => do
    let field ← resolveField store left
    return (field, .membership negated (← readValues negated right))
  | .binary left (.compare comparator) right => resolveComparison store left comparator right
  | .range low outer field inner high => do
    let field ← resolveField store field
    let low ← readScalar low
    let high ← readScalar high
    return (field, .range outer inner low high)

end Condition
end FlightQuery
