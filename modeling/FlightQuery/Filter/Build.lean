import FlightQuery.Condition
import FlightQuery.Filter

/-! The filter of a condition. What a field accepts depends on its type. -/

namespace FlightQuery.Filter

/-- A filter on a field with some constants. -/
def onField (operator : FilterOperator) (field : Field) (constants : List Json) : Filter where
  operator := operator
  arguments := .field field.id :: constants.map .constant

/-- The error of a condition that the type of its field does not accept. -/
def unsupported (field : Field) (condition : Condition) : Error :=
  .unsupportedOperator condition.describe field.type

/-- Boolean fields are compared for equality with a boolean. -/
def onBoolean (field : Field) (condition : Condition) : Outcome Filter :=
  let equality (expected : Bool) : Literal → Outcome Filter
    | .bool value => .ok (onField (if value = expected then .isTrue else .isFalse) field [])
    | other => .error (.invalidLiteral other.display field.name)
  match condition with
  | .null check => .ok (onField (.ofNullCheck check) field [])
  | .compare .equal value => equality true value
  | .compare .notEqual value => equality false value
  | condition => .error (unsupported field condition)

/-- The key of a literal in the labels of a discrete field. -/
def keyOf (store : Store) (field : Field) (literal : Literal) : Outcome Json := do
  return .int (← store.valueKey literal.label field.id).toInt

/-- Discrete fields are compared by the keys of the labels written in a condition. -/
def onDiscrete (store : Store) (field : Field) : Condition → Outcome Filter
  | .null check => .ok (onField (.ofNullCheck check) field [])
  | .compare comparator value => do
    return onField (.ofComparator comparator) field [← keyOf store field value]
  | .membership negated values => do
    return onField (.ofMembership negated) field (← values.mapM (keyOf store field))
  | condition => .error (unsupported field condition)

/-- Number fields accept every comparison and a range between equal comparisons. -/
def onNumber (field : Field) : Condition → Outcome Filter
  | .null check => .ok (onField (.ofNullCheck check) field [])
  | .compare comparator value => .ok (onField (.ofComparator comparator) field [value.toJson])
  | .membership negated values =>
    .ok (onField (.ofMembership negated) field (values.map Literal.toJson))
  | .range outer inner low high =>
    match FilterOperator.ofRange? outer inner with
    | some operator => .ok (onField operator field [low.toJson, high.toJson])
    | none => .error (unsupported field (.range outer inner low high))

/-- Text fields are compared for equality. -/
def onText (field : Field) : Condition → Outcome Filter
  | .null check => .ok (onField (.ofNullCheck check) field [])
  | .compare .equal value => .ok (onField .equal field [value.toJson])
  | .compare .notEqual value => .ok (onField .notEqual field [value.toJson])
  | .membership negated values =>
    .ok (onField (.ofMembership negated) field (values.map Literal.toJson))
  | condition => .error (unsupported field condition)

/-- Points in time are compared as before, or not before, a point in universal time. -/
def onDateTime (field : Field) : Condition → Outcome Filter
  | .null check => .ok (onField (.ofNullCheck check) field [])
  | .compare .less value => .ok (onField .dateTimeBefore field [value.toJson, .text "Utc"])
  | .compare .greaterOrEqual value =>
    .ok (onField .dateTimeOnAfter field [value.toJson, .text "Utc"])
  | condition => .error (unsupported field condition)

/-- The filter of a condition on a field. -/
def build (store : Store) (field : Field) (condition : Condition) : Outcome Filter :=
  match field.type with
  | .boolean => onBoolean field condition
  | .discrete => onDiscrete store field condition
  | .number => onNumber field condition
  | .text => onText field condition
  | .dateTime => onDateTime field condition

/-- The filter that an expression is written for. -/
def ofExpression (store : Store) (expression : String) : Outcome Filter := do
  let (field, condition) ← Condition.resolve store (← Expression.parse expression)
  build store field condition

end FlightQuery.Filter
