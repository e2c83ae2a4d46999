import FlightQuery.Expression
import FlightQuery.Json.Decoder
import FlightQuery.Json.Printer

/-! Filters as the server understands them. -/

namespace FlightQuery

/-- The operator of a filter. -/
inductive FilterOperator where
  | equal
  | notEqual
  | lessThan
  | lessThanOrEqual
  | greaterThan
  | greaterThanOrEqual
  | betweenExclusive
  | betweenInclusive
  | notBetweenExclusive
  | notBetweenInclusive
  | isIn
  | notIn
  | isNull
  | isNotNull
  | isTrue
  | isFalse
  | dateTimeBefore
  | dateTimeOnAfter
  deriving DecidableEq, Repr, Inhabited

namespace FilterOperator

/-- All operators with their names in documents. -/
def names : List (String × FilterOperator) := [
  ("equal", equal),
  ("notEqual", notEqual),
  ("lessThan", lessThan),
  ("lessThanOrEqual", lessThanOrEqual),
  ("greaterThan", greaterThan),
  ("greaterThanOrEqual", greaterThanOrEqual),
  ("betweenExclusive", betweenExclusive),
  ("betweenInclusive", betweenInclusive),
  ("notBetweenExclusive", notBetweenExclusive),
  ("notBetweenInclusive", notBetweenInclusive),
  ("in", isIn),
  ("notIn", notIn),
  ("isNull", isNull),
  ("isNotNull", isNotNull),
  ("isTrue", isTrue),
  ("isFalse", isFalse),
  ("dateTimeBefore", dateTimeBefore),
  ("dateTimeOnAfter", dateTimeOnAfter)]

/-- The name of an operator in documents. -/
def name : FilterOperator → String
  | equal => "equal"
  | notEqual => "notEqual"
  | lessThan => "lessThan"
  | lessThanOrEqual => "lessThanOrEqual"
  | greaterThan => "greaterThan"
  | greaterThanOrEqual => "greaterThanOrEqual"
  | betweenExclusive => "betweenExclusive"
  | betweenInclusive => "betweenInclusive"
  | notBetweenExclusive => "notBetweenExclusive"
  | notBetweenInclusive => "notBetweenInclusive"
  | isIn => "in"
  | notIn => "notIn"
  | isNull => "isNull"
  | isNotNull => "isNotNull"
  | isTrue => "isTrue"
  | isFalse => "isFalse"
  | dateTimeBefore => "dateTimeBefore"
  | dateTimeOnAfter => "dateTimeOnAfter"

/-- The operator of a comparison. -/
def ofComparator : Comparator → FilterOperator
  | .equal => equal
  | .notEqual => notEqual
  | .less => lessThan
  | .lessOrEqual => lessThanOrEqual
  | .greater => greaterThan
  | .greaterOrEqual => greaterThanOrEqual

/-- The operator of a range, which has the same comparison on both sides. -/
def ofRange? : (outer inner : Comparator) → Option FilterOperator
  | .less, .less => some betweenExclusive
  | .lessOrEqual, .lessOrEqual => some betweenInclusive
  | .greater, .greater => some notBetweenExclusive
  | .greaterOrEqual, .greaterOrEqual => some notBetweenInclusive
  | _, _ => none

/-- The operator of a null check. -/
def ofNullCheck : NullCheck → FilterOperator
  | .isNull => isNull
  | .isNotNull => isNotNull

/-- The operator of a membership. -/
def ofMembership (negated : Bool) : FilterOperator := if negated then notIn else isIn

end FilterOperator

/-- An argument of a filter. -/
inductive Argument where
  | field (id : String)
  | constant (value : Json)
  deriving Repr, Inhabited

namespace Argument

/-- Whether two arguments are equal. -/
def same : Argument → Argument → Bool
  | field id, field id' => id == id'
  | constant value, constant value' => value.same value'
  | _, _ => false

/-- The document of an argument. -/
def toJson : Argument → Json
  | field id => .object [("type", .text "field"), ("value", .text id)]
  | constant value => .object [("type", .text "constant"), ("value", value)]

/-- The two kinds of arguments. -/
inductive Kind where
  | field
  | constant

/-- Decode an argument. -/
def decode : Decoder Argument :=
  Decoder.tagged [("field", Kind.field), ("constant", Kind.constant)] fun
    | .field => fun scope document => (Decoder.text scope document).map field
    | .constant => fun scope document => (Decoder.json scope document).map constant

end Argument

/-- A filter: an operator and its arguments. -/
structure Filter where
  operator : FilterOperator
  arguments : List Argument
  deriving Repr, Inhabited

namespace Filter

/-- Whether two lists hold equal arguments. -/
def sameArguments : List Argument → List Argument → Bool
  | [], [] => true
  | argument :: rest, argument' :: rest' => argument.same argument' && sameArguments rest rest'
  | _, _ => false

/-- Whether two filters are equal. -/
def same (filter filter' : Filter) : Bool :=
  filter.operator == filter'.operator && sameArguments filter.arguments filter'.arguments

/-- The document of a filter, in the envelope in which it is sent. -/
def toJson (filter : Filter) : Json :=
  .object [
    ("type", .text "filter"),
    ("value", .object [
      ("operator", .text filter.operator.name),
      ("args", .list (filter.arguments.map Argument.toJson))])]

/-- Decode a filter without its envelope. -/
def decodeBody : Decoder Filter := fun scope document => do
  let parts ← Decoder.parts ["operator", "args"] scope document
  let operator ← parts.required "operator" (Decoder.oneOf FilterOperator.names)
  let arguments ← parts.required "args" (Decoder.list Argument.decode)
  return { operator, arguments }

/-- Decode a filter in its envelope. -/
def decode : Decoder Filter :=
  Decoder.tagged [("filter", ())] fun _ => decodeBody

/-- Whether a filter reads back from its own text. -/
def readsBack (filter : Filter) : Bool :=
  match Decoder.fromText decode filter.toJson.compact with
  | some filter' => filter'.same filter
  | none => false

end Filter
end FlightQuery
