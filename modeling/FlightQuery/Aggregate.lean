import FlightQuery.Error
import FlightQuery.Text.LowerCase

/-! Aggregations of selected fields. -/

namespace FlightQuery

/-- An aggregation of the values of a field. -/
inductive Aggregate where
  | none
  | average
  | count
  | maximum
  | minimum
  | deviation
  | sum
  | variance
  deriving DecidableEq, Repr, Inhabited

namespace Aggregate

/-- The name of an aggregation. -/
def name : Aggregate → String
  | none => "none"
  | average => "avg"
  | count => "count"
  | maximum => "max"
  | minimum => "min"
  | deviation => "stdev"
  | sum => "sum"
  | variance => "var"

/-- The aggregations with their names. -/
def names : List (String × Aggregate) :=
  [none, average, count, maximum, minimum, deviation, sum, variance].map fun aggregate =>
    (aggregate.name, aggregate)

/-- The aggregation of a name, whose case does not matter. -/
def ofName (name : String) : Outcome Aggregate :=
  let lowered := Text.lowerCase name
  match names.lookup lowered with
  | some aggregate => .ok aggregate
  | Option.none => .error (.parameter (.unknownAggregate lowered))

end Aggregate
end FlightQuery
