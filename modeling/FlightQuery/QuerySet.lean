import FlightQuery.Aggregate
import FlightQuery.Filter

/-! Query sets: what a query asks of the server. -/

namespace FlightQuery

/-- A direction of sorting. -/
inductive SortOrder where
  | ascending
  | descending
  deriving DecidableEq, Repr, Inhabited

namespace SortOrder

/-- The name of a direction in documents. -/
def name : SortOrder → String
  | ascending => "asc"
  | descending => "desc"

/-- The directions with their names. -/
def names : List (String × SortOrder) := [("asc", ascending), ("desc", descending)]

end SortOrder

/-- How the filters of a query are combined. -/
inductive GroupOperator where
  | all
  | any
  deriving DecidableEq, Repr, Inhabited

namespace GroupOperator

/-- The name of a combination in documents. -/
def name : GroupOperator → String
  | all => "and"
  | any => "or"

/-- The combinations with their names. -/
def names : List (String × GroupOperator) := [("and", all), ("or", any)]

end GroupOperator

/-- A field that is selected. -/
structure SelectItem where
  fieldId : String
  aggregate : Aggregate
  deriving DecidableEq, Repr, Inhabited

/-- A field that rows are sorted by. -/
structure OrderItem where
  fieldId : String
  order : SortOrder
  aggregate : Aggregate
  deriving DecidableEq, Repr, Inhabited

/-- The filters of a query. -/
structure FilterGroup where
  operator : GroupOperator
  filters : List Filter
  deriving Repr, Inhabited

/-- What a query asks for. -/
structure QuerySet where
  select : List SelectItem := []
  /-- The fields that rows are grouped by. -/
  groupBy : List String := []
  orderBy : List OrderItem := []
  filter : Option FilterGroup := none
  distinct : Bool := true
  /-- The greatest number of rows. -/
  top : Option UInt32 := none
  format : String := "none"
  deriving Repr, Inhabited

namespace QuerySet

/-- The document of a selected field. -/
def selectToJson (item : SelectItem) : Json :=
  .object [("fieldId", .text item.fieldId), ("aggregate", .text item.aggregate.name)]

/-- Decode a selected field. -/
def decodeSelect : Decoder SelectItem := fun scope document => do
  let parts ← Decoder.parts ["fieldId", "aggregate"] scope document
  let fieldId ← parts.required "fieldId" Decoder.text
  let aggregate ← parts.required "aggregate" (Decoder.oneOf Aggregate.names)
  return { fieldId, aggregate }

/-- The document of a field that rows are grouped by. -/
def groupToJson (fieldId : String) : Json := .object [("fieldId", .text fieldId)]

/-- Decode a field that rows are grouped by. -/
def decodeGroup : Decoder String := fun scope document => do
  let parts ← Decoder.parts ["fieldId"] scope document
  parts.required "fieldId" Decoder.text

/-- The document of a field that rows are sorted by. -/
def orderToJson (item : OrderItem) : Json :=
  .object [("fieldId", .text item.fieldId), ("order", .text item.order.name),
    ("aggregate", .text item.aggregate.name)]

/-- Decode a field that rows are sorted by. -/
def decodeOrder : Decoder OrderItem := fun scope document => do
  let parts ← Decoder.parts ["fieldId", "order", "aggregate"] scope document
  let fieldId ← parts.required "fieldId" Decoder.text
  let order ← parts.required "order" (Decoder.oneOf SortOrder.names)
  let aggregate ← parts.required "aggregate" (Decoder.oneOf Aggregate.names)
  return { fieldId, order, aggregate }

/-- The document of the filters. -/
def filtersToJson (group : FilterGroup) : Json :=
  .object [("operator", .text group.operator.name),
    ("args", .list (group.filters.map Filter.toJson))]

/-- Decode the filters. -/
def decodeFilters : Decoder FilterGroup := fun scope document => do
  let parts ← Decoder.parts ["operator", "args"] scope document
  let operator ← parts.required "operator" (Decoder.oneOf GroupOperator.names)
  let filters ← parts.required "args" (Decoder.list Filter.decode)
  return { operator, filters }

/-- The document of a query set. Filters and a greatest number of rows stand in it when given. -/
def toJson (querySet : QuerySet) : Json :=
  let filter := match querySet.filter with
    | some group => [("filter", filtersToJson group)]
    | none => []
  let top := match querySet.top with
    | some count => [("top", .int count.toNat)]
    | none => []
  .object ([
    ("select", .list (querySet.select.map selectToJson)),
    ("groupBy", .list (querySet.groupBy.map groupToJson)),
    ("orderBy", .list (querySet.orderBy.map orderToJson))] ++ filter ++
    [("distinct", .bool querySet.distinct)] ++ top ++
    [("format", .text querySet.format)])

/-- Decode a query set, all of whose parts may be left out. -/
def decode : Decoder QuerySet := fun scope document => do
  let parts ← Decoder.parts
    ["select", "groupBy", "orderBy", "filter", "distinct", "top", "format"] scope document
  let select ← parts.defaulted "select" [] (Decoder.list decodeSelect)
  let groupBy ← parts.defaulted "groupBy" [] (Decoder.list decodeGroup)
  let orderBy ← parts.defaulted "orderBy" [] (Decoder.list decodeOrder)
  let filter ← parts.defaulted "filter" none (Decoder.nullable decodeFilters)
  let distinct ← parts.defaulted "distinct" true Decoder.bool
  let top ← parts.defaulted "top" none (Decoder.nullable Decoder.uint32)
  let format ← parts.defaulted "format" "none" Decoder.text
  return { select, groupBy, orderBy, filter, distinct, top, format }

/-- The text of a query set. -/
def save (querySet : QuerySet) : String := querySet.toJson.compact

/-- Read a query set from its text. -/
def load (content : String) : Outcome QuerySet :=
  match Decoder.fromText decode content with
  | some querySet => .ok querySet
  | none => .error .document

end QuerySet
end FlightQuery
