import FlightQuery.Filter.Build
import FlightQuery.QuerySet

/-! Queries, which are put together by one operation after the other. -/

namespace FlightQuery

/-- A query under construction. -/
structure Query where
  /-- The selected fields, by whose types results are read. -/
  columns : List Field := []
  querySet : QuerySet := {}
  deriving Repr, Inhabited

namespace Query

/-- The fields that some keywords denote. -/
def searchAll (store : Store) (keywords : List String) : Outcome (List Field) :=
  keywords.mapM store.searchField

/-- Select fields. -/
def select (store : Store) (keywords : List String) (aggregate : Aggregate) (query : Query) :
    Outcome Query := do
  let fields ← searchAll store keywords
  return {
    columns := query.columns ++ fields
    querySet := { query.querySet with
      select := query.querySet.select ++
        fields.map fun field => { fieldId := field.id, aggregate } } }

/-- Remove fields from the selection, wherever they occur. -/
def deselect (store : Store) (keywords : List String) (query : Query) : Outcome Query := do
  let ids := (← searchAll store keywords).map Field.id
  return {
    columns := query.columns.filter fun field => !ids.contains field.id
    querySet := { query.querySet with
      select := query.querySet.select.filter fun item => !ids.contains item.fieldId } }

/-- Group rows by fields. -/
def groupBy (store : Store) (keywords : List String) (query : Query) : Outcome Query := do
  let fields ← searchAll store keywords
  return { query with
    querySet := { query.querySet with
      groupBy := query.querySet.groupBy ++ fields.map Field.id } }

/-- Sort rows by a field. -/
def orderBy (store : Store) (keyword : String) (order : SortOrder) (query : Query) :
    Outcome Query := do
  let field ← store.searchField keyword
  return { query with
    querySet := { query.querySet with
      orderBy := query.querySet.orderBy ++ [{ fieldId := field.id, order, aggregate := .none }] } }

/-- Add a filter. The way of combining filters is settled by the first one. -/
def filter (store : Store) (expression : String) (operator : GroupOperator) (query : Query) :
    Outcome Query := do
  let filter ← Filter.ofExpression store expression
  let group := query.querySet.filter.getD { operator, filters := [] }
  return { query with
    querySet := { query.querySet with
      filter := some { group with filters := group.filters ++ [filter] } } }

/-- Remove the first filter that equals the filter of an expression, and tell whether there was one.

The combination of filters goes with the last one of them. -/
def removeFilter (store : Store) (expression : String) (query : Query) :
    Outcome (Bool × Query) :=
  match query.querySet.filter with
  | none => .ok (false, query)
  | some group => do
    let target ← Filter.ofExpression store expression
    if group.filters.any (Filter.same target) then
      let filters := group.filters.eraseP (Filter.same target)
      let filter := if filters.isEmpty then none else some { group with filters }
      return (true, { query with querySet := { query.querySet with filter } })
    else return (false, query)

/-- Replace the query set by one read from its text. The types of its columns are not known. -/
def load (content : String) : Outcome Query := do
  return { columns := [], querySet := ← QuerySet.load content }

/-- An operation on a query. -/
inductive Operation where
  | select (keywords : List String) (aggregate : Aggregate)
  | deselect (keywords : List String)
  | groupBy (keywords : List String)
  | orderBy (keyword : String) (order : SortOrder)
  | filter (expression : String) (operator : GroupOperator)
  | removeFilter (expression : String)
  | distinct (value : Bool)
  | top (count : UInt32)
  | reset
  | load (content : String)
  deriving Repr

/-- What a successful operation tells. -/
inductive Answer where
  | done
  | removed (found : Bool)
  deriving DecidableEq, Repr

/-- The answer of an operation and the query after it, if it succeeds. -/
def attempt (store : Store) (query : Query) : Operation → Outcome (Answer × Query)
  | .select keywords aggregate => do return (.done, ← query.select store keywords aggregate)
  | .deselect keywords => do return (.done, ← query.deselect store keywords)
  | .groupBy keywords => do return (.done, ← query.groupBy store keywords)
  | .orderBy keyword order => do return (.done, ← query.orderBy store keyword order)
  | .filter expression operator => do return (.done, ← query.filter store expression operator)
  | .removeFilter expression => do
    let (found, query) ← query.removeFilter store expression
    return (.removed found, query)
  | .distinct value => .ok (.done, { query with querySet.distinct := value })
  | .top count => .ok (.done, { query with querySet.top := some count })
  | .reset => .ok (.done, {})
  | .load content => do return (.done, ← load content)

/-- A part of the construction of a query. What it changes before it fails stays changed. -/
abbrev Construction (α : Type) := ExceptT Error (StateM Query) α

namespace Construction

/-- The outcome of a part, and the query that it leaves even if it fails. -/
def applyTo {α : Type} (query : Query) (part : Construction α) : Outcome α × Query :=
  (part.run.run query).run

/-- Go on with the value of an outcome, or fail for its reason. -/
def ofOutcome {α : Type} (outcome : Outcome α) : Construction α := ExceptT.mk (pure outcome)

/-- Change the query set. -/
def modifyQuerySet (change : QuerySet → QuerySet) : Construction Unit :=
  modify fun query => { query with querySet := change query.querySet }

/-- Change the columns. -/
def modifyColumns (change : List Field → List Field) : Construction Unit :=
  modify fun query => { query with columns := change query.columns }

/-- Put a field at the end of the selection. -/
def selectField (aggregate : Aggregate) (field : Field) : Construction Unit := do
  modifyQuerySet fun querySet =>
    { querySet with select := querySet.select ++ [{ fieldId := field.id, aggregate }] }
  modifyColumns fun columns => columns ++ [field]

/-- Select fields one after the other, once all of them are found. -/
def select (store : Store) (keywords : List String) (aggregate : Aggregate) :
    Construction Unit := do
  let fields ← ofOutcome (searchAll store keywords)
  fields.forM (selectField aggregate)

/-- Take a field out of the selection. -/
def deselectField (field : Field) : Construction Unit := do
  modifyQuerySet fun querySet =>
    { querySet with select := querySet.select.filter fun item => item.fieldId != field.id }
  modifyColumns fun columns => columns.filter fun column => column.id != field.id

/-- Deselect fields one after the other, once all of them are found. -/
def deselect (store : Store) (keywords : List String) : Construction Unit := do
  let fields ← ofOutcome (searchAll store keywords)
  fields.forM deselectField

/-- Put a field at the end of those that rows are grouped by. -/
def groupByField (field : Field) : Construction Unit :=
  modifyQuerySet fun querySet => { querySet with groupBy := querySet.groupBy ++ [field.id] }

/-- Group rows by fields, once all of them are found. -/
def groupBy (store : Store) (keywords : List String) : Construction Unit := do
  let fields ← ofOutcome (searchAll store keywords)
  fields.forM groupByField

/-- Sort rows by a field, once it is found. -/
def orderBy (store : Store) (keyword : String) (order : SortOrder) : Construction Unit := do
  let field ← ofOutcome (store.searchField keyword)
  modifyQuerySet fun querySet =>
    { querySet with
      orderBy := querySet.orderBy ++ [{ fieldId := field.id, order, aggregate := .none }] }

/-- Set the filters. -/
def setFilter (filter : Option FilterGroup) : Construction Unit :=
  modifyQuerySet fun querySet => { querySet with filter }

/-- Add a filter, once it is built, to a combination that is made for the first one. -/
def filter (store : Store) (expression : String) (operator : GroupOperator) :
    Construction Unit := do
  let filter ← ofOutcome (Filter.ofExpression store expression)
  modifyQuerySet fun querySet =>
    { querySet with filter := some (querySet.filter.getD { operator, filters := [] }) }
  modifyQuerySet fun querySet =>
    { querySet with
      filter := querySet.filter.map fun group =>
        { group with filters := group.filters ++ [filter] } }

/-- Remove the first filter that equals the filter of an expression, and tell whether there was one.
A combination of no filters is dropped. -/
def removeFilter (store : Store) (expression : String) : Construction Bool := do
  match (← get).querySet.filter with
  | none => return false
  | some group =>
    let target ← ofOutcome (Filter.ofExpression store expression)
    if group.filters.any (Filter.same target) then
      let filters := group.filters.eraseP (Filter.same target)
      setFilter (some { group with filters })
      if filters.isEmpty then setFilter none
      return true
    else return false

/-- Replace the query set, once another one is read, and forget the columns. -/
def load (content : String) : Construction Unit := do
  let querySet ← ofOutcome (QuerySet.load content)
  modifyQuerySet fun _ => querySet
  modifyColumns fun _ => []

/-- Forget the columns and the query set. -/
def reset : Construction Unit := do
  modifyColumns fun _ => []
  modifyQuerySet fun _ => {}

/-- Perform an operation. -/
def perform (store : Store) : Operation → Construction Answer
  | .select keywords aggregate => do select store keywords aggregate; return .done
  | .deselect keywords => do deselect store keywords; return .done
  | .groupBy keywords => do groupBy store keywords; return .done
  | .orderBy keyword order => do orderBy store keyword order; return .done
  | .filter expression operator => do filter store expression operator; return .done
  | .removeFilter expression => do return .removed (← removeFilter store expression)
  | .distinct value => do
    modifyQuerySet fun querySet => { querySet with distinct := value }
    return .done
  | .top count => do
    modifyQuerySet fun querySet => { querySet with top := some count }
    return .done
  | .reset => do reset; return .done
  | .load content => do load content; return .done

end Construction

/-- Apply an operation: its answer, and the query that it leaves even if it fails. -/
def step (store : Store) (query : Query) (operation : Operation) : Outcome Answer × Query :=
  (Construction.perform store operation).applyTo query

/-- Apply operations one after the other. -/
def run (store : Store) : Query → List Operation → List (Outcome Answer) × Query
  | query, [] => ([], query)
  | query, operation :: operations =>
    let (answer, query) := step store query operation
    let (answers, query) := run store query operations
    (answer :: answers, query)

end Query
end FlightQuery
