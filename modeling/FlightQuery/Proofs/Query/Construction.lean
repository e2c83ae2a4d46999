import FlightQuery.Proofs.Outcome
import FlightQuery.Query

/-! The parts that an operation consists of do together what the operation attempts. -/

namespace FlightQuery.Query
namespace Construction

variable {α β : Type}

/-- A value that is returned leaves the query as it is. -/
@[simp] theorem applyTo_pure (query : Query) (value : α) :
    applyTo query (pure value) = (.ok value, query) := rfl

/-- A part that fails leaves the next one out, but what it has changed stays. -/
@[simp] theorem applyTo_bind (query : Query) (part : Construction α) (next : α → Construction β) :
    applyTo query (part >>= next) = match applyTo query part with
      | (.ok value, query') => applyTo query' (next value)
      | (.error error, query') => (.error error, query') := by
  simp only [applyTo, ExceptT.run_bind, StateT.run_bind]
  rcases part.run.run query with ⟨_ | _, _⟩ <;> rfl

/-- What a part tells can be told in another way. -/
@[simp] theorem applyTo_map (query : Query) (tell : α → β) (part : Construction α) :
    applyTo query (tell <$> part) = match applyTo query part with
      | (.ok value, query') => (.ok (tell value), query')
      | (.error error, query') => (.error error, query') := by
  rw [map_eq_pure_bind, applyTo_bind]
  rfl

/-- The outcome of something else leaves the query as it is. -/
@[simp] theorem applyTo_ofOutcome (query : Query) (outcome : Outcome α) :
    applyTo query (ofOutcome outcome) = (outcome, query) := rfl

/-- The query can be looked at. -/
@[simp] theorem applyTo_get (query : Query) :
    applyTo query (get : Construction Query) = (.ok query, query) := rfl

/-- A change of the query set does not fail. -/
@[simp] theorem applyTo_modifyQuerySet (query : Query) (change : QuerySet → QuerySet) :
    applyTo query (modifyQuerySet change) =
      (.ok (), { query with querySet := change query.querySet }) := rfl

/-- A change of the columns does not fail. -/
@[simp] theorem applyTo_modifyColumns (query : Query) (change : List Field → List Field) :
    applyTo query (modifyColumns change) =
      (.ok (), { query with columns := change query.columns }) := rfl

/-! ### What operations leave -/

/-- Fields that are selected one after the other stand at the end in their order. -/
theorem applyTo_selectFields (query : Query) (aggregate : Aggregate) (fields : List Field) :
    applyTo query (forM fields (selectField aggregate)) = (.ok (), {
      columns := query.columns ++ fields
      querySet := { query.querySet with
        select := query.querySet.select ++
          fields.map fun field => { fieldId := field.id, aggregate } } }) := by
  -- Each field goes to the end of both lists, behind those before it.
  induction fields generalizing query with
  | nil => simp
  | cons field fields ih => simp [selectField, ih]

/-- Items that pass the test against one id and then against others pass that against all. -/
theorem filter_ids (id : α → String) (first : String) (ids : List String) (items : List α) :
    (items.filter fun item => id item != first).filter (fun item => !ids.contains (id item)) =
      items.filter fun item => !(first :: ids).contains (id item) := by
  rw [List.filter_filter]
  refine List.filter_congr fun item _ => ?_
  rw [List.contains_cons, Bool.not_or, Bool.and_comm, bne]

/-- Fields that are deselected one after the other are taken out wherever they occur. -/
theorem applyTo_deselectFields (query : Query) (fields : List Field) :
    applyTo query (forM fields deselectField) = (.ok (), {
      columns := query.columns.filter fun field => !(fields.map Field.id).contains field.id
      querySet := { query.querySet with
        select := query.querySet.select.filter fun item =>
          !(fields.map Field.id).contains item.fieldId } }) := by
  -- Each field is taken out of what those before it have left.
  induction fields generalizing query with
  | nil => simp [List.filter_eq_self.2]
  | cons field fields ih =>
    simp only [List.forM_cons, deselectField, applyTo_bind, applyTo_modifyQuerySet,
      applyTo_modifyColumns, ih, filter_ids, List.map_cons]

/-- Fields that rows are grouped by one after the other stand at the end in their order. -/
theorem applyTo_groupByFields (query : Query) (fields : List Field) :
    applyTo query (forM fields groupByField) = (.ok (),
      { query with querySet.groupBy := query.querySet.groupBy ++ fields.map Field.id }) := by
  -- Each field is appended behind those before it, whatever the query holds.
  induction fields generalizing query with
  | nil => simp
  | cons field fields ih => simp [groupByField, ih]

/-- A filter is added to the combination there is, or to one that is made for it. -/
theorem applyTo_filter (query : Query) (store : Store) (expression : String)
    (operator : GroupOperator) :
    applyTo query (filter store expression operator) =
      match query.filter store expression operator with
      | .ok query' => (.ok (), query')
      | .error error => (.error error, query) := by
  -- Only the translation of the expression can fail, and it comes before any change.
  cases built : Filter.ofExpression store expression with
  | error error => simp [filter, Query.filter, built]
  | ok added => simp [filter, Query.filter, built]

/-- A filter is removed, and a combination of no filters with it. -/
theorem applyTo_removeFilter (query : Query) (store : Store) (expression : String) :
    applyTo query (removeFilter store expression) =
      match query.removeFilter store expression with
      | .ok (found, query') => (.ok found, query')
      | .error error => (.error error, query) := by
  cases present : query.querySet.filter with
  | none => simp [removeFilter, Query.removeFilter, present]
  | some group =>
    -- Nothing has been taken out before the expression is translated.
    cases built : Filter.ofExpression store expression with
    | error error => simp [removeFilter, Query.removeFilter, present, built]
    | ok target =>
      simp only [removeFilter, Query.removeFilter, applyTo_bind, applyTo_get, applyTo_ofOutcome,
        present, built, Outcome.ok_bind, setFilter]
      by_cases found : group.filters.any (Filter.same target)
      · rw [if_pos found, if_pos found]
        -- The combination stays with the filters that are left, if there are any.
        cases left : (group.filters.eraseP target.same).isEmpty with
        | true => rfl
        | false => rfl
      · rw [if_neg found, if_neg found]
        rfl

end Construction

/-- A step leaves what its operation makes of the query, and a failing one leaves the query. -/
theorem step_eq_attempt (store : Store) (query : Query) (operation : Operation) :
    step store query operation = match attempt store query operation with
      | .ok (answer, query') => (.ok answer, query')
      | .error error => (.error error, query) := by
  -- Each operation does its lookups first, and what it changes is determined by their result.
  cases operation with
  | select keywords aggregate =>
    cases found : searchAll store keywords <;>
      simp [step, Construction.perform, Construction.select, attempt, Query.select, found,
        Construction.applyTo_selectFields]
  | deselect keywords =>
    cases found : searchAll store keywords <;>
      simp [step, Construction.perform, Construction.deselect, attempt, Query.deselect, found,
        Construction.applyTo_deselectFields]
  | groupBy keywords =>
    cases found : searchAll store keywords <;>
      simp [step, Construction.perform, Construction.groupBy, attempt, Query.groupBy, found,
        Construction.applyTo_groupByFields]
  | orderBy keyword order =>
    cases found : store.searchField keyword <;>
      simp [step, Construction.perform, Construction.orderBy, attempt, Query.orderBy, found]
  | filter expression operator =>
    cases filtered : query.filter store expression operator <;>
      simp [step, Construction.perform, Construction.applyTo_filter, attempt, filtered]
  | removeFilter expression =>
    cases removed : query.removeFilter store expression <;>
      simp [step, Construction.perform, Construction.applyTo_removeFilter, attempt, removed]
  | distinct value | top count | reset => rfl
  | load content =>
    cases read : QuerySet.load content <;>
      simp [step, Construction.perform, Construction.load, attempt, load, read]

end FlightQuery.Query
