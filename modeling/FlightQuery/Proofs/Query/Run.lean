import FlightQuery.FieldTree
import FlightQuery.Proofs.Query.Construction

/-! What the operations on a query do, one by one and one after the other. -/

namespace FlightQuery

/-- A combination of filters, which is left out when there are none. -/
def FilterGroup.ofFilters? (operator : GroupOperator) (filters : List Filter) :
    Option FilterGroup :=
  if filters.isEmpty then none else some { operator, filters }

/-- Nothing is combined exactly when there are no filters. -/
@[simp] theorem FilterGroup.ofFilters?_eq_none_iff {operator : GroupOperator}
    {filters : List Filter} : ofFilters? operator filters = none ↔ filters = [] := by
  simp [ofFilters?]

/-- What is combined are the filters, and there is one. -/
theorem FilterGroup.ofFilters?_eq_some_iff {operator : GroupOperator} {filters : List Filter}
    {group : FilterGroup} :
    ofFilters? operator filters = some group ↔ filters ≠ [] ∧ { operator, filters } = group := by
  simp [ofFilters?]

namespace Query

/-- The query with other filters. -/
def withFilter (query : Query) (filter : Option FilterGroup) : Query :=
  { query with querySet.filter := filter }

/-- The filters of a query are those that it was given. -/
@[simp] theorem withFilter_filter (query : Query) (filter : Option FilterGroup) :
    (query.withFilter filter).querySet.filter = filter := rfl

/-- Only the last filters count. -/
@[simp] theorem withFilter_withFilter (query : Query) (filter filter' : Option FilterGroup) :
    (query.withFilter filter).withFilter filter' = query.withFilter filter' := rfl

/-- A query with the filters that it has is the same query. -/
@[simp] theorem withFilter_self (query : Query) : query.withFilter query.querySet.filter = query :=
  rfl

/-- What a successful operation does to a query: its answer, and the query that it leaves. -/
inductive Succeeds (store : Store) (query : Query) : Operation → Answer → Query → Prop
  | select {keywords : List String} {aggregate : Aggregate} {fields : List Field}
      (found : searchAll store keywords = .ok fields) :
      Succeeds store query (.select keywords aggregate) .done {
        columns := query.columns ++ fields
        querySet := { query.querySet with
          select := query.querySet.select ++
            fields.map fun field => { fieldId := field.id, aggregate } } }
  | deselect {keywords : List String} {fields : List Field}
      (found : searchAll store keywords = .ok fields) :
      Succeeds store query (.deselect keywords) .done {
        columns := query.columns.filter fun field => !(fields.map Field.id).contains field.id
        querySet := { query.querySet with
          select := query.querySet.select.filter fun item =>
            !(fields.map Field.id).contains item.fieldId } }
  | groupBy {keywords : List String} {fields : List Field}
      (found : searchAll store keywords = .ok fields) :
      Succeeds store query (.groupBy keywords) .done
        { query with querySet.groupBy := query.querySet.groupBy ++ fields.map Field.id }
  | orderBy {keyword : String} {order : SortOrder} {field : Field}
      (found : store.searchField keyword = .ok field) :
      Succeeds store query (.orderBy keyword order) .done
        { query with querySet.orderBy :=
            query.querySet.orderBy ++ [{ fieldId := field.id, order, aggregate := .none }] }
  /-- The first filter settles how filters are combined. -/
  | firstFilter {expression : String} {operator : GroupOperator} {filter : Filter}
      (translated : Filter.ofExpression store expression = .ok filter)
      (absent : query.querySet.filter = none) :
      Succeeds store query (.filter expression operator) .done
        (query.withFilter (some { operator, filters := [filter] }))
  | furtherFilter {expression : String} {operator : GroupOperator} {filter : Filter}
      {group : FilterGroup} (translated : Filter.ofExpression store expression = .ok filter)
      (present : query.querySet.filter = some group) :
      Succeeds store query (.filter expression operator) .done
        (query.withFilter (some { group with filters := group.filters ++ [filter] }))
  /-- Where there are no filters, an expression is not looked at. -/
  | noFilters {expression : String} (absent : query.querySet.filter = none) :
      Succeeds store query (.removeFilter expression) (.removed false) query
  | noSuchFilter {expression : String} {group : FilterGroup} {target : Filter}
      (present : query.querySet.filter = some group)
      (translated : Filter.ofExpression store expression = .ok target)
      (unlike : ∀ filter ∈ group.filters, ¬ target.same filter) :
      Succeeds store query (.removeFilter expression) (.removed false) query
  | removeFilter {expression : String} {group : FilterGroup} {target : Filter}
      (present : query.querySet.filter = some group)
      (translated : Filter.ofExpression store expression = .ok target)
      (found : ∃ filter ∈ group.filters, target.same filter) :
      Succeeds store query (.removeFilter expression) (.removed true)
        (query.withFilter
          (FilterGroup.ofFilters? group.operator (group.filters.eraseP (Filter.same target))))
  | distinct {value : Bool} :
      Succeeds store query (.distinct value) .done { query with querySet.distinct := value }
  | top {count : UInt32} :
      Succeeds store query (.top count) .done { query with querySet.top := some count }
  | reset : Succeeds store query .reset .done {}
  | load {content : String} {querySet : QuerySet} (read : QuerySet.load content = .ok querySet) :
      Succeeds store query (.load content) .done { columns := [], querySet }

variable {store : Store} {query query' : Query} {operation : Operation} {answer : Answer}

/-- An operation attempts what it does when it succeeds. -/
theorem Succeeds.attempt_eq (succeeds : Succeeds store query operation answer query') :
    attempt store query operation = .ok (answer, query') := by
  -- Each case has what the operation asks for, so that only its definition is left.
  cases succeeds with
  | select found | deselect found | groupBy found | orderBy found =>
    simp [attempt, Query.select, Query.deselect, Query.groupBy, Query.orderBy, found]
  | firstFilter translated absent =>
    simp [attempt, Query.filter, withFilter, translated, absent]
  | furtherFilter translated present =>
    simp [attempt, Query.filter, withFilter, translated, present]
  | noFilters absent => simp [attempt, Query.removeFilter, absent]
  -- The code asks whether some filter equals the target, and none of them does.
  | @noSuchFilter _ group target present translated unlike =>
    have missing : ¬ ∃ filter ∈ group.filters, target.same filter := by
      rintro ⟨filter, listed, same⟩
      exact unlike filter listed same
    simp [attempt, Query.removeFilter, present, translated, missing]
  | removeFilter present translated found =>
    simp [attempt, Query.removeFilter, withFilter, present, translated, found,
      FilterGroup.ofFilters?]
  | distinct | top | reset => rfl
  | load read => simp [attempt, Query.load, read]

/-- A filter is added as the first one or behind the others. -/
theorem succeeds_filter {expression : String} {operator : GroupOperator}
    (done : query.filter store expression operator = .ok query') :
    Succeeds store query (.filter expression operator) .done query' := by
  obtain ⟨filter, translated, added⟩ := Outcome.bind_eq_ok_iff.mp done
  cases added
  -- A combination that is there takes one more filter, otherwise the filter makes one.
  cases present : query.querySet.filter with
  | none => exact .firstFilter translated present
  | some group => exact .furtherFilter translated present

/-- A filter is removed if there is one like it. -/
theorem succeeds_removeFilter {expression : String} {found : Bool}
    (done : query.removeFilter store expression = .ok (found, query')) :
    Succeeds store query (.removeFilter expression) (.removed found) query' := by
  -- It ends early without a combination, and it answers whether an equal filter is found.
  unfold removeFilter at done
  split at done
  next absent =>
    cases done
    exact .noFilters absent
  next group present =>
    obtain ⟨target, translated, looked⟩ := Outcome.bind_eq_ok_iff.mp done
    split at looked
    next like =>
      cases looked
      exact .removeFilter present translated (List.any_eq_true.mp like)
    next unlike =>
      cases looked
      exact .noSuchFilter present translated (by simpa using unlike)

/-- A filter is removed as the operation says. -/
theorem Succeeds.removeFilter_eq {expression : String} {found : Bool}
    (succeeds : Succeeds store query (.removeFilter expression) (.removed found) query') :
    query.removeFilter store expression = .ok (found, query') := by
  -- The call answers with what was removed, so its answer tells the outcome.
  obtain ⟨_, removed, answered⟩ := Outcome.bind_eq_ok_iff.mp succeeds.attempt_eq
  cases answered
  exact removed

/-- An operation that only changes the query has no other answer. -/
theorem eq_ok_of_done {change : Outcome Query}
    (done : (do return (Answer.done, ← change)) = Except.ok (answer, query')) :
    change = .ok query' ∧ answer = .done := by
  obtain ⟨_, changed, answered⟩ := Outcome.bind_eq_ok_iff.mp done
  cases answered
  exact ⟨changed, rfl⟩

/-- An operation does nothing else when it succeeds. -/
theorem succeeds_of_attempt (done : attempt store query operation = .ok (answer, query')) :
    Succeeds store query operation answer query' := by
  -- Each operation looks up what it needs and cannot fail then, so that its success tells both.
  cases operation with
  | select keywords aggregate =>
    obtain ⟨selected, rfl⟩ := eq_ok_of_done done
    obtain ⟨fields, found, changed⟩ := Outcome.bind_eq_ok_iff.mp selected
    cases changed
    exact .select found
  | deselect keywords =>
    obtain ⟨deselected, rfl⟩ := eq_ok_of_done done
    obtain ⟨fields, found, changed⟩ := Outcome.bind_eq_ok_iff.mp deselected
    cases changed
    exact .deselect found
  | groupBy keywords =>
    obtain ⟨grouped, rfl⟩ := eq_ok_of_done done
    obtain ⟨fields, found, changed⟩ := Outcome.bind_eq_ok_iff.mp grouped
    cases changed
    exact .groupBy found
  | orderBy keyword order =>
    obtain ⟨ordered, rfl⟩ := eq_ok_of_done done
    obtain ⟨field, found, changed⟩ := Outcome.bind_eq_ok_iff.mp ordered
    cases changed
    exact .orderBy found
  | filter expression operator =>
    obtain ⟨filtered, rfl⟩ := eq_ok_of_done done
    exact succeeds_filter filtered
  | removeFilter expression =>
    obtain ⟨⟨found, _⟩, removed, answered⟩ := Outcome.bind_eq_ok_iff.mp done
    cases answered
    exact succeeds_removeFilter removed
  | distinct value =>
    cases done
    exact .distinct
  | top count =>
    cases done
    exact .top
  | reset =>
    cases done
    exact .reset
  | load content =>
    obtain ⟨loaded, rfl⟩ := eq_ok_of_done done
    obtain ⟨querySet, read, changed⟩ := Outcome.bind_eq_ok_iff.mp loaded
    cases changed
    exact .load read

/-- A step is an operation that succeeds, or one that fails and leaves the query as it was. -/
theorem step_cases (store : Store) (query : Query) (operation : Operation) :
    (∃ answer query', Succeeds store query operation answer query' ∧
      step store query operation = (.ok answer, query')) ∨
    (∃ error, attempt store query operation = .error error ∧
      step store query operation = (.error error, query)) := by
  rw [step_eq_attempt]
  -- Whether an operation succeeds is told by its attempt.
  cases done : attempt store query operation with
  | ok outcome => exact .inl ⟨outcome.1, outcome.2, succeeds_of_attempt done, rfl⟩
  | error error => exact .inr ⟨error, rfl, rfl⟩

/-- A step does what its operation does. -/
theorem Succeeds.step_eq (succeeds : Succeeds store query operation answer query') :
    step store query operation = (.ok answer, query') := by
  rw [step_eq_attempt, succeeds.attempt_eq]

/-- The query after some operations on a new one. -/
def after (store : Store) (operations : List Operation) : Query := (run store {} operations).2

/-- Operations on a new query with their answers. -/
def history (store : Store) (operations : List Operation) : List (Operation × Outcome Answer) :=
  operations.zip (run store {} operations).1

/-- A run goes on with the query that its first part leaves. -/
theorem run_append (store : Store) (query : Query) (operations later : List Operation) :
    run store query (operations ++ later) =
      ((run store query operations).1 ++ (run store (run store query operations).2 later).1,
        (run store (run store query operations).2 later).2) := by
  induction operations generalizing query with
  | nil => rfl
  | cons operation operations ih => simp [run, ih]

/-- Every operation of a run is answered. -/
theorem run_length (store : Store) (query : Query) (operations : List Operation) :
    (run store query operations).1.length = operations.length := by
  induction operations generalizing query with
  | nil => rfl
  | cons operation operations ih => simp [run, ih]

/-- One more operation is applied to the query after those before it. -/
theorem after_concat (store : Store) (operations : List Operation) (operation : Operation) :
    after store (operations ++ [operation]) =
      (step store (after store operations) operation).2 := by
  rw [after, run_append]
  rfl

/-- One more operation adds its answer to the history. -/
theorem history_concat (store : Store) (operations : List Operation) (operation : Operation) :
    history store (operations ++ [operation]) = history store operations ++
      [(operation, (step store (after store operations) operation).1)] := by
  rw [history, run_append, List.zip_append (run_length store {} operations).symm]
  rfl

/-- A tree of a number field and a text field. -/
def flightTree : FieldTree where
  databaseId := "flights"
  entries := [
    { field := { id := "record", name := "Flight Record", type := .number }, parentId := none },
    { field := { id := "number", name := "Flight Number", type := .text }, parentId := none }]

end Query
end FlightQuery
