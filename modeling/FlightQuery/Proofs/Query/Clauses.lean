import FlightQuery.Proofs.Query.Failure

/-! The clauses of a query do not depend on each other: how operations on different clauses are
interleaved does not matter. -/

namespace FlightQuery.Query

/-- A part of a query that changes on its own. -/
inductive Clause where
  /-- The selected fields and the columns. -/
  | selection
  | grouping
  | sorting
  | filters
  | distinct
  | top
  /-- The format, which no operation on a clause changes. -/
  | format
  deriving DecidableEq

/-- What a clause holds. -/
def Clause.Part : Clause → Type
  | selection => List Field × List SelectItem
  | grouping => List String
  | sorting => List OrderItem
  | filters => Option FilterGroup
  | distinct => Bool
  | top => Option UInt32
  | format => String

/-- What a clause of a query holds. -/
def part (query : Query) : (clause : Clause) → clause.Part
  | .selection => (query.columns, query.querySet.select)
  | .grouping => query.querySet.groupBy
  | .sorting => query.querySet.orderBy
  | .filters => query.querySet.filter
  | .distinct => query.querySet.distinct
  | .top => query.querySet.top
  | .format => query.querySet.format

/-- A query consists of its clauses. -/
theorem eq_of_parts {first second : Query}
    (same : ∀ clause, first.part clause = second.part clause) : first = second := by
  -- Columns and selected items are one clause, and every other component is a clause of its own.
  obtain ⟨columns, select, groupBy, orderBy, filter, distinct, top, format⟩ := first
  obtain ⟨columns', select', groupBy', orderBy', filter', distinct', top', format'⟩ := second
  obtain ⟨rfl, rfl⟩ : columns = columns' ∧ select = select' := Prod.mk.inj (same .selection)
  obtain rfl : groupBy = groupBy' := same .grouping
  obtain rfl : orderBy = orderBy' := same .sorting
  obtain rfl : filter = filter' := same .filters
  obtain rfl : distinct = distinct' := same .distinct
  obtain rfl : top = top' := same .top
  obtain rfl : format = format' := same .format
  rfl

/-- The clause that an operation is about, unless it is about the whole query. -/
def Operation.clause? : Operation → Option Clause
  | select .. | deselect .. => some .selection
  | groupBy .. => some .grouping
  | orderBy .. => some .sorting
  | filter .. | removeFilter .. => some .filters
  | distinct .. => some .distinct
  | top .. => some .top
  | reset | load .. => none

/-- Whether an operation is about a clause. -/
def Operation.isAbout (clause : Clause) (operation : Operation) : Bool :=
  operation.clause? = some clause

/-- Operations with the answers that they get one after the other. -/
def answered (store : Store) (query : Query) (operations : List Operation) :
    List (Operation × Outcome Answer) :=
  operations.zip (run store query operations).1

/-- The first operation is answered, and the others are answered by what it leaves. -/
theorem answered_cons (store : Store) (query : Query) (operation : Operation)
    (operations : List Operation) :
    answered store query (operation :: operations) =
      (operation, (step store query operation).1) ::
        answered store (step store query operation).2 operations := rfl

/-- The answered operations on a clause. -/
def callsOn (clause : Clause) (calls : List (Operation × Outcome Answer)) :
    List (Operation × Outcome Answer) :=
  calls.filter fun call => call.1.isAbout clause

variable {store : Store} {first second : Query} {operation : Operation}
  {operations : List Operation} {clause : Clause}

/-- An operation on a clause is the first of its answered operations. -/
theorem callsOn_cons_of_isAbout (about : operation.isAbout clause) (answer : Outcome Answer)
    (calls : List (Operation × Outcome Answer)) :
    callsOn clause ((operation, answer) :: calls) = (operation, answer) :: callsOn clause calls :=
  List.filter_cons_of_pos about

/-- An operation on another clause does not count. -/
theorem callsOn_cons_of_not_isAbout (different : ¬ operation.isAbout clause)
    (answer : Outcome Answer) (calls : List (Operation × Outcome Answer)) :
    callsOn clause ((operation, answer) :: calls) = callsOn clause calls :=
  List.filter_cons_of_neg different

/-! ### One operation -/

/-- A successful operation changes no clause but its own. -/
theorem Succeeds.keeps {answer : Answer} {query' : Query}
    (succeeds : Succeeds store first operation answer query')
    (different : ¬ operation.isAbout clause) (clausal : operation.clause? ≠ none) :
    query'.part clause = first.part clause := by
  -- A reset and a load belong to no clause, and the other calls change one part each.
  cases succeeds with
  | reset | load => exact absurd rfl clausal
  | _ => cases clause <;> first | exact absurd rfl different | rfl

/-- An operation changes no clause but its own. -/
theorem step_keeps (store : Store) (first : Query) (different : ¬ operation.isAbout clause)
    (clausal : operation.clause? ≠ none) :
    (step store first operation).2.part clause = first.part clause := by
  -- A failing operation changes nothing at all, so that only the success has to be looked at.
  rcases step_cases store first operation with
    ⟨answer, query', succeeds, step_eq⟩ | ⟨error, failed, step_eq⟩
  · rw [step_eq]
    exact succeeds.keeps different clausal
  · rw [step_eq]

/-- A successful operation asks for nothing but its own clause. -/
theorem Succeeds.transfer {answer : Answer} {first' : Query}
    (succeeds : Succeeds store first operation answer first') (about : operation.isAbout clause)
    (same : first.part clause = second.part clause) :
    ∃ second', Succeeds store second operation answer second' ∧
      first'.part clause = second'.part clause := by
  -- What an operation looks at belongs to its own clause, where the two queries agree.
  have own : operation.clause? = some clause := of_decide_eq_true about
  cases succeeds with
  -- The fields are found by the store, and they are put behind the same items.
  | select found =>
    cases own
    obtain ⟨columns, selected⟩ := Prod.mk.inj same
    refine ⟨_, .select found, ?_⟩
    exact congrArg₂ Prod.mk (congrArg (· ++ _) columns) (congrArg (· ++ _) selected)
  -- Whatever is taken out of one selection is taken out of the other.
  | deselect found =>
    cases own
    obtain ⟨columns, selected⟩ := Prod.mk.inj same
    refine ⟨_, .deselect found, ?_⟩
    exact congrArg₂ Prod.mk (congrArg (List.filter _) columns) (congrArg (List.filter _) selected)
  | groupBy found =>
    cases own
    exact ⟨_, .groupBy found, congrArg (· ++ _) same⟩
  | orderBy found =>
    cases own
    exact ⟨_, .orderBy found, congrArg (· ++ _) same⟩
  -- Which kind of filter it is depends on whether there are filters, and so it does in both.
  | firstFilter translated absent =>
    cases own
    exact ⟨_, .firstFilter translated (same.symm.trans absent), rfl⟩
  | furtherFilter translated present =>
    cases own
    exact ⟨_, .furtherFilter translated (same.symm.trans present), rfl⟩
  | noFilters absent =>
    cases own
    exact ⟨_, .noFilters (same.symm.trans absent), same⟩
  -- Without an equal filter nothing is removed, in either query.
  | noSuchFilter present translated unlike =>
    cases own
    exact ⟨_, .noSuchFilter (same.symm.trans present) translated unlike, same⟩
  | removeFilter present translated found =>
    cases own
    exact ⟨_, .removeFilter (same.symm.trans present) translated found, rfl⟩
  | distinct =>
    cases own
    exact ⟨_, .distinct, rfl⟩
  | top =>
    cases own
    exact ⟨_, .top, rfl⟩
  -- A reset and a load are about every clause, so that they are about none alone.
  | reset | load => exact nomatch own

/-- A failing operation asks for nothing but its own clause. -/
theorem Fails.transfer {error : Error} (fails : Fails store first operation error)
    (about : operation.isAbout clause) (same : first.part clause = second.part clause) :
    Fails store second operation error := by
  have own : operation.clause? = some clause := of_decide_eq_true about
  cases fails with
  | select unknown => exact .select unknown
  | deselect unknown => exact .deselect unknown
  | groupBy unknown => exact .groupBy unknown
  | orderBy unknown => exact .orderBy unknown
  | filter untranslated => exact .filter untranslated
  | removeFilter present untranslated =>
    -- There are filters in both queries.
    cases own
    exact .removeFilter (same.symm.trans present) untranslated
  | load => exact nomatch own

/-- An operation asks for nothing but its own clause. -/
theorem step_transfer (store : Store) (about : operation.isAbout clause)
    (same : first.part clause = second.part clause) :
    (step store first operation).1 = (step store second operation).1 ∧
      (step store first operation).2.part clause = (step store second operation).2.part clause := by
  -- Either the same changes happen to both queries, or the same failure meets both.
  rcases step_cases store first operation with
    ⟨answer, first', succeeds, step_eq⟩ | ⟨error, failed, step_eq⟩
  · obtain ⟨second', succeeds', same'⟩ := succeeds.transfer about same
    rw [step_eq, succeeds'.step_eq]
    exact ⟨rfl, same'⟩
  · have fails := (fails_of_attempt failed).transfer about same
    rw [step_eq, step_eq_attempt store second, fails.attempt_eq]
    exact ⟨rfl, same⟩

/-! ### Runs -/

/-- What a run does to a clause, its operations on this clause do alone. -/
theorem run_part (store : Store) (first second : Query)
    (clausal : ∀ operation ∈ operations, operation.clause? ≠ none)
    (same : first.part clause = second.part clause) :
    callsOn clause (answered store first operations) =
        answered store second (operations.filter (Operation.isAbout clause)) ∧
      (run store first operations).2.part clause =
        (run store second (operations.filter (Operation.isAbout clause))).2.part clause := by
  -- The second query takes part in the steps that are about the clause.
  induction operations generalizing first second with
  | nil => exact ⟨rfl, same⟩
  | cons operation operations ih =>
    obtain ⟨head, tail⟩ := List.forall_mem_cons.mp clausal
    by_cases about : operation.isAbout clause
    · -- The step is taken by both queries, with the same answer and the same clause behind it.
      obtain ⟨answer_eq, same'⟩ := step_transfer store about same
      obtain ⟨answers, left⟩ := ih _ _ tail same'
      rw [List.filter_cons_of_pos about, answered_cons, callsOn_cons_of_isAbout about, answers,
        answer_eq]
      exact ⟨rfl, left⟩
    · -- The step is taken by the first query only, and it leaves the clause.
      have same' := (step_keeps store first about head).trans same
      obtain ⟨answers, left⟩ := ih _ _ tail same'
      rw [List.filter_cons_of_neg about, answered_cons, callsOn_cons_of_not_isAbout about]
      exact ⟨answers, left⟩

/--
The order of operations on different clauses does not matter.

Two runs from the same query that perform the same operations on each clause, in the same order,
leave the same query, and each operation gets the same answer in both of them.
-/
theorem run_interleaved (store : Store) (query : Query) {operations operations' : List Operation}
    (clausal : ∀ operation ∈ operations, operation.clause? ≠ none)
    (clausal' : ∀ operation ∈ operations', operation.clause? ≠ none)
    (same : ∀ clause, operations.filter (Operation.isAbout clause) =
      operations'.filter (Operation.isAbout clause)) :
    (run store query operations).2 = (run store query operations').2 ∧
    ∀ clause, callsOn clause (answered store query operations) =
      callsOn clause (answered store query operations') := by
  -- Both runs do to a clause what the same operations do alone.
  refine ⟨eq_of_parts fun clause => ?_, fun clause => ?_⟩
  · rw [(run_part store query query clausal rfl).2, (run_part store query query clausal' rfl).2,
      same]
  · rw [(run_part store query query clausal rfl).1, (run_part store query query clausal' rfl).1,
      same]

/-- A failing removal and a selection may change places with operations on other clauses. -/
theorem run_interleaved_failure :
    let first : List Operation := [.select ["Record", "Number"] .none, .filter "'Record' > 1" .any,
      .removeFilter "'Record' >", .deselect ["Record"], .top 5, .groupBy ["Pilot"]]
    let second : List Operation := [.groupBy ["Pilot"], .filter "'Record' > 1" .any, .top 5,
      .select ["Record", "Number"] .none, .deselect ["Record"], .removeFilter "'Record' >"]
    (∀ operation ∈ first, operation.clause? ≠ none) ∧
    (∀ operation ∈ second, operation.clause? ≠ none) ∧
    (∀ clause, first.filter (Operation.isAbout clause) =
      second.filter (Operation.isAbout clause)) ∧
    (run flightTree.toStore {} first).2 = (run flightTree.toStore {} second).2 := by
  intro first second
  -- No operation is a reset or a load.
  have clausal : ∀ operation ∈ first, operation.clause? ≠ none := by
    simp [first, Operation.clause?]
  have clausal' : ∀ operation ∈ second, operation.clause? ≠ none := by
    simp [second, Operation.clause?]
  have same : ∀ clause, first.filter (Operation.isAbout clause) =
      second.filter (Operation.isAbout clause) := by
    -- Each clause sees its own operations in the same order.
    intro clause
    cases clause <;> rfl
  exact ⟨clausal, clausal', same, (run_interleaved flightTree.toStore {} clausal clausal' same).1⟩

end FlightQuery.Query
