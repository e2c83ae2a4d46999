import FlightQuery.Proofs.Query.Run
import Mathlib.Data.List.DropRight

/-! The filters of a query are those that its run has added and not removed. -/

namespace FlightQuery.Query

/-- Whether an operation makes a query a new one. -/
def Operation.isReset : Operation → Bool
  | reset => true
  | _ => false

/-- The operations of a run behind its last reset, or all of them. -/
def sinceReset (operations : List Operation) : List Operation :=
  operations.rtakeWhile fun operation => !operation.isReset

/-- A filter that was added, and whether it was removed again. -/
structure Entry where
  filter : Filter
  removed : Bool := false

/-- The filters that were not removed, the oldest first. -/
def remaining (ledger : List Entry) : List Filter :=
  (ledger.filter fun entry => !entry.removed).map Entry.filter

/-- Mark the oldest remaining filter that equals a target as removed. -/
def strike (target : Filter) : List Entry → List Entry
  | [] => []
  | entry :: ledger =>
    if !entry.removed && target.same entry.filter then { entry with removed := true } :: ledger
    else entry :: strike target ledger

/-- What one more operation and its answer leave in a ledger. -/
def record (store : Store) (ledger : List Entry) : Operation × Outcome Answer → List Entry
  | (.filter expression _, .ok _) =>
    match Filter.ofExpression store expression with
    | .ok filter => ledger ++ [{ filter := filter }]
    | .error _ => ledger
  | (.removeFilter expression, .ok (.removed true)) =>
    match Filter.ofExpression store expression with
    | .ok target => strike target ledger
    | .error _ => ledger
  | (.reset, _) => []
  | _ => ledger

/-- The filters that were added since the last reset, in their order. -/
def ledger (store : Store) (operations : List Operation) : List Entry :=
  (history store operations).foldl (record store) []

/-- The last filter is the youngest. -/
theorem remaining_concat (ledger : List Entry) (filter : Filter) :
    remaining (ledger ++ [{ filter := filter }]) = remaining ledger ++ [filter] := by
  simp [remaining]

/-- The oldest remaining filter that equals a target does not remain. -/
theorem remaining_strike (target : Filter) (ledger : List Entry) :
    remaining (strike target ledger) = (remaining ledger).eraseP target.same := by
  induction ledger with
  | nil => rfl
  | cons entry ledger ih =>
    obtain ⟨filter, removed⟩ := entry
    -- Filters that were removed before are passed over, and so are those unlike the target.
    cases removed with
    | true => simpa [strike, remaining] using ih
    | false =>
      by_cases like : target.same filter
      · simp [strike, remaining, like]
      · simpa [strike, remaining, like] using ih

variable {store : Store} {operations : List Operation} {operation : Operation}
  {operator : GroupOperator}

/-- One more operation is recorded with its answer. -/
theorem ledger_concat (store : Store) (operations : List Operation) (operation : Operation) :
    ledger store (operations ++ [operation]) = record store (ledger store operations)
      (operation, (step store (after store operations) operation).1) := by
  rw [ledger, history_concat, List.foldl_concat, ledger]

/-- A failing operation adds nothing to a ledger. -/
theorem record_of_error {entries : List Entry} {query : Query} {error : Error}
    (failed : attempt store query operation = .error error) :
    record store entries (operation, .error error) = entries := by
  -- A reset cannot fail, and every other failed call is not recorded.
  cases operation with
  | reset => exact nomatch failed
  | _ => rfl

/-- A way of combining filters that was passed when there were none, since when there have always
been some. -/
def CreatedWith (store : Store) (operations : List Operation) (operator : GroupOperator) : Prop :=
  ∃ before expression behind, operations = before ++ .filter expression operator :: behind ∧
    (after store before).querySet.filter = none ∧
    ∀ middle, middle <+: behind →
      (after store (before ++ .filter expression operator :: middle)).querySet.filter ≠ none

/-- The first filter settles how filters are combined. -/
theorem createdWith_first {expression : String}
    (absent : (after store operations).querySet.filter = none)
    (present : (after store (operations ++ [.filter expression operator])).querySet.filter ≠ none) :
    CreatedWith store (operations ++ [.filter expression operator]) operator := by
  refine ⟨operations, expression, [], rfl, absent, fun middle start => ?_⟩
  rwa [List.prefix_nil.mp start]

/-- Filters stay combined as they are as long as there are some. -/
theorem CreatedWith.concat (created : CreatedWith store operations operator)
    (present : (after store (operations ++ [operation])).querySet.filter ≠ none) :
    CreatedWith store (operations ++ [operation]) operator := by
  obtain ⟨before, expression, behind, rfl, absent, kept⟩ := created
  refine ⟨before, expression, behind ++ [operation], by simp, absent, fun middle start => ?_⟩
  -- The longest part is the whole run, and all others were there before.
  rcases List.prefix_concat_iff.mp start with rfl | start
  · simpa using present
  · exact kept middle start

/-- The filters of a query are those that remain in the ledger of its run, combined as when the
first of them was added. -/
def Recorded (store : Store) (operations : List Operation) : Prop :=
  ∃ operator, (after store operations).querySet.filter =
      FilterGroup.ofFilters? operator (remaining (ledger store operations)) ∧
    (remaining (ledger store operations) ≠ [] → CreatedWith store operations operator)

/-- A run stays recorded when the filters of its query are those of its ledger, combined as
before. -/
theorem recorded_concat (operator : GroupOperator) {query' : Query} {entries : List Entry}
    (after_eq : after store (operations ++ [operation]) = query')
    (ledger_eq : ledger store (operations ++ [operation]) = entries)
    (combined : query'.querySet.filter = FilterGroup.ofFilters? operator (remaining entries))
    (created : remaining entries ≠ [] → CreatedWith store operations operator) :
    Recorded store (operations ++ [operation]) := by
  subst after_eq ledger_eq
  -- A combination is there exactly when some filter remains, and only then it has an operator.
  refine ⟨operator, combined, fun some => (created some).concat ?_⟩
  rwa [combined, Ne, FilterGroup.ofFilters?_eq_none_iff]

/-- A successful operation other than a load is recorded. -/
theorem Recorded.concat_of_succeeds {answer : Answer} {query' : Query}
    (recorded : Recorded store operations) (unloading : ∀ content, operation ≠ .load content)
    (succeeds : Succeeds store (after store operations) operation answer query')
    (step_eq : step store (after store operations) operation = (.ok answer, query')) :
    Recorded store (operations ++ [operation]) := by
  obtain ⟨operator, combined, created⟩ := recorded
  -- Both the query and the ledger go on from the last step.
  have after_eq : after store (operations ++ [operation]) = query' := by
    rw [after_concat, step_eq]
  have ledger_eq : ledger store (operations ++ [operation]) =
      record store (ledger store operations) (operation, .ok answer) := by
    rw [ledger_concat, step_eq]
  cases succeeds with
  | @firstFilter expression operator' filter translated absent =>
    -- Nothing remained, so the filter is the only one now.
    rw [absent, eq_comm, FilterGroup.ofFilters?_eq_none_iff] at combined
    refine ⟨operator', ?_, fun _ => createdWith_first absent (by simp [after_eq])⟩
    rw [after_eq, ledger_eq, withFilter_filter, record, translated, remaining_concat, combined]
    rfl
  -- The filter goes behind those that remain, which the ledger records in the same way.
  | @furtherFilter expression _ filter group translated present =>
    rw [present, eq_comm, FilterGroup.ofFilters?_eq_some_iff] at combined
    obtain ⟨nonempty, rfl⟩ := combined
    refine recorded_concat operator after_eq ledger_eq ?_ fun _ => created nonempty
    rw [withFilter_filter, record, translated, remaining_concat, eq_comm,
      FilterGroup.ofFilters?_eq_some_iff]
    exact ⟨by simp, rfl⟩
  -- The first equal filter is taken out of the query and struck out of the ledger.
  | @removeFilter expression group target present translated found =>
    rw [present, eq_comm, FilterGroup.ofFilters?_eq_some_iff] at combined
    obtain ⟨nonempty, rfl⟩ := combined
    refine recorded_concat operator after_eq ledger_eq ?_ fun _ => created nonempty
    rw [withFilter_filter, record, translated, remaining_strike]
  | reset => exact recorded_concat .all after_eq ledger_eq rfl fun some => absurd rfl some
  | load => exact absurd rfl (unloading _)
  | _ => exact recorded_concat operator after_eq ledger_eq combined created

/-- A run without a load since its last reset is recorded. -/
theorem recorded_of_unloaded (store : Store) (operations : List Operation)
    (unloaded : ∀ content, .load content ∉ sinceReset operations) : Recorded store operations := by
  -- The last operation is taken off, since each one meets what all earlier ones left.
  induction operations using List.reverseRecOn with
  | nil => exact ⟨.all, rfl, fun some => absurd rfl some⟩
  | append_singleton operations operation ih =>
    cases resets : operation.isReset with
    | true =>
      -- Whatever was there, nothing is left of it.
      cases operation with
      | reset =>
        have after_eq : after store (operations ++ [.reset]) = {} := after_concat ..
        have ledger_eq : ledger store (operations ++ [.reset]) = [] := ledger_concat ..
        exact recorded_concat .all after_eq ledger_eq rfl fun some => absurd rfl some
      | _ => exact nomatch resets
    | false =>
      rw [sinceReset, List.rtakeWhile_concat_pos _ _ _ (by simp [resets])] at unloaded
      have recorded := ih fun content listed => unloaded content (List.mem_append_left _ listed)
      have unloading : ∀ content, operation ≠ .load content := by
        rintro content rfl
        exact unloaded content (List.mem_append_right _ (List.mem_singleton_self _))
      rcases step_cases store (after store operations) operation with
        ⟨answer, query', succeeds, step_eq⟩ | ⟨error, failed, step_eq⟩
      · exact recorded.concat_of_succeeds unloading succeeds step_eq
      · -- A failing operation changes neither the query nor the ledger.
        obtain ⟨operator, combined, created⟩ := recorded
        refine recorded_concat operator ?_ ?_ combined created
        · rw [after_concat, step_eq]
        · rw [ledger_concat, step_eq, record_of_error failed]

/-- A filter is removed exactly when one equals the target that is asked for. -/
theorem answers_removed_iff {query : Query} {expression : String} {filters : List Filter}
    (combined : query.querySet.filter = FilterGroup.ofFilters? operator filters) :
    (step store query (.removeFilter expression)).1 = .ok (.removed true) ↔
      ∃ target, Filter.ofExpression store expression = .ok target ∧
        ∃ filter ∈ filters, target.same filter := by
  constructor
  · -- Only a successful removal of an equal filter has this answer.
    intro answered
    rcases step_cases store query (.removeFilter expression) with
      ⟨answer, query', succeeds, step_eq⟩ | ⟨error, failed, step_eq⟩
    · rw [step_eq] at answered
      cases answered
      cases succeeds with
      | removeFilter present translated found =>
        rw [present, eq_comm, FilterGroup.ofFilters?_eq_some_iff] at combined
        obtain ⟨nonempty, rfl⟩ := combined
        exact ⟨_, translated, found⟩
    · rw [step_eq] at answered
      exact nomatch answered
  · rintro ⟨target, translated, found⟩
    -- An equal filter is one of the filters, so that there is a combination to remove it from.
    have present : query.querySet.filter = some { operator, filters } := by
      rw [combined, FilterGroup.ofFilters?_eq_some_iff]
      obtain ⟨filter, listed, _⟩ := found
      exact ⟨List.ne_nil_of_mem listed, rfl⟩
    rw [(Succeeds.removeFilter present translated found).step_eq]

/--
The filters of a query are those of its run, when no query set was loaded since the last reset.

They are the filters that were added and not removed, in the order in which they were added.
Each removal has taken the oldest of those that equal its target.
They are combined as when the first of them was added.
-/
theorem filters_recorded {store : Store} {operations : List Operation}
    (unloaded : ∀ content, .load content ∉ sinceReset operations) :
    ((after store operations).querySet.filter ≠ none ↔
      remaining (ledger store operations) ≠ []) ∧
    (∀ group, (after store operations).querySet.filter = some group →
      group.filters = remaining (ledger store operations) ∧
        CreatedWith store operations group.operator) ∧
    ∀ expression,
      (step store (after store operations) (.removeFilter expression)).1 = .ok (.removed true) ↔
        ∃ target, Filter.ofExpression store expression = .ok target ∧
          ∃ filter ∈ remaining (ledger store operations), target.same filter := by
  -- The run is recorded without its loads, and each part is read off from that.
  obtain ⟨operator, combined, created⟩ := recorded_of_unloaded store operations unloaded
  refine ⟨?_, fun group present => ?_, fun expression => answers_removed_iff combined⟩
  · rw [combined, Ne, FilterGroup.ofFilters?_eq_none_iff]
  · rw [combined, FilterGroup.ofFilters?_eq_some_iff] at present
    obtain ⟨nonempty, rfl⟩ := present
    exact ⟨rfl, created nonempty⟩

/-- Filters that are added anew are combined in a way of their own, and a load before a reset does
not count. -/
theorem filters_recorded_anew :
    let operations : List Operation := [.load (Json.object []).compact, .reset,
      .filter "'Record' > 1" .all, .removeFilter "'Record' > 1",
      .filter "'Record' > 2" .any, .filter "'Record' > 1" .all]
    (∀ content, .load content ∉ sinceReset operations) ∧
      ∃ group, (after flightTree.toStore operations).querySet.filter = some group ∧
        group.operator = .any ∧ group.filters = remaining (ledger flightTree.toStore operations) ∧
        CreatedWith flightTree.toStore operations group.operator := by
  intro operations
  -- The only load stands before the reset.
  have unloaded : ∀ content, .load content ∉ sinceReset operations := by
    intro content
    simp [operations, sinceReset, List.rtakeWhile, Operation.isReset]
  have combined : (after flightTree.toStore operations).querySet.filter.map FilterGroup.operator =
      some .any := by
    decide +kernel
  obtain ⟨group, present, any⟩ := Option.map_eq_some_iff.mp combined
  exact ⟨unloaded, group, present, any, (filters_recorded unloaded).2.1 group present⟩

end FlightQuery.Query
