import FlightQuery.Proofs.Filter.WellFormed
import FlightQuery.Proofs.Query.Run

/-! A filter that is added and removed again leaves the filters as they were, unless one of them
equals it. -/

namespace FlightQuery.Query

/-- One filter that equals a target is taken out of a list, and the others keep their order. -/
inductive TakesOut (target : Filter) : List Filter → List Filter → Prop
  | intro {filter : Filter} (before behind : List Filter) (same : target.same filter) :
      TakesOut target (before ++ filter :: behind) (before ++ behind)

/-- A removal takes out one filter when there is one that equals its target. -/
theorem takesOut_eraseP {target : Filter} {filters : List Filter}
    (found : ∃ filter ∈ filters, target.same filter) :
    TakesOut target filters (filters.eraseP target.same) := by
  obtain ⟨filter, listed, same⟩ := found
  -- The filter erased is the first that is like the target, and those around it stay.
  obtain ⟨other, before, behind, _, like, parts, erased⟩ := List.exists_of_eraseP listed same
  rw [erased, parts]
  exact .intro before behind like

/-- An added filter is the one that is removed when all others are unlike it. -/
theorem eraseP_append_added {added : Filter} {filters : List Filter}
    (reflexive : added.same added) (unlike : ∀ filter ∈ filters, ¬ added.same filter) :
    (filters ++ [added]).eraseP added.same = filters := by
  rw [List.eraseP_append_right _ unlike, List.eraseP_cons_of_pos reflexive, List.append_nil]

variable {store : Store} {query query' : Query} {expression : String} {operator : GroupOperator}

/-- A filter that stands behind others, or one that equals it, can be removed. -/
theorem removeFilter_last (query : Query) (operator : GroupOperator) {added : Filter}
    (translated : Filter.ofExpression store expression = .ok added) (filters : List Filter) :
    TakesOut added (filters ++ [added]) ((filters ++ [added]).eraseP added.same) ∧
    (query.withFilter (some { operator, filters := filters ++ [added] })).removeFilter
        store expression =
      .ok (true, query.withFilter
        (FilterGroup.ofFilters? operator ((filters ++ [added]).eraseP added.same))) := by
  -- A translated filter equals itself, so that at least the added one is found.
  have reflexive := Filter.same_self_of_ofExpression translated
  have found : ∃ filter ∈ filters ++ [added], added.same filter := ⟨added, by simp, reflexive⟩
  have present := query.withFilter_filter (some { operator, filters := filters ++ [added] })
  have removed := (Succeeds.removeFilter present translated found).removeFilter_eq
  rw [withFilter_withFilter] at removed
  exact ⟨takesOut_eraseP found, removed⟩

/--
A filter that was added can be removed again, which changes nothing but the filters.

One filter that equals it is taken out, which is the added one if no other does. A combination goes
with its last filter.
-/
theorem removeFilter_added (filtered : query.filter store expression operator = .ok query') :
    ∃ added query'', Filter.ofExpression store expression = .ok added ∧
      query'.removeFilter store expression = .ok (true, query'') ∧
      (query.querySet.filter = none → query'' = query) ∧
      ∀ group, query.querySet.filter = some group → ∃ filters,
        TakesOut added (group.filters ++ [added]) filters ∧
        query'' = query.withFilter (FilterGroup.ofFilters? group.operator filters) ∧
        ((∀ filter ∈ group.filters, ¬ added.same filter) →
          filters = group.filters ∧ (group.filters ≠ [] → query'' = query)) := by
  cases succeeds_filter filtered with
  | firstFilter translated absent =>
    -- The combination goes with its only filter.
    have reflexive := Filter.same_self_of_ofExpression translated
    obtain ⟨-, removed⟩ := removeFilter_last query operator translated []
    rw [eraseP_append_added reflexive (by simp), FilterGroup.ofFilters?_eq_none_iff.mpr rfl,
      ← absent, withFilter_self] at removed
    refine ⟨_, query, translated, removed, fun _ => rfl, fun group present => ?_⟩
    simp [absent] at present
  -- The combination loses the first equal filter, which is the added one if no other is equal.
  | @furtherFilter _ _ added group translated present =>
    have reflexive := Filter.same_self_of_ofExpression translated
    obtain ⟨takesOut, removed⟩ := removeFilter_last query group.operator translated group.filters
    refine ⟨added, _, translated, removed, by simp [present], fun other present' => ?_⟩
    obtain rfl : group = other := Option.some.inj (present.symm.trans present')
    refine ⟨_, takesOut, rfl, fun unlike => ?_⟩
    rw [eraseP_append_added reflexive unlike]
    refine ⟨rfl, fun nonempty => ?_⟩
    rw [FilterGroup.ofFilters?_eq_some_iff.mpr ⟨nonempty, rfl⟩, ← present, withFilter_self]

/-- A filter that is added to another one and removed again leaves the query as it was. -/
theorem removeFilter_added_other :
    let query := after flightTree.toStore [.filter "'Record' > 2" .any]
    ∃ query', query.filter flightTree.toStore "'Record' > 1" .all = .ok query' ∧
      query'.removeFilter flightTree.toStore "'Record' > 1" = .ok (true, query) := by
  intro query
  -- The first filter is another one, which is evaluated, and the rest is left to the theorem.
  have evaluated : (query.filter flightTree.toStore "'Record' > 1" .all).isOk = true ∧
      ∃ group ∈ query.querySet.filter, group.filters ≠ [] ∧
        ∀ added ∈ (Filter.ofExpression flightTree.toStore "'Record' > 1").toOption,
          ∀ filter ∈ group.filters, ¬ added.same filter := by
    decide +kernel
  obtain ⟨succeeds, group, present, nonempty, unlike⟩ := evaluated
  -- The query is taken as it is, so that nothing of it is unfolded again.
  clear_value query
  cases filtered : query.filter flightTree.toStore "'Record' > 1" .all with
  | error error => exact absurd succeeds (by simp [filtered, Except.isOk, Except.toBool])
  | ok query' =>
    obtain ⟨added, query'', translated, removed, -, combined⟩ := removeFilter_added filtered
    obtain ⟨filters, -, -, unchanged⟩ := combined group present
    obtain ⟨-, same⟩ := unchanged (unlike added (by simp [translated, Except.toOption]))
    exact ⟨query', rfl, by rw [removed, same nonempty]⟩

/-- The text of a query set with a combination of no filters. -/
def nothingCombined : String :=
  let combination : Json := .object [("operator", .text "or"), ("args", .list [])]
  (Json.object [("filter", combination)]).compact

/-- A filter can be added after some operations and removed again, but the query set is not the one
from before. -/
def ChangesQuerySet (store : Store) (operations : List Operation) (expression : String) : Prop :=
  let query := after store operations
  let result := run store query [.filter expression .all, .removeFilter expression]
  result.1 = [.ok .done, .ok (.removed true)] ∧ result.2.querySet ≠ query.querySet

/-- A query set is not the one from before when its document is a different one. -/
theorem changesQuerySet_of_documents {operations : List Operation}
    (evaluated :
      let query := after store operations
      let result := run store query [.filter expression .all, .removeFilter expression]
      result.1 = [.ok .done, .ok (.removed true)] ∧
        result.2.querySet.toJson.same query.querySet.toJson = false ∧
        query.querySet.toJson.same query.querySet.toJson = true) :
    ChangesQuerySet store operations expression := by
  -- Query sets that are the same have the same document, and the documents differ.
  obtain ⟨answered, different, reflexive⟩ := evaluated
  refine ⟨answered, fun same => ?_⟩
  rw [same, reflexive] at different
  exact Bool.noConfusion different

/-- A filter that equals an earlier one takes its place away, and it takes a combination of no
filters with it. -/
theorem removeFilter_added_ne :
    ChangesQuerySet flightTree.toStore
      [.filter "'Record' > 1" .all, .filter "'Record' > 2" .all] "'Record' > 1" ∧
    ChangesQuerySet flightTree.toStore [.load nothingCombined] "'Record' > 1" := by
  refine ⟨changesQuerySet_of_documents ?_, changesQuerySet_of_documents ?_⟩
  all_goals decide +kernel

end FlightQuery.Query
