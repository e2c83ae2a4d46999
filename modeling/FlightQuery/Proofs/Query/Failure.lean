import FlightQuery.Proofs.Query.Run
import Mathlib.Data.List.Induction

/-! An operation that fails has changed nothing, as it finds out what can fail before it changes
anything. -/

namespace FlightQuery.Query
namespace Construction

variable {α β : Type}

/-- A part that leaves every query as it is. -/
def Reads (part : Construction α) : Prop := ∀ query, (applyTo query part).2 = query

/-- A part that does not fail. -/
def Completes (part : Construction α) : Prop :=
  ∀ query error, (applyTo query part).1 ≠ .error error

/-- A part that leaves the query as it is when it fails. -/
def Atomic (part : Construction α) : Prop :=
  ∀ query error, (applyTo query part).1 = .error error → (applyTo query part).2 = query

/-- An outcome only tells something. -/
theorem reads_ofOutcome (outcome : Outcome α) : Reads (ofOutcome outcome) := fun _ => rfl

/-- Looking at the query does not change it. -/
theorem reads_get : Reads (get : Construction Query) := fun _ => rfl

/-- A value can always be returned. -/
theorem completes_pure (value : α) : Completes (pure value) := fun _ _ => nofun

/-- The query set can always be changed. -/
theorem completes_modifyQuerySet (change : QuerySet → QuerySet) :
    Completes (modifyQuerySet change) := fun _ _ => nofun

/-- The columns can always be changed. -/
theorem completes_modifyColumns (change : List Field → List Field) :
    Completes (modifyColumns change) := fun _ _ => nofun

/-- Parts that do not fail can be put together. -/
theorem Completes.bind {part : Construction α} {next : α → Construction β}
    (first : Completes part) (second : ∀ value, Completes (next value)) :
    Completes (part >>= next) := by
  intro query error
  rw [applyTo_bind]
  -- The first part does not fail, so that the second one is always reached.
  cases applied : applyTo query part with
  | mk outcome query' =>
    cases outcome with
    | ok value => exact second value query' error
    | error other => exact absurd (congrArg Prod.fst applied) (first query other)

/-- A part that does not fail can be repeated for every item of a list. -/
theorem completes_forM {items : List α} {part : α → Construction Unit}
    (each : ∀ item, Completes (part item)) : Completes (items.forM part) := by
  -- A loop completes when each of its rounds does.
  induction items with
  | nil => exact completes_pure ()
  | cons item items ih => exact (each item).bind fun _ => ih

/-- Where nothing fails, nothing has to be undone. -/
theorem Completes.atomic {part : Construction α} (completes : Completes part) : Atomic part :=
  fun query error failed => absurd failed (completes query error)

/-- What is found out first does not matter to a query. -/
theorem Reads.atomic_bind {part : Construction α} {next : α → Construction β}
    (reads : Reads part) (atomic : ∀ value, Atomic (next value)) : Atomic (part >>= next) := by
  intro query error
  rw [applyTo_bind]
  -- The first part leaves the query, so that the second one starts where both do.
  have kept := reads query
  cases applied : applyTo query part with
  | mk outcome query' =>
    rw [applied] at kept
    cases kept
    cases outcome with
    | ok value => exact atomic value query' error
    | error other => exact fun _ => rfl

/-- What does not fail can follow. -/
theorem Atomic.bind {part : Construction α} {next : α → Construction β}
    (atomic : Atomic part) (completes : ∀ value, Completes (next value)) :
    Atomic (part >>= next) := by
  intro query error
  rw [applyTo_bind]
  -- Once the first part has succeeded, nothing behind it fails.
  have undone := atomic query
  cases applied : applyTo query part with
  | mk outcome query' =>
    rw [applied] at undone
    cases outcome with
    | ok value => exact fun failed => absurd failed (completes value query' error)
    | error other => exact fun _ => undone other rfl

/-- Once something is found out, what does not fail can follow. -/
theorem atomic_ofOutcome_bind (outcome : Outcome α) {next : α → Construction β}
    (completes : ∀ value, Completes (next value)) : Atomic (ofOutcome outcome >>= next) :=
  (reads_ofOutcome outcome).atomic_bind fun value => (completes value).atomic

variable (store : Store)

/-- Fields are selected when all of them are found. -/
theorem atomic_select (keywords : List String) (aggregate : Aggregate) :
    Atomic (select store keywords aggregate) := by
  refine atomic_ofOutcome_bind _ fun fields => completes_forM fun field => ?_
  exact (completes_modifyQuerySet _).bind fun _ => completes_modifyColumns _

/-- Fields are deselected when all of them are found. -/
theorem atomic_deselect (keywords : List String) : Atomic (deselect store keywords) := by
  refine atomic_ofOutcome_bind _ fun fields => completes_forM fun field => ?_
  exact (completes_modifyQuerySet _).bind fun _ => completes_modifyColumns _

/-- Rows are grouped when all fields are found. -/
theorem atomic_groupBy (keywords : List String) : Atomic (groupBy store keywords) :=
  atomic_ofOutcome_bind _ fun _ => completes_forM fun _ => completes_modifyQuerySet _

/-- Rows are sorted when the field is found. -/
theorem atomic_orderBy (keyword : String) (order : SortOrder) :
    Atomic (orderBy store keyword order) :=
  atomic_ofOutcome_bind _ fun _ => completes_modifyQuerySet _

/-- A combination is made and a filter is added when it is built. -/
theorem atomic_filter (expression : String) (operator : GroupOperator) :
    Atomic (filter store expression operator) := by
  refine atomic_ofOutcome_bind _ fun built => ?_
  exact (completes_modifyQuerySet _).bind fun _ => completes_modifyQuerySet _

/-- A filter is removed when the one that is asked for is built. -/
theorem atomic_removeFilter (expression : String) : Atomic (removeFilter store expression) := by
  refine reads_get.atomic_bind fun query => ?_
  cases query.querySet.filter with
  | none => exact (completes_pure false).atomic
  | some group =>
    refine atomic_ofOutcome_bind _ fun target => ?_
    split
    next found =>
      -- One filter is taken out, and a combination of no filters is dropped.
      refine (completes_modifyQuerySet _).bind fun _ => ?_
      split
      · exact (completes_modifyQuerySet _).bind fun _ => completes_pure true
      · exact completes_pure true
    next unlike => exact completes_pure false

/-- A query set is replaced when the new one is read. -/
theorem atomic_load (content : String) : Atomic (load content) := by
  refine atomic_ofOutcome_bind _ fun querySet => ?_
  exact (completes_modifyQuerySet _).bind fun _ => completes_modifyColumns _

/-- Every operation finds out what can fail before it changes anything. -/
theorem atomic_perform (operation : Operation) : Atomic (perform store operation) := by
  -- Each operation is its change followed by its answer, and an answer cannot fail.
  cases operation with
  | select keywords aggregate =>
    exact (atomic_select store keywords aggregate).bind fun _ => completes_pure _
  | deselect keywords => exact (atomic_deselect store keywords).bind fun _ => completes_pure _
  | groupBy keywords => exact (atomic_groupBy store keywords).bind fun _ => completes_pure _
  | orderBy keyword order =>
    exact (atomic_orderBy store keyword order).bind fun _ => completes_pure _
  | filter expression operator =>
    exact (atomic_filter store expression operator).bind fun _ => completes_pure _
  | removeFilter expression =>
    exact (atomic_removeFilter store expression).bind fun _ => completes_pure _
  | distinct value | top count =>
    exact ((completes_modifyQuerySet _).bind fun _ => completes_pure _).atomic
  -- A reset has no part that fails.
  | reset =>
    refine Completes.atomic (Completes.bind ?_ fun _ => completes_pure _)
    exact (completes_modifyColumns _).bind fun _ => completes_modifyQuerySet _
  | load content => exact (atomic_load content).bind fun _ => completes_pure _

end Construction

variable {store : Store} {query : Query} {operation : Operation} {error : Error}

/--
An operation that fails leaves the query set and the columns as they were.

It does not matter which of several names is unknown, or what it is that cannot be read.
-/
theorem unchanged_of_failure (failed : (step store query operation).1 = .error error) :
    (step store query operation).2 = query :=
  Construction.atomic_perform store operation query error failed

/-- Fields are not selected when the last one of them is unknown. -/
theorem unchanged_of_failure_unknown :
    let query := after flightTree.toStore [.select ["Record"] .none, .filter "'Record' > 1" .all]
    let operation := Operation.select ["Number", "Record", "Pilot"] .none
    (step flightTree.toStore query operation).1 = .error (.unknownField "Pilot") ∧
      (step flightTree.toStore query operation).2 = query := by
  intro query operation
  -- The failure is evaluated, and that nothing has changed follows from it.
  have failed : (step flightTree.toStore query operation).1 = .error (.unknownField "Pilot") := by
    decide +kernel
  exact ⟨failed, unchanged_of_failure failed⟩

/-- What an operation fails for. -/
inductive Fails (store : Store) (query : Query) : Operation → Error → Prop
  | select {keywords : List String} {aggregate : Aggregate} {error : Error}
      (unknown : searchAll store keywords = .error error) :
      Fails store query (.select keywords aggregate) error
  | deselect {keywords : List String} {error : Error}
      (unknown : searchAll store keywords = .error error) :
      Fails store query (.deselect keywords) error
  | groupBy {keywords : List String} {error : Error}
      (unknown : searchAll store keywords = .error error) :
      Fails store query (.groupBy keywords) error
  | orderBy {keyword : String} {order : SortOrder} {error : Error}
      (unknown : store.searchField keyword = .error error) :
      Fails store query (.orderBy keyword order) error
  | filter {expression : String} {operator : GroupOperator} {error : Error}
      (untranslated : Filter.ofExpression store expression = .error error) :
      Fails store query (.filter expression operator) error
  /-- Only where there are filters, an expression is looked at. -/
  | removeFilter {expression : String} {group : FilterGroup} {error : Error}
      (present : query.querySet.filter = some group)
      (untranslated : Filter.ofExpression store expression = .error error) :
      Fails store query (.removeFilter expression) error
  | load {content : String} {error : Error} (unread : QuerySet.load content = .error error) :
      Fails store query (.load content) error

/-- An operation attempts in vain what it fails for. -/
theorem Fails.attempt_eq (fails : Fails store query operation error) :
    attempt store query operation = .error error := by
  -- What the operation needs is missing, and each change begins by asking for it.
  cases fails with
  | select unknown | deselect unknown | groupBy unknown | orderBy unknown =>
    simp [attempt, Query.select, Query.deselect, Query.groupBy, Query.orderBy, unknown]
  | filter untranslated => simp [attempt, Query.filter, untranslated]
  | removeFilter present untranslated =>
    simp [attempt, Query.removeFilter, present, untranslated]
  | load unread => simp [attempt, Query.load, unread]

/-- An operation fails for nothing else. -/
theorem fails_of_attempt (failed : attempt store query operation = .error error) :
    Fails store query operation error := by
  -- The first lookup of an operation is the only part of it that can fail.
  cases operation with
  | select keywords aggregate =>
    exact .select (Outcome.eq_error_of_map (Outcome.eq_error_of_map failed))
  | deselect keywords =>
    have searched : query.deselect store keywords = .error error := Outcome.eq_error_of_map failed
    exact .deselect (Outcome.eq_error_of_map searched)
  | groupBy keywords => exact .groupBy (Outcome.eq_error_of_map (Outcome.eq_error_of_map failed))
  | orderBy keyword order =>
    exact .orderBy (Outcome.eq_error_of_map (Outcome.eq_error_of_map failed))
  | filter expression operator =>
    exact .filter (Outcome.eq_error_of_map (Outcome.eq_error_of_map failed))
  | removeFilter expression =>
    -- Without filters nothing fails, and with a target none of the two cases does.
    have removed : query.removeFilter store expression = .error error :=
      Outcome.eq_error_of_map failed
    cases present : query.querySet.filter with
    | none => simp [Query.removeFilter, present] at removed
    | some group =>
      cases built : Filter.ofExpression store expression with
      | error other =>
        simp only [Query.removeFilter, present, built, Outcome.error_bind] at removed
        cases removed
        exact .removeFilter present built
      | ok target =>
        simp only [Query.removeFilter, present, built, Outcome.ok_bind] at removed
        split at removed <;> cases removed
  | distinct | top | reset => cases failed
  | load content => exact .load (Outcome.eq_error_of_map (Outcome.eq_error_of_map failed))

/-- The operations of a history that succeeded. -/
def succeeded (history : List (Operation × Outcome Answer)) : List Operation :=
  (history.filter fun entry => entry.2.isOk).map Prod.fst

/-- One more operation of a history counts when it succeeded. -/
theorem succeeded_concat (history : List (Operation × Outcome Answer)) (operation : Operation)
    (answer : Outcome Answer) :
    succeeded (history ++ [(operation, answer)]) =
      succeeded history ++ if answer.isOk then [operation] else [] := by
  rw [succeeded, List.filter_append, List.map_append, ← succeeded]
  cases answer <;> rfl

/-- A run leaves the query that those of its operations leave that succeed. -/
theorem after_succeeded (store : Store) (operations : List Operation) :
    after store (succeeded (history store operations)) = after store operations := by
  -- The operations before the last one leave the same query, and the last one meets it.
  induction operations using List.reverseRecOn with
  | nil => rfl
  | append_singleton operations operation ih =>
    rw [history_concat, succeeded_concat, after_concat]
    cases answered : (step store (after store operations) operation).1 with
    | ok answer =>
      have counts : (Except.ok answer : Outcome Answer).isOk = true := rfl
      rw [if_pos counts, after_concat, ih]
    | error error =>
      have fails : ¬ (Except.error error : Outcome Answer).isOk = true := Bool.false_ne_true
      have unchanged : (step store (after store operations) operation).2 = after store operations :=
        Construction.atomic_perform store operation _ error answered
      rw [if_neg fails, List.append_nil, ih, unchanged]

end FlightQuery.Query
