import FlightQuery.Proofs.Query.Run
import Mathlib.Data.List.Induction

/-! The columns of a query are the fields that were selected after the last load. -/

namespace FlightQuery.Query

/-- The ids of the selected fields, one for each item of a result. -/
def selectedIds (query : Query) : List String := query.querySet.select.map SelectItem.fieldId

/-- The ids of the fields by whose types results are read. -/
def columnIds (query : Query) : List String := query.columns.map Field.id

/-- The selection that comes from a load, after one more operation. -/
def noteLoaded (ids : List String) : Operation → List String
  | .reset => []
  | .load content =>
    match QuerySet.load content with
    | .ok querySet => querySet.select.map SelectItem.fieldId
    | .error _ => ids
  | _ => ids

/-- The selection of the last query set that was loaded since the last reset. -/
def loadedIds (operations : List Operation) : List String := operations.foldl noteLoaded []

/-- One more operation can change the selection that comes from a load. -/
theorem loadedIds_concat (operations : List Operation) (operation : Operation) :
    loadedIds (operations ++ [operation]) = noteLoaded (loadedIds operations) operation := by
  simp [loadedIds]

/-- The columns stand for the selected fields at the end of a selection. Those in front of them
were loaded. -/
def Follows (loaded : List String) (query : Query) : Prop :=
  ∃ kept : List String, kept.Sublist loaded ∧ query.selectedIds = kept ++ query.columnIds

variable {store : Store} {loaded : List String} {query query' : Query} {operation : Operation}
  {answer : Answer}

/-- A successful operation keeps the columns behind the loaded fields. -/
theorem Follows.step (follows : Follows loaded query)
    (succeeds : Succeeds store query operation answer query') :
    Follows (noteLoaded loaded operation) query' := by
  obtain ⟨kept, sublist, selected⟩ := follows
  cases succeeds with
  | select found =>
    -- The same fields are added at the end of both lists.
    refine ⟨kept, sublist, ?_⟩
    simp only [selectedIds, columnIds, List.map_append, List.map_map] at selected ⊢
    rw [selected, List.append_assoc]
    rfl
  | @deselect keywords fields found =>
    -- The same fields are taken out of both lists, and loaded ones too.
    let stays (id : String) : Bool := !(fields.map Field.id).contains id
    refine ⟨kept.filter stays, List.filter_sublist.trans sublist, ?_⟩
    have both := congrArg (List.filter stays) selected
    rw [List.filter_append, selectedIds, columnIds, List.filter_map, List.filter_map] at both
    exact both
  | load read =>
    -- A load selects fields and has no columns.
    refine ⟨_, .refl _, ?_⟩
    simp [noteLoaded, read, selectedIds, columnIds]
  | reset => exact ⟨[], .refl _, rfl⟩
  | _ => exact ⟨kept, sublist, selected⟩

/-- A failing operation loads nothing. -/
theorem noteLoaded_of_error {error : Error}
    (failed : attempt store query operation = .error error) :
    noteLoaded loaded operation = loaded := by
  -- Only a load is noted, and one that fails has read no query set.
  cases operation with
  | reset => exact nomatch failed
  | load content =>
    cases read : QuerySet.load content with
    | ok querySet => simp [attempt, load, read] at failed
    | error _ => simp [noteLoaded, read]
  | _ => rfl

/-- The columns follow the loaded fields after every run. -/
theorem follows_after (store : Store) (operations : List Operation) :
    Follows (loadedIds operations) (after store operations) := by
  -- The last operation is taken off, since the columns meet what all earlier ones left.
  induction operations using List.reverseRecOn with
  | nil => exact ⟨[], .refl _, rfl⟩
  | append_singleton operations operation ih =>
    rw [loadedIds_concat, after_concat]
    rcases step_cases store (after store operations) operation with
      ⟨answer, query', succeeds, step_eq⟩ | ⟨error, failed, step_eq⟩
    · rw [step_eq]
      exact ih.step succeeds
    · -- What fails changes neither the columns nor what has been loaded.
      rw [step_eq, noteLoaded_of_error failed]
      exact ih

/--
After every run the columns are the selected fields that were not loaded, in their order.

Each of them has the place of its field in the selection unless a loaded field comes before it.
-/
theorem columns_follow_loaded (store : Store) (operations : List Operation) :
    Follows (loadedIds operations) (after store operations) ∧
    (loadedIds operations = [] →
      ∀ (i : Nat) (within : i < (after store operations).columns.length),
        ∃ item, (after store operations).querySet.select[i]? = some item ∧
          item.fieldId = (after store operations).columns[i].id) := by
  refine ⟨follows_after store operations, fun unloaded i within => ?_⟩
  obtain ⟨kept, sublist, selected⟩ := follows_after store operations
  -- Nothing comes before the columns.
  rw [unloaded, List.sublist_nil] at sublist
  rw [sublist, List.nil_append, selectedIds, columnIds] at selected
  have same := congrArg (·[i]?) selected
  simpa [within] using same

/-- The text of a query set that selects the number field. -/
def numberSelected : String :=
  let item : Json := .object [("fieldId", .text "number"), ("aggregate", .text "none")]
  (Json.object [("select", .list [item])]).compact

/-- A selection that replaces a loaded one has its columns in place. -/
theorem columns_follow_loaded_reset :
    let operations : List Operation :=
      [.load numberSelected, .reset, .select ["Record", "Number"] .none, .deselect ["Record"]]
    loadedIds operations = [] ∧
      ∀ (i : Nat) (within : i < (after flightTree.toStore operations).columns.length),
        ∃ item, (after flightTree.toStore operations).querySet.select[i]? = some item ∧
          item.fieldId = (after flightTree.toStore operations).columns[i].id := by
  intro operations
  -- Nothing is loaded since the reset.
  have unloaded : loadedIds operations = [] := rfl
  exact ⟨unloaded, (columns_follow_loaded flightTree.toStore operations).2 unloaded⟩

/-- A field that is selected after a load is not in the place of its column. -/
theorem columns_misplaced :
    let query := after flightTree.toStore [.load numberSelected, .select ["Record"] .none]
    query.columnIds = ["record"] ∧ query.selectedIds = ["number", "record"] ∧
      ¬ ∀ (i : Nat) (within : i < query.columns.length),
        ∃ item, query.querySet.select[i]? = some item ∧ item.fieldId = query.columns[i].id := by
  intro query
  -- The first item was loaded and has no column, which the evaluation shows.
  have evaluated : query.columnIds = ["record"] ∧ query.selectedIds = ["number", "record"] := by
    decide +kernel
  obtain ⟨columns, selected⟩ := evaluated
  refine ⟨columns, selected, fun aligned => ?_⟩
  clear_value query
  have within : 0 < query.columns.length := by
    rw [← List.length_map Field.id, ← columnIds, columns]
    decide
  -- The first column stands for the second item.
  obtain ⟨item, first, same⟩ := aligned 0 within
  -- The identifier of the first item is both that of the loaded field and that of the column.
  have number : query.selectedIds[0]? = some item.fieldId := by simp [selectedIds, first]
  have record : query.columnIds[0]? = some item.fieldId := by simp [columnIds, within, same]
  rw [selected] at number
  rw [columns] at record
  exact absurd (number.trans record.symm) (by decide)

end FlightQuery.Query
