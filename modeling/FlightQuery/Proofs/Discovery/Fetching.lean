import FlightQuery.FieldTree.Discovery
import FlightQuery.Proofs.FieldTree.Replacement
import FlightQuery.Proofs.Session.Fetching

/-! The steps of a discovery: what a listing and what labels add to a tree. -/

namespace FlightQuery

open Stateful

/-- What a group is listed with: its fields and its groups. -/
abbrev Listing := List Exploration.ListedField × List Call.Listed

namespace Listing

/-- The listed fields whose types are known. -/
def fields (listing : Listing) : List Field :=
  listing.1.filterMap Exploration.ListedField.toField?

/-- The listed groups, which are held by the group that is listed. -/
def groups (groupId : Option String) (listing : Listing) : List FieldGroup :=
  listing.2.map (Call.Listed.toGroup groupId)

/-- The identifiers of all listed fields, also of those whose types are unknown. -/
def fieldIds (listing : Listing) : List String := listing.1.map Exploration.ListedField.id

/-- The identifiers of the listed groups. -/
def groupIds (listing : Listing) : List String := listing.2.map Call.Listed.id

/-- The listed groups keep their identifiers. -/
theorem map_id_groups (groupId : Option String) (listing : Listing) :
    (listing.groups groupId).map FieldGroup.id = listing.groupIds := by
  simp [groups, groupIds, Call.Listed.toGroup, Function.comp_def]

/-- A listed group is held by the group that is listed. -/
theorem parentId_of_mem_groups {groupId : Option String} {listing : Listing} {group : FieldGroup}
    (listed : group ∈ listing.groups groupId) : group.parentId = groupId := by
  obtain ⟨item, _, rfl⟩ := List.mem_map.1 listed
  rfl

/-- The fields of known types keep their identifiers. -/
theorem map_id_fields (listing : Listing) :
    (listing.fields.map Field.id).Sublist listing.fieldIds := by
  have known (listed : Exploration.ListedField) :
      listed.toField?.map Field.id = none ∨ listed.toField?.map Field.id = some listed.id := by
    unfold Exploration.ListedField.toField?
    cases FieldType.ofName? listed.typeName <;> simp
  -- Fields of unknown types are left out, and the others stay in their order.
  rw [fields, fieldIds, List.map_filterMap]
  induction listing.1 with
  | nil => exact .slnil
  | cons listed rest ih =>
    rw [List.filterMap_cons, List.map_cons]
    rcases known listed with unknown | same
    · simpa only [unknown] using ih.cons listed.id
    · simpa only [same] using ih.cons_cons listed.id

end Listing

namespace FieldTree

/-- A tree with what a group is listed with. -/
def grow (tree : FieldTree) (groupId : Option String) (listing : Listing) : FieldTree :=
  (tree.addFields listing.fields groupId).addGroups (listing.groups groupId)

end FieldTree

namespace Exploration

variable {α : Type}

/-- A call is made by the session. -/
@[simp] theorem applyTo_call (before : Discovery) (part : Call α) :
    applyTo before (call part) =
      ((applyTo before.session part).1,
        { before with session := (applyTo before.session part).2 }) := rfl

/-- A change of the tree does not fail. -/
@[simp] theorem applyTo_modifyTree (before : Discovery) (change : FieldTree → FieldTree) :
    applyTo before (modifyTree change) =
      (.ok (), { before with tree := change before.tree }) := rfl

/-- The segments of the addresses at which groups are listed. -/
def groupsPath (id : UInt32) (tree : FieldTree) : List String :=
  databasePath id tree.databaseId ++ ["field-groups"]

/-- The segments of the address of a field. -/
def fieldPath (id : UInt32) (tree : FieldTree) (fieldId : String) : List String :=
  databasePath id tree.databaseId ++ ["fields", fieldId]

/-- A tree grows by the listing of a group, and it stays as it is when there is none. -/
theorem exists_fetchGroup (id : UInt32) (groupId : Option String) (before : Discovery) :
    ∃ (outcome : Outcome Listing) (sent : List Exchange) (session : Session),
      Call.Fetches decodeGroup (groupsPath id before.tree) (Call.groupQuery groupId) before.session
        outcome sent session ∧
      applyTo before (fetchGroup id groupId) = match outcome with
        | .ok listing =>
          (.ok (listing.groups groupId), { tree := before.tree.grow groupId listing, session })
        | .error error => (.error error, { before with session }) := by
  -- The fetch is a call of the session, and the tree is touched only after it.
  obtain ⟨sent, fetches⟩ := Call.exists_fetches decodeGroup (groupsPath id before.tree)
    (Call.groupQuery groupId) before.session
  refine ⟨_, sent, _, fetches, ?_⟩
  simp only [fetchGroup, applyTo_bind, applyTo_get, applyTo_call, groupsPath]
  cases (applyTo before.session (Call.fetch decodeGroup _ _)).1 <;> rfl

/-- A tree gets the labels of a field, and it stays as it is when there are none. -/
theorem exists_fetchLabels (id : UInt32) (fieldId : String) (before : Discovery) :
    ∃ (outcome : Outcome (Dictionary String String)) (sent : List Exchange) (session : Session),
      Call.Fetches decodeLabels (fieldPath id before.tree fieldId) [] before.session
        outcome sent session ∧
      applyTo before (fetchLabels id fieldId) = match outcome >>= labelsOf with
        | .ok labels => (.ok (), { tree := before.tree.addLabels fieldId labels, session })
        | .error error => (.error error, { before with session }) := by
  -- Two things can fail here, the fetch and the reading of its keys as numbers.
  obtain ⟨sent, fetches⟩ := Call.exists_fetches decodeLabels (fieldPath id before.tree fieldId) []
    before.session
  refine ⟨_, sent, _, fetches, ?_⟩
  simp only [fetchLabels, applyTo_bind, applyTo_get, applyTo_call, Call.applyTo_ofOutcome,
    fieldPath]
  -- A reply that is fetched may still have labels whose keys are no numbers.
  cases (applyTo before.session (Call.fetch decodeLabels _ _)).1 with
  | error error => rfl
  | ok texts =>
    simp only [Outcome.ok_bind]
    cases labelsOf texts <;> rfl

end Exploration
end FlightQuery
