import FlightQuery.Proofs.Dictionary
import FlightQuery.Proofs.Discovery.Fetching
import FlightQuery.Proofs.Session.Protocol

/-! Discoveries do not damage a tree: what is known stays known, and identifiers stay unique. -/

namespace FlightQuery

open Stateful Exploration

namespace FieldTree

/-- What is known of a tree is known of another one. -/
structure IsKnownTo (tree other : FieldTree) : Prop where
  fields : ∀ id ∈ tree.fields.map Field.id, id ∈ other.fields.map Field.id
  groups : ∀ id ∈ tree.groups.map FieldGroup.id, id ∈ other.groups.map FieldGroup.id
  labels : ∀ id, tree.hasLabels id = true → other.hasLabels id = true

/-- A tree becomes another one without damage. -/
structure Becomes (tree other : FieldTree) : Prop where
  known : tree.IsKnownTo other
  unique : tree.HasUniqueIds → other.HasUniqueIds

namespace Becomes

/-- A tree that stays as it is is not damaged. -/
theorem refl (tree : FieldTree) : tree.Becomes tree where
  known := ⟨fun _ listed => listed, fun _ listed => listed, fun _ known => known⟩
  unique := fun unique => unique

/-- Changes without damage follow one another. -/
theorem trans {tree middle other : FieldTree} (first : tree.Becomes middle)
    (second : middle.Becomes other) : tree.Becomes other where
  known := {
    fields := fun id listed => second.known.fields id (first.known.fields id listed)
    groups := fun id listed => second.known.groups id (first.known.groups id listed)
    labels := fun id known => second.known.labels id (first.known.labels id known) }
  unique unique := second.unique (first.unique unique)

/-- A listing does not damage a tree. -/
theorem grow (tree : FieldTree) (groupId : Option String) (listing : Listing) :
    tree.Becomes (tree.grow groupId listing) := by
  have ids_eq (tree : FieldTree) :
      tree.fields.map Field.id = tree.entries.map fun entry => entry.field.id := List.map_map ..
  -- Both merges keep the identifiers, and keep them unique.
  refine ⟨⟨fun id listed => ?_, fun id listed => ?_, fun id known => known⟩,
    fun unique => (unique.addFields ..).addGroups ..⟩
  · rw [ids_eq] at listed ⊢
    exact mem_map_replaceAll.2 (.inl listed)
  · exact mem_map_replaceAll.2 (.inl listed)

/-- Labels do not damage a tree. -/
theorem addLabels (tree : FieldTree) (fieldId : String) (labels : Labels) :
    tree.Becomes (tree.addLabels fieldId labels) where
  -- Fields and groups are the same, and labels are only added or replaced.
  known := {
    fields := fun id listed => listed
    groups := fun id listed => listed
    labels := fun id known => by
      unfold hasLabels Dictionary.contains at known ⊢
      rw [FieldTree.addLabels, Dictionary.find?_insert]
      split
      · rfl
      · exact known }
  unique := fun unique => ⟨unique.fields, unique.groups⟩

end Becomes
end FieldTree

namespace Exploration

variable {α β : Type}

/-- A part of a discovery never damages the tree, not even if it fails. -/
def IsSafe (part : Exploration α) : Prop :=
  ∀ before : Discovery, before.tree.Becomes (applyTo before part).2.tree

namespace IsSafe

/-- A part that leaves the discovery as it is is safe. -/
theorem pure (value : α) : IsSafe (pure value : Exploration α) := fun before => .refl before.tree

/-- To fail is safe. -/
theorem throw (error : Error) : IsSafe (throw error : Exploration α) :=
  fun before => .refl before.tree

/-- Parts that are safe follow one another. -/
theorem bind {part : Exploration α} {next : α → Exploration β} (first : IsSafe part)
    (rest : ∀ value, IsSafe (next value)) : IsSafe (part >>= next) := by
  intro before
  have became := first before
  -- If the first part fails, what it has made of the tree stays.
  rw [applyTo_bind]
  cases made : applyTo before part with
  | mk outcome middle =>
    rw [made] at became
    cases outcome with
    | error error => exact became
    | ok value => exact became.trans (rest value middle)

/-- A part that looks at the discovery first is safe if it is safe with all that it may see. -/
theorem get_bind {next : Discovery → Exploration β} (rest : ∀ seen, IsSafe (next seen)) :
    IsSafe (get >>= next) := fun before => rest before before

/-- Groups are fetched safely. -/
theorem fetchGroup (id : UInt32) (groupId : Option String) : IsSafe (fetchGroup id groupId) := by
  intro before
  obtain ⟨outcome, _, _, _, applied⟩ := exists_fetchGroup id groupId before
  rw [applied]
  -- Only a listing that came back is grown into the tree.
  cases outcome with
  | error error => exact .refl before.tree
  | ok listing => exact .grow before.tree groupId listing

/-- Labels are fetched safely. -/
theorem fetchLabels (id : UInt32) (fieldId : String) : IsSafe (fetchLabels id fieldId) := by
  intro before
  obtain ⟨outcome, _, _, _, applied⟩ := exists_fetchLabels id fieldId before
  rw [applied]
  -- Only labels that came back and could be read are added.
  cases outcome >>= labelsOf with
  | error error => exact .refl before.tree
  | ok labels => exact .addLabels before.tree fieldId labels

/-- A descent is safe. -/
theorem descend (id : UInt32) (groups : List FieldGroup) (keywords : List String) :
    IsSafe (descend id groups keywords) := by
  -- The descent ends with the keywords, and before that each one is a fetch or a failure.
  induction keywords generalizing groups with
  | nil => exact .pure ()
  | cons keyword keywords ih =>
    refine .get_bind fun seen => ?_
    split
    · exact .bind (.fetchGroup id _) ih
    · exact .throw _

/-- Paths are fetched safely. -/
theorem fetchPath (id : UInt32) (keywords : List String) : IsSafe (fetchPath id keywords) :=
  .bind (.fetchGroup id none) fun groups => .descend id groups keywords

/-- The labels of some fields are fetched safely. -/
theorem forM (id : UInt32) (fieldIds : List String) :
    IsSafe (fieldIds.forM (Exploration.fetchLabels id)) := by
  induction fieldIds with
  | nil => exact .pure ()
  | cons fieldId fieldIds ih => exact .bind (.fetchLabels id fieldId) fun _ => ih

/-- Missing labels are fetched safely. -/
theorem fetchMissingLabels (id : UInt32) : IsSafe (fetchMissingLabels id) :=
  .get_bind fun _ => .bind (.forM id _) fun _ => .pure _

end IsSafe

/-! ### Runs -/

/-- What can be done in a discovery. -/
inductive Operation where
  | group (id : UInt32) (groupId : Option String)
  | path (id : UInt32) (keywords : List String)
  | labels (id : UInt32) (fieldId : String)
  | missingLabels (id : UInt32)
  /-- The session is used for something else. -/
  | other (action : Session.Action)

/-- Perform an operation. -/
def Operation.perform : Operation → Exploration Unit
  | .group id groupId => do
    let _ ← fetchGroup id groupId
    return ()
  | .path id keywords => fetchPath id keywords
  | .labels id fieldId => fetchLabels id fieldId
  | .missingLabels id => do
    let _ ← fetchMissingLabels id
    return ()
  | .other action => call action.perform

/-- Every operation is safe. -/
theorem Operation.isSafe (operation : Operation) : IsSafe operation.perform := by
  cases operation with
  | group id groupId => exact .bind (.fetchGroup id groupId) fun _ => .pure ()
  | path id keywords => exact .fetchPath id keywords
  | labels id fieldId => exact .fetchLabels id fieldId
  | missingLabels id => exact .bind (.fetchMissingLabels id) fun _ => .pure ()
  | other action => exact fun before => .refl before.tree

end Exploration

namespace Discovery

/-- The discovery after some operations. -/
def after (discovery : Discovery) (operations : List Operation) : Discovery :=
  operations.foldl (fun discovery operation => (applyTo discovery operation.perform).2) discovery

/-- No run of operations damages a tree. -/
theorem becomes_after (discovery : Discovery) (operations : List Operation) :
    discovery.tree.Becomes (discovery.after operations).tree := by
  -- Each operation leads from one tree to the next, and the steps compose.
  induction operations generalizing discovery with
  | nil => exact .refl discovery.tree
  | cons operation operations ih => exact (operation.isSafe discovery).trans (ih _)

/-- A group that cannot be fetched leaves the tree as it is. -/
theorem tree_eq_of_fetchGroup {id : UInt32} {groupId : Option String} {discovery : Discovery}
    {error : Error} (failed : (applyTo discovery (fetchGroup id groupId)).1 = .error error) :
    (applyTo discovery (fetchGroup id groupId)).2.tree = discovery.tree := by
  -- The tree grows only when a listing is fetched.
  obtain ⟨outcome, _, _, _, applied⟩ := exists_fetchGroup id groupId discovery
  rw [applied] at failed ⊢
  cases outcome with
  | error error => rfl
  | ok listing => cases failed

/-- Labels that cannot be fetched leave the tree as it is. -/
theorem tree_eq_of_fetchLabels {id : UInt32} {fieldId : String} {discovery : Discovery}
    {error : Error} (failed : (applyTo discovery (fetchLabels id fieldId)).1 = .error error) :
    (applyTo discovery (fetchLabels id fieldId)).2.tree = discovery.tree := by
  -- The tree gets labels only when they are fetched and their keys are numbers.
  obtain ⟨outcome, _, _, _, applied⟩ := exists_fetchLabels id fieldId discovery
  rw [applied] at failed ⊢
  cases labelled : outcome >>= labelsOf with
  | error error => rfl
  | ok labels =>
    rw [labelled] at failed
    cases failed

/--
Discoveries do not damage a tree whose identifiers are unique, whatever the server replies.

After any run they are still unique, and what was known is still known.
A group or labels that cannot be fetched then leave the tree as it is.
-/
theorem tree_undamaged {discovery : Discovery} (unique : discovery.tree.HasUniqueIds)
    (operations : List Operation) :
    (discovery.after operations).tree.HasUniqueIds ∧
    discovery.tree.IsKnownTo (discovery.after operations).tree ∧
    (∀ id groupId error,
      (applyTo (discovery.after operations) (fetchGroup id groupId)).1 = .error error →
      (applyTo (discovery.after operations) (fetchGroup id groupId)).2.tree =
        (discovery.after operations).tree) ∧
    ∀ id fieldId error,
      (applyTo (discovery.after operations) (fetchLabels id fieldId)).1 = .error error →
      (applyTo (discovery.after operations) (fetchLabels id fieldId)).2.tree =
        (discovery.after operations).tree := by
  -- The run is undamaged by its steps, and each further fetch is told on its own.
  have becomes := discovery.becomes_after operations
  exact ⟨becomes.unique unique, becomes.known,
    fun _ _ _ failed => tree_eq_of_fetchGroup failed,
    fun _ _ _ failed => tree_eq_of_fetchLabels failed⟩

/-- A listing that repeats an identifier and labels without a key leave a tree undamaged. -/
theorem tree_undamaged_repeated :
    let listed (id : String) : Json := .ofTexts [("id", id), ("name", ""), ("type", "discrete")]
    let discovery : Discovery := {
      tree := {
        databaseId := "flights"
        entries := [{ field := { id := "a", name := "", type := .text }, parentId := none }]
        groups := [{ id := "g", name := "", parentId := none }]
        labels := .ofList [("a", .empty)] }
      session := .sample [
        .replying 200 (.object [("fields", .list (["b", "a", "b"].map listed))]),
        .replying 200 (.object [("discreteValues", .ofTexts [("one", "")])])] }
    let operations : List Operation := [.group 1 none, .missingLabels 1]
    discovery.tree.HasUniqueIds ∧
      (discovery.after operations).tree.fields.map Field.id = ["a", "b"] ∧
      (discovery.after operations).tree.HasUniqueIds ∧
      discovery.tree.IsKnownTo (discovery.after operations).tree := by
  intro listed discovery operations
  -- The identifiers at the start are unique by evaluation, those at the end by the theorem.
  have unique : discovery.tree.HasUniqueIds := ⟨by decide, by decide⟩
  obtain ⟨unique', known, _⟩ := tree_undamaged unique operations
  exact ⟨unique, by decide +kernel, unique', known⟩

end Discovery
end FlightQuery
