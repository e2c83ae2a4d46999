import FlightQuery.Proofs.Discovery.Path
import FlightQuery.Proofs.Discovery.Preservation

/-! Discoveries go on with a tree: all of it is still there when a path and labels are fetched. -/

namespace FlightQuery

open Stateful Exploration

namespace FieldTree

/-- A tree is part of another one of the same database, which may know more fields, groups and
labels. -/
structure IsPartOf (tree other : FieldTree) : Prop where
  database_eq : other.databaseId = tree.databaseId
  known : tree.IsKnownTo other
  labels : ∀ fieldId labels, tree.labels.find? fieldId = some labels →
    other.labels.find? fieldId = some labels

/-- A part of a part is a part of the whole. -/
theorem IsPartOf.trans {tree middle other : FieldTree} (first : tree.IsPartOf middle)
    (second : middle.IsPartOf other) : tree.IsPartOf other where
  -- What is known and which labels a field has pass through the tree in the middle.
  database_eq := second.database_eq.trans first.database_eq
  known := {
    fields := fun id listed => second.known.fields id (first.known.fields id listed)
    groups := fun id listed => second.known.groups id (first.known.groups id listed)
    labels := fun id known => second.known.labels id (first.known.labels id known) }
  labels := fun fieldId labels found =>
    second.labels fieldId labels (first.labels fieldId labels found)

/-- Visits change neither the database nor the labels. -/
theorem growAll_labels (tree : FieldTree) (visits : List Visit) :
    (tree.growAll visits).databaseId = tree.databaseId ∧
      (tree.growAll visits).labels = tree.labels := by
  induction visits generalizing tree with
  | nil => exact ⟨rfl, rfl⟩
  | cons visit visits ih => exact ih (tree.grow visit.groupId visit.listing)

end FieldTree

namespace Discovery

/-- A tree is part of the one that it becomes when a path is fetched. -/
theorem isPartOf_of_fetchPath {id : UInt32} {keywords : List String} {before after : Discovery}
    (fetched : applyTo before (fetchPath id keywords) = (.ok (), after)) :
    before.tree.IsPartOf after.tree := by
  -- No identifier is lost, and nothing that is visited touches the labels.
  have safe := IsSafe.fetchPath id keywords before
  rw [fetched] at safe
  obtain ⟨root, tree, later, _, grown, _, tree_eq, _⟩ := follows_of_fetchPath fetched
  obtain ⟨database_eq, labels_eq⟩ := tree.growAll_labels later
  rw [← tree_eq] at database_eq labels_eq
  refine ⟨by rw [database_eq, grown]; rfl, safe.known, fun fieldId labels found => ?_⟩
  rw [labels_eq, grown]
  exact found

/-- When the labels of some fields are fetched, those of all other fields stay, and nothing but
labels changes. -/
theorem tree_eq_of_forM (id : UInt32) (fieldIds : List String) (before : Discovery) :
    let after := (applyTo before (fieldIds.forM (fetchLabels id))).2
    after.tree = { before.tree with labels := after.tree.labels } ∧
      ∀ fieldId ∉ fieldIds, after.tree.labels.find? fieldId = before.tree.labels.find? fieldId := by
  -- The induction is on the fields: the fetch breaks off at the first one, or it goes on behind it.
  induction fieldIds generalizing before with
  | nil => exact ⟨rfl, fun _ _ => rfl⟩
  | cons fieldId fieldIds ih =>
    obtain ⟨outcome, _, session, _, applied⟩ := exists_fetchLabels id fieldId before
    have step : (fieldId :: fieldIds).forM (fetchLabels id) =
        fetchLabels id fieldId >>= fun _ => fieldIds.forM (fetchLabels id) := rfl
    rw [step, applyTo_bind, applied]
    cases outcome >>= labelsOf with
    -- The fetch breaks off, and nothing has been stored.
    | error error => exact ⟨rfl, fun _ _ => rfl⟩
    | ok labels =>
      obtain ⟨tree_eq, kept⟩ := ih { tree := before.tree.addLabels fieldId labels, session }
      -- A field that is not listed is neither the first one nor a later one.
      refine ⟨tree_eq, fun other unlisted => ?_⟩
      rw [List.mem_cons, not_or] at unlisted
      rw [kept other unlisted.2]
      exact (Dictionary.find?_insert ..).trans (if_neg unlisted.1)

/-- Fields that have labels do not miss them. -/
theorem not_mem_missingLabels {tree : FieldTree} {fieldId : String} {labels : Labels}
    (found : tree.labels.find? fieldId = some labels) : fieldId ∉ missingLabels tree := by
  -- A field counts as missing only while the tree knows no labels of it.
  intro missing
  obtain ⟨field, listed, rfl⟩ := List.mem_map.1 missing
  have unlabelled := (List.mem_filter.1 listed).2
  simp [FieldTree.hasLabels, Dictionary.contains, found] at unlabelled

/-- A tree is part of the one that it becomes when missing labels are fetched. -/
theorem isPartOf_of_fetchMissingLabels {id : UInt32} {count : Nat} {before after : Discovery}
    (fetched : applyTo before (fetchMissingLabels id) = (.ok count, after)) :
    before.tree.IsPartOf after.tree := by
  have safe := IsSafe.fetchMissingLabels id before
  rw [fetched] at safe
  obtain ⟨_, middle, looked, rest⟩ := applyTo_bind_eq_ok_iff.1 fetched
  cases looked
  obtain ⟨_, last, labelled, told⟩ := applyTo_bind_eq_ok_iff.1 rest
  cases told
  -- Only labels that are missing are fetched, and those that are known are not among them.
  obtain ⟨tree_eq, kept⟩ := tree_eq_of_forM id (missingLabels before.tree) before
  rw [labelled] at tree_eq kept
  refine ⟨by rw [tree_eq], safe.known, fun fieldId labels found => ?_⟩
  rw [kept fieldId (not_mem_missingLabels found), found]

end Discovery
end FlightQuery
