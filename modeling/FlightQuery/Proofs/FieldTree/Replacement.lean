import FlightQuery.FieldTree
import Mathlib.Data.List.Dedup

/-! Merging: items that are added stand in place of those with their identifiers. -/

namespace FlightQuery.FieldTree

variable {α : Type} {id : α → String} {items added : List α} {item : α}

/-- The last item of each identifier, in the order in which these items stand. -/
def lastOfEach (id : α → String) : List α → List α
  | [] => []
  | item :: rest =>
    if id item ∈ rest.map id then lastOfEach id rest else item :: lastOfEach id rest

/-- Every identifier stands once among the last items, in the order of the last occurrences. -/
theorem map_lastOfEach (id : α → String) (items : List α) :
    (lastOfEach id items).map id = (items.map id).dedup := by
  -- The induction follows the list, and a head stays exactly when its identifier does not come
  -- again.
  induction items with
  | nil => rfl
  | cons item rest ih =>
    rw [lastOfEach, List.map_cons]
    split
    · rename_i later
      rw [List.dedup_cons_of_mem later, ih]
    · rename_i last
      rw [List.dedup_cons_of_notMem last, List.map_cons, ih]

/-- Items with distinct identifiers are all last. -/
theorem lastOfEach_eq_self (distinct : (items.map id).Nodup) : lastOfEach id items = items := by
  induction items with
  | nil => rfl
  | cons item rest ih =>
    obtain ⟨alone, distinct⟩ := List.nodup_cons.1 distinct
    -- The identifier comes up nowhere further on, so its item is the last of it.
    rw [lastOfEach, if_neg alone, ih distinct]

/-- The last items of a list that is made of another one are made of the last items there. -/
theorem lastOfEach_map {β : Type} (make : β → α) (parts : List β) :
    lastOfEach id (parts.map make) = (lastOfEach (fun part => id (make part)) parts).map make := by
  -- The identifiers are the same on both sides, so that the same parts are left out.
  induction parts with
  | nil => rfl
  | cons part rest ih =>
    have ids_eq : (rest.map make).map id = rest.map fun part => id (make part) := List.map_map ..
    rw [List.map_cons, lastOfEach, lastOfEach, ids_eq, ih]
    split
    · rfl
    · rw [List.map_cons]

/-- A merge keeps the items whose identifiers are not added, and the last added item of each
identifier follows them. -/
theorem replaceAll_eq (id : α → String) (items added : List α) : replaceAll id items added =
    items.filter (fun item => id item ∉ added.map id) ++ lastOfEach id added := by
  -- The induction is on what is added, and the items in front of it vary.
  induction added generalizing items with
  | nil => simp [replaceAll, lastOfEach]
  | cons item rest ih =>
    have step : replaceAll id items (item :: rest) = replaceAll id (replace id items item) rest :=
      rfl
    -- What the first item and the others replace can be left out in one go.
    have kept : items.filter (fun other => id other ∉ (item :: rest).map id) =
        (items.filter fun other => id other != id item).filter
          fun other => id other ∉ rest.map id := by
      rw [List.filter_filter]
      refine List.filter_congr fun other _ => ?_
      rw [Bool.eq_iff_iff, Bool.and_eq_true, decide_eq_true_iff, decide_eq_true_iff, bne_iff_ne,
        List.map_cons, List.mem_cons, not_or, and_comm]
    rw [step, ih, replace, List.filter_append, kept, List.append_assoc, lastOfEach]
    -- The item stays only if none of the others has its identifier.
    by_cases later : id item ∈ rest.map id
    · simp only [List.filter_cons, List.filter_nil, later, not_true_eq_false, decide_false,
        Bool.false_eq_true, if_false, if_true, List.nil_append]
    · simp only [List.filter_cons, List.filter_nil, later, not_false_eq_true, decide_true, if_true,
        if_false, List.singleton_append]

/-- A merge has the identifiers of all items. -/
theorem mem_map_replaceAll {key : String} :
    key ∈ (replaceAll id items added).map id ↔ key ∈ items.map id ∨ key ∈ added.map id := by
  -- All identifiers that are added stand among the last items.
  rw [replaceAll_eq, List.map_append, List.mem_append, map_lastOfEach, List.mem_dedup]
  by_cases again : key ∈ added.map id
  · simp only [again, or_true]
  · -- An item whose identifier is not added stays.
    refine or_congr_left ⟨fun kept => (List.filter_sublist.map id).subset kept, fun listed => ?_⟩
    obtain ⟨item, inside, rfl⟩ := List.mem_map.1 listed
    exact List.mem_map_of_mem (List.mem_filter.2 ⟨inside, decide_eq_true again⟩)

/-- A merge leaves identifiers unique. -/
theorem nodup_map_replaceAll (unique : (items.map id).Nodup) :
    ((replaceAll id items added).map id).Nodup := by
  -- Both parts have unique identifiers, and those of the second part are not kept in the first one.
  rw [replaceAll_eq, List.map_append, map_lastOfEach]
  refine List.nodup_append.2 ⟨unique.sublist (List.filter_sublist.map id), List.nodup_dedup _, ?_⟩
  rintro key kept _ again rfl
  obtain ⟨item, listed, rfl⟩ := List.mem_map.1 kept
  exact of_decide_eq_true (List.mem_filter.1 listed).2 (List.mem_dedup.1 again)

/-- When the items that are added have distinct identifiers, all of them stand in the merge, and
the others stay unless one of them has their identifier. -/
theorem mem_replaceAll (distinct : (added.map id).Nodup) :
    item ∈ replaceAll id items added ↔ item ∈ added ∨ item ∈ items ∧ id item ∉ added.map id := by
  rw [replaceAll_eq, lastOfEach_eq_self distinct, List.mem_append, List.mem_filter,
    decide_eq_true_eq, or_comm]

/-- The same items once more change nothing. -/
theorem replaceAll_replaceAll (id : α → String) (items added : List α) :
    replaceAll id (replaceAll id items added) added = replaceAll id items added := by
  -- The last items are taken out and put back, and the others stay.
  have replaced : (lastOfEach id added).filter (fun item => id item ∉ added.map id) = [] := by
    refine List.filter_eq_nil_iff.2 fun item listed => ?_
    have again : id item ∈ added.map id :=
      List.mem_dedup.1 (map_lastOfEach id added ▸ List.mem_map_of_mem listed)
    simpa using again
  rw [replaceAll_eq id (replaceAll id items added), replaceAll_eq, List.filter_append, replaced,
    List.filter_filter, List.append_nil]
  simp only [Bool.and_self]

/-! ### Fields and groups -/

/-- No two fields, and no two groups, of a tree have the same identifier. -/
structure HasUniqueIds (tree : FieldTree) : Prop where
  fields : (tree.fields.map Field.id).Nodup
  groups : (tree.groups.map FieldGroup.id).Nodup

/-- Added fields leave identifiers unique. -/
theorem HasUniqueIds.addFields {tree : FieldTree} (unique : tree.HasUniqueIds)
    (fields : List Field) (parentId : Option String) :
    (tree.addFields fields parentId).HasUniqueIds where
  fields := by
    -- The identifier of an entry is that of its field.
    have ids_eq (tree : FieldTree) :
        tree.fields.map Field.id = tree.entries.map fun entry => entry.field.id := List.map_map ..
    have entries := unique.fields
    rw [ids_eq] at entries ⊢
    exact nodup_map_replaceAll entries
  groups := unique.groups

/-- Added groups leave identifiers unique. -/
theorem HasUniqueIds.addGroups {tree : FieldTree} (unique : tree.HasUniqueIds)
    (groups : List FieldGroup) : (tree.addGroups groups).HasUniqueIds where
  fields := unique.fields
  groups := nodup_map_replaceAll unique.groups

/-- Fields that are added follow the entries of other fields, the last one of each identifier. -/
theorem addFields_eq (tree : FieldTree) (fields : List Field) (parentId : Option String) :
    tree.addFields fields parentId = { tree with
      entries := tree.entries.filter (fun entry => entry.field.id ∉ fields.map Field.id) ++
        (lastOfEach Field.id fields).map fun field => { field, parentId } } := by
  -- The parent of the added entries does not matter to which of them are last.
  have ids_eq : (fields.map fun field => ({ field, parentId } : FieldEntry)).map
      (fun entry => entry.field.id) = fields.map Field.id := List.map_map ..
  rw [addFields, replaceAll_eq, lastOfEach_map]
  simp only [ids_eq]

/--
Adding fields or groups is a merge in which the last item of each identifier wins.

What is known under other identifiers stays in front, in its order and below its parents.
The last added item of each identifier follows, in the order of these items.
So the same items once more change nothing, and unique identifiers stay unique.
-/
theorem add_lastWins (tree : FieldTree) (fields : List Field) (parentId : Option String)
    (groups : List FieldGroup) :
    (tree.addFields fields parentId = { tree with
      entries := tree.entries.filter (fun entry => entry.field.id ∉ fields.map Field.id) ++
        (lastOfEach Field.id fields).map fun field => { field, parentId } }) ∧
    (tree.addGroups groups = { tree with
      groups := tree.groups.filter (fun group => group.id ∉ groups.map FieldGroup.id) ++
        lastOfEach FieldGroup.id groups }) ∧
    (tree.addFields fields parentId).addFields fields parentId = tree.addFields fields parentId ∧
    (tree.addGroups groups).addGroups groups = tree.addGroups groups ∧
    (tree.HasUniqueIds → (tree.addFields fields parentId).HasUniqueIds ∧
      (tree.addGroups groups).HasUniqueIds) := by
  -- Both merges replace all items at once, and replacing once more finds nothing new.
  refine ⟨addFields_eq tree fields parentId, ?_, ?_, ?_, ?_⟩
  · rw [addGroups, replaceAll_eq]
  · simp only [addFields, replaceAll_replaceAll]
  · simp only [addGroups, replaceAll_replaceAll]
  · exact fun unique => ⟨unique.addFields fields parentId, unique.addGroups groups⟩

/-- A field that is added twice stands where it was added last, as it was added last. -/
theorem add_lastWins_repeated :
    let field (id name : String) : Field := { id, name, type := .number }
    let tree : FieldTree := {
      databaseId := "flights"
      entries := [⟨field "a" "Altitude", none⟩, ⟨field "b" "Bank Angle", some "info"⟩] }
    let fields := [field "a" "Airspeed", field "c" "Climb Rate", field "a" "Altitude (Feet)"]
    tree.HasUniqueIds ∧ (tree.addFields fields (some "flight")).HasUniqueIds ∧
      (tree.addFields fields (some "flight")).entries = [⟨field "b" "Bank Angle", some "info"⟩,
        ⟨field "c" "Climb Rate", some "flight"⟩, ⟨field "a" "Altitude (Feet)", some "flight"⟩] := by
  intro field tree fields
  -- The merge is the equation of the theorem, which is evaluated for these fields.
  have unique : tree.HasUniqueIds := ⟨by decide, by decide⟩
  obtain ⟨merged, _, _, _, keeps⟩ := add_lastWins tree fields (some "flight") []
  exact ⟨unique, (keeps unique).1, (congrArg FieldTree.entries merged).trans (by decide)⟩

end FlightQuery.FieldTree
