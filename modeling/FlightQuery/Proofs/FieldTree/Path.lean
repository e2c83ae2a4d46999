import FlightQuery.Proofs.Search

/-! Paths: a field is found behind the groups that lead to it. -/

namespace FlightQuery.FieldTree

variable {tree : FieldTree} {keywords : List String} {keyword : String}

/-- An item with some parent is held by a group. Without a group it may have any parent. -/
def IsHeldBy (holder parentId : Option String) : Prop := ∀ id ∈ holder, parentId = some id

/-- Groups lead from a group, or from anywhere, to a parent. There is one for each keyword, and
each is held by the one before it. -/
inductive Leads (tree : FieldTree) : (holder : Option String) → (keywords : List String) →
    (parentId : Option String) → Prop
  | here {holder parentId : Option String} (held : IsHeldBy holder parentId) :
      Leads tree holder [] parentId
  | through {holder parentId : Option String} {keyword : String} {keywords : List String}
      {group : FieldGroup} (known : group ∈ tree.groups) (held : IsHeldBy holder group.parentId)
      (accepted : tree.searchMode.accepts group.name keyword = true)
      (rest : Leads tree (some group.id) keywords parentId) :
      Leads tree holder (keyword :: keywords) parentId

/-! ### The descent through the groups -/

/-- A group that a descent goes on from is one of those that it has reached. It starts anywhere. -/
inductive GoesOnFrom : (parents : Option (List String)) → (holder : Option String) → Prop
  | anywhere : GoesOnFrom none none
  | group {ids : List String} {id : String} (reached : id ∈ ids) : GoesOnFrom (some ids) (some id)

/-- What is below the groups that are reached is held by one of them. -/
theorem isBelow_iff {parents : Option (List String)} {parentId : Option String} :
    isBelow parents parentId = true ↔ ∃ holder, GoesOnFrom parents holder ∧
      IsHeldBy holder parentId := by
  -- At the start there are no groups yet, and everything counts as below them.
  constructor
  · intro below
    cases parents with
    | none => exact ⟨none, .anywhere, nofun⟩
    | some ids =>
      cases parentId with
      | none => cases below
      | some id => exact ⟨some id, .group (List.contains_iff_mem.1 below), fun _ same => same⟩
  · rintro ⟨_, _ | reached, held⟩
    · rfl
    · rw [held _ rfl]
      exact List.contains_iff_mem.2 reached

/-- A descent ends above all that its groups lead to, and above nothing else. -/
theorem isBelow_descend_iff {parents : Option (List String)} {parentId : Option String} :
    isBelow (tree.descend parents keywords) parentId = true ↔
      ∃ holder, GoesOnFrom parents holder ∧ tree.Leads holder keywords parentId := by
  -- The induction is on the keywords, each of which replaces the groups that are reached.
  induction keywords generalizing parents with
  | nil =>
    rw [descend, isBelow_iff]
    constructor
    · rintro ⟨holder, goesOn, held⟩
      exact ⟨holder, goesOn, .here held⟩
    · rintro ⟨holder, goesOn, ⟨held⟩⟩
      exact ⟨holder, goesOn, held⟩
  | cons keyword keywords ih =>
    rw [descend, ih]
    constructor
    · -- A group that is selected leads on from its holder to what is below it.
      rintro ⟨_, goesOn, rest⟩
      cases goesOn with
      | group reached =>
        obtain ⟨group, selected, rfl⟩ := List.mem_map.1 reached
        obtain ⟨known, both⟩ := List.mem_filter.1 selected
        obtain ⟨below, accepted⟩ := Bool.and_eq_true_iff.1 both
        obtain ⟨holder, goesOn, held⟩ := isBelow_iff.1 below
        exact ⟨holder, goesOn, .through known held accepted rest⟩
    · -- A group on the way is below its holder and accepted, so that it is selected.
      rintro ⟨holder, goesOn, leads⟩
      cases leads with
      | @through _ _ _ _ group known held accepted rest =>
        have below := isBelow_iff.2 ⟨holder, goesOn, held⟩
        have selected : group ∈ tree.groups.filter fun group =>
            isBelow parents group.parentId && tree.searchMode.accepts group.name keyword :=
          List.mem_filter.2 ⟨known, Bool.and_eq_true_iff.2 ⟨below, accepted⟩⟩
        exact ⟨some group.id, .group (List.mem_map_of_mem selected), rest⟩

/-! ### The fields behind the groups -/

/-- A path reaches a field that its last keyword matches, below groups that its other keywords
lead to. -/
structure Reaches (tree : FieldTree) (keywords : List String) (keyword : String)
    (entry : FieldEntry) : Prop where
  leads : tree.Leads none keywords entry.parentId
  accepted : tree.searchMode.accepts entry.field.name keyword = true

/-- Whether a path reaches a field is told by the groups at the end of the descent. -/
theorem reaches_iff {entry : FieldEntry} : tree.Reaches keywords keyword entry ↔
    (tree.searchMode.accepts entry.field.name keyword &&
      isBelow (tree.descend none keywords) entry.parentId) = true := by
  rw [Bool.and_eq_true, isBelow_descend_iff]
  -- The descent starts anywhere, so that the holder at its start is none.
  constructor
  · rintro ⟨leads, accepted⟩
    exact ⟨accepted, none, .anywhere, leads⟩
  · rintro ⟨accepted, _, ⟨⟩, leads⟩
    exact ⟨leads, accepted⟩

instance : DecidablePred (tree.Reaches keywords keyword) := fun _ =>
  decidable_of_iff _ reaches_iff.symm

/-- The number of characters in the name of a field. -/
def nameLength (entry : FieldEntry) : Nat := entry.field.name.length

/-- A path finds the smallest of the fields that it reaches. -/
theorem searchPath_concat (tree : FieldTree) (keywords : List String) (keyword : String) :
    tree.searchPath (keywords ++ [keyword]) =
      match smallest? nameLength
        (tree.entries.filter fun entry => tree.Reaches keywords keyword entry) with
      | some entry => .ok entry.field
      | none => .error (.unknownField (" / ".intercalate (keywords ++ [keyword]))) := by
  -- The last keyword is split off, and the groups come from those before it.
  rw [searchPath, List.getLast?_concat]
  simp only [List.dropLast_concat, shortestMatch?, List.filter_map, List.filter_filter,
    smallest?_map, Function.comp_def, reaches_iff, Bool.decide_eq_true]
  -- The lengths are measured on entries here and on fields there.
  have size_eq : (fun entry : FieldEntry => entry.field.name.length) = nameLength := rfl
  rw [size_eq]
  generalize smallest? nameLength _ = found
  cases found <;> rfl

/-- A path finds the first of the shortest names among the fields that it reaches. -/
theorem searchPath_eq_ok_iff {field : Field} :
    tree.searchPath (keywords ++ [keyword]) = .ok field ↔
      ∃ entry, IsForemost (tree.Reaches keywords keyword) nameLength tree.entries entry ∧
        entry.field = field := by
  -- A search finds what is smallest, and the smallest of the reached ones is the foremost.
  rw [searchPath_concat]
  simp only [← smallest?_filter_eq_some_iff]
  split
  · rename_i entry smallest
    simp [smallest]
  · rename_i none
    simp [none]

/-- A path fails exactly when it reaches no field, and the error tells the path. -/
theorem searchPath_eq_error_iff {error : Error} :
    tree.searchPath (keywords ++ [keyword]) = .error error ↔
      error = .unknownField (" / ".intercalate (keywords ++ [keyword])) ∧
        ∀ entry ∈ tree.entries, ¬ tree.Reaches keywords keyword entry := by
  -- No entry is smallest exactly when no entry is left, and what is left are the reached ones.
  have unreached : smallest? nameLength
      (tree.entries.filter fun entry => tree.Reaches keywords keyword entry) = none ↔
      ∀ entry ∈ tree.entries, ¬ tree.Reaches keywords keyword entry := smallest?_filter_eq_none_iff
  rw [searchPath_concat, ← unreached]
  split
  · rename_i entry smallest
    simp [smallest]
  · rename_i none
    simp [none, eq_comm]

/-- A path finds a field that matches, with a name that is not longer than that of any matching
field its groups lead to. -/
theorem exists_searchPath {entry : FieldEntry} {keywords : List String} {keyword : String}
    (listed : entry ∈ tree.entries) (leads : tree.Leads none keywords entry.parentId)
    (accepted : tree.searchMode.accepts entry.field.name keyword = true) :
    ∃ found, tree.searchPath (keywords ++ [keyword]) = .ok found ∧
      tree.searchMode.accepts found.name keyword = true ∧
      found.name.length ≤ entry.field.name.length := by
  -- The entry is reached, so that the search does not fail, and what it finds is no longer.
  have reached : tree.Reaches keywords keyword entry := ⟨leads, accepted⟩
  cases search : tree.searchPath (keywords ++ [keyword]) with
  | error error => exact absurd reached ((searchPath_eq_error_iff.1 search).2 entry listed)
  | ok found =>
    obtain ⟨first, foremost, rfl⟩ := searchPath_eq_ok_iff.1 search
    exact ⟨first.field, rfl, foremost.holds.accepted, foremost.le listed reached⟩

/-- A path of one keyword is a search in all of the tree. -/
theorem searchPath_singleton (tree : FieldTree) (keyword : String) :
    tree.searchPath [keyword] = tree.searchField keyword := by
  -- With no group to descend into, every entry counts as lying below the start.
  have all : (tree.entries.filter fun entry => isBelow none entry.parentId) = tree.entries :=
    List.filter_eq_self.2 fun _ _ => rfl
  simp only [searchPath, searchField, fields, List.getLast?_singleton, List.dropLast_singleton,
    descend, all, String.intercalate_singleton]

/--
A path finds a field that it reaches through its groups, and of these the first one with the
shortest name. It fails exactly when it reaches none.

A path of one keyword is a search in all of the tree, and an empty path denotes no field.
-/
theorem searchPath_foremost (tree : FieldTree) (keywords : List String) (keyword : String) :
    (∀ field, tree.searchPath (keywords ++ [keyword]) = .ok field ↔
      ∃ entry, IsForemost (tree.Reaches keywords keyword) nameLength tree.entries entry ∧
        entry.field = field) ∧
    (∀ error, tree.searchPath (keywords ++ [keyword]) = .error error ↔
      error = .unknownField (" / ".intercalate (keywords ++ [keyword])) ∧
        ∀ entry ∈ tree.entries, ¬ tree.Reaches keywords keyword entry) ∧
    tree.searchPath [] = .error (.parameter .emptyPath) ∧
    tree.searchPath [keyword] = tree.searchField keyword :=
  -- Each part is a law of the search, and the empty path fails by its definition.
  ⟨fun _ => searchPath_eq_ok_iff, fun _ => searchPath_eq_error_iff, rfl,
    searchPath_singleton tree keyword⟩

end FlightQuery.FieldTree
