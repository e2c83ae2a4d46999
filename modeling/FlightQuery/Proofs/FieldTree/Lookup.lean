import FlightQuery.FieldTree
import FlightQuery.Proofs.Dictionary

/-! What a tree gives to a query stands in the tree. -/

namespace FlightQuery

/-- The smallest of some items is one of them. -/
theorem smallest?_mem {α : Type} {size : α → Nat} {items : List α} {found : α}
    (smallest : smallest? size items = some found) : found ∈ items := by
  -- The smallest of the rest is compared with the first item.
  induction items with
  | nil => cases smallest
  | cons item items ih =>
    unfold smallest? at smallest
    split at smallest
    · cases smallest
      exact List.mem_cons_self
    · rename_i other later
      -- The first item stays unless a later one is smaller.
      split at smallest
      · cases smallest
        exact List.mem_cons_self
      · cases smallest
        exact List.mem_cons_of_mem _ (ih later)

/-- The smallest of some items exists as soon as there is one, and none of them is smaller. -/
theorem exists_smallest? {α : Type} {size : α → Nat} {items : List α} {item : α}
    (listed : item ∈ items) :
    ∃ found, smallest? size items = some found ∧ size found ≤ size item := by
  -- The induction follows the search, which compares each item with the smallest of the rest.
  induction items with
  | nil => exact nomatch listed
  | cons first items ih =>
    unfold smallest?
    cases smallest : smallest? size items with
    | none =>
      -- Nothing follows the first item.
      rcases List.mem_cons.1 listed with rfl | later
      · exact ⟨item, rfl, Nat.le_refl _⟩
      · obtain ⟨found, found_eq, _⟩ := ih later
        exact nomatch smallest.symm.trans found_eq
    | some other =>
      have below : item ∈ items → size other ≤ size item := by
        intro later
        obtain ⟨found, found_eq, least⟩ := ih later
        cases smallest.symm.trans found_eq
        exact least
      -- The first item is taken unless what follows is smaller.
      by_cases less : size first ≤ size other
      · refine ⟨first, if_pos less, ?_⟩
        rcases List.mem_cons.1 listed with rfl | later
        · exact Nat.le_refl _
        · exact Nat.le_trans less (below later)
      · refine ⟨other, if_neg less, ?_⟩
        rcases List.mem_cons.1 listed with rfl | later
        · exact Nat.le_of_not_le less
        · exact below later

/-- The shortest match is one of the items, and its name matches. -/
theorem shortestMatch?_mem {α : Type} {mode : SearchMode} {name : α → String} {keyword : String}
    {items : List α} {found : α} (shortest : shortestMatch? mode name keyword items = some found) :
    found ∈ items ∧ mode.accepts (name found) keyword :=
  List.mem_filter.1 (smallest?_mem shortest)

/-- A text occurs in itself. -/
theorem SearchMode.occursIn_self (text : List Char) : occursIn text text = true := by
  cases text with
  | nil => rfl
  | cons c rest =>
    rw [occursIn, List.isPrefixOf_iff_prefix.2 (List.prefix_refl _), Bool.true_or]

/-- A name matches itself. -/
theorem SearchMode.accepts_self (mode : SearchMode) (name : String) :
    mode.accepts name name = true := by
  -- A text contains itself and starts with itself.
  cases mode with
  | contain => exact occursIn_self _
  | start => exact List.isPrefixOf_iff_prefix.2 (List.prefix_refl _)

namespace FieldTree

variable {tree : FieldTree}

/-- A field that is found is a field of the tree. -/
theorem mem_fields_of_searchField {keyword : String} {field : Field}
    (found : tree.searchField keyword = .ok field) : field ∈ tree.fields := by
  -- The search succeeds only with the shortest match, which is taken from the fields.
  unfold searchField at found
  split at found
  · rename_i shortest
    cases found
    exact (shortestMatch?_mem shortest).1
  · cases found

/-- The key of a label is a key of the field, and the label is its own. -/
theorem find?_of_valueKey {label fieldId : String} {key : Int64}
    (found : tree.valueKey label fieldId = .ok key) :
    ∃ labels, tree.labels.find? fieldId = some labels ∧ labels.find? key = some label := by
  -- The labels of the field are known, and the first entry with the label has the key.
  unfold valueKey at found
  split at found
  · cases found
  · rename_i labels known
    split at found
    · rename_i least
      cases found
      obtain ⟨entry, first, rfl⟩ := Option.map_eq_some_iff.1 least
      refine ⟨labels, known, Dictionary.find?_eq_some_iff.2 ?_⟩
      have named : entry.2 = label := by simpa using List.find?_some first
      exact named ▸ List.mem_of_find?_eq_some first
    · cases found

end FieldTree
end FlightQuery
