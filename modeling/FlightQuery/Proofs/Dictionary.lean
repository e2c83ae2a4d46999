import FlightQuery.Dictionary
import Mathlib.Data.List.Induction

/-! A dictionary finds exactly its entries, and is made again of them. -/

namespace FlightQuery.Dictionary

variable {κ α : Type} [Ord κ]

section Search

variable [DecidableEq κ]

/-- Among entries whose keys ascend, each entry is the first one of its key. -/
theorem lookup_of_mem [Std.ReflOrd κ] {entries : List (κ × α)} {key : κ} {value : α}
    (ascending : entries.Pairwise fun first second => compare first.1 second.1 = .lt)
    (listed : (key, value) ∈ entries) : entries.lookup key = some value := by
  -- The search stops at the entry unless it stops at an earlier one of the same key.
  induction entries with
  | nil => exact nomatch listed
  | cons head rest ih =>
    obtain ⟨above, tail⟩ := List.pairwise_cons.1 ascending
    rcases List.mem_cons.1 listed with rfl | later
    · exact List.lookup_cons_self
    · -- The head has a lesser key, so that the search passes it by.
      have other : (key == head.1) = false := by
        rw [beq_eq_false_iff_ne]
        rintro rfl
        exact nomatch (above _ later).symm.trans Std.ReflCmp.compare_self
      rw [List.lookup_cons, other]
      exact ih tail later

/-- A key has a value exactly when both are an entry. -/
theorem find?_eq_some_iff [Std.ReflOrd κ] {dictionary : Dictionary κ α} {key : κ} {value : α} :
    dictionary.find? key = some value ↔ (key, value) ∈ dictionary.entries := by
  constructor
  · intro found
    -- A search that succeeds has passed some entries and stopped at one of the key.
    obtain ⟨before, behind, entries_eq, _⟩ := List.lookup_eq_some_iff.1 found
    rw [entries_eq]
    exact List.mem_append_right before List.mem_cons_self
  · exact lookup_of_mem dictionary.ascending

omit [Ord κ] in
/-- A search looks at the first entry, and then at the others. -/
theorem lookup_cons_eq_ite (head : κ × α) (rest : List (κ × α)) (key : κ) :
    (head :: rest).lookup key = if key = head.1 then some head.2 else rest.lookup key := by
  rw [List.lookup_cons]
  by_cases same : key = head.1
  · simp [same]
  · rw [beq_false_of_ne same, if_neg same]

/-- An entry that is put among others is found by its key, and the others as before. -/
theorem lookup_insertEntry [Std.LawfulEqOrd κ] {entries : List (κ × α)} {key other : κ}
    {value : α} :
    (insertEntry key value entries).lookup other =
      if other = key then some value else entries.lookup other := by
  induction entries with
  | nil => exact lookup_cons_eq_ite (key, value) [] other
  | cons head rest ih =>
    unfold insertEntry
    split
    · exact lookup_cons_eq_ite (key, value) (head :: rest) other
    · rename_i equal
      -- The head has the same key, and it is replaced.
      obtain rfl := Std.LawfulEqCmp.eq_of_compare equal
      rw [lookup_cons_eq_ite, lookup_cons_eq_ite]
      split <;> rfl
    · -- The entry goes behind the head, whose key is not the one that is inserted.
      rename_i behind
      have apart : head.1 ≠ key := by
        rintro rfl
        exact nomatch behind.symm.trans Std.ReflCmp.compare_self
      rw [lookup_cons_eq_ite, ih, lookup_cons_eq_ite]
      by_cases same : other = head.1
      · rw [if_pos same, if_pos same, if_neg (same ▸ apart)]
      · rw [if_neg same, if_neg same]

/-- An insertion changes the value of its key, and of no other. -/
theorem find?_insert [Std.TransOrd κ] [Std.LawfulEqOrd κ] (dictionary : Dictionary κ α)
    (key other : κ) (value : α) :
    (dictionary.insert key value).find? other =
      if other = key then some value else dictionary.find? other :=
  lookup_insertEntry

omit [Ord κ] in
/-- Among the entries whose keys are kept, those are found that were found before. -/
theorem lookup_filter (keep : κ → Bool) (entries : List (κ × α)) (key : κ) :
    (entries.filter fun entry => keep entry.1).lookup key =
      if keep key then entries.lookup key else none := by
  induction entries with
  | nil => simp
  | cons head rest ih =>
    rw [List.filter_cons, lookup_cons_eq_ite head rest]
    by_cases same : key = head.1
    · subst same
      by_cases kept : keep head.1 = true
      · rw [if_pos kept, if_pos kept, lookup_cons_eq_ite, if_pos rfl, if_pos rfl]
      · rw [if_neg kept, if_neg kept, ih, if_neg kept]
    · -- The search passes the head by, whether it is kept or not.
      rw [if_neg same, ← ih]
      split
      · rw [lookup_cons_eq_ite, if_neg same]
      · rfl

/-- A filter leaves the values of the keys that it keeps, and no others. -/
theorem find?_filter (keep : κ → Bool) (dictionary : Dictionary κ α) (key : κ) :
    (dictionary.filter keep).find? key = if keep key then dictionary.find? key else none :=
  lookup_filter keep dictionary.entries key

/-- A key that is erased has no value any more, and the others keep theirs. -/
theorem find?_erase (dictionary : Dictionary κ α) (key other : κ) :
    (dictionary.erase key).find? other = if other = key then none else dictionary.find? other := by
  rw [erase, find?_filter]
  by_cases same : other = key <;> simp [same]

/-- A key has a value exactly when it is one of the keys. -/
theorem isSome_find?_iff [Std.ReflOrd κ] {dictionary : Dictionary κ α} {key : κ} :
    (dictionary.find? key).isSome = true ↔ key ∈ dictionary.entries.map Prod.fst := by
  simp only [Option.isSome_iff_exists, find?_eq_some_iff, List.mem_map, Prod.exists,
    exists_and_right, exists_eq_right]

end Search

/-- No key stands twice. -/
theorem nodup_keys [Std.ReflOrd κ] (dictionary : Dictionary κ α) :
    (dictionary.entries.map Prod.fst).Nodup := by
  -- The keys ascend, and no key is less than itself.
  refine List.Pairwise.map _ (fun first second less => ?_) dictionary.ascending
  rintro same
  rw [same] at less
  exact nomatch less.symm.trans Std.ReflCmp.compare_self

/-- An entry is put behind others whose keys are all less than its own. -/
theorem insertEntry_of_above [Std.OrientedOrd κ] {entries : List (κ × α)} {key : κ} {value : α}
    (above : ∀ entry ∈ entries, compare entry.1 key = .lt) :
    insertEntry key value entries = entries ++ [(key, value)] := by
  -- Each head is less than the key, so that the insertion goes on to the end.
  induction entries with
  | nil => rfl
  | cons head rest ih =>
    obtain ⟨below, others⟩ := List.forall_mem_cons.1 above
    rw [insertEntry, Std.OrientedCmp.gt_of_lt below, ih others]
    rfl

/-- Entries whose keys ascend are those of the dictionary that is made of them. -/
theorem entries_ofList [Std.TransOrd κ] [Std.LawfulEqOrd κ] {entries : List (κ × α)}
    (ascending : entries.Pairwise fun first second => compare first.1 second.1 = .lt) :
    (ofList entries).entries = entries := by
  -- The last entry is inserted into the dictionary of those before it, at the end.
  induction entries using List.reverseRecOn with
  | nil => rfl
  | append_singleton entries entry ih =>
    obtain ⟨before, _, above⟩ := List.pairwise_append.1 ascending
    have last : (ofList (entries ++ [entry])).entries =
        insertEntry entry.1 entry.2 (ofList entries).entries := by
      rw [ofList, List.foldl_append]
      rfl
    rw [last, ih before]
    exact insertEntry_of_above fun other listed => above other listed entry List.mem_cons_self

/-- A dictionary is made of its entries. -/
theorem ofList_entries [Std.TransOrd κ] [Std.LawfulEqOrd κ] (dictionary : Dictionary κ α) :
    ofList dictionary.entries = dictionary :=
  ext_entries (entries_ofList dictionary.ascending)

end FlightQuery.Dictionary
