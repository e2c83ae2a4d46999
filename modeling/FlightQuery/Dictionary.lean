/-! Dictionaries whose keys ascend. -/

namespace FlightQuery

/-- A finite map given by its entries in the order of their keys. -/
structure Dictionary (κ α : Type) [Ord κ] where
  entries : List (κ × α)
  ascending : entries.Pairwise fun first second => compare first.1 second.1 = .lt

namespace Dictionary

variable {κ α : Type} [Ord κ]

/-- Two dictionaries with the same entries are equal. -/
theorem ext_entries {first second : Dictionary κ α} (same : first.entries = second.entries) :
    first = second := by
  cases first
  cases second
  cases same
  rfl

instance [DecidableEq κ] [DecidableEq α] : DecidableEq (Dictionary κ α) := fun first second =>
  if same : first.entries = second.entries then isTrue (ext_entries same)
  else isFalse fun equal => same (equal ▸ rfl)

/-- The dictionary without entries. -/
def empty : Dictionary κ α where
  entries := []
  ascending := .nil

instance : Inhabited (Dictionary κ α) := ⟨empty⟩

instance [Repr κ] [Repr α] : Repr (Dictionary κ α) :=
  ⟨fun dictionary n => reprPrec dictionary.entries n⟩

/-- Put an entry among others in the place of its key. -/
def insertEntry (key : κ) (value : α) : List (κ × α) → List (κ × α)
  | [] => [(key, value)]
  | entry :: rest =>
    match compare key entry.1 with
    | .lt => (key, value) :: entry :: rest
    | .eq => (key, value) :: rest
    | .gt => entry :: insertEntry key value rest

/-- An inserted entry is new or one of the old ones. -/
theorem mem_insertEntry {key : κ} {value : α} {entry : κ × α} {entries : List (κ × α)}
    (found : entry ∈ insertEntry key value entries) : entry = (key, value) ∨ entry ∈ entries := by
  -- The cases are those of the insertion: before the head, in its place, or further on.
  induction entries with
  | nil => simpa [insertEntry] using found
  | cons head rest ih =>
    unfold insertEntry at found
    split at found
    · simpa using found
    · rcases List.mem_cons.1 found with new | old
      · exact .inl new
      · exact .inr (List.mem_cons_of_mem _ old)
    · rcases List.mem_cons.1 found with first | later
      · exact .inr (first ▸ List.mem_cons_self ..)
      · exact (ih later).imp_right (List.mem_cons_of_mem _)

/-- Insertion keeps the keys ascending. -/
theorem insertEntry_ascending [Std.TransOrd κ] [Std.LawfulEqOrd κ] (key : κ) (value : α)
    {entries : List (κ × α)}
    (ascending : entries.Pairwise fun first second => compare first.1 second.1 = .lt) :
    (insertEntry key value entries).Pairwise
      fun first second => compare first.1 second.1 = .lt := by
  induction entries with
  | nil => simp [insertEntry]
  | cons head rest ih =>
    obtain ⟨above, tail⟩ := List.pairwise_cons.1 ascending
    unfold insertEntry
    split
    · rename_i before
      refine List.pairwise_cons.2 ⟨fun entry found => ?_, ascending⟩
      -- The new key precedes the head, and the head precedes all others.
      rcases List.mem_cons.1 found with first | later
      · exact first ▸ before
      · exact Std.TransCmp.lt_trans before (above entry later)
    · -- An equal key takes the place of the head, and the order of the keys stays.
      rename_i equal
      have key_eq := Std.LawfulEqCmp.eq_of_compare equal
      subst key_eq
      exact List.pairwise_cons.2 ⟨above, tail⟩
    · -- The new key stands somewhere behind the head, which precedes all that is there.
      rename_i behind
      refine List.pairwise_cons.2 ⟨fun entry found => ?_, ih tail⟩
      rcases mem_insertEntry found with new | old
      · exact new ▸ Std.OrientedCmp.lt_of_gt behind
      · exact above entry old

/-- The dictionary in which a key has a value, and all other keys have what they had. -/
def insert [Std.TransOrd κ] [Std.LawfulEqOrd κ] (dictionary : Dictionary κ α) (key : κ)
    (value : α) : Dictionary κ α where
  entries := insertEntry key value dictionary.entries
  ascending := insertEntry_ascending key value dictionary.ascending

/-- The dictionary of some entries, of which the last one of a key counts. -/
def ofList [Std.TransOrd κ] [Std.LawfulEqOrd κ] (entries : List (κ × α)) : Dictionary κ α :=
  entries.foldl (fun dictionary entry => dictionary.insert entry.1 entry.2) empty

/-- The value of a key. -/
def find? [DecidableEq κ] (dictionary : Dictionary κ α) (key : κ) : Option α :=
  dictionary.entries.lookup key

/-- Whether a key has a value. -/
def contains [DecidableEq κ] (dictionary : Dictionary κ α) (key : κ) : Bool :=
  (dictionary.find? key).isSome

/-- The dictionary of those entries whose keys satisfy a test. -/
def filter (keep : κ → Bool) (dictionary : Dictionary κ α) : Dictionary κ α where
  entries := dictionary.entries.filter fun entry => keep entry.1
  ascending := dictionary.ascending.filter _

/-- The dictionary without a key. -/
def erase [DecidableEq κ] (dictionary : Dictionary κ α) (key : κ) : Dictionary κ α :=
  dictionary.filter fun other => other != key

end Dictionary
end FlightQuery
