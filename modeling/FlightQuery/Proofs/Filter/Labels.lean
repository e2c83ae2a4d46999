import FlightQuery.Proofs.FieldTree.Lookup
import FlightQuery.Proofs.Filter.Dispatch
import FlightQuery.Proofs.Number.Decimal
import FlightQuery.Proofs.Table

/-! The keys that filters send for labels are those that results hold for them. -/

namespace FlightQuery

namespace FieldTree

/-- The least of the keys that carry a label. -/
structure IsLeastKey (labels : Labels) (label : String) (key : Int64) : Prop where
  carries : labels.find? key = some label
  least : ∀ other, labels.find? other = some label → key ≤ other

/-- A label that some key carries. -/
def IsLabel (labels : Labels) (label : String) : Prop :=
  ∃ key, labels.find? key = some label

/-- The first entry that has a label has the least key. -/
theorem isLeastKey_of_keyOfLabel? {labels : Labels} {label : String} {key : Int64}
    (found : keyOfLabel? labels label = some key) : IsLeastKey labels label key := by
  obtain ⟨entry, first, rfl⟩ := Option.map_eq_some_iff.1 found
  obtain ⟨named, before, behind, entries_eq, others⟩ := List.find?_eq_some_iff_append.1 first
  have named : entry.2 = label := by simpa using named
  have listed : (entry.1, label) ∈ labels.entries := named ▸ List.mem_of_find?_eq_some first
  refine ⟨Dictionary.find?_eq_some_iff.2 listed, fun other found' => ?_⟩
  have listed' := Dictionary.find?_eq_some_iff.1 found'
  have ascending := labels.ascending
  rw [entries_eq] at listed' ascending
  -- Another entry with the label is not in front of the first one, and keys ascend behind it.
  rcases List.mem_append.1 listed' with earlier | later
  · exact absurd (others _ earlier) (by simp)
  · rcases List.mem_cons.1 later with rfl | later
    · exact Int64.le_refl _
    · have above := (List.pairwise_cons.1 (List.pairwise_append.1 ascending).2.1).1 _ later
      exact Int64.le_of_lt (Std.compare_eq_lt.1 above)

/-- A label that some key carries has a least key. -/
theorem exists_keyOfLabel? {labels : Labels} {label : String} (carried : IsLabel labels label) :
    ∃ key, keyOfLabel? labels label = some key := by
  obtain ⟨key, carries⟩ := carried
  -- The entry of the key has the label, so that the search stops there at the latest.
  have listed := Dictionary.find?_eq_some_iff.1 carries
  have found : (labels.entries.find? fun entry => entry.2 == label).isSome = true :=
    List.find?_isSome.2 ⟨_, listed, by simp⟩
  obtain ⟨entry, entry_eq⟩ := Option.isSome_iff_exists.1 found
  exact ⟨entry.1, by rw [keyOfLabel?, entry_eq, Option.map_some]⟩

variable {tree : FieldTree} {fieldId label : String} {labels : Labels}

/-- Where the labels of a field are known, each of them has its least key. -/
theorem valueKey_of_isLabel (known : tree.labels.find? fieldId = some labels)
    (carried : IsLabel labels label) :
    ∃ key, tree.valueKey label fieldId = .ok key ∧ IsLeastKey labels label key := by
  -- A label the field carries has a key, and the search picks the least one.
  obtain ⟨key, found⟩ := exists_keyOfLabel? carried
  refine ⟨key, ?_, isLeastKey_of_keyOfLabel? found⟩
  unfold valueKey
  simp only [known, found]

/-- A label that is none of the known ones has no key. -/
theorem valueKey_of_not_isLabel (known : tree.labels.find? fieldId = some labels)
    (unmapped : ¬ IsLabel labels label) :
    tree.valueKey label fieldId = .error (.unmappedValue label fieldId) := by
  -- A key that is found carries the label.
  unfold valueKey
  simp only [known]
  split
  · rename_i key found
    exact absurd ⟨key, (isLeastKey_of_keyOfLabel? found).carries⟩ unmapped
  · rfl

/-- Without labels there are no keys. -/
theorem valueKey_of_unknown (unknown : tree.labels.find? fieldId = none) :
    tree.valueKey label fieldId = .error (.valuesNotLoaded fieldId) := by
  unfold valueKey
  simp only [unknown]

end FieldTree

namespace Response

/-- A cell holds a key: as an integer or as a text of its decimal digits. -/
inductive HoldsKey (key : Int64) : Json → Prop
  | int : HoldsKey key (.int key.toInt)
  | text {digits : List Char} (integer : Number.IsInteger digits key.toInt) :
      HoldsKey key (.text (String.ofList digits))

/-- A key is held by the digits in which it is written. -/
theorem holdsKey_writeInt (key : Int64) :
    HoldsKey key (.text (String.ofList (writeInt key.toInt))) :=
  .text (Number.isInteger_writeInt key.toInt)

/-- The key that a cell holds is read. -/
theorem HoldsKey.keyOf?_eq {key : Int64} {cell : Json} (holds : HoldsKey key cell) :
    keyOf? cell = some key := by
  -- A result cell tells the key as a number or as the text of one.
  cases holds with
  | int => exact Number.toInt64?_eq_some_iff.2 rfl
  | text integer =>
    rw [keyOf?, String.toList_ofList]
    exact Number.readInt64?_eq_some_iff.2 integer

/-- A label is told for a key: wherever a row has a cell with the key, in the column of the field,
the table has the label. -/
def TellsLabel (tree : FieldTree) (field : Field) (key : Int64) (label : String) : Prop :=
  ∀ (fields : List Field) (response : Response) (table : Table) (index height : Nat)
    (name : String) (row : List Json) (cell : Json),
    response.toTable tree.toStore fields = .ok table → fields[index]? = some field →
    response.header[index]? = some name → response.rows[height]? = some row →
    row[index]? = some cell → HoldsKey key cell →
    ∃ cells, table.columns[index]? = some ⟨name, .label field.id, cells⟩ ∧
      cells[height]? = some (some label)

/-- The column of a discrete field holds labels. -/
theorem column_of_discrete (store : Store) {field : Field} (discrete : field.type = .discrete)
    (name : String) (index : Nat) (rows : List (List Json)) :
    column store (some field) name index rows =
      ⟨name, .label field.id, rows.map fun row =>
        (valueAt? index row).map (labelOf store field.id)⟩ := by
  -- The cells are read by the type, which is known once the field is taken apart.
  obtain ⟨id, fieldName, type⟩ := field
  cases discrete
  have cell_eq (row : List Json) : (valueAt? index row).bind (cellOf? store (.label id)) =
      (valueAt? index row).map (labelOf store id) := by
    cases valueAt? index row <;> rfl
  simp only [← cell_eq]
  rfl

/-- The label that a key carries is told for it. -/
theorem tellsLabel_of_carries {tree : FieldTree} {field : Field} {labels : Labels} {key : Int64}
    {label : String} (discrete : field.type = .discrete)
    (known : tree.labels.find? field.id = some labels)
    (carries : labels.find? key = some label) : TellsLabel tree field key label := by
  intro fields response table index height name row cell converted selected named row_eq cell_eq
    holds
  -- The cell is read as the key, and the key has the label in the tree.
  have told : labelOf tree.toStore field.id cell = label := by
    have label_eq : tree.valueLabel? field.id key = some label := by
      rw [FieldTree.valueLabel?, known, Option.bind_some, carries]
    rw [labelOf, holds.keyOf?_eq, Option.bind_some]
    exact congrArg (Option.getD · _) label_eq
  have value_eq : valueAt? index row = some cell := by
    rw [valueAt?, cell_eq]
    cases holds <;> rfl
  -- The column of the field tells labels, and it stands where the field was selected.
  have column_at : table.columns[index]? = some ⟨name, .label field.id, response.rows.map
      fun row => (valueAt? index row).map (labelOf tree.toStore field.id)⟩ := by
    rw [getElem?_columns converted, named, selected, Option.map_some,
      column_of_discrete _ discrete]
  exact ⟨_, column_at, by rw [List.getElem?_map, row_eq, Option.map_some, value_eq,
    Option.map_some, told]⟩

end Response

namespace Filter

open FieldTree (IsLabel IsLeastKey)
open Response (TellsLabel)

/-- The conditions in which labels are written, and their operators. -/
inductive WritesLabels : Condition → FilterOperator → Prop
  | compare (comparator : Comparator) (value : Literal) :
      WritesLabels (.compare comparator value) (.ofComparator comparator)
  | membership (negated : Bool) (values : List Literal) :
      WritesLabels (.membership negated values) (.ofMembership negated)

/-- Discrete fields accept the conditions in which labels are written. -/
theorem WritesLabels.row {condition : Condition} {operator : FilterOperator}
    (writes : WritesLabels condition operator) : Row .discrete condition operator := by
  -- Both ways to write labels fall under a row that a discrete field allows.
  cases writes with
  | compare comparator =>
    exact .compare (.inl rfl) (FilterOperator.compares_ofComparator comparator)
  | membership negated =>
    exact .membership (.inl rfl) (FilterOperator.contains_ofMembership negated)

/-- What is sent for them are the keys of their literals. -/
theorem WritesLabels.sends {store : Store} {field : Field} {condition : Condition}
    {operator : FilterOperator} {constants : List Json} (writes : WritesLabels condition operator)
    (discrete : field.type = .discrete)
    (keys : List.Forall₂ (IsKey store field) condition.literals constants) :
    Sends store field condition constants := by
  -- A discrete field sends keys for all its literals, whatever the comparison is.
  unfold Sends
  rw [discrete]
  cases writes <;> exact keys

variable {tree : FieldTree} {field : Field} {labels : Labels}

/-- Literals that are all labels have keys that the tree gives for them. -/
theorem exists_leastKeys (known : tree.labels.find? field.id = some labels)
    {values : List Literal} (carried : ∀ literal ∈ values, IsLabel labels literal.label) :
    ∃ keys : List Int64, List.Forall₂ (fun literal key =>
      tree.valueKey literal.label field.id = .ok key ∧ IsLeastKey labels literal.label key)
        values keys := by
  -- The keys are found one by one, each of them the least one of its label.
  induction values with
  | nil => exact ⟨[], .nil⟩
  | cons literal values ih =>
    obtain ⟨first, others⟩ := List.forall_mem_cons.1 carried
    obtain ⟨key, found⟩ := FieldTree.valueKey_of_isLabel known first
    obtain ⟨keys, all⟩ := ih others
    exact ⟨key :: keys, .cons found all⟩

/-- A text is a label exactly when the tree gives a key for it. -/
theorem isLabel_iff (known : tree.labels.find? field.id = some labels) (label : String) :
    IsLabel labels label ↔ ∃ key, tree.valueKey label field.id = .ok key := by
  -- A label has a least key, and a key that is given carries the label.
  constructor
  · intro carried
    obtain ⟨key, found, _⟩ := FieldTree.valueKey_of_isLabel known carried
    exact ⟨key, found⟩
  · rintro ⟨key, found⟩
    by_contra unmapped
    exact nomatch found.symm.trans (FieldTree.valueKey_of_not_isLabel known unmapped)

/-- The first literal that is no label is told. -/
theorem build_of_not_isLabel (discrete : field.type = .discrete)
    (known : tree.labels.find? field.id = some labels) {condition : Condition}
    {operator : FilterOperator} (writes : WritesLabels condition operator)
    (unmapped : ∃ literal ∈ condition.literals, ¬ IsLabel labels literal.label) :
    ∃ front literal rest, condition.literals = front ++ literal :: rest ∧
      (∀ before ∈ front, IsLabel labels before.label) ∧ ¬ IsLabel labels literal.label ∧
      build tree.toStore field condition = .error (.unmappedValue literal.label field.id) := by
  rcases exists_keys_or_missing tree.toStore field condition.literals with
    ⟨constants, keys⟩ | ⟨front, literal, rest, error, literals_eq, keys, missing⟩
  · -- All literals would be labels.
    obtain ⟨literal, listed, unmapped⟩ := unmapped
    exact absurd ((isLabel_iff known _).2 (exists_key_of_mem keys listed)) unmapped
  · have none_carries : ¬ IsLabel labels literal.label := fun carried => by
      obtain ⟨key, found⟩ := (isLabel_iff known _).1 carried
      exact nomatch found.symm.trans missing
    refine ⟨front, literal, rest, literals_eq,
      fun before listed => (isLabel_iff known _).2 (keys before listed), none_carries, ?_⟩
    exact build_of_rejected (.noKey discrete (discrete ▸ writes.row) literals_eq keys
      (FieldTree.valueKey_of_not_isLabel known none_carries))

/-- Literals that are all labels are sent as their least keys. -/
theorem build_of_isLabel (discrete : field.type = .discrete)
    (known : tree.labels.find? field.id = some labels) {condition : Condition}
    {operator : FilterOperator} (writes : WritesLabels condition operator)
    (carried : ∀ literal ∈ condition.literals, IsLabel labels literal.label) :
    ∃ keys : List Int64,
      List.Forall₂ (fun literal key => IsLeastKey labels literal.label key ∧
        TellsLabel tree field key literal.label) condition.literals keys ∧
      build tree.toStore field condition =
        .ok (onField operator field (keys.map fun key => .int key.toInt)) := by
  obtain ⟨keys, all⟩ := exists_leastKeys known carried
  -- The constants that are sent are these keys, one for each literal.
  have sent : List.Forall₂ (IsKey tree.toStore field) condition.literals
      (keys.map fun key => .int key.toInt) :=
    List.forall₂_map_right_iff.2 (all.imp fun literal key found => ⟨key, found.1, rfl⟩)
  refine ⟨keys, all.imp fun literal key found => ⟨found.2, ?_⟩,
    build_of_row (discrete ▸ writes.row) (writes.sends discrete sent)⟩
  exact Response.tellsLabel_of_carries discrete known found.2.carries

/--
The labels of a discrete field mean the same in filters and in results.

A literal that is a label is sent as the least key that carries it, and a result that holds this
key tells the label again. The first literal that is no label is refused, and so is every literal as
long as the labels are not known.
-/
theorem build_labels (tree : FieldTree) (field : Field) (discrete : field.type = .discrete)
    {condition : Condition} {operator : FilterOperator}
    (writes : WritesLabels condition operator) :
    (∀ labels, tree.labels.find? field.id = some labels →
      ((∀ literal ∈ condition.literals, IsLabel labels literal.label) →
        ∃ keys : List Int64,
          List.Forall₂ (fun literal key => IsLeastKey labels literal.label key ∧
            TellsLabel tree field key literal.label) condition.literals keys ∧
          build tree.toStore field condition =
            .ok (onField operator field (keys.map fun key => .int key.toInt))) ∧
      ((∃ literal ∈ condition.literals, ¬ IsLabel labels literal.label) →
        ∃ front literal rest, condition.literals = front ++ literal :: rest ∧
          (∀ before ∈ front, IsLabel labels before.label) ∧ ¬ IsLabel labels literal.label ∧
          build tree.toStore field condition =
            .error (.unmappedValue literal.label field.id))) ∧
    (tree.labels.find? field.id = none → condition.literals ≠ [] →
      build tree.toStore field condition = .error (.valuesNotLoaded field.id)) := by
  -- With labels it is told by them which literals have keys, and without them none has.
  refine ⟨fun labels known => ⟨build_of_isLabel discrete known writes,
    build_of_not_isLabel discrete known writes⟩, fun unknown nonempty => ?_⟩
  obtain ⟨literal, rest, literals_eq⟩ := List.exists_cons_of_ne_nil nonempty
  -- The labels are asked for at the first literal.
  exact build_of_rejected (.noKey discrete (discrete ▸ writes.row)
    (literals_eq.trans (List.nil_append _).symm) (fun _ listed => nomatch listed)
    (FieldTree.valueKey_of_unknown unknown))

/-- Two keys carry one label, a label is written as a number, and one literal is no label. -/
theorem build_labels_repeated :
    let labels : Labels := .ofList [(7, "Taxi"), (2, "10"), (3, "Taxi")]
    let tree : FieldTree := { databaseId := "fdw", labels := .ofList [("[f][phase]", labels)] }
    let field : Field := ⟨"[f][phase]", "Phase", .discrete⟩
    let strange : Field := ⟨"[f][gate]", "Gate", .discrete⟩
    let carried : List Literal := [.text "Taxi", .int 10]
    let mixed : List Literal := [.int 10, .text "Park"]
    (∃ keys : List Int64,
      List.Forall₂ (fun literal key => IsLeastKey labels literal.label key ∧
        TellsLabel tree field key literal.label) carried keys ∧
      build tree.toStore field (.membership true carried) =
        .ok (onField .notIn field (keys.map fun key => .int key.toInt))) ∧
    Response.HoldsKey 3 (.text "3") ∧
    (∃ front literal rest, mixed = front ++ literal :: rest ∧
      (∀ before ∈ front, IsLabel labels before.label) ∧ ¬ IsLabel labels literal.label ∧
      build tree.toStore field (.membership false mixed) =
        .error (.unmappedValue literal.label field.id)) ∧
    build tree.toStore strange (.compare .less (.text "Taxi")) =
      .error (.valuesNotLoaded strange.id) := by
  -- Whatever is known of the labels is evaluated, and what is built of them is left to the theorem.
  intro labels tree field strange carried mixed
  have known : tree.labels.find? field.id = some labels := by decide +kernel
  have unknown : tree.labels.find? strange.id = none := by decide +kernel
  have taxi : IsLabel labels (Literal.text "Taxi").label := ⟨3, by decide +kernel⟩
  have ten : IsLabel labels (Literal.int 10).label := ⟨2, by decide +kernel⟩
  -- A text is no label when no entry carries it.
  have park : ¬ IsLabel labels (Literal.text "Park").label := by
    rintro ⟨key, carries⟩
    have others : ∀ entry ∈ labels.entries, entry.2 ≠ "Park" := by decide +kernel
    exact others _ (Dictionary.find?_eq_some_iff.1 carries) rfl
  -- One literal that is no label is enough, and it need not be the first.
  have all : ∀ literal ∈ carried, IsLabel labels literal.label :=
    List.forall_mem_cons.2 ⟨taxi, List.forall_mem_singleton.2 ten⟩
  have some_unmapped : ∃ literal ∈ mixed, ¬ IsLabel labels literal.label :=
    ⟨_, List.mem_cons_of_mem _ List.mem_cons_self, park⟩
  exact ⟨((build_labels tree field rfl (.membership true carried)).1 labels known).1 all,
    Response.holdsKey_writeInt 3,
    ((build_labels tree field rfl (.membership false mixed)).1 labels known).2
      some_unmapped,
    (build_labels tree strange rfl (.compare .less _)).2 unknown (List.cons_ne_nil _ _)⟩

end Filter

end FlightQuery
