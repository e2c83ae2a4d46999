import FlightQuery.Proofs.Json.Numeral
import FlightQuery.Proofs.Json.Quoted
import FlightQuery.Proofs.Json.Spacing

/-! Values without floats read back from their text, whatever spaces stand between their parts. -/

namespace FlightQuery

namespace Json

/-- A value whose numbers are integers that documents keep as they are. -/
inductive IsExact : Json → Prop
  | null : IsExact null
  | bool (value : Bool) : IsExact (bool value)
  | int {value : Int} (bounded : Number.IsExact value) : IsExact (int value)
  | text (value : String) : IsExact (text value)
  | list {items : List Json} (items_exact : ∀ item ∈ items, IsExact item) : IsExact (list items)
  | object {members : List (String × Json)} (members_exact : ∀ member ∈ members, IsExact member.2) :
    IsExact (object members)

attribute [simp] IsExact.null IsExact.bool IsExact.text

/-- A list is exact when all its items are written as exact values. -/
theorem isExact_list_map {α : Type} {items : List α} {encode : α → Json}
    (items_exact : ∀ item ∈ items, IsExact (encode item)) : IsExact (list (items.map encode)) :=
  .list (List.forall_mem_map.mpr items_exact)

mutual

/-- The document that a value is written as. -/
def written : Json → Document
  | null => .null
  | bool value => .bool value
  | number value => .number (some value)
  | text value => .text (.ofText value)
  | list items => .list (writtenItems items)
  | object members => .object (writtenMembers members)

/-- The documents that items are written as. -/
def writtenItems : List Json → List Document
  | [] => []
  | item :: items => written item :: writtenItems items

/-- The document members that members are written as. -/
def writtenMembers : List (String × Json) → List (Quoted × Document)
  | [] => []
  | (key, value) :: members => (.ofText key, written value) :: writtenMembers members

end

end Json

namespace Document

open Json (Spacing spell spellItems spellMembers)

variable {spacing : Spacing} {space rest : List Char}

/-! ### Space -/

/-- Space in front of a part is dropped. -/
theorem skipSpace_append (blank : ∀ c ∈ space, isSpace c) (rest : List Char) :
    skipSpace (space ++ rest) = skipSpace rest :=
  List.dropWhile_append_of_pos blank

/-- A part that does not start with space is reached. -/
theorem skipSpace_cons {c : Char} (shown : ¬ isSpace c) (rest : List Char) :
    skipSpace (c :: rest) = c :: rest :=
  List.dropWhile_cons_of_neg shown

/-- A value may stand behind space. -/
theorem readValue?_append (blank : ∀ c ∈ space, isSpace c) (fuel : Nat) (rest : List Char) :
    readValue? fuel (space ++ rest) = readValue? fuel rest := by
  cases fuel with
  | zero => rfl
  | succ fuel => rw [readValue?, readValue?, skipSpace_append blank]

/-- A member may stand behind space. -/
theorem readMember?_append (blank : ∀ c ∈ space, isSpace c) (fuel : Nat) (rest : List Char) :
    readMember? fuel (space ++ rest) = readMember? fuel rest := by
  cases fuel with
  | zero => rfl
  | succ fuel => rw [readMember?, readMember?, skipSpace_append blank]

/-- Space is nothing that a number goes on with. -/
theorem Stops.append (blank : ∀ c ∈ space, isSpace c) (stops : Stops rest) :
    Stops (space ++ rest) := by
  -- Only the first character matters, and no space goes on a number.
  cases space with
  | nil => exact stops
  | cons c space =>
    intro first found
    obtain rfl : c = first := by simpa using found
    have blank := blank c List.mem_cons_self
    simp only [isSpace, Bool.or_eq_true, beq_iff_eq] at blank
    rcases blank with ((rfl | rfl) | rfl) | rfl <;> decide

/-- What separates or closes parts is nothing that a number goes on with. -/
theorem stops_cons {c : Char} (closes : c = ',' ∨ c = ']' ∨ c = '}') (rest : List Char) :
    Stops (c :: rest) := by
  -- None of the three closing characters goes on with a number.
  intro first found
  obtain rfl : c = first := by simpa using found
  rcases closes with rfl | rfl | rfl <;> decide

/-- No number goes on in the items behind it. -/
theorem stops_spellItems (spacing : Spacing) (level : Nat) (items : List Json) (rest : List Char) :
    Stops (spellItems spacing level items ++ rest) := by
  -- What follows an item is the closing bracket after blanks, or a comma.
  cases items with
  | nil =>
    rw [spellItems, List.append_assoc]
    exact (stops_cons (.inr (.inl rfl)) rest).append (spacing.line_isSpace level)
  | cons item items => exact stops_cons (.inl rfl) _

/-- No number goes on in the members behind it. -/
theorem stops_spellMembers (spacing : Spacing) (level : Nat) (members : List (String × Json))
    (rest : List Char) : Stops (spellMembers spacing level members ++ rest) := by
  -- What follows a member is the closing brace after blanks, or a comma.
  cases members with
  | nil =>
    rw [spellMembers, List.append_assoc]
    exact (stops_cons (.inr (.inr rfl)) rest).append (spacing.line_isSpace level)
  | cons member members => exact stops_cons (.inl rfl) _

/-! ### Values -/

/-- A value reads back from its text, given fuel for every character up to the end. -/
def Reads (spacing : Spacing) (value : Json) : Prop :=
  ∀ level fuel rest, (spell spacing level value ++ rest).length < fuel → Stops rest →
    readValue? fuel (spell spacing level value ++ rest) = some (value.written, rest)

/-- To read any text at all, some fuel is needed, so that only this case has to be looked at. -/
theorem Reads.of_succ {value : Json}
    (reads : ∀ level fuel rest, (spell spacing level value ++ rest).length ≤ fuel → Stops rest →
      readValue? (fuel + 1) (spell spacing level value ++ rest) = some (value.written, rest)) :
    Reads spacing value := by
  intro level fuel rest enough stops
  -- Some character is left to be read, so that the fuel is not zero.
  cases fuel with
  | zero => exact absurd enough (Nat.not_lt_zero _)
  | succ fuel => exact reads level fuel rest (Nat.le_of_lt_succ enough) stops

/-- A value that starts with a digit is a number. -/
theorem readValue?_digit {c : Char} (digit : Number.isDigit c) (fuel : Nat) (rest : List Char) :
    readValue? (fuel + 1) (c :: rest) = (readNumeral? false (c :: rest)).map
      fun (numeral, rest) => (.number numeral.value?, rest) := by
  have shown : ¬ isSpace c := by
    intro space
    simp only [isSpace, Bool.or_eq_true, beq_iff_eq] at space
    rcases space with ((rfl | rfl) | rfl) | rfl <;> exact absurd digit (by decide)
  rw [readValue?, skipSpace_cons shown]
  -- Digits start no other part.
  split
  case h_8 => rfl
  all_goals
    rename_i first
    cases first
    exact absurd digit (by decide)

/-- Integers read back. -/
theorem reads_int {value : Int} (bounded : Number.IsExact value) : Reads spacing (.int value) := by
  refine .of_succ fun level fuel rest _ stops => ?_
  have valued := Numeral.value?_ofInt bounded
  change readValue? (fuel + 1) (writeInt value ++ rest) = some (.number (some (.int value)), rest)
  -- The first character tells whether the number has a sign.
  obtain ⟨digits, written, read⟩ | ⟨c, digits, written, digit, read⟩ := writeInt_cases value
  · rw [written, List.cons_append, readValue?, skipSpace_cons (by decide)]
    simp only [read rest stops, Option.map_some, valued]
  · rw [written, List.cons_append, readValue?_digit digit, ← List.cons_append]
    simp only [read rest stops, Option.map_some, valued]

/-- Texts read back. -/
theorem reads_text (value : String) : Reads spacing (.text value) := by
  refine .of_succ fun level fuel rest _ _ => ?_
  -- The quotes are split off from what is written between them.
  have parts : spell spacing level (.text value) ++ rest =
      '"' :: (value.toList.flatMap Json.writeChar ++ '"' :: rest) := by
    simp [spell, Json.writeScalar, Json.writeText]
  rw [parts, readValue?, skipSpace_cons (by decide)]
  simp only [readQuoted?_written, Option.map_some]
  rfl

/-- A key and its value read back. -/
theorem readMember?_spell (key : String) {value : Json} (reads : Reads spacing value)
    (level fuel : Nat)
    (enough : (Json.writeText key ++ ':' :: (spacing.colon ++ (spell spacing level value ++
      rest))).length < fuel) (stops : Stops rest) :
    readMember? fuel (Json.writeText key ++ ':' :: (spacing.colon ++ (spell spacing level value ++
      rest))) = some ((.ofText key, value.written), rest) := by
  obtain ⟨fuel, rfl⟩ := Nat.exists_eq_add_one_of_ne_zero (Nat.ne_zero_of_lt enough)
  have parts : Json.writeText key ++ ':' :: (spacing.colon ++ (spell spacing level value ++ rest)) =
      '"' :: (key.toList.flatMap Json.writeChar ++ '"' :: ':' :: (spacing.colon ++
        (spell spacing level value ++ rest))) := by
    simp [Json.writeText]
  have read := reads level fuel rest (by simp at enough ⊢; omega) stops
  -- The key ends at its closing quote, and the colon follows at once.
  have colon : ¬ isSpace ':' := by decide
  rw [parts, readMember?, skipSpace_cons (by decide)]
  simp only [readQuoted?_written, skipSpace_cons colon,
    readValue?_append spacing.colon_isSpace, read, Option.bind_eq_bind, Option.bind_some]
  rfl

/-- The items after the first one read back. -/
theorem readItems?_spell {items : List Json} (reads : ∀ item ∈ items, Reads spacing item)
    (level fuel : Nat) (rest : List Char)
    (enough : (spellItems spacing level items ++ rest).length < fuel) :
    readItems? fuel (spellItems spacing level items ++ rest) =
      some (Json.writtenItems items, rest) := by
  -- Each item is read up to the comma or the bracket behind it.
  induction items generalizing fuel with
  | nil =>
    obtain ⟨fuel, rfl⟩ := Nat.exists_eq_add_one_of_ne_zero (Nat.ne_zero_of_lt enough)
    rw [spellItems, List.append_assoc, readItems?, skipSpace_append (spacing.line_isSpace level)]
    rfl
  | cons item items ih =>
    obtain ⟨first, others⟩ := List.forall_mem_cons.mp reads
    obtain ⟨fuel, rfl⟩ := Nat.exists_eq_add_one_of_ne_zero (Nat.ne_zero_of_lt enough)
    have parts : spellItems spacing level (item :: items) ++ rest =
        ',' :: (spacing.line (level + 1) ++ (spell spacing (level + 1) item ++
          (spellItems spacing level items ++ rest))) := by
      simp [spellItems]
    have length := congrArg List.length parts
    -- The comma pays for the nested calls.
    have item_read := first (level + 1) fuel (spellItems spacing level items ++ rest)
      (by simp at enough length ⊢; omega) (stops_spellItems spacing level items rest)
    have items_read := ih others fuel (by simp at enough length ⊢; omega)
    rw [parts, readItems?, skipSpace_cons (by decide)]
    simp only [readValue?_append (spacing.line_isSpace _), item_read, items_read,
      Option.bind_eq_bind, Option.bind_some]
    rfl

/-- The members after the first one read back. -/
theorem readMembers?_spell {members : List (String × Json)}
    (reads : ∀ member ∈ members, Reads spacing member.2) (level fuel : Nat) (rest : List Char)
    (enough : (spellMembers spacing level members ++ rest).length < fuel) :
    readMembers? fuel (spellMembers spacing level members ++ rest) =
      some (Json.writtenMembers members, rest) := by
  -- Each member is read up to the comma or the brace behind it.
  induction members generalizing fuel with
  | nil =>
    obtain ⟨fuel, rfl⟩ := Nat.exists_eq_add_one_of_ne_zero (Nat.ne_zero_of_lt enough)
    rw [spellMembers, List.append_assoc, readMembers?,
      skipSpace_append (spacing.line_isSpace level)]
    rfl
  | cons member members ih =>
    obtain ⟨key, value⟩ := member
    obtain ⟨first, others⟩ := List.forall_mem_cons.mp reads
    obtain ⟨fuel, rfl⟩ := Nat.exists_eq_add_one_of_ne_zero (Nat.ne_zero_of_lt enough)
    -- The parts are comma, space, key, colon and value, and then the other members.
    have parts : spellMembers spacing level ((key, value) :: members) ++ rest =
        ',' :: (spacing.line (level + 1) ++ (Json.writeText key ++ ':' :: (spacing.colon ++
          (spell spacing (level + 1) value ++ (spellMembers spacing level members ++ rest))))) := by
      simp [spellMembers]
    have length := congrArg List.length parts
    have member_read := readMember?_spell key first (level + 1) fuel
      (by simp at enough length ⊢; omega) (stops_spellMembers spacing level members rest)
    have members_read := ih others fuel (by simp at enough length ⊢; omega)
    rw [parts, readMembers?, skipSpace_cons (by decide)]
    simp only [readMember?_append (spacing.line_isSpace _), member_read, members_read,
      Option.bind_eq_bind, Option.bind_some]
    rfl

/-- No value starts with a closing bracket. -/
theorem readValue?_bracket {input : List Char} (bracket : skipSpace input = ']' :: rest)
    (fuel : Nat) : readValue? fuel input = none := by
  cases fuel with
  | zero => rfl
  | succ fuel =>
    rw [readValue?, bracket]
    rfl

/-- A bracket followed by a value opens a list. -/
theorem readValue?_list {fuel : Nat} {input : List Char} {item : Document}
    (read : readValue? fuel input = some (item, rest)) :
    readValue? (fuel + 1) ('[' :: input) =
      (readItems? fuel rest).map fun (items, rest) => (.list (item :: items), rest) := by
  have opens : ¬ isSpace '[' := by decide
  simp only [readValue?, skipSpace_cons opens]
  -- As a value follows, the list is not closed at once.
  split
  next bracket => exact absurd (readValue?_bracket bracket fuel) (by simp [read])
  next =>
    rw [read, Option.bind_eq_bind, Option.bind_some]
    cases readItems? fuel rest <;> rfl

/-- Lists of items that read back read back. -/
theorem reads_list {items : List Json} (reads : ∀ item ∈ items, Reads spacing item) :
    Reads spacing (.list items) := by
  refine .of_succ fun level fuel rest enough _ => ?_
  cases items with
  | nil => rfl
  | cons item items =>
    obtain ⟨first, others⟩ := List.forall_mem_cons.mp reads
    -- The parts are bracket, space, first item and the others, each read by its own lemma.
    have parts : spell spacing level (.list (item :: items)) ++ rest =
        '[' :: (spacing.line (level + 1) ++ (spell spacing (level + 1) item ++
          (spellItems spacing level items ++ rest))) := by
      simp [spell]
    have length := congrArg List.length parts
    -- The fuel is enough for each part because the parts are shorter than the whole.
    have item_read := first (level + 1) fuel (spellItems spacing level items ++ rest)
      (by simp at enough length ⊢; omega) (stops_spellItems spacing level items rest)
    have items_read := readItems?_spell others level fuel rest (by simp at enough length ⊢; omega)
    have line_read := readValue?_append (spacing.line_isSpace (level + 1)) fuel
      (spell spacing (level + 1) item ++ (spellItems spacing level items ++ rest))
    rw [item_read] at line_read
    rw [parts, readValue?_list line_read, items_read]
    rfl

/-- Objects of values that read back read back. -/
theorem reads_object {members : List (String × Json)}
    (reads : ∀ member ∈ members, Reads spacing member.2) : Reads spacing (.object members) := by
  refine .of_succ fun level fuel rest enough _ => ?_
  cases members with
  | nil => rfl
  | cons member members =>
    obtain ⟨key, value⟩ := member
    obtain ⟨first, others⟩ := List.forall_mem_cons.mp reads
    -- The parts are brace, space, key, colon and value, and then the other members.
    have parts : spell spacing level (.object ((key, value) :: members)) ++ rest =
        '{' :: (spacing.line (level + 1) ++ (Json.writeText key ++ ':' :: (spacing.colon ++
          (spell spacing (level + 1) value ++ (spellMembers spacing level members ++ rest))))) := by
      simp [spell]
    have length := congrArg List.length parts
    -- The fuel is enough for each part because the parts are shorter than the whole.
    have member_read := readMember?_spell key first (level + 1) fuel
      (by simp at enough length ⊢; omega) (stops_spellMembers spacing level members rest)
    have members_read := readMembers?_spell others level fuel rest
      (by simp at enough length ⊢; omega)
    rw [parts, readValue?, skipSpace_cons (by decide)]
    -- As a key follows, the object is not closed at once.
    have opened (text : List Char) : skipSpace (spacing.line (level + 1) ++
        (Json.writeText key ++ text)) = Json.writeText key ++ text := by
      rw [skipSpace_append (spacing.line_isSpace _)]
      rfl
    simp only [opened]
    simp only [readMember?_append (spacing.line_isSpace _), member_read, members_read,
      Option.bind_eq_bind, Option.bind_some]
    rfl

/-- Exact values read back. -/
theorem reads_of_isExact (spacing : Spacing) {value : Json} (exactly : value.IsExact) :
    Reads spacing value := by
  -- The induction is on the proof of exactness, with one reading lemma for each form.
  induction exactly with
  | null => exact .of_succ fun _ _ _ _ _ => rfl
  | bool value => cases value <;> exact .of_succ fun _ _ _ _ _ => rfl
  | int bounded => exact reads_int bounded
  | text value => exact reads_text value
  | list _ ih => exact reads_list ih
  | object _ ih => exact reads_object ih

/-- An exact value written with some spaces is the whole document. -/
theorem read?_spell (spacing : Spacing) {value : Json} (exactly : value.IsExact) :
    read? (String.ofList (spell spacing 0 value)) = some value.written := by
  -- There is one call more than there are characters.
  have reads := reads_of_isExact spacing exactly 0
    ((String.ofList (spell spacing 0 value)).length + 1) [] (by simp) stops_nil
  rw [List.append_nil] at reads
  unfold read?
  rw [String.toList_ofList, reads]
  rfl

/-- An exact value reads back from its text on one line. -/
theorem read?_compact {value : Json} (exactly : value.IsExact) :
    read? value.compact = some value.written := by
  rw [Json.compact, ← Json.spell_none 0]
  exact read?_spell .none exactly

/-- An exact value reads back from its indented text. -/
theorem read?_indented {value : Json} (exactly : value.IsExact) :
    read? value.indented = some value.written := by
  rw [Json.indented, ← Json.spell_lines]
  exact read?_spell .lines exactly

end Document
end FlightQuery
