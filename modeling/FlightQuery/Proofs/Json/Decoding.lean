import FlightQuery.Json.Decoder
import FlightQuery.Proofs.Json.Reading

/-! Decoders give back what was written, part by part. -/

namespace FlightQuery

/-- With room for more, a list or an object is entered. -/
theorem Scope.exists_enter? {scope : Scope} {depth : Nat} (room : depth + 1 ≤ scope.room) :
    ∃ inside, scope.enter? = some inside ∧ depth ≤ inside.room := by
  -- A scope with no room left cannot have room for another level.
  obtain ⟨_ | left, held⟩ := scope
  · exact absurd room (Nat.not_succ_le_zero depth)
  · exact ⟨_, rfl, Nat.le_of_succ_le_succ room⟩

namespace Decoder

open Json (written writtenItems writtenMembers)

variable {α : Type} {scope inside : Scope} {depth : Nat}

/--
A decoder gives a value back from what is written for it.

It may be entered as many lists and objects as are nested in it.
-/
def Restores (decode : Decoder α) (depth : Nat) (json : Json) (value : α) : Prop :=
  ∀ scope : Scope, depth ≤ scope.room → decode scope json.written = some value

/-! ### Single values -/

/-- A text is decoded as it was. -/
@[simp] theorem text_written (value : String) : text scope (Json.text value).written = some value :=
  rfl

/-- A boolean is decoded as it was. -/
@[simp] theorem bool_written (value : Bool) : bool scope (Json.bool value).written = some value :=
  rfl

/-- An integer is decoded as it was. -/
theorem int_written (value : Int) : int scope (Json.int value).written = some value := rfl

/-- A natural number of 32 bits is decoded as it was. -/
theorem restores_uint32 (value : UInt32) : Restores uint32 0 (.int value.toNat) value := by
  intro scope _
  -- The number is within the range that is asked for, since it comes from there.
  have within : 0 ≤ (value.toNat : Int) ∧ (value.toNat : Int) < UInt32.size :=
    ⟨Int.natCast_nonneg _, Int.ofNat_lt.mpr value.toNat_lt⟩
  rw [uint32, int_written, Option.bind_some, Number.toUInt32?, if_pos within, Int.toNat_natCast,
    UInt32.ofNat_toNat]

/-- A name is looked up in its table. -/
@[simp] theorem oneOf_written (names : List (String × α)) (name : String) :
    oneOf names scope (Json.text name).written = names.lookup name := rfl

/-- A missing value is null. -/
@[simp] theorem nullable_written_null (decode : Decoder α) :
    nullable decode scope Json.null.written = some none := rfl

/-- A value that is given is decoded. -/
theorem Restores.nullable {decode : Decoder α} {json : Json} {value : α}
    (restores : Restores decode depth json value) (given : json ≠ .null) :
    Restores (nullable decode) depth json (some value) := by
  intro scope room
  have restored := restores scope room
  -- Only a null is looked at before the decoder is asked.
  cases json with
  | null => exact absurd rfl given
  | bool | number | text | list | object =>
    exact congrArg (Option.map some) restored

/-- A text that may be missing is decoded as it was. -/
@[simp] theorem nullable_text_written (value : Option String) :
    nullable text scope (Json.ofText? value).written = some value := by
  cases value <;> rfl

/-! ### Lists and objects -/

/-- Items that are given back one by one are given back together. -/
theorem mapM_writtenItems {items : List α} {encode : α → Json} {decode : Decoder α}
    (each : ∀ item ∈ items, decode scope (encode item).written = some item) :
    (writtenItems (items.map encode)).mapM (decode scope) = some items := by
  -- The items are decoded in their order, and each of them is given back.
  induction items with
  | nil => rfl
  | cons item items ih =>
    obtain ⟨first, others⟩ := List.forall_mem_cons.mp each
    rw [List.map_cons, writtenItems, List.mapM_cons, first, ih others]
    rfl

/-- A list is given back when its items are. -/
theorem restores_list {items : List α} {encode : α → Json} {decode : Decoder α}
    (each : ∀ item ∈ items, Restores decode depth (encode item) item) :
    Restores (list decode) (depth + 1) (.list (items.map encode)) items := by
  intro scope room
  -- The list takes up one level, which leaves the depth that each item needs.
  obtain ⟨inside, entered, room⟩ := Scope.exists_enter? room
  rw [written, list, entered, Option.bind_some]
  exact mapM_writtenItems fun item listed => each item listed inside room

/-- Entries that are given back one by one are given back together. -/
theorem restores_members {κ : Type} {entries : List (κ × α)} {key : Quoted → Option κ}
    {decode : Decoder α} (name : κ → String) (encode : α → Json)
    (keys : ∀ entry ∈ entries, key (.ofText (name entry.1)) = some entry.1)
    (each : ∀ entry ∈ entries, Restores decode depth (encode entry.2) entry.2) :
    Restores (members key decode) (depth + 1)
      (.object (entries.map fun entry => (name entry.1, encode entry.2))) entries := by
  intro scope room
  obtain ⟨inside, entered, room⟩ := Scope.exists_enter? room
  rw [written, members, entered, Option.bind_eq_bind, Option.bind_some]
  -- Each entry gives its key and its value, and the others follow.
  induction entries with
  | nil => rfl
  | cons entry entries ih =>
    obtain ⟨key_first, key_others⟩ := List.forall_mem_cons.mp keys
    obtain ⟨first, others⟩ := List.forall_mem_cons.mp each
    rw [List.map_cons, writtenMembers, List.mapM_cons, ih key_others others]
    simp only [key_first, first inside room, Option.bind_eq_bind, Option.bind_some]
    rfl

/-! ### Integer keys -/

/-- Integers are written in characters from the minus to the last digit. -/
theorem toNat_of_mem_writeInt {value : Int} {c : Char} (listed : c ∈ writeInt value) :
    '-'.toNat ≤ c.toNat ∧ c.toNat ≤ '9'.toNat := by
  -- The minus stands before the digits in the order of characters.
  have digits : ∀ c ∈ Nat.toDigits 10 value.natAbs, '-'.toNat ≤ c.toNat ∧ c.toNat ≤ '9'.toNat := by
    intro c listed
    have digit := Number.all_isDigit_toDigits value.natAbs c listed
    rw [Number.isDigit, Bool.and_eq_true, decide_eq_true_eq, decide_eq_true_eq] at digit
    exact ⟨Nat.le_trans (by decide) (Char.le_def.mp digit.1), Char.le_def.mp digit.2⟩
  unfold writeInt at listed
  split at listed
  · rcases List.mem_cons.mp listed with rfl | digit
    · decide
    · exact digits c digit
  · exact digits c listed

/-- None of the characters that integers are written in is escaped. -/
theorem writeChar_of_mem_writeInt {value : Int} {c : Char} (listed : c ∈ writeInt value) :
    Json.writeChar c = [c] := by
  obtain ⟨least, greatest⟩ := toNat_of_mem_writeInt listed
  -- All characters that are escaped lie outside that range.
  have other (d : Char) (outside : d.toNat < '-'.toNat ∨ '9'.toNat < d.toNat) : c ≠ d := by
    rintro rfl
    omega
  have visible : ¬ c.toNat < 32 := Nat.not_lt.mpr (Nat.le_trans (by decide) least)
  simp [Json.writeChar, visible, other '"' (by decide), other '\\' (by decide),
    other '\n' (by decide), other '\r' (by decide), other '\t' (by decide),
    other '\u0008' (by decide), other '\u000c' (by decide)]

/-- An integer is written without escapes. -/
theorem escaped_writeInt (value : Int) :
    (Quoted.ofText (String.ofList (writeInt value))).escaped = false := by
  have unescaped : '\\' ∉ Json.writeText (String.ofList (writeInt value)) := by
    -- A backslash would be one of the quotes or one of the characters of the integer.
    intro listed
    simp only [Json.writeText, String.toList_ofList, List.cons_append, List.mem_cons,
      List.mem_append, List.mem_flatMap, List.not_mem_nil, or_false] at listed
    rcases listed with quote | ⟨c, within, written⟩ | quote
    · exact absurd quote (by decide)
    · rw [writeChar_of_mem_writeInt within, List.mem_singleton] at written
      subst written
      exact absurd (toNat_of_mem_writeInt within).2 (by decide)
    · exact absurd quote (by decide)
  simpa [Quoted.ofText] using unescaped

/-- The key of an integer of 64 bits stands for it. -/
theorem int64Key_written (key : Int64) :
    int64Key (.ofText (String.ofList (writeInt key.toInt))) = some key := by
  -- Every word is within the bounds and exact as a number, so that its value is found.
  have bounded : Int64.minValue.toInt ≤ key.toInt ∧ key.toInt ≤ Int64.maxValue.toInt :=
    ⟨Int64.minValue_le_toInt key, Int64.toInt_le key⟩
  have valued := Document.Numeral.value?_ofInt (Number.isExact_int64 key)
  have found : Number.toInt64? key.toInt = some key := by
    rw [Number.toInt64?, if_pos bounded, Int64.ofInt_toInt]
  have text : (Quoted.ofText (String.ofList (writeInt key.toInt))).text? =
      some (String.ofList (writeInt key.toInt)) := rfl
  unfold int64Key
  simp only [text, escaped_writeInt, String.toList_ofList, Option.bind_eq_bind, Option.bind_some]
  -- The whole key is read as a number, so that nothing is left of it.
  obtain ⟨digits, written, read⟩ | ⟨c, digits, written, digit, read⟩ :=
    Document.writeInt_cases key.toInt
  · have read := read [] Document.stops_nil
    rw [List.append_nil] at read
    simp [written, read, valued, found]
  · -- Without a sign the first character is a digit.
    have read := read [] Document.stops_nil
    rw [List.append_nil] at read
    have unsigned : c ≠ '-' := by
      rintro rfl
      exact absurd digit (by decide)
    simp [written, unsigned, read, valued, found]

/-! ### Structures -/

/-- The parts that the members of an object give. -/
def Parts.ofMembers (scope : Scope) (members : List (String × Json)) : Parts where
  positional := false
  found := members.map fun (key, json) => (key, json.written)
  scope := scope

/-- The member of a name is found as it is written. -/
theorem Parts.lookup_found_ofMembers (members : List (String × Json)) (name : String) :
    (ofMembers scope members).found.lookup name = (members.lookup name).map written := by
  unfold ofMembers
  -- Both searches stop at the first member of the name.
  induction members with
  | nil => rfl
  | cons member members ih =>
    rw [List.map_cons, List.lookup_cons, List.lookup_cons]
    cases name == member.1
    · exact ih
    · rfl

/-- A part that has to be given is the member of its name. -/
@[simp] theorem Parts.required_ofMembers (members : List (String × Json)) (name : String)
    (decode : Decoder α) : (ofMembers scope members).required name decode =
      (members.lookup name).bind fun json => decode scope json.written := by
  rw [required, lookup_found_ofMembers]
  cases members.lookup name <;> rfl

/-- A part that has a default is the member of its name, if there is one. -/
@[simp] theorem Parts.defaulted_ofMembers (members : List (String × Json)) (name : String)
    (default : α) (decode : Decoder α) : (ofMembers scope members).defaulted name default decode =
      ((members.lookup name).map fun json => decode scope json.written).getD (some default) := by
  rw [defaulted, lookup_found_ofMembers]
  cases members.lookup name <;> rfl

/-- A part that may be missing is the member of its name, if there is one. -/
@[simp] theorem Parts.optional_ofMembers (members : List (String × Json)) (name : String)
    (decode : Decoder α) : (ofMembers scope members).optional name decode =
      ((members.lookup name).map fun json => nullable decode scope json.written).getD
        (some none) := by
  rw [optional, lookup_found_ofMembers]
  cases members.lookup name <;> rfl

/-- All keys are texts. -/
theorem mapM_writtenMembers (scope : Scope) (members : List (String × Json)) :
    (writtenMembers members).mapM
      (fun (quoted, document) => do return (← quoted.text?, document)) =
        some (Parts.ofMembers scope members).found := by
  unfold Parts.ofMembers
  -- The induction is on the members, whose keys have all been written as texts.
  induction members with
  | nil => rfl
  | cons member members ih =>
    rw [writtenMembers, List.mapM_cons, ih]
    rfl

/-- Members with different names out of a table are parts of a structure. -/
theorem namedParts_written {names : List String} {members : List (String × Json)} (scope : Scope)
    (distinct : (members.map Prod.fst).Nodup)
    (known : ∀ name ∈ members.map Prod.fst, name ∈ names) :
    namedParts names scope (writtenMembers members) = some (.ofMembers scope members) := by
  have keys : (Parts.ofMembers scope members).found.map Prod.fst = members.map Prod.fst :=
    List.map_map
  rw [namedParts, mapM_writtenMembers scope, Option.bind_eq_bind, Option.bind_some,
    List.filter_eq_self.mpr]
  · dsimp only
    rw [keys, if_pos distinct]
    rfl
  · -- No member is left out.
    intro part found
    obtain ⟨member, listed, rfl⟩ := List.mem_map.mp found
    exact List.contains_iff_mem.mpr (known _ (List.mem_map_of_mem listed))

/-- An object that is entered gives its members as parts. -/
theorem parts_written {names : List String} {members : List (String × Json)}
    (entered : scope.enter? = some inside) (distinct : (members.map Prod.fst).Nodup)
    (known : ∀ name ∈ members.map Prod.fst, name ∈ names) :
    parts names scope (Json.object members).written = some (.ofMembers inside members) := by
  rw [written, parts, entered, Option.bind_some]
  exact namedParts_written inside distinct known

/-- A structure is given back when it is built from the members of its object. -/
theorem restores_structure {names : List String} {members : List (String × Json)}
    {build : Parts → Option α} {value : α} (distinct : (members.map Prod.fst).Nodup)
    (known : ∀ name ∈ members.map Prod.fst, name ∈ names)
    (built : ∀ inside : Scope, depth ≤ inside.room →
      build (.ofMembers inside members) = some value) :
    Restores (fun scope document => (parts names scope document).bind build) (depth + 1)
      (.object members) value := by
  -- Entering the object takes one level of depth, and what is built needs the others.
  intro scope room
  obtain ⟨inside, entered, room⟩ := Scope.exists_enter? room
  dsimp only
  rw [parts_written entered distinct known, Option.bind_some]
  exact built inside room

/-- A tagged value is given back when its tag is known and its value is given back. -/
theorem restores_tagged {τ : Type} {tags : List (String × τ)} {decode : τ → Decoder α}
    {tag : String} {kind : τ} {json : Json} {value : α} (known : tags.lookup tag = some kind)
    (restores : Restores (decode kind) depth json value) :
    Restores (tagged tags decode) (depth + 1) (.object [("type", .text tag), ("value", json)])
      value := by
  intro scope room
  obtain ⟨inside, entered, room⟩ := Scope.exists_enter? room
  -- The type stands first, so that the value is decoded at once.
  have ahead : precedes "value" "type" (writtenMembers [("type", .text tag), ("value", json)]) =
      false := rfl
  unfold tagged
  rw [parts_written entered (by simp) (by simp), written]
  simp [ahead, known, restores inside room, List.lookup_cons]

/-- A document that is written for a value is read and decoded. -/
theorem Restores.fromText_compact {decode : Decoder α} {json : Json} {value : α}
    (restores : Restores decode depth json value) (shallow : depth ≤ Scope.outermost.room)
    (exactly : json.IsExact) : fromText decode json.compact = some value := by
  rw [fromText, Document.read?_compact exactly, Option.bind_some]
  exact restores .outermost shallow

/-- A document that is written indented for a value is read and decoded. -/
theorem Restores.fromText_indented {decode : Decoder α} {json : Json} {value : α}
    (restores : Restores decode depth json value) (shallow : depth ≤ Scope.outermost.room)
    (exactly : json.IsExact) : fromText decode json.indented = some value := by
  rw [fromText, Document.read?_indented exactly, Option.bind_some]
  exact restores .outermost shallow

end Decoder
end FlightQuery
