import FlightQuery.FieldTree.Document
import FlightQuery.Proofs.Dictionary
import FlightQuery.Proofs.Json.Decoding

/-! A field tree is loaded as it was saved. -/

namespace FlightQuery

open Decoder (Restores restores_list restores_members restores_structure)

/-- A text is read back from its bytes, which are valid because it is a text. -/
theorem fromUTF8?_toUTF8 (content : String) : String.fromUTF8? content.toUTF8 = some content := by
  have valid : content.toUTF8.IsValidUTF8 := content.isValidUTF8
  rw [String.fromUTF8?, dif_pos valid]
  rfl

/-- A text is found in the file that its bytes are written to. -/
theorem File.ofBytes_toUTF8 (content : String) : ofBytes content.toUTF8 = .text content := by
  rw [ofBytes, fromUTF8?_toUTF8]

/-! ### Names -/

/-- A mode is found by its name. -/
@[simp] theorem SearchMode.lookup_name (mode : SearchMode) :
    names.lookup mode.name = some mode := by
  cases mode <;> rfl

/-- A type is found by its name. -/
@[simp] theorem FieldType.ofName?_name (type : FieldType) : ofName? type.name = some type := by
  cases type <;> rfl

/-- A type is decoded as it was. -/
@[simp] theorem Field.decodeType_written {scope : Scope} (type : FieldType) :
    decodeType scope (Json.text type.name).written = some type := by
  rw [decodeType, Decoder.text_written, Option.bind_some, FieldType.ofName?_name]

/-! ### Groups and fields -/

/-- A text that may be missing is exact. -/
@[simp] theorem Json.isExact_ofText? (value : Option String) : (ofText? value).IsExact := by
  cases value with
  | none => exact .null
  | some value => exact .text value

/-- Groups are exact. -/
theorem FieldGroup.isExact (group : FieldGroup) : group.toJson.IsExact := .object (by simp)

/-- Groups are decoded as they were. -/
theorem FieldGroup.restores (group : FieldGroup) : Restores decode 1 group.toJson group :=
  restores_structure (by simp) (by simp) fun inside _ => by simp [List.lookup_cons]

/-- Fields are exact. -/
theorem FieldEntry.isExact (entry : FieldEntry) : entry.toJson.IsExact :=
  .object (by simp [Field.members])

/-- The members of a field stand with the group of the field, and are sound. -/
theorem FieldEntry.jsonMembers_written (scope : Scope) (entry : FieldEntry) :
    Decoder.jsonMembers scope ((Json.writtenMembers (entry.field.members ++
      [("parent_id", .ofText? entry.parentId)])).filter fun (key, _) =>
        key.text? != some "parent_id") = some entry.field.members := rfl

/-- Fields are decoded as they were. -/
theorem FieldEntry.restores (entry : FieldEntry) : Restores decode 1 entry.toJson entry := by
  intro scope room
  obtain ⟨inside, entered, _⟩ := Scope.exists_enter? room
  -- The group is a part beside those of the field, which stand in the same object.
  have parts : Decoder.namedParts ["id", "name", "type", "parent_id"] inside
      (Json.writtenMembers (entry.field.members ++ [("parent_id", .ofText? entry.parentId)])) =
        some (.ofMembers inside _) :=
    Decoder.namedParts_written inside (by simp [Field.members]) (by simp [Field.members])
  rw [toJson, Json.written, decode, entered]
  simp only [Option.bind_eq_bind, Option.bind_some, parts, jsonMembers_written]
  simp [Field.ofParts, Field.members, List.lookup_cons]

/-! ### Labels -/

namespace FieldTree

/-- Labels are exact. -/
theorem isExact_labels (labels : Labels) : (labelsToJson labels).IsExact :=
  .object (List.forall_mem_map.mpr fun _ _ => .text _)

/-- Labels are decoded as they were. -/
theorem restores_labels (labels : Labels) :
    Restores decodeLabels 1 (labelsToJson labels) labels := by
  intro scope room
  have entries : Restores (Decoder.members Decoder.int64Key Decoder.text) 1 (labelsToJson labels)
      labels.entries :=
    restores_members (fun key : Int64 => String.ofList (writeInt key.toInt)) Json.text
      (fun entry _ => Decoder.int64Key_written entry.1) fun _ _ _ _ => Decoder.text_written _
  -- The keys ascend as they are written, so that the entries make the same dictionary.
  rw [decodeLabels, entries scope room, Option.map_some, Dictionary.ofList_entries]

/-! ### Trees -/

/-- Trees are exact. -/
theorem isExact (tree : FieldTree) : tree.toJson.IsExact := by
  -- Each of the three lists the document holds is exact, item by item.
  have groups := Json.isExact_list_map fun group (_ : group ∈ tree.groups) => group.isExact
  have fields := Json.isExact_list_map fun entry (_ : entry ∈ tree.entries) => entry.isExact
  have labels : (Json.object (tree.labels.entries.map fun entry =>
      (entry.1, labelsToJson entry.2))).IsExact :=
    .object (List.forall_mem_map.mpr fun entry _ => isExact_labels entry.2)
  exact .object (by simp [groups, fields, labels])

/-- Trees are decoded as they were. -/
theorem restores (tree : FieldTree) : Restores decode 3 tree.toJson tree := by
  have groups := restores_list fun group (_ : group ∈ tree.groups) => group.restores
  have fields := restores_list fun entry (_ : entry ∈ tree.entries) => entry.restores
  have labels : Restores (Decoder.members Quoted.text? decodeLabels) 2
      (.object (tree.labels.entries.map fun entry => (entry.1, labelsToJson entry.2)))
      tree.labels.entries :=
    restores_members id labelsToJson (fun _ _ => rfl) fun entry _ => restores_labels entry.2
  -- All members are given, and none is null.
  refine restores_structure (by simp) (by simp) fun inside room => ?_
  simp [List.lookup_cons, groups inside room, fields inside room, labels inside room,
    Dictionary.ofList_entries]

/-- The text of a tree is read as that tree. -/
theorem load_save (tree : FieldTree) : load tree.save = .ok tree := by
  unfold load save
  rw [tree.restores.fromText_indented (by decide) tree.isExact]

/--
A tree is loaded from the file that it was saved to.

Neither the number of its parts nor the characters of its texts matter.
-/
theorem ofFile_save (tree : FieldTree) : ofFile (.ofBytes tree.save.toUTF8) = .ok tree := by
  rw [File.ofBytes_toUTF8]
  exact tree.load_save

end FieldTree
end FlightQuery
