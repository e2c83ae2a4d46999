import FlightQuery.FieldTree
import FlightQuery.Disk
import FlightQuery.Json.Decoder
import FlightQuery.Json.Printer

/-! Field trees as documents, in which they are kept and exchanged. -/

namespace FlightQuery

/-- The document of a group. -/
def FieldGroup.toJson (group : FieldGroup) : Json :=
  .object [("id", .text group.id), ("name", .text group.name),
    ("parent_id", .ofText? group.parentId)]

/-- Decode a group. -/
def FieldGroup.decode : Decoder FieldGroup := fun scope document => do
  let parts ← Decoder.parts ["id", "name", "parent_id"] scope document
  let id ← parts.required "id" Decoder.text
  let name ← parts.required "name" Decoder.text
  let parentId ← parts.optional "parent_id" Decoder.text
  return { id, name, parentId }

/-- The document of a field with its group: the members of the field come first. -/
def FieldEntry.toJson (entry : FieldEntry) : Json :=
  .object (entry.field.members ++ [("parent_id", .ofText? entry.parentId)])

/-- Decode a field with its group. It is always an object, and all its other members are sound. -/
def FieldEntry.decode : Decoder FieldEntry
  | scope, .object members => do
    let inside ← scope.enter?
    let parts ← Decoder.namedParts ["id", "name", "type", "parent_id"] inside members
    let parentId ← parts.optional "parent_id" Decoder.text
    let _ ← Decoder.jsonMembers inside
      (members.filter fun (key, _) => key.text? != some "parent_id")
    let field ← Field.ofParts parts
    return { field, parentId }
  | _, _ => none

namespace FieldTree

/-- The document of the labels of a field. -/
def labelsToJson (labels : Labels) : Json :=
  .object (labels.entries.map fun (key, label) =>
    (String.ofList (writeInt key.toInt), .text label))

/-- Decode the labels of a field. -/
def decodeLabels : Decoder Labels := fun scope document =>
  (Decoder.members Decoder.int64Key Decoder.text scope document).map Dictionary.ofList

/-- The document of a tree. -/
def toJson (tree : FieldTree) : Json :=
  .object [
    ("database_id", .text tree.databaseId),
    ("search_type", .text tree.searchMode.name),
    ("groups", .list (tree.groups.map FieldGroup.toJson)),
    ("fields", .list (tree.entries.map FieldEntry.toJson)),
    ("discrete_values", .object (tree.labels.entries.map fun (fieldId, labels) =>
      (fieldId, labelsToJson labels)))]

/-- Decode a tree, of which only the database has to be given. -/
def decode : Decoder FieldTree := fun scope document => do
  let parts ← Decoder.parts
    ["database_id", "search_type", "groups", "fields", "discrete_values"] scope document
  let databaseId ← parts.required "database_id" Decoder.text
  let searchMode ← parts.defaulted "search_type" .contain (Decoder.oneOf SearchMode.names)
  let groups ← parts.defaulted "groups" [] (Decoder.list FieldGroup.decode)
  let entries ← parts.defaulted "fields" [] (Decoder.list FieldEntry.decode)
  let labels ← parts.defaulted "discrete_values" []
    (Decoder.members Quoted.text? decodeLabels)
  return { databaseId, searchMode, groups, entries, labels := .ofList labels }

/-- The text of the file that keeps a tree. -/
def save (tree : FieldTree) : String := tree.toJson.indented

/-- Load a tree from the text of its file. -/
def load (content : String) : Outcome FieldTree :=
  match Decoder.fromText decode content with
  | some tree => .ok tree
  | none => .error .document

/-- Load a tree from a file. What is found there but is no text is no tree either. -/
def ofFile : File → Outcome FieldTree
  | .missing => .error .storage
  | .folder => .error .document
  | .binary => .error .document
  | .text content => load content

end FieldTree
end FlightQuery
