import FlightQuery.Session.Lookup

/-! The discovery of field trees: groups and labels are fetched from a server. -/

namespace FlightQuery

/-- A tree and the session by which it grows. -/
structure Discovery where
  tree : FieldTree
  session : Session

/-- A part of a discovery, which can change the tree even if it fails. -/
abbrev Exploration (α : Type) := ExceptT Error (StateM Discovery) α

namespace Exploration

/-- Make a call, which leaves the tree as it is. -/
def call {α : Type} (call : Call α) : Exploration α := fun discovery =>
  let (outcome, session) := call.run discovery.session
  (outcome, { discovery with session })

/-- Change the tree. -/
def modifyTree (change : FieldTree → FieldTree) : Exploration Unit :=
  modify fun discovery => { discovery with tree := change discovery.tree }

/-- The segments that all addresses of the database of the tree start with. -/
def databasePath (id : UInt32) (databaseId : String) : List String :=
  Call.installationPath id ++ ["databases", databaseId]

/-- A listed field, whose type may be unknown. -/
structure ListedField where
  id : String
  name : String
  typeName : String
  deriving DecidableEq, Repr

/-- Decode a listed field. -/
def ListedField.decode : Decoder ListedField := fun scope document => do
  let parts ← Decoder.parts ["id", "name", "type"] scope document
  let id ← parts.required "id" Decoder.text
  let name ← parts.required "name" Decoder.text
  let typeName ← parts.required "type" Decoder.text
  return { id, name, typeName }

/-- The field that is listed, if its type is known. -/
def ListedField.toField? (listed : ListedField) : Option Field :=
  (FieldType.ofName? listed.typeName).map fun type =>
    { id := listed.id, name := listed.name, type }

/-- Decode the fields and the groups of a group. -/
def decodeGroup : Decoder (List ListedField × List Call.Listed) := fun scope document => do
  let parts ← Decoder.parts ["fields", "groups"] scope document
  let fields ← parts.defaulted "fields" [] (Decoder.list ListedField.decode)
  let groups ← parts.defaulted "groups" [] (Decoder.list (Call.Listed.decode "name"))
  return (fields, groups)

/-- Fetch the fields and the groups of a group, or of the root, and tell the groups. Fields of
unknown types are left out. -/
def fetchGroup (id : UInt32) (groupId : Option String) : Exploration (List FieldGroup) := do
  let path := databasePath id (← get).tree.databaseId ++ ["field-groups"]
  let (fields, groups) ← call (Call.fetch decodeGroup path (Call.groupQuery groupId))
  let groups := groups.map (Call.Listed.toGroup groupId)
  modifyTree fun tree =>
    (tree.addFields (fields.filterMap ListedField.toField?) groupId).addGroups groups
  return groups

/-- Decode the labels of a field, by keys that are still texts. -/
def decodeLabels : Decoder (Dictionary String String) := fun scope document => do
  let parts ← Decoder.parts ["discreteValues"] scope document
  let labels ← parts.defaulted "discreteValues" []
    (Decoder.members Quoted.text? Decoder.text)
  return .ofList labels

/-- The key that a text stands for. -/
def keyOf (text : String) : Outcome Int64 :=
  match Number.readInt64? text.toList with
  | some key => .ok key
  | none => .error (.conversion (.discreteKey text))

/-- The labels by their keys, each of which has to be an integer. -/
def labelsOf (labels : Dictionary String String) : Outcome Labels := do
  let entries ← labels.entries.mapM fun (text, label) => return (← keyOf text, label)
  return .ofList entries

/-- Fetch the labels of a discrete field. -/
def fetchLabels (id : UInt32) (fieldId : String) : Exploration Unit := do
  let path := databasePath id (← get).tree.databaseId ++ ["fields", fieldId]
  let labels ← call (Call.fetch decodeLabels path [])
  let labels ← call (Call.ofOutcome (labelsOf labels))
  modifyTree fun tree => tree.addLabels fieldId labels

/-- Descend from some groups by a keyword for each level, and fetch every group on the way. -/
def descend (id : UInt32) : (groups : List FieldGroup) → (keywords : List String) →
    Exploration Unit
  | _, [] => return ()
  | groups, keyword :: keywords => do
    match shortestMatch? (← get).tree.searchMode FieldGroup.name keyword groups with
    | some group => descend id (← fetchGroup id (some group.id)) keywords
    | none => throw (.unknownField ("field group " ++ keyword))

/-- Fetch the root and then a group for each keyword of a path. -/
def fetchPath (id : UInt32) (keywords : List String) : Exploration Unit := do
  descend id (← fetchGroup id none) keywords

/-- The discrete fields of a tree whose labels are not known. -/
def missingLabels (tree : FieldTree) : List String :=
  (tree.fields.filter fun field => field.type = .discrete && !tree.hasLabels field.id).map Field.id

/-- Fetch all labels that are missing, and tell how many fields they belong to. -/
def fetchMissingLabels (id : UInt32) : Exploration Nat := do
  let missing := missingLabels (← get).tree
  missing.forM (fetchLabels id)
  return missing.length

end Exploration
end FlightQuery
