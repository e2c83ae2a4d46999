import FlightQuery.Dictionary
import FlightQuery.Error
import FlightQuery.Search

/-! The schema of a database: groups, fields, and the labels of discrete fields. -/

namespace FlightQuery

/-- The lookups by which names and labels become identifiers and keys. -/
structure Store where
  /-- The field that a keyword denotes. -/
  searchField : (keyword : String) → Outcome Field
  /-- The key of a label of a discrete field. -/
  valueKey : (label fieldId : String) → Outcome Int64
  /-- The label of a key of a discrete field, when it is known. -/
  valueLabel? : (fieldId : String) → (key : Int64) → Option String

namespace Store

/-- The store that knows no labels of keys. -/
def unlabelled (store : Store) : Store :=
  { store with valueLabel? := fun _ _ => none }

/-- The store that refuses to look up any field, for a reason made from the keyword. -/
def refusing (store : Store) (reason : String → String) : Store :=
  { store with
    searchField := fun keyword => .error (.parameter (.told (reason keyword))) }

end Store

/-- A group of fields. -/
structure FieldGroup where
  id : String
  name : String
  /-- The group that holds it, unless it stands at the root. -/
  parentId : Option String
  deriving DecidableEq, Repr, Inhabited

/-- A field and the group that holds it. -/
structure FieldEntry where
  field : Field
  parentId : Option String
  deriving DecidableEq, Repr, Inhabited

/-- The labels of the keys of one discrete field. -/
abbrev Labels := Dictionary Int64 String

/-- The schema of a database as far as it is known. -/
structure FieldTree where
  databaseId : String
  searchMode : SearchMode := .contain
  groups : List FieldGroup := []
  entries : List FieldEntry := []
  /-- The labels of those discrete fields whose labels are known. -/
  labels : Dictionary String Labels := .empty
  deriving DecidableEq, Repr, Inhabited

namespace FieldTree

/-- The fields in their order. -/
def fields (tree : FieldTree) : List Field := tree.entries.map FieldEntry.field

/-- Whether no group and no field is known. -/
def isEmpty (tree : FieldTree) : Bool := tree.entries.isEmpty && tree.groups.isEmpty

/-- Append an item in place of all items with its identifier. -/
def replace {α : Type} (id : α → String) (items : List α) (item : α) : List α :=
  items.filter (fun other => id other != id item) ++ [item]

/-- Append items one after the other, each in place of those with its identifier. -/
def replaceAll {α : Type} (id : α → String) (items added : List α) : List α :=
  added.foldl (replace id) items

/-- Add fields to a group, or to the root. -/
def addFields (tree : FieldTree) (fields : List Field) (parentId : Option String) : FieldTree :=
  { tree with
    entries := replaceAll (fun entry => entry.field.id) tree.entries
      (fields.map fun field => { field, parentId }) }

/-- Add groups. -/
def addGroups (tree : FieldTree) (groups : List FieldGroup) : FieldTree :=
  { tree with groups := replaceAll FieldGroup.id tree.groups groups }

/-- Set the labels of a discrete field. -/
def addLabels (tree : FieldTree) (fieldId : String) (labels : Labels) : FieldTree :=
  { tree with labels := tree.labels.insert fieldId labels }

/-- Whether the labels of a field are known. -/
def hasLabels (tree : FieldTree) (fieldId : String) : Bool := tree.labels.contains fieldId

/-- All fields whose names match a keyword. -/
def searchFields (tree : FieldTree) (keyword : String) : List Field :=
  tree.fields.filter fun field => tree.searchMode.accepts field.name keyword

/-- The field with the shortest name that matches a keyword. -/
def searchField (tree : FieldTree) (keyword : String) : Outcome Field :=
  match shortestMatch? tree.searchMode Field.name keyword tree.fields with
  | some field => .ok field
  | none => .error (.unknownField keyword)

/-- Whether a parent is among the groups reached so far. Nothing is asked before the first group. -/
def isBelow (parents : Option (List String)) (parentId : Option String) : Bool :=
  match parents, parentId with
  | none, _ => true
  | some ids, some id => ids.contains id
  | some _, none => false

/-- The groups that are reached from others by a keyword for each level. -/
def descend (tree : FieldTree) : (parents : Option (List String)) → (keywords : List String) →
    Option (List String)
  | parents, [] => parents
  | parents, keyword :: keywords =>
    let reached := tree.groups.filter fun group =>
      isBelow parents group.parentId && tree.searchMode.accepts group.name keyword
    descend tree (some (reached.map FieldGroup.id)) keywords

/-- The field with the shortest name that matches the last keyword of a path, below groups that
match the keywords before it. -/
def searchPath (tree : FieldTree) (path : List String) : Outcome Field :=
  match path.getLast? with
  | none => .error (.parameter .emptyPath)
  | some keyword =>
    let parents := tree.descend none path.dropLast
    let below := tree.entries.filter fun entry => isBelow parents entry.parentId
    match shortestMatch? tree.searchMode Field.name keyword (below.map FieldEntry.field) with
    | some field => .ok field
    | none => .error (.unknownField (" / ".intercalate path))

/-- The least key with a label. -/
def keyOfLabel? (labels : Labels) (label : String) : Option Int64 :=
  (labels.entries.find? fun entry => entry.2 == label).map Prod.fst

/-- The key of a label of a discrete field. -/
def valueKey (tree : FieldTree) (label fieldId : String) : Outcome Int64 :=
  match tree.labels.find? fieldId with
  | none => .error (.valuesNotLoaded fieldId)
  | some labels =>
    match keyOfLabel? labels label with
    | some key => .ok key
    | none => .error (.unmappedValue label fieldId)

/-- The label of a key of a discrete field. -/
def valueLabel? (tree : FieldTree) (fieldId : String) (key : Int64) : Option String :=
  (tree.labels.find? fieldId).bind fun labels => labels.find? key

/-- The lookups in a tree. -/
def toStore (tree : FieldTree) : Store where
  searchField := tree.searchField
  valueKey := tree.valueKey
  valueLabel? := tree.valueLabel?

end FieldTree
end FlightQuery
