import FlightQuery.Json.Document

/-! Decoding of documents into values and structures.

A decoder is told where a part stands: how many lists and objects may still open around it, and
whether it is held as a value. Parts that nobody asks for are never decoded, so neither their depth
nor their content matters. -/

namespace FlightQuery

/-- Where a part of a document stands. -/
structure Scope where
  /-- How many more lists and objects may be entered. -/
  room : Nat
  /-- Whether the part is held as a value, because it stands before the type that tells its kind. A
  held part may give its names in more ways. -/
  held : Bool
  deriving DecidableEq, Repr

/-- The scope of the parts inside a list or an object. -/
def Scope.enter? : Scope → Option Scope
  | { room := 0, .. } => none
  | { room := room + 1, held } => some { room, held }

/-- The scope of a whole document, with the greatest depth of lists and objects in it. -/
def Scope.outermost : Scope where
  room := 127
  held := false

/-- A reading of documents and their parts. -/
abbrev Decoder (α : Type) := Scope → Document → Option α

namespace Decoder

mutual

/-- Decode any value. Keys ascend, and the last of equal keys stays. -/
def json : Decoder Json
  | _, .null => some .null
  | _, .bool value => some (.bool value)
  | _, .number value? => value?.map .number
  | _, .text quoted => quoted.text?.map .text
  | scope, .list items => do
    let inside ← scope.enter?
    let values ← jsonItems inside items
    return .list values
  | scope, .object members => do
    let inside ← scope.enter?
    let members ← jsonMembers inside members
    return .object (Json.sortMembers members)

/-- Decode the items of a list. -/
def jsonItems (scope : Scope) : List Document → Option (List Json)
  | [] => some []
  | item :: items => do
    let value ← json scope item
    let values ← jsonItems scope items
    return value :: values

/-- Decode the members of an object. -/
def jsonMembers (scope : Scope) : List (Quoted × Document) → Option (List (String × Json))
  | [] => some []
  | (key, item) :: members => do
    let key ← key.text?
    let value ← json scope item
    let values ← jsonMembers scope members
    return (key, value) :: values

end

/-- Decode a text. -/
def text : Decoder String
  | _, .text quoted => quoted.text?
  | _, _ => none

/-- Decode a boolean. -/
def bool : Decoder Bool
  | _, .bool value => some value
  | _, _ => none

/-- Decode an integer. -/
def int : Decoder Int
  | _, .number (some (.int value)) => some value
  | _, _ => none

/-- Decode a natural number of 32 bits. -/
def uint32 : Decoder UInt32 := fun scope document =>
  (int scope document).bind Number.toUInt32?

/-- Decode a natural number of 64 bits. -/
def uint64 : Decoder UInt64 := fun scope document =>
  (int scope document).bind fun value =>
    if 0 ≤ value then some (UInt64.ofNat value.toNat) else none

/-- Decode a value that may be null. -/
def nullable {α : Type} (decode : Decoder α) : Decoder (Option α)
  | _, .null => some none
  | scope, document => (decode scope document).map some

/-- Decode a list. -/
def list {α : Type} (decode : Decoder α) : Decoder (List α)
  | scope, .list items => scope.enter?.bind fun inside => items.mapM (decode inside)
  | _, _ => none

/-- Decode an object as its keys and values. -/
def members {α κ : Type} (key : Quoted → Option κ) (decode : Decoder α) : Decoder (List (κ × α))
  | scope, .object members => do
    let inside ← scope.enter?
    members.mapM fun (quoted, document) => do return (← key quoted, ← decode inside document)
  | _, _ => none

/-- Decode a name out of a table, written as a text. -/
def named {α : Type} (names : List (String × α)) : Decoder α := fun scope document =>
  (text scope document).bind fun name => List.lookup name names

/-- Whether a document stands for nothing: a null, or an empty object that is held. -/
def isVoid (held : Bool) : Document → Bool
  | .null => true
  | .object [] => held
  | _ => false

/-- Decode a name out of a table, written as a text or as the only key of an object, over a part
that stands for nothing. -/
def oneOf {α : Type} (names : List (String × α)) : Decoder α
  | scope, .object [(quoted, document)] => do
    let inside ← scope.enter?
    if isVoid inside.held document then named names inside (.text quoted) else none
  | scope, document => named names scope document

/-- Decode a name out of a table, written as a text or, in a held part, as its index. -/
def indexed {α : Type} (names : List (String × α)) : Decoder α := fun scope document =>
  match scope.held, document with
  | true, .number (some (.int index)) =>
    if 0 ≤ index then (names[index.toNat]?).map Prod.snd else none
  | _, _ => named names scope document

/-- An integer written in the key of an object, as a number without escapes. -/
def int64Key (quoted : Quoted) : Option Int64 := do
  let written ← quoted.text?
  if quoted.escaped then none
  else
    let (numeral, rest) ← match written.toList with
      | '-' :: rest => Document.readNumeral? true rest
      | rest => Document.readNumeral? false rest
    match rest, numeral.value? with
    | [], some (.int value) => Number.toInt64? value
    | _, _ => none

/-! ### Structures -/

/-- The parts of a structure that a document gives. -/
structure Parts where
  /-- Whether the parts stand in a list and not under their names. -/
  positional : Bool
  found : List (String × Document)
  scope : Scope

/-- The parts with the given names, each of which may be given once. Other keys are ignored. -/
def namedParts (names : List String) (scope : Scope) (members : List (Quoted × Document)) :
    Option Parts := do
  let members ← members.mapM fun (quoted, document) => do return (← quoted.text?, document)
  let found := members.filter fun (key, _) => names.contains key
  if (found.map Prod.fst).Nodup then some { positional := false, found, scope } else none

/-- The parts of a structure, given by an object or by a list in the order of the names. -/
def parts (names : List String) : Decoder Parts
  | scope, .object members => scope.enter?.bind fun inside => namedParts names inside members
  | scope, .list items => do
    let inside ← scope.enter?
    if items.length ≤ names.length then
      some { positional := true, found := names.zip items, scope := inside }
    else none
  | _, _ => none

/-- The part of a name, which has to be given. -/
def Parts.required {α : Type} (parts : Parts) (name : String) (decode : Decoder α) : Option α :=
  (parts.found.lookup name).bind (decode parts.scope)

/-- The part of a name, or a default when it is left out. -/
def Parts.defaulted {α : Type} (parts : Parts) (name : String) (default : α)
    (decode : Decoder α) : Option α :=
  match parts.found.lookup name with
  | some document => decode parts.scope document
  | none => some default

/-- The part of a name, which may be null. Only an object can leave it out. -/
def Parts.optional {α : Type} (parts : Parts) (name : String) (decode : Decoder α) :
    Option (Option α) :=
  match parts.found.lookup name with
  | some document => nullable decode parts.scope document
  | none => if parts.positional then none else some none

/-- Whether one key stands before another in an object. -/
def precedes (first second : String) : List (Quoted × Document) → Bool
  | [] => false
  | (quoted, _) :: rest =>
    if quoted.text? = some first then true
    else if quoted.text? = some second then false
    else precedes first second rest

/-- Decode a tagged value: an object with a type and a value, or a list of these two.

A value in front of its type is read before its kind is known, so all of it has to be sound, and it
is held from then on. -/
def tagged {τ α : Type} (tags : List (String × τ)) (decode : τ → Decoder α) : Decoder α :=
  fun scope document => do
    let parts ← parts ["type", "value"] scope document
    match document with
    | .object members =>
      let tag ← parts.required "type" (oneOf tags)
      if precedes "value" "type" members then
        let _ ← parts.required "value" json
        parts.required "value" fun scope => decode tag { scope with held := true }
      else parts.required "value" (decode tag)
    | _ =>
      let tag ← parts.required "type" (indexed tags)
      parts.required "value" (decode tag)

/-- Decode a text that holds one document. -/
def fromText {α : Type} (decode : Decoder α) (input : String) : Option α :=
  (Document.read? input).bind (decode .outermost)

end Decoder

mutual

/-- The document that a value is written as. -/
def Json.toDocument : Json → Document
  | .null => .null
  | .bool value => .bool value
  | .number value => .number (some value)
  | .text value => .text { text? := some value, escaped := false }
  | .list items => .list (Json.toDocuments items)
  | .object members => .object (Json.toDocumentMembers members)

/-- The documents of some values. -/
def Json.toDocuments : List Json → List Document
  | [] => []
  | item :: items => Json.toDocument item :: Json.toDocuments items

/-- The document members of some members. -/
def Json.toDocumentMembers : List (String × Json) → List (Quoted × Document)
  | [] => []
  | (key, value) :: members =>
    ({ text? := some key, escaped := false }, Json.toDocument value) ::
      Json.toDocumentMembers members

end

/-- Read a text as a value. -/
def Json.read? (input : String) : Option Json := Decoder.fromText Decoder.json input

/-- Decode a value that has already been read. -/
def Decoder.fromJson {α : Type} (decode : Decoder α) (value : Json) : Option α :=
  decode .outermost value.toDocument

end FlightQuery
