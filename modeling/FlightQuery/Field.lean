import FlightQuery.Json.Decoder

/-! Fields of a database and the closed set of their types. -/

namespace FlightQuery

/-- The data type of a field. -/
inductive FieldType where
  | boolean
  | discrete
  | number
  | text
  | dateTime
  deriving DecidableEq, Repr, Inhabited

namespace FieldType

/-- The name of a type in documents. -/
def name : FieldType → String
  | boolean => "boolean"
  | discrete => "discrete"
  | number => "number"
  | text => "string"
  | dateTime => "dateTime"

/-- The type of a name. No other name denotes a type. -/
def ofName? (name : String) : Option FieldType :=
  [boolean, discrete, number, text, dateTime].find? fun type => type.name == name

end FieldType

/-- A field of a database. -/
structure Field where
  /-- The identifier, which is opaque. -/
  id : String
  /-- The name that people use. -/
  name : String
  type : FieldType
  deriving DecidableEq, Repr, Inhabited

namespace Field

/-- Decode a field type by its name. -/
def decodeType : Decoder FieldType := fun scope document =>
  (Decoder.text scope document).bind FieldType.ofName?

/-- The field that the parts of a document give. -/
def ofParts (parts : Decoder.Parts) : Option Field := do
  let id ← parts.required "id" Decoder.text
  let name ← parts.required "name" Decoder.text
  let type ← parts.required "type" decodeType
  return { id, name, type }

/-- Decode a field. -/
def decode : Decoder Field := fun scope document =>
  (Decoder.parts ["id", "name", "type"] scope document).bind ofParts

/-- The members of a field in a document. -/
def members (field : Field) : List (String × Json) :=
  [("id", .text field.id), ("name", .text field.name), ("type", .text field.type.name)]

/-- The document of a field. -/
def toJson (field : Field) : Json := .object field.members

end Field
end FlightQuery
