import FlightQuery.Error
import FlightQuery.Search

/-! The databases of an installation. -/

namespace FlightQuery

/-- A database. -/
structure Database where
  id : String
  name : String
  /-- The group that holds it, unless it stands at the top. -/
  groupId : Option String
  deriving DecidableEq, Repr, Inhabited

namespace Database

/-- Decode a database. -/
def decode : Decoder Database := fun scope document => do
  let parts ← Decoder.parts ["id", "name", "group_id"] scope document
  let id ← parts.required "id" Decoder.text
  let name ← parts.required "name" Decoder.text
  let groupId ← parts.optional "group_id" Decoder.text
  return { id, name, groupId }

/-- The document of a database. -/
def toJson (database : Database) : Json :=
  .object [("id", .text database.id), ("name", .text database.name),
    ("group_id", .ofText? database.groupId)]

/-- The database with the shortest name that matches a keyword. -/
def pick (mode : SearchMode) (databases : List Database) (keyword : String) : Outcome Database :=
  match shortestMatch? mode Database.name keyword databases with
  | some database => .ok database
  | none => .error (.parameter (.noDatabase keyword (databases.map Database.name)))

end Database
end FlightQuery
