import FlightQuery.Database
import FlightQuery.FieldTree.Document
import FlightQuery.Installation
import FlightQuery.Query
import FlightQuery.Session
import FlightQuery.Table

/-! What a server offers: installations, their databases, and the results of queries. -/

namespace FlightQuery

namespace Call

/-- The segments that all addresses of installations start with. -/
def installationsPath : List String := ["v2", "ems-systems"]

/-- The segments that all addresses of an installation start with. -/
def installationPath (id : UInt32) : List String := installationsPath ++ [id.toNat.repr]

/-- The installations that a server gives access to. -/
def installations : Call (List Installation) :=
  fetch (Decoder.list Installation.decode) installationsPath []

/-- The installation of a name. A number is the identifier itself. -/
def installationId (name : Option String) : Call UInt32 := do
  match name.bind fun name => Number.readUInt32? (Text.trim name.toList) with
  | some id => return id
  | none => ofOutcome (Installation.choose (← installations) name)

/-- A listed item: its identifier and its name. -/
structure Listed where
  id : String
  name : String
  deriving DecidableEq, Repr

/-- Decode a listed item whose name stands under the given key. -/
def Listed.decode (nameKey : String) : Decoder Listed := fun scope document => do
  let parts ← Decoder.parts ["id", nameKey] scope document
  let id ← parts.required "id" Decoder.text
  let name ← parts.required nameKey Decoder.text
  return { id, name }

/-- The group that a listed item is, below the group that was listed. -/
def Listed.toGroup (parentId : Option String) (item : Listed) : FieldGroup :=
  { id := item.id, name := item.name, parentId }

/-- The pairs of a query for a group, or for the top without one. -/
def groupQuery : (groupId : Option String) → List (String × String)
  | some id => [("groupId", id)]
  | none => []

/-- Decode the databases and the groups of a group. -/
def decodeDatabases : Decoder (List Listed × List Listed) := fun scope document => do
  let parts ← Decoder.parts ["databases", "groups"] scope document
  let databases ← parts.defaulted "databases" [] (Decoder.list (Listed.decode "pluralName"))
  let groups ← parts.defaulted "groups" [] (Decoder.list (Listed.decode "name"))
  return (databases, groups)

/-- The databases and the groups of a group, or of the top. -/
def listDatabases (id : UInt32) (groupId : Option String) :
    Call (List Database × List FieldGroup) := do
  let (databases, groups) ←
    fetch decodeDatabases (installationPath id ++ ["database-groups"]) (groupQuery groupId)
  return (databases.map fun item => { id := item.id, name := item.name, groupId },
    groups.map (Listed.toGroup groupId))

/-- List groups and the groups found in them, the first found first, and collect the databases.
Every listing uses up what the server does with one request at least, so that as many listings as
there are such events, and one that fails, are enough. -/
def collectDatabases (id : UInt32) : (listings : Nat) → (groups : List (Option String)) →
    (found : List Database) → Call (List Database)
  | _, [], found => return found
  | 0, _ :: _, _ => throw .transport
  | listings + 1, group :: groups, found => do
    let (databases, subgroups) ← listDatabases id group
    collectDatabases id listings (groups ++ subgroups.map fun subgroup => some subgroup.id)
      (found ++ databases)

/-- The identifier of the database with the given name. An identifier in brackets is taken as it
is. -/
def findDatabase (id : UInt32) (mode : SearchMode) (name : String) : Call String := do
  if name.toList.head? = some '[' then return name
  else
    let databases ← collectDatabases id ((← get).server.length + 1) [none] []
    return (← ofOutcome (Database.pick mode databases name)).id

end Call

namespace Query

/-- The greatest number of rows that the server returns for a simple query. -/
def greatestRowCount : Nat := 25000

/-- Submit a query and take the content of the response as it is. -/
def submit (installationId : UInt32) (databaseId : String) (query : Query) : Call Json := do
  let response ← Call.request "POST"
    (Call.installationPath installationId ++ ["databases", databaseId, "query"]) []
    (some query.querySet.toJson)
  return response.content

/-- Submit a query and read the response as a table. -/
def fetchTable (store : Store) (installationId : UInt32) (databaseId : String) (query : Query) :
    Call Table := do
  let response ← query.submit installationId databaseId
  Call.ofOutcome (Table.ofJson store query.columns response)

end Query
end FlightQuery
