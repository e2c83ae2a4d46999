import FlightQuery.Aggregate
import FlightQuery.CommandLine.Arguments
import FlightQuery.Number.Reader

/-! The commands of the command line. -/

namespace FlightQuery.CommandLine

/-- The options of a query. -/
structure QueryOptions where
  metadata : String
  installation : Option String
  select : List String
  filters : List String
  aggregate : Aggregate
  top : Option UInt32
  output : Option String
  dryRun : Bool
  deriving Repr

/-- The options of the discovery of a field tree. -/
structure SchemaOptions where
  database : String
  installation : Option String
  groups : List String
  /-- Whether labels are fetched too. -/
  discrete : Bool
  /-- Whether a kept tree is ignored. -/
  refresh : Bool
  output : String
  deriving Repr

/-- The options of a change of the settings. -/
structure ConfigOptions where
  username : Option String
  password : Option String
  server : Option String
  /-- Whether the settings are only shown. -/
  «show» : Bool
  deriving Repr

/-- A command. -/
inductive Command where
  | translate (metadata expression : String)
  | fields (metadata keyword : String)
  | query (options : QueryOptions)
  | schema (options : SchemaOptions)
  | systems
  | cache (clear : Bool)
  | config (options : ConfigOptions)
  deriving Repr

namespace Command

/-- Whether a text can be a path. -/
def isPath (text : String) : Bool := text != ""

/-- A natural number of 32 bits. -/
def readCount? (text : String) : Option UInt32 :=
  (Number.readInt64? text.toList).bind fun value => Number.toUInt32? value.toInt

/-- The option of the file that holds a field tree. -/
def metadataOption : OptionForm where
  name := "metadata"
  letter := some 'm'
  accepts? := some isPath

/-- The option of an installation. -/
def installationOption : OptionForm := { name := "ems" }

/-- The option of a file to write. -/
def outputOption : OptionForm where
  name := "output"
  letter := some 'o'
  accepts? := some isPath

/-- An option without a value. -/
def flag (name : String) : OptionForm := { name, accepts? := none }

/-- The arguments of a query. -/
def queryForm : Form where
  options := [metadataOption, installationOption,
    { name := "select", letter := some 's', repeats := true },
    { name := "filter", letter := some 'f', repeats := true },
    { name := "aggregate", letter := some 'a',
      accepts? := some fun name => (Aggregate.ofName name).toOption.isSome },
    { name := "top", letter := some 't', accepts? := some fun text => (readCount? text).isSome },
    outputOption, flag "dry-run"]

/-- Read a query. -/
def readQuery (given : Given) : Except Stop Command := do
  let metadata ← given.required "metadata"
  let _ ← given.required "select"
  return .query {
    metadata
    installation := given.value? "ems"
    select := given.values "select"
    filters := given.values "filter"
    aggregate := ((given.value? "aggregate").bind fun name =>
      (Aggregate.ofName name).toOption).getD .none
    top := (given.value? "top").bind readCount?
    output := given.value? "output"
    dryRun := given.has "dry-run" }

/-- The arguments of a discovery. -/
def schemaForm : Form where
  options := [{ name := "database", letter := some 'd' }, installationOption,
    { name := "group", letter := some 'g', repeats := true }, flag "discrete", flag "refresh",
    outputOption]

/-- Read a discovery. -/
def readSchema (given : Given) : Except Stop Command := do
  return .schema {
    database := ← given.required "database"
    installation := given.value? "ems"
    groups := given.values "group"
    discrete := given.has "discrete"
    refresh := given.has "refresh"
    output := ← given.required "output" }

/-- The arguments of a change of the settings. -/
def configForm : Form where
  options := [{ name := "username", letter := some 'u' },
    { name := "password", letter := some 'p' }, { name := "server" }, flag "show"]

/-- Read a change of the settings. -/
def readConfig (given : Given) : Except Stop Command :=
  .ok (.config {
    username := given.value? "username"
    password := given.value? "password"
    server := given.value? "server"
    «show» := given.has "show" })

/-- Read a command that works on a field tree with one word. -/
def readWord (command : (metadata word : String) → Command) (given : Given) :
    Except Stop Command := do
  let metadata ← given.required "metadata"
  match given.words with
  | [word] => return command metadata word
  | _ => throw .misuse

/-- The commands by their names: their arguments, and how these are read. -/
def forms : List (String × Form × (Given → Except Stop Command)) := [
  ("translate", { options := [metadataOption], words := 1 }, readWord .translate),
  ("fields", { options := [metadataOption], words := 1 }, readWord .fields),
  ("query", queryForm, readQuery),
  ("schema", schemaForm, readSchema),
  ("systems", { options := [] }, fun _ => .ok .systems),
  ("cache", { options := [flag "clear"] }, fun given => .ok (.cache (given.has "clear"))),
  ("config", configForm, readConfig)]

/-- Whether words name one thing that there is help about. -/
def isTopic : List String → Bool
  | [name] => name == "help" || (forms.lookup name).isSome
  | _ => false

/-- Why arguments that name no command stop. -/
def stopOf (argument : String) (rest : List String) : Stop :=
  match argument.toList with
  | '-' :: 'h' :: _ => .help
  | '-' :: 'V' :: _ => .version
  | _ =>
    if argument = "--help" then .help
    else if argument = "--version" then .version
    else if argument = "help" ∧
        (rest.isEmpty ∨ isTopic rest) then
      .help
    else .misuse

/-- Read a command. -/
def read : List String → Except Stop Command
  | [] => .error .misuse
  | name :: rest =>
    match forms.lookup name with
    | some (form, command) => do command (← readArguments form {} rest)
    | none => .error (stopOf name rest)

/-- The paths that a command reads from or writes to. -/
def paths : Command → List String
  | .translate metadata _ => [metadata]
  | .fields metadata _ => [metadata]
  | .query options => options.metadata :: options.output.toList
  | .schema options => [options.output]
  | .systems => []
  | .cache _ => []
  | .config _ => []

end Command
end FlightQuery.CommandLine
