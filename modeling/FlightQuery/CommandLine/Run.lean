import FlightQuery.Cache
import FlightQuery.CommandLine.Command
import FlightQuery.CommandLine.Shell
import FlightQuery.FieldTree.Discovery
import FlightQuery.Session.Lookup
import FlightQuery.Table

/-! The commands and what they do. -/

namespace FlightQuery.CommandLine

open Activity

/-- The version that is told. -/
def versionLine : String := "ems 0.3.0\n"

/-- Print the filter of an expression. -/
def translate (metadata expression : String) : Activity Unit := do
  let tree ← loadTree metadata
  let filter ← ofOutcome (Filter.ofExpression tree.toStore expression)
  printLine filter.toJson.indented

/-- Print the field that a keyword denotes. -/
def fields (metadata keyword : String) : Activity Unit := do
  let tree ← loadTree metadata
  let field ← ofOutcome (tree.searchField keyword)
  printLine (field.name ++ " (" ++ field.type.name ++ ")")
  printLine ("  " ++ field.id)

/-- The operations that options ask for. -/
def QueryOptions.operations (options : QueryOptions) : List Query.Operation :=
  [.select options.select options.aggregate] ++
    options.filters.map (fun expression => .filter expression .all) ++
    match options.top with
    | some count => [.top count]
    | none => []

/-- The query that options ask for, unless one of the operations fails. -/
def QueryOptions.query (options : QueryOptions) (store : Store) : Outcome Query :=
  options.operations.foldlM
    (fun query operation => do return (← query.attempt store operation).2) {}

/-- What a table is shown by on the screen, where its lines are left open. -/
def tableMark : String := "<table>"

/-- The number of rows that are shown on the screen. -/
def shownRows : Nat := 10

/-- The content of a file for a table, which depends on the extension of its path. -/
def tableContent (path : String) (table : Table) : Content :=
  if Place.extension? (Place.name (Place.names path)) = some "parquet" then .packed table
  else .text table.toSeparated

/-- Print or save a table. -/
def present (output : Option String) (table : Table) : Activity Unit := do
  printLine ("Retrieved " ++ table.height.repr ++ " rows")
  if table.height = 0 then printLine "No flights matched."
  else
    match output with
    | some path =>
      write path (tableContent path table)
      printLine ("Saved to " ++ path)
    | none =>
      printLine ("\n" ++ tableMark)
      if shownRows < table.height then
        printLine ("... (" ++ (table.height - shownRows).repr ++ " more rows)")

/-- Run a query, or print it. -/
def query (options : QueryOptions) : Activity Unit := do
  let tree ← loadTree options.metadata
  let store := tree.toStore
  if options.dryRun then
    let query ← ofOutcome (options.query store)
    printLine query.querySet.toJson.indented
  else
    let table ← inSession do
      let id ← Call.installationId options.installation
      let query ← Call.ofOutcome (options.query store)
      query.fetchTable store id tree.databaseId
    present options.output table

/-- What the discovery of a field tree results in. -/
structure Survey where
  key : CacheKey
  tree : FieldTree
  /-- How many fields had their labels fetched, if labels were asked for. -/
  labelled : Option Nat

/-- Explore from a tree, and tell what it has grown to. -/
def explore {α : Type} (tree : FieldTree) (exploration : Exploration α) : Call (α × FieldTree) :=
  fun session =>
    let (outcome, discovery) := exploration.run { tree, session }
    (outcome.map fun value => (value, discovery.tree), discovery.session)

/-- Fetch what options ask for. -/
def SchemaOptions.exploration (options : SchemaOptions) (id : UInt32) :
    Exploration (Option Nat) := do
  Exploration.fetchPath id options.groups
  if options.discrete then return some (← Exploration.fetchMissingLabels id) else return none

/-- Discover a field tree, starting with a kept tree if there is one. -/
def SchemaOptions.survey (options : SchemaOptions) (kept? : CacheKey → Option FieldTree) :
    Call Survey := do
  let installationId ← Call.installationId options.installation
  let databaseId ← Call.findDatabase installationId .contain options.database
  let key : CacheKey := { root := (← get).root, installationId, databaseId }
  let kept := if options.refresh then none else kept? key
  let (labelled, tree) ←
    explore (kept.getD { databaseId }) (options.exploration installationId)
  return { key, tree, labelled }

/-- Discover a field tree, and keep and save it. -/
def schema (options : SchemaOptions) : Activity Unit := do
  let cache ← cache
  let shell ← get
  let survey ← inSession (options.survey fun key => (cache.get shell.diskTime none key).1)
  match survey.labelled with
  | some count => printLine ("Fetched value maps of " ++ count.repr ++ " discrete fields")
  | none => pure ()
  keep { survey.key with databaseId := survey.tree.databaseId } survey.tree
  write options.output (.text survey.tree.save)
  printLine ("Saved " ++ survey.tree.fields.length.repr ++ " fields of " ++
    survey.key.databaseId ++ " to " ++ options.output)

/-- A number with blanks in front of it. -/
def padded (width : Nat) (number : Nat) : String :=
  String.ofList (List.replicate (width - number.repr.length) ' ') ++ number.repr

/-- Print the installations. -/
def systems : Activity Unit := do
  for installation in ← inSession Call.installations do
    printLine (padded 4 installation.id.toNat ++ "  " ++ installation.name ++ "  " ++
      installation.description.getD "")

/-- Print what the cache amounts to, or clear it. -/
def runCache (clear : Bool) : Activity Unit := do
  let cache ← cache
  if clear then
    let (count, cache) := cache.clear
    setCache cache
    printLine ("Removed " ++ count.repr ++ " cached field trees.")
  else
    let stats := cache.stats
    let place := (← read).cacheFolder
    printLine ("Cache directory: " ++ if stats.present then place.text else "")
    printLine ("  Field trees: " ++ stats.files.repr)
    printLine ("  Size: " ++ sizeText stats.size)

/-- Print settings. -/
def showSettings (settings : Settings) : Activity Unit := do
  printLine ("EMS Configuration (" ++ (← read).settingsFile.text ++ "):")
  printLine ("  Username: " ++ settings.username.getD "")
  printLine ("  Password: " ++ if settings.password.isSome then "********" else "(not set)")
  printLine ("  Server: " ++ match settings.root with
    | .ok root => root
    | .error error => error.message)
  printLine ("  Max trials: " ++ settings.trials.repr)

/-- Make a settings file if there is none. -/
def createSettings : Activity Unit := do
  let place := (← read).settingsFile
  if (← get).disk.find place = .missing then
    writeSettings SettingsFile.template
    printLine ("Created " ++ place.text)
  printLine "Use --username and --password to set credentials, or --show to view."

/-- The settings with those that options set. A server has to be known. -/
def ConfigOptions.update (options : ConfigOptions) (settings : Settings) : Outcome Settings := do
  let settings := { settings with
    username := options.username.orElse fun _ => settings.username
    password := options.password.orElse fun _ => settings.password
    server := options.server.orElse fun _ => settings.server }
  if options.server.isSome then
    let _ ← settings.root
  return settings

/-- Show or change the settings. -/
def config (options : ConfigOptions) : Activity Unit := do
  if options.show then
    match ← settings with
    | .ok settings => showSettings settings
    | .error _ => printLine "No configuration found. Use --username and --password to set."
  else if options.username.isNone && options.password.isNone && options.server.isNone then
    createSettings
  else
    let settings ← ofOutcome (options.update ((← settings).toOption.getD {}))
    writeSettings (SettingsFile.save settings)
    printLine "Configuration saved."

/-- What a command does. -/
def Command.activity : Command → Activity Unit
  | .translate metadata expression => CommandLine.translate metadata expression
  | .fields metadata keyword => CommandLine.fields metadata keyword
  | .query options => CommandLine.query options
  | .schema options => CommandLine.schema options
  | .systems => CommandLine.systems
  | .cache clear => runCache clear
  | .config options => CommandLine.config options

/-- How a run ends. -/
inductive Ending where
  | done
  | failed (error : Error)
  | misused
  deriving DecidableEq, Repr

/-- The number that a program ends with. -/
def Ending.status : Ending → Nat
  | done => 0
  | failed _ => 1
  | misused => 2

/-- Run arguments. The output starts anew with them. -/
def run (environment : Environment) (arguments : List String) (shell : Shell) : Ending × Shell :=
  let shell := { shell with output := "" }
  match Command.read arguments with
  | .error .misuse => (.misused, shell)
  | .error .help => (.done, shell)
  | .error .version => (.done, { shell with output := versionLine })
  | .ok command =>
    match ((command.activity environment).run shell : Outcome Unit × Shell) with
    | (.ok _, shell) => (.done, shell)
    | (.error error, shell) => (.failed error, shell)

end FlightQuery.CommandLine
