import FlightQuery.Cache
import FlightQuery.Session
import FlightQuery.Settings.File

/-! The surroundings of a command: the disk, the server, and what is printed. -/

namespace FlightQuery.CommandLine

/-- Where things are kept on the disk. -/
structure Environment where
  /-- The folder of the settings file. -/
  settingsFolder : Place
  /-- The folder of the cache. -/
  cacheFolder : Place
  /-- The folder that paths start at. -/
  workFolder : Place
  deriving DecidableEq, Repr

/-- The name of the settings file. -/
def settingsName : String := "settings.conf"

/-- The place of the settings file. -/
def Environment.settingsFile (environment : Environment) : Place :=
  environment.settingsFolder ++ [settingsName]

/-- What commands work on, and what they have printed. -/
structure Shell where
  disk : Disk
  server : Server := .unreachable
  /-- The time in milliseconds. -/
  now : Int := 0
  /-- What has been sent so far. -/
  exchanges : List Exchange := []
  output : String := ""

/-- The time as the disk tells it, in nanoseconds. -/
def Shell.diskTime (shell : Shell) : Int := 1000000 * shell.now

/-- A part of a command, which can change its surroundings even if it fails. -/
abbrev Activity (α : Type) := ReaderT Environment (ExceptT Error (StateM Shell)) α

namespace Activity

/-- What comes of an outcome. -/
def ofOutcome {α : Type} (outcome : Outcome α) : Activity α := fun _ => ExceptT.mk (pure outcome)

/-- Print a text. -/
def print (text : String) : Activity Unit :=
  modify fun shell => { shell with output := shell.output ++ text }

/-- Print a line. -/
def printLine (line : String) : Activity Unit := print (line ++ "\n")

/-- Set the disk. -/
def setDisk (disk : Disk) : Activity Unit := modify fun shell => { shell with disk }

/-- What is found at a path. -/
def find (path : String) : Activity File := do
  let disk := (← get).disk
  match disk.resolve? (← read).workFolder path with
  | some place => return disk.find place
  | none => return .missing

/-- Write a file at a place. -/
def writeAt (place : Place) (content : Content) : Activity Unit := do
  let shell ← get
  setDisk (← ofOutcome (shell.disk.write shell.diskTime place content))

/-- Write a file at a path. -/
def write (path : String) (content : Content) : Activity Unit := do
  match (← get).disk.resolve? (← read).workFolder path with
  | some place => writeAt place content
  | none => throw .storage

/-- Load a field tree from a path. -/
def loadTree (path : String) : Activity FieldTree := do
  ofOutcome (FieldTree.ofFile (← find path))

/-- The settings of the settings file. -/
def settings : Activity (Outcome Settings) := do
  let place := (← read).settingsFile
  return SettingsFile.load place.text ((← get).disk.find place)

/-- Write a file into a folder, making the folder first if there is none. -/
def writeIn (folder : Place) (name : String) (content : Content) : Activity Unit := do
  setDisk (← ofOutcome ((← get).disk.addFolders folder))
  writeAt (folder ++ [name]) content

/-- Write the settings file. -/
def writeSettings (content : String) : Activity Unit := do
  writeIn (← read).settingsFolder settingsName (.text content)

/-- The cache. -/
def cache : Activity Cache := do return (← get).disk.folder? (← read).cacheFolder

/-- Set the cache, unless there is none. -/
def setCache (cache : Cache) : Activity Unit := do
  let place := (← read).cacheFolder
  match cache with
  | some folder => setDisk ((← get).disk.setFolder place folder)
  | none => return ()

/-- Keep a tree in its file of the cache. -/
def keep (key : CacheKey) (tree : FieldTree) : Activity Unit := do
  writeIn (← read).cacheFolder key.file (.text tree.save)

/-- Make a call in a new session. -/
def inSession {α : Type} (call : Call α) : Activity α := do
  let settings ← ofOutcome (← settings)
  let shell ← get
  let session ← ofOutcome (Session.start settings shell.server shell.now)
  let (outcome, session) := call.run session
  modify fun shell => { shell with
    server := session.server
    now := session.now
    exchanges := shell.exchanges ++ session.exchanges }
  ofOutcome outcome

end Activity
end FlightQuery.CommandLine
