import FlightQuery.CommandLine.Run

/-! The program: the command line on the disk of the machine it runs on. -/

namespace FlightQuery.Program

/-- The folder that the machine names, if this is an absolute path, or else one below the home
folder. -/
def baseFolder (name fallback : String) : IO Place := do
  match (← IO.getEnv name).filter fun path => path.startsWith "/" with
  | some path => return Place.names path
  | none => return Place.names ((← IO.getEnv "HOME").getD "") ++ [fallback]

/-- Where things are kept on this machine. -/
def environment : IO CommandLine.Environment := do
  return {
    settingsFolder := (← baseFolder "XDG_CONFIG_HOME" ".config") ++ ["ems"]
    cacheFolder := (← baseFolder "XDG_CACHE_HOME" ".cache") ++ ["ems"]
    workFolder := Place.names (← IO.currentDir).toString }

/-- Whether a folder stands at a place. -/
def isFolder (place : Place) : IO Bool := do ((← IO.currentDir) / (place.text ++ "/")).isDir

/-- The content of some bytes. -/
def contentOf (bytes : ByteArray) : Content :=
  match File.ofBytes bytes with
  | .text content => .text content
  | _ => .binary bytes.size

/-- A disk with a folder, unless a file stands in its way. -/
def withFolder (disk : Disk) (place : Place) : Disk := (disk.addFolders place).toOption.getD disk

/-- A disk with the file at a place, if there is one. -/
def addFile (disk : Disk) (place : Place) : IO Disk := do
  try
    let content := contentOf (← IO.FS.readBinFile place.text)
    return ((withFolder disk place.parent).write 0 place content).toOption.getD disk
  catch _ => return disk

/-- A disk with a folder and the files in it, if there is such a folder. -/
def addFolder (disk : Disk) (place : Place) : IO Disk := do
  if ← isFolder place then
    let entries ← ((← IO.currentDir) / place.text).readDir
    entries.foldlM (fun disk entry => addFile disk (place ++ [entry.fileName]))
      (withFolder disk place)
  else return disk

/-- A disk with what the names of a path lead to from a folder. -/
def addPath (disk : Disk) (place : Place) : List String → IO Disk
  | [] => do if ← isFolder place then return withFolder disk place else addFile disk place
  | name :: names => do
    if ← isFolder place then
      let disk := withFolder disk place
      if name = "" ∨ name = "." then addPath disk place names
      else if name = ".." then addPath disk (if place.length ≤ 1 then place else place.parent) names
      else addPath disk (place ++ [name]) names
    else return disk

/-- The part of the disk that a command works on. -/
def load (environment : CommandLine.Environment) (paths : List String) : IO Disk := do
  let disk ← addFile {} environment.settingsFile
  let disk ← addFolder disk environment.cacheFolder
  paths.foldlM (fun disk path =>
    match Place.names path with
    | "" :: names => addPath disk [""] names
    | names => addPath disk environment.workFolder names) disk

/-- Write a file. -/
def save (path : String) : Content → IO Unit
  | .text content => IO.FS.writeFile path content
  | .binary _ => return ()
  | .packed _ => return ()

/-- Whether a file holds the given text. -/
def holds (stored : Option Content) (content : Content) : Bool :=
  match stored, content with
  | some (.text before), .text after => before == after
  | _, _ => false

/-- Write what a command has changed. -/
def store (before after : Disk) : IO Unit := do
  for (folder, _) in after.folders.entries do
    if folder ≠ "" then IO.FS.createDirAll folder
  for (path, content) in after.contents do
    if !holds (before.contents.lookup path) content then save path content
  for (path, _) in before.contents do
    if (after.contents.lookup path).isNone then IO.FS.removeFile path

/-- Run the arguments. No server is within reach of the program. -/
def run (arguments : List String) : IO UInt32 := do
  let environment ← environment
  let paths := match CommandLine.Command.read arguments with
    | .ok command => command.paths
    | .error _ => []
  let disk ← load environment paths
  let (ending, shell) := CommandLine.run environment arguments { disk }
  store disk shell.disk
  IO.print shell.output
  match ending with
  | .failed error => IO.eprintln ("Error: " ++ error.message)
  | _ => pure ()
  return UInt32.ofNat ending.status

end FlightQuery.Program

/-- The program. -/
def main (arguments : List String) : IO UInt32 := FlightQuery.Program.run arguments
