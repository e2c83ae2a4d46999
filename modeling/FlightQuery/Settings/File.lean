import FlightQuery.Disk
import FlightQuery.Number.Reader
import FlightQuery.Settings
import FlightQuery.Text.Blank
import FlightQuery.Text.LowerCase

/-! Settings files, which hold keys with values in sections. -/

namespace FlightQuery.SettingsFile

/-- A key of a section with its value. A key without a delimiter has no value. -/
structure Entry where
  heading : String
  key : String
  value : Option String
  deriving DecidableEq, Repr

/-- The section of keys that stand before every section. -/
def defaultSection : String := "default"

/-- A fault in a line. -/
inductive LineFault where
  | emptyKey
  | openSection
  deriving DecidableEq, Repr

/-- What a line says. -/
inductive Line where
  | blank
  | heading (name : String)
  | entry (key : String) (value : Option String)
  deriving DecidableEq, Repr

/-- Whether a character starts a comment. -/
def startsComment (c : Char) : Bool := c == ';' || c == '#'

/-- Whether a character stands between a key and its value. -/
def isDelimiter (c : Char) : Bool := c == '=' || c == ':'

/-- A name of a section or a key, which is trimmed and in lower case. -/
def nameOf (text : List Char) : String := String.ofList (Text.lower (Text.trim text))

/-- The part of a line in front of its comment. -/
def content (line : List Char) : List Char :=
  Text.trim ((Text.trim line).takeWhile fun c => !startsComment c)

/-- Read a line. A heading ends at its last closing bracket. -/
def readLine (line : List Char) : Except LineFault Line :=
  match content line with
  | [] => .ok .blank
  | '[' :: rest =>
    if rest.contains ']' then
      .ok (.heading (nameOf ((rest.reverse.dropWhile (· != ']')).drop 1).reverse))
    else .error .openSection
  | text =>
    match text.dropWhile fun c => !isDelimiter c with
    | [] => .ok (.entry (nameOf text) none)
    | _ :: value =>
      match Text.trim (text.takeWhile fun c => !isDelimiter c) with
      | [] => .error .emptyKey
      | key =>
        .ok (.entry (String.ofList (Text.lower key)) (some (String.ofList (Text.trim value))))

/-- Split a text into lines. -/
def splitLines (text : List Char) : List (List Char) := text.splitOn '\n'

/-- Read lines, the first of which has the given number and stands in the given section. A fault is
told with the number of its line. -/
def readLines (number : Nat) (heading : String) :
    List (List Char) → Except (LineFault × Nat) (List Entry)
  | [] => .ok []
  | line :: lines =>
    match readLine line with
    | .error fault => .error (fault, number)
    | .ok .blank => readLines (number + 1) heading lines
    | .ok (.heading heading) => readLines (number + 1) heading lines
    | .ok (.entry key value) => do
      let entries ← readLines (number + 1) heading lines
      return { heading := heading, key, value } :: entries

/-- The entries of a settings file. -/
def entries (path text : String) : Outcome (List Entry) :=
  match readLines 1 defaultSection (splitLines text.toList) with
  | .ok entries => .ok entries
  | .error (.emptyKey, number) => .error (.settings (.emptyKey path number))
  | .error (.openSection, number) => .error (.settings (.openSection path number))

/-- The value of a setting: the last one counts, and an empty one is none. -/
def value? (entries : List Entry) (key : String) : Option String :=
  let last? := entries.reverse.find? fun entry =>
    entry.heading == defaultSection && entry.key == key
  (last?.bind Entry.value).filter fun value => value != ""

/-- The greatest number of trials. -/
def maxTrials (entries : List Entry) : Outcome (Option UInt32) :=
  match value? entries "max_trials" with
  | none => .ok none
  | some value =>
    match Number.readUInt32? value.toList with
    | some trials => .ok (some trials)
    | none => .error (.settings (.maxTrials value))

/-- The settings of a text, of which a path tells the place. -/
def read (path text : String) : Outcome Settings := do
  let entries ← entries path text
  return {
    username := value? entries "username"
    password := value? entries "password"
    server := value? entries "server"
    serverUrl := value? entries "server_url"
    maxTrials := ← maxTrials entries }

/-- The settings of a file. -/
def load (path : String) : File → Outcome Settings
  | .missing => .error (.settings (.fileMissing path))
  | .folder => .error (.settings (.fileIsFolder path))
  | .binary => .error (.settings (.fileNotText path))
  | .text content => read path content

/-- The keys with their values. -/
def pairs (settings : Settings) : List (String × Option String) := [
  ("username", settings.username),
  ("password", settings.password),
  ("server", settings.server),
  ("server_url", settings.serverUrl),
  ("max_trials", settings.maxTrials.map fun trials => trials.toNat.repr)]

/-- The text of settings, each on a line of its own. -/
def save (settings : Settings) : String :=
  String.join ((pairs settings).map fun (key, value) => key ++ "=" ++ value.getD "" ++ "\n")

/-- The settings file that is made when there is none. -/
def template : String :=
  "[default]\nusername =\npassword =\nserver = prod\nserver_url =\nmax_trials = 3\n"

end FlightQuery.SettingsFile
