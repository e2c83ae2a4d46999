/-! The arguments of a command: options and words. -/

namespace FlightQuery.CommandLine

/-- Why arguments are no command. -/
inductive Stop where
  /-- The arguments are not understood. -/
  | misuse
  /-- Help is asked for. -/
  | help
  /-- The version is asked for. -/
  | version
  deriving DecidableEq, Repr

/-- An option of a command. -/
structure OptionForm where
  name : String
  letter : Option Char := none
  /-- The test of its values, if it has values. -/
  accepts? : Option (String → Bool) := some fun _ => true
  /-- Whether it may be given more than once. -/
  repeats : Bool := false

/-- The options of a command, and the number of its words. -/
structure Form where
  options : List OptionForm
  words : Nat := 0

/-- The options and words that are given, in their order. -/
structure Given where
  options : List (String × String) := []
  words : List String := []
  deriving DecidableEq, Repr

namespace Given

/-- The values of an option. -/
def values (given : Given) (name : String) : List String :=
  (given.options.filter fun option => option.1 == name).map Prod.snd

/-- The value of an option. -/
def value? (given : Given) (name : String) : Option String := (given.values name).head?

/-- Whether an option is given. -/
def has (given : Given) (name : String) : Bool := (given.value? name).isSome

/-- The value of an option that has to be given. -/
def required (given : Given) (name : String) : Except Stop String :=
  match given.value? name with
  | some value => .ok value
  | none => .error .misuse

/-- Take a further word. -/
def addWord (form : Form) (word : String) (given : Given) : Except Stop Given :=
  if given.words.length < form.words then .ok { given with words := given.words ++ [word] }
  else .error .misuse

/-- Take further words, all that are left. -/
def addWords (form : Form) (words : List String) (given : Given) : Except Stop Given :=
  words.foldlM (fun given word => given.addWord form word) given

/-- Take an option with its value. -/
def addOption (option : OptionForm) (value : String) (given : Given) : Except Stop Given :=
  let accepted := match option.accepts? with
    | some accepts => accepts value
    | none => true
  if accepted && (option.repeats || !given.has option.name) then
    .ok { given with options := given.options ++ [(option.name, value)] }
  else .error .misuse

end Given

/-- Whether an argument is an option by its first character. -/
def isOption (argument : String) : Bool :=
  match argument.toList with
  | '-' :: _ :: _ => true
  | _ => false

/-- An option as it is written: by its name or by its letter, perhaps with a value attached. -/
structure Mention where
  option : OptionForm
  attached? : Option String

/-- The option of an argument. -/
def mention (form : Form) (argument : String) : Except Stop Mention :=
  match argument.toList with
  | '-' :: '-' :: rest =>
    let name := String.ofList (rest.takeWhile (· != '='))
    let attached? := match rest.dropWhile (· != '=') with
      | _ :: value => some (String.ofList value)
      | [] => none
    match form.options.find? fun option => option.name == name with
    | some option => .ok { option, attached? }
    | none => .error (if name = "help" ∧ attached? = none then .help else .misuse)
  | _ :: letter :: rest =>
    let attached? := match rest with
      | [] => none
      | '=' :: value => some (String.ofList value)
      | value => some (String.ofList value)
    match form.options.find? fun option => option.letter == some letter with
    | some option => .ok { option, attached? }
    | none => .error (if letter = 'h' then .help else .misuse)
  | _ => .error .misuse

/-- Read arguments one after the other. -/
def readArguments (form : Form) (given : Given) : List String → Except Stop Given
  | [] => .ok given
  | "--" :: words => given.addWords form words
  | argument :: rest =>
    if !isOption argument then do readArguments form (← given.addWord form argument) rest
    else
      match mention form argument with
      | .error stop => .error stop
      | .ok { option, attached? } =>
        match option.accepts?, attached?, rest with
        | none, none, rest => do readArguments form (← given.addOption option "") rest
        | none, some _, _ => .error .misuse
        | some _, some value, rest => do readArguments form (← given.addOption option value) rest
        | some _, none, value :: rest =>
          if isOption value then .error .misuse
          else do readArguments form (← given.addOption option value) rest
        | some _, none, [] => .error .misuse

end FlightQuery.CommandLine
