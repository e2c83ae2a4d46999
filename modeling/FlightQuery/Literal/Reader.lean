import FlightQuery.Error
import FlightQuery.Literal
import FlightQuery.Number.Reader
import FlightQuery.Text.Alphanumeric
import FlightQuery.Text.Blank

/-! The reader of literals. Nothing in a literal is ever evaluated. -/

namespace FlightQuery.Literal

/-- A fault and the characters that are left where it is found.

A bare word is told without its position. -/
inductive Fault where
  | at (fault : LiteralFault) (rest : List Char)
  | bareWord (word : String)

/-- What a reader finds, most often with the characters that follow it. -/
abbrev Reading (α : Type) := Except Fault α

/-- Read a quoted text after its opening quote. A backslash stands in front of a literal character,
or of the n, t or r of a line feed, a tab or a carriage return. -/
def readText (quote : Char) : List Char → Reading (List Char × List Char)
  | [] => .error (.at .unterminatedText [])
  | c :: rest =>
    if c = quote then .ok ([], rest)
    else if c = '\\' then
      match rest with
      | [] => .error (.at .unterminatedEscape [])
      | e :: rest => do
        let escaped :=
          if e = 'n' then '\n' else if e = 't' then '\t' else if e = 'r' then '\r' else e
        let (characters, rest) ← readText quote rest
        return (escaped :: characters, rest)
    else do
      let (characters, rest) ← readText quote rest
      return (c :: characters, rest)

/-- Split off the characters of a number. A sign belongs to it after an exponent mark only. -/
def spanNumber (previous : Char) : List Char → List Char × List Char
  | [] => ([], [])
  | c :: rest =>
    let belongs :=
      Number.isDigit c || c == '_' || c == '.' || c == 'e' || c == 'E' ||
        ((c == '-' || c == '+') && (previous == 'e' || previous == 'E'))
    if belongs then
      let (number, rest) := spanNumber c rest
      (c :: number, rest)
    else ([], c :: rest)

/-- The value of a number without its underscores.

Whole numbers of 64 bits are exact, all others have to be finite. -/
def numberValue (number : List Char) : Except LiteralFault Literal :=
  let isWhole := !number.any fun c => c == '.' || c == 'e' || c == 'E'
  match if isWhole then Number.readInt64? number else none with
  | some value => .ok (.int value)
  | none =>
    match Number.readBinary64? number with
    | some value =>
      if value.isFinite then .ok (.float value)
      else .error (.numberOutOfRange (String.ofList number))
    | none => .error (.invalidNumber (String.ofList number))

/-- Read a number that starts with the given character. -/
def readNumber (first : Char) (rest : List Char) : Reading (Literal × List Char) :=
  let (number, rest) :=
    if first = '-' ∨ first = '+' then
      let (number, rest) := spanNumber first rest
      (first :: number, rest)
    else spanNumber ' ' (first :: rest)
  match numberValue (number.filter (· != '_')) with
  | .ok value => .ok (value, rest)
  | .error fault => .error (.at fault rest)

/-- Whether a character belongs to a word. -/
def isWordCharacter (c : Char) : Bool :=
  Text.isAlphabetic c || Text.isNumeric c || c == '_'

/-- Read a word, which has to be the name of a boolean. -/
def readWord (input : List Char) : Reading (Literal × List Char) :=
  let word := String.ofList (input.takeWhile isWordCharacter)
  let rest := input.dropWhile isWordCharacter
  if word = "True" ∨ word = "true" then .ok (.bool true, rest)
  else if word = "False" ∨ word = "false" then .ok (.bool false, rest)
  else .error (.bareWord word)

/-- Whether a number can start with a character. -/
def startsNumber (c : Char) : Bool :=
  Number.isDigit c || c == '-' || c == '+' || c == '.'

/-- Read a value that is no list. -/
def readScalar : List Char → Reading (Literal × List Char)
  | [] => .error (.at .missingValue [])
  | c :: rest =>
    if c = '\'' ∨ c = '"' then do
      let (characters, rest) ← readText c rest
      return (.text (String.ofList characters), rest)
    else if c = '[' then .error (.at .nestedList (c :: rest))
    else if startsNumber c then readNumber c rest
    else if Text.isAlphabetic c then readWord (c :: rest)
    else .error (.at .unexpectedCharacter (c :: rest))

/-- Read the items of a list and its closing bracket. The fuel bounds the number of items. -/
def readItems : (fuel : Nat) → List Char → Reading (List Literal × List Char)
  | 0, input => .error (.at .unterminatedList input)
  | fuel + 1, input =>
    match Text.trimStart input with
    | ']' :: rest => .ok ([], rest)
    | input => do
      let (item, rest) ← readScalar input
      match Text.trimStart rest with
      | [] => .error (.at .unterminatedList [])
      | c :: rest =>
        if c = ',' then
          let (items, rest) ← readItems fuel rest
          return (item :: items, rest)
        else if c = ']' then return ([item], rest)
        else .error (.at .separatorExpected (c :: rest))

/-- Read a value, which may be a list. -/
def readValue : List Char → Reading (Literal × List Char)
  | '[' :: rest => do
    let (items, rest) ← readItems (rest.length + 1) rest
    return (.list items, rest)
  | input => readScalar input

/-- Read a text that holds one literal and nothing else but blanks. -/
def readWhole (input : List Char) : Reading Literal := do
  let (literal, rest) ← readValue (Text.trimStart input)
  match Text.trimStart rest with
  | [] => return literal
  | rest => .error (.at .trailingCharacters rest)

/-- Read a literal. -/
def parse (token : String) : Outcome Literal :=
  match readWhole token.toList with
  | .ok literal => .ok literal
  | .error (.at fault rest) =>
    -- What is left behind the fault tells its position.
    .error (.malformed (.literal fault (token.length - rest.length) token))
  | .error (.bareWord word) => .error (.malformed (.bareWord word))

end FlightQuery.Literal
