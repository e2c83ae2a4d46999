import FlightQuery.Json
import FlightQuery.Number.Layout

/-! JSON values written as text, on one line or indented. -/

namespace FlightQuery.Json

/-- Write a character of a quoted text. -/
def writeChar (c : Char) : List Char :=
  if c = '"' then ['\\', '"']
  else if c = '\\' then ['\\', '\\']
  else if c = '\n' then ['\\', 'n']
  else if c = '\r' then ['\\', 'r']
  else if c = '\t' then ['\\', 't']
  else if c = '\u0008' then ['\\', 'b']
  else if c = '\u000c' then ['\\', 'f']
  else if c.toNat < 32 then
    ['\\', 'u', '0', '0', Nat.digitChar (c.toNat / 16), Nat.digitChar (c.toNat % 16)]
  else [c]

/-- Write a quoted text. -/
def writeText (text : String) : List Char :=
  '"' :: text.toList.flatMap writeChar ++ ['"']

/-- Write a number. -/
def writeNumber : JsonNumber → List Char
  | .int value => writeInt value
  | .float value => Layout.document.write value

/-- Write a null, a boolean, a number or a text; lists and objects are left out. -/
def writeScalar : Json → List Char
  | bool true => ['t', 'r', 'u', 'e']
  | bool false => ['f', 'a', 'l', 's', 'e']
  | number value => writeNumber value
  | text value => writeText value
  | _ => ['n', 'u', 'l', 'l']

mutual

/-- Write a value without any blank. -/
def write : Json → List Char
  | list [] => ['[', ']']
  | list (item :: items) => '[' :: write item ++ writeItems items
  | object [] => ['{', '}']
  | object ((key, value) :: members) =>
    '{' :: writeText key ++ ':' :: write value ++ writeMembers members
  | scalar => writeScalar scalar

/-- Write the items after the first one and close the list. -/
def writeItems : List Json → List Char
  | [] => [']']
  | item :: items => ',' :: write item ++ writeItems items

/-- Write the members after the first one and close the object. -/
def writeMembers : List (String × Json) → List Char
  | [] => ['}']
  | (key, value) :: members =>
    ',' :: writeText key ++ ':' :: write value ++ writeMembers members

end

/-- A line break followed by the indentation of the given level. -/
def newLine (level : Nat) : List Char :=
  '\n' :: List.replicate (2 * level) ' '

mutual

/-- Write a value with every item and member on a line of its own. -/
def writeIndented (level : Nat) : Json → List Char
  | list [] => ['[', ']']
  | list (item :: items) =>
    '[' :: newLine (level + 1) ++ writeIndented (level + 1) item ++ writeIndentedItems level items
  | object [] => ['{', '}']
  | object ((key, value) :: members) =>
    '{' :: newLine (level + 1) ++ writeText key ++ ':' :: ' ' :: writeIndented (level + 1) value ++
      writeIndentedMembers level members
  | scalar => writeScalar scalar

/-- Write the items after the first one, each on its line, and close the list. -/
def writeIndentedItems (level : Nat) : List Json → List Char
  | [] => newLine level ++ [']']
  | item :: items =>
    ',' :: newLine (level + 1) ++ writeIndented (level + 1) item ++ writeIndentedItems level items

/-- Write the members after the first one, each on its line, and close the object. -/
def writeIndentedMembers (level : Nat) : List (String × Json) → List Char
  | [] => newLine level ++ ['}']
  | (key, value) :: members =>
    ',' :: newLine (level + 1) ++ writeText key ++ ':' :: ' ' :: writeIndented (level + 1) value ++
      writeIndentedMembers level members

end

/-- The text of a value on one line. -/
def compact (value : Json) : String := String.ofList (write value)

/-- The text of a value with two blanks of indentation for each level. -/
def indented (value : Json) : String := String.ofList (writeIndented 0 value)

end FlightQuery.Json
