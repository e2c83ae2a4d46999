import FlightQuery.Json
import FlightQuery.Number.Layout

/-! Constants of filter expressions and their display. -/

namespace FlightQuery

/-- A constant of a filter expression. -/
inductive Literal where
  | bool (value : Bool)
  | int (value : Int64)
  | float (value : Binary64)
  | text (value : String)
  | list (items : List Literal)
  deriving Repr, Inhabited

namespace Literal

/-- Display a literal that is no list. -/
def displayScalar : Literal → List Char
  | bool true => "True".toList
  | bool false => "False".toList
  | int value => writeInt value.toInt
  | float value => Layout.message.write value
  | text value => '\'' :: value.toList ++ ['\'']
  | list _ => []

mutual

/-- Display a literal, with single quotes around texts and brackets around lists. -/
def displayChars : Literal → List Char
  | list [] => ['[', ']']
  | list (item :: items) => '[' :: displayChars item ++ displayItems items
  | scalar => displayScalar scalar

/-- Display the items after the first one and close the list. -/
def displayItems : List Literal → List Char
  | [] => [']']
  | item :: items => ',' :: ' ' :: displayChars item ++ displayItems items

end

/-- The display of a literal. -/
def display (literal : Literal) : String := String.ofList literal.displayChars

/-- The text of a literal that is compared with the labels of a discrete field. -/
def label : Literal → String
  | text value => value
  | other => other.display

mutual

/-- The value of a literal in a document. -/
def toJson : Literal → Json
  | bool value => .bool value
  | int value => .int value.toInt
  | float value => .float value
  | text value => .text value
  | list items => .list (toJsonItems items)

/-- The values of some literals in a document. -/
def toJsonItems : List Literal → List Json
  | [] => []
  | item :: items => toJson item :: toJsonItems items

end

/-- Whether a literal is a list. -/
def isList : Literal → Bool
  | list _ => true
  | _ => false

end Literal
end FlightQuery
