import FlightQuery.Number.Binary64

/-! JSON values. -/

namespace FlightQuery

/-- A number of a JSON value: integers within 64 bits are kept exactly. -/
inductive JsonNumber where
  | int (value : Int)
  | float (value : Binary64)
  deriving DecidableEq, Repr, Inhabited

/-- Whether two numbers are equal. An integer never equals a float. -/
def JsonNumber.same : JsonNumber → JsonNumber → Bool
  | int value, int value' => value == value'
  | float value, float value' => value.same value'
  | _, _ => false

/-- The nearest 64-bit binary number. -/
def JsonNumber.toBinary64 : JsonNumber → Binary64
  | int value => .ofInt value
  | float value => value

/-- A JSON value. The members of an object are kept in their written order. -/
inductive Json where
  | null
  | bool (value : Bool)
  | number (value : JsonNumber)
  | text (value : String)
  | list (items : List Json)
  | object (members : List (String × Json))
  deriving Repr, Inhabited

namespace Json

/-- An integer value. -/
def int (value : Int) : Json := .number (.int value)

/-- A float value, which is null when it is not finite. -/
def float (value : Binary64) : Json :=
  if value.isFinite then .number (.float value) else .null

/-- A value that may be missing, null standing for a missing one. -/
def ofOption {α : Type} (encode : α → Json) : Option α → Json
  | some value => encode value
  | none => .null

/-- A text that may be missing. -/
def ofText? (value : Option String) : Json := ofOption .text value

/-- The member of an object with the given key. -/
def member? (key : String) : Json → Option Json
  | object members => members.lookup key
  | _ => none

/-- Put a member into an object whose keys ascend, in place of an earlier one with its key. -/
def insertMember (key : String) (value : Json) :
    List (String × Json) → List (String × Json)
  | [] => [(key, value)]
  | (key', value') :: rest =>
    if key = key' then (key, value) :: rest
    else if key < key' then (key, value) :: (key', value') :: rest
    else (key', value') :: insertMember key value rest

/-- Order members by their keys, the last of those with equal keys staying. -/
def sortMembers (members : List (String × Json)) : List (String × Json) :=
  members.foldl (fun sorted (key, value) => insertMember key value sorted) []

mutual

/-- Whether two values are equal, numbers being compared by value. -/
def same : Json → Json → Bool
  | null, null => true
  | bool value, bool value' => value == value'
  | number value, number value' => value.same value'
  | text value, text value' => value == value'
  | list items, list items' => sameItems items items'
  | object members, object members' => sameMembers members members'
  | _, _ => false

/-- Whether two lists hold equal values. -/
def sameItems : List Json → List Json → Bool
  | [], [] => true
  | item :: items, item' :: items' => same item item' && sameItems items items'
  | _, _ => false

/-- Whether two objects hold equal members in the same order. -/
def sameMembers : List (String × Json) → List (String × Json) → Bool
  | [], [] => true
  | (key, value) :: members, (key', value') :: members' =>
    key == key' && same value value' && sameMembers members members'
  | _, _ => false

end

mutual

/-- The value with the members of all its objects in ascending order of their keys. -/
def sorted : Json → Json
  | list items => list (sortedItems items)
  | object members => object (sortMembers (sortedMembers members))
  | other => other

/-- The items with their members in ascending order. -/
def sortedItems : List Json → List Json
  | [] => []
  | item :: items => sorted item :: sortedItems items

/-- The members, each value with its own members in ascending order. -/
def sortedMembers : List (String × Json) → List (String × Json)
  | [] => []
  | (key, value) :: members => (key, sorted value) :: sortedMembers members

end

end Json
end FlightQuery
