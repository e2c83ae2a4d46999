import FlightQuery.Text.LowerCase

/-! Search by name. The case of letters is ignored, and the shortest of several matches wins. -/

namespace FlightQuery

/-- How a keyword is looked for in a name. -/
inductive SearchMode where
  /-- The keyword may stand anywhere. -/
  | contain
  /-- The name starts with the keyword. -/
  | start
  deriving DecidableEq, Repr, Inhabited

namespace SearchMode

/-- The modes with their names in documents. -/
def names : List (String × SearchMode) := [("contain", contain), ("match", start)]

/-- The name of a mode in documents. -/
def name : SearchMode → String
  | contain => "contain"
  | start => "match"

/-- Whether a text occurs in another one. -/
def occursIn (word : List Char) : List Char → Bool
  | [] => word.isEmpty
  | c :: rest => word.isPrefixOf (c :: rest) || occursIn word rest

/-- Whether a name matches a keyword. -/
def accepts (mode : SearchMode) (name keyword : String) : Bool :=
  let name := Text.lower name.toList
  let keyword := Text.lower keyword.toList
  match mode with
  | contain => occursIn keyword name
  | start => keyword.isPrefixOf name

end SearchMode

/-- The first of the items with the least size. -/
def smallest? {α : Type} (size : α → Nat) : List α → Option α
  | [] => none
  | item :: items =>
    match smallest? size items with
    | none => some item
    | some other => if size item ≤ size other then some item else some other

/-- The first of the items with the shortest matching name. -/
def shortestMatch? {α : Type} (mode : SearchMode) (name : α → String) (keyword : String)
    (items : List α) : Option α :=
  smallest? (fun item => (name item).length)
    (items.filter fun item => mode.accepts (name item) keyword)

end FlightQuery
