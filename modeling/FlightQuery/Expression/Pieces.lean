import FlightQuery.Error
import FlightQuery.Text.Blank

/-! A filter expression taken apart at its operators. -/

namespace FlightQuery

/-- Operators that are looked for together. -/
inductive OperatorFamily where
  | comparison
  | notIn
  | isIn
  | isNull
  | isNotNull
  deriving DecidableEq, Repr

namespace OperatorFamily

/-- The families in the order in which they are tried. -/
def all : List OperatorFamily := [comparison, notIn, isIn, isNull, isNotNull]

/-- The texts of the operators of a family. -/
def operators : OperatorFamily → List String
  | comparison => ["==", "!=", "<=", ">=", "=", "!", "<", ">"]
  | notIn => ["not in"]
  | isIn => ["in"]
  | isNull => ["is null"]
  | isNotNull => ["is not null"]

/-- Whether the operators of a family stand behind their only operand. -/
def isCheck : OperatorFamily → Bool
  | isNull | isNotNull => true
  | _ => false

end OperatorFamily

/-- The trimmed operands of an expression and its operators. -/
inductive Pieces where
  | check (operand operator : String)
  | pair (left operator right : String)
  | chain (low outer middle inner high : String)
  deriving DecidableEq, Repr

namespace Pieces

/-- The pieces in their order. -/
def tokens : Pieces → List String
  | check operand operator => [operand, operator]
  | pair left operator right => [left, operator, right]
  | chain low outer middle inner high => [low, outer, middle, inner, high]

/-- An operator between the texts on its two sides. -/
structure Place where
  before : List Char
  operator : String
  after : List Char
  deriving DecidableEq, Repr

/-- The operator of a family that a text starts with, when a blank follows it. -/
def operatorAt? (family : OperatorFamily) (text : List Char) : Option (String × List Char) :=
  family.operators.findSome? fun operator =>
    let after := text.drop operator.length
    if operator.toList.isPrefixOf text && Text.startsBlank after then some (operator, after)
    else none

/-- The place where a text starts with an operator, when a blank was passed just before.

The characters already passed are given with the last one first. -/
def placeAt? (family : OperatorFamily) (passed text : List Char) : Option Place :=
  if Text.startsBlank passed then
    (operatorAt? family text).map fun (operator, after) =>
      { before := passed.reverse, operator, after }
  else none

/-- The places of a family's operators with blanks on both sides behind some characters already
passed, the rightmost place first. -/
def placesAfter (family : OperatorFamily) (passed : List Char) : List Char → List Place
  | [] => []
  | c :: rest =>
    placesAfter family (c :: passed) rest ++ (placeAt? family passed (c :: rest)).toList

/-- The places of a family's operators with blanks on both sides, the rightmost place first. -/
def places (family : OperatorFamily) (text : List Char) : List Place :=
  placesAfter family [] text

/-- Whether a text can be an operand. An operand does not extend over a line feed. -/
def isOperand (text : List Char) : Bool := !(Text.trim text).contains '\n'

/-- A text as an operand. -/
def operand (text : List Char) : String := String.ofList (Text.trim text)

/-- Take a text apart at two operators, each as far right as possible, the first one foremost. -/
def chain? (family : OperatorFamily) (text : List Char) : Option Pieces :=
  (places family text).findSome? fun outer =>
    if isOperand outer.before then
      (places family outer.after).findSome? fun inner =>
        -- Each operator has a blank of its own between them.
        if 2 ≤ inner.before.length && isOperand inner.before && isOperand inner.after then
          some (.chain (operand outer.before) outer.operator (operand inner.before)
            inner.operator (operand inner.after))
        else none
    else none

/-- Take a text apart at one operator as far right as possible. -/
def pair? (family : OperatorFamily) (text : List Char) : Option Pieces :=
  (places family text).findSome? fun place =>
    if isOperand place.before && isOperand place.after then
      some (.pair (operand place.before) place.operator (operand place.after))
    else none

/-- Take a text apart in front of an operator at its end. -/
def check? (family : OperatorFamily) (text : List Char) : Option Pieces :=
  family.operators.findSome? fun operator =>
    let before := text.take (text.length - operator.length)
    if operator.toList.isSuffixOf text && Text.startsBlank before.reverse && isOperand before then
      some (.check (operand before) operator)
    else none

/-- Take a text apart at the operators of a family. -/
def ofFamily? (family : OperatorFamily) (text : List Char) : Option Pieces :=
  if family.isCheck then check? family text
  else (chain? family text).or (pair? family text)

/-- Take an expression apart at the operators of the first family that applies. -/
def ofExpression (expression : String) : Outcome Pieces :=
  let text := Text.trim expression.toList
  match OperatorFamily.all.findSome? fun family => ofFamily? family text with
  | some pieces => .ok pieces
  | none => .error (.malformed (.noOperator (String.ofList text)))

end Pieces
end FlightQuery
