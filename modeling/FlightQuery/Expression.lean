import FlightQuery.Expression.Pieces

/-! Filter expressions with their operators recognised and their operands still raw. -/

namespace FlightQuery

/-- A comparison of two values. -/
inductive Comparator where
  | equal
  | notEqual
  | less
  | lessOrEqual
  | greater
  | greaterOrEqual
  deriving DecidableEq, Repr, Inhabited

namespace Comparator

/-- The sign of a comparison. -/
def sign : Comparator → String
  | equal => "=="
  | notEqual => "!="
  | less => "<"
  | lessOrEqual => "<="
  | greater => ">"
  | greaterOrEqual => ">="

/-- The comparison of a sign. -/
def ofSign? (sign : String) : Option Comparator :=
  [equal, notEqual, less, lessOrEqual, greater, greaterOrEqual].find? fun comparator =>
    comparator.sign == sign

/-- The comparison that holds of the operands in the opposite order. -/
def flip : Comparator → Comparator
  | less => greater
  | lessOrEqual => greaterOrEqual
  | greater => less
  | greaterOrEqual => lessOrEqual
  | other => other

/-- Whether a comparison holds of two integers. -/
def holds : Comparator → Int → Int → Bool
  | equal, left, right => left == right
  | notEqual, left, right => left != right
  | less, left, right => left < right
  | lessOrEqual, left, right => left ≤ right
  | greater, left, right => right < left
  | greaterOrEqual, left, right => right ≤ left

end Comparator

/-- An operator between two operands. -/
inductive BinaryOperator where
  | compare (comparator : Comparator)
  | membership (negated : Bool)
  deriving DecidableEq, Repr

namespace BinaryOperator

/-- The text of a membership. -/
def membershipSign (negated : Bool) : String := if negated then "not in" else "in"

/-- The text of an operator. -/
def sign : BinaryOperator → String
  | compare comparator => comparator.sign
  | membership negated => membershipSign negated

/-- The operator of a text. -/
def ofSign? (sign : String) : Option BinaryOperator :=
  if sign = "in" then some (.membership false)
  else if sign = "not in" then some (.membership true)
  else (Comparator.ofSign? sign).map .compare

end BinaryOperator

/-- A check whether a field has a value. -/
inductive NullCheck where
  | isNull
  | isNotNull
  deriving DecidableEq, Repr

namespace NullCheck

/-- The text of a check. -/
def sign : NullCheck → String
  | isNull => "is null"
  | isNotNull => "is not null"

/-- The check of a text. -/
def ofSign? (sign : String) : Option NullCheck :=
  [isNull, isNotNull].find? fun check => check.sign == sign

end NullCheck

/-- An expression. Its operands are texts that still have to be read. -/
inductive Expression where
  | check (operand : String) (operator : NullCheck)
  | binary (left : String) (operator : BinaryOperator) (right : String)
  | range (low : String) (outer : Comparator) (field : String) (inner : Comparator)
      (high : String)
  deriving DecidableEq, Repr

namespace Expression

/-- Recognise the operators of the pieces of an expression. -/
def ofPieces (expression : String) : Pieces → Outcome Expression
  | .check operand sign =>
    match NullCheck.ofSign? sign with
    | some operator => .ok (.check operand operator)
    | none => .error (.malformed (.unexpectedCheck expression))
  | .pair left sign right =>
    match BinaryOperator.ofSign? sign with
    | some operator => .ok (.binary left operator right)
    | none => .error (.malformed (.unknownOperator sign expression))
  | .chain low outerSign field innerSign high =>
    match Comparator.ofSign? outerSign, Comparator.ofSign? innerSign with
    | some outer, some inner => .ok (.range low outer field inner high)
    | none, _ => .error (.malformed (.unboundedRange outerSign expression))
    | _, none => .error (.malformed (.unboundedRange innerSign expression))

/-- Read an expression. -/
def parse (expression : String) : Outcome Expression := do
  ofPieces (Text.trimmed expression) (← Pieces.ofExpression expression)

end Expression
end FlightQuery
