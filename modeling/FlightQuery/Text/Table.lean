import FlightQuery.Number.Reader

/-! Tables of characters in a compact written form.

A table is a text of rows between blanks, and all its codes are hexadecimal. The row `61` is about
one character and the row `61-7A` about all from the first to the last. In `100-12E/2` only every
second one is meant. Behind a `>` stand the codes that a row gives to its characters, with points
between them: `A8>20.308`. -/

namespace FlightQuery.Text

/-- A row of a table, about every `step`-th character from the first to the last. -/
structure Row where
  first : Nat
  last : Nat
  step : Nat
  /-- What the row gives to its characters. -/
  codes : List Nat
  deriving DecidableEq, Repr

/-- A table, in which a character has at most one row. -/
abbrev Table := List Row

/-- Whether a row is about a character. -/
def Row.holds (row : Row) (c : Char) : Bool :=
  row.first ≤ c.toNat && c.toNat ≤ row.last && (c.toNat - row.first) % row.step == 0

/-- How far a character stands behind the first one of its row. -/
def Row.offset (row : Row) (c : Char) : Nat := c.toNat - row.first

/-- Read a hexadecimal code. -/
def readCode? (text : List Char) : Option Nat :=
  if text = [] then none
  else (text.mapM Number.hexDigit?).map (·.foldl (fun value digit => 16 * value + digit) 0)

/-- Read the last character of a row and its step. -/
def Row.readLast? (text : List Char) : Option (Nat × Nat) :=
  match text.splitOn '/' with
  | [last] => do return (← readCode? last, 1)
  | [last, step] => do return (← readCode? last, ← readCode? step)
  | _ => none

/-- Read the characters that a row is about. -/
def Row.readKeys? (text : List Char) : Option Row :=
  match text.splitOn '-' with
  | [code] => do
    let code ← readCode? code
    return { first := code, last := code, step := 1, codes := [] }
  | [first, rest] => do
    let first ← readCode? first
    let (last, step) ← readLast? rest
    return { first, last, step, codes := [] }
  | _ => none

/-- Read a row. -/
def Row.read? (text : List Char) : Option Row :=
  match text.splitOn '>' with
  | [keys] => readKeys? keys
  | [keys, []] => readKeys? keys
  | [keys, codes] => do
    let row ← readKeys? keys
    let codes ← (codes.splitOn '.').mapM readCode?
    return { row with codes }
  | _ => none

namespace Table

/-- Read a table. -/
def read (text : String) : Table :=
  (text.toList.splitOnP fun c => c = ' ' ∨ c = '\n').filterMap Row.read?

/-- The row about a character. -/
def row? (table : Table) (c : Char) : Option Row := table.find? (·.holds c)

/-- Whether a table has a row about a character. -/
def holds (table : Table) (c : Char) : Bool := table.any (·.holds c)

end Table
end FlightQuery.Text
