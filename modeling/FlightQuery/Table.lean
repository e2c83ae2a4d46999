import FlightQuery.Json.Decoder
import FlightQuery.Json.Printer
import FlightQuery.Number.Reader
import FlightQuery.FieldTree
import FlightQuery.Text.LowerCase
import FlightQuery.Time.Instant

/-! Tables: the typed columns that a query returns. -/

namespace FlightQuery

/-- How the cells of a column are read. -/
inductive ColumnKind where
  | number
  | truth
  | instant
  /-- The cells are keys of a discrete field. -/
  | label (fieldId : String)
  | text
  deriving DecidableEq, Repr, Inhabited

namespace ColumnKind

/-- The kind of the column of a field. Without a field, cells are texts. -/
def ofField? : Option Field → ColumnKind
  | none => text
  | some field =>
    match field.type with
    | .number => number
    | .boolean => truth
    | .dateTime => instant
    | .discrete => label field.id
    | .text => text

/-- The values in the columns of a kind. -/
abbrev Value : ColumnKind → Type
  | number => Binary64
  | truth => Bool
  | instant => Int
  | label _ => String
  | text => String

end ColumnKind

/-- A column. A cell may be missing. -/
structure Column where
  name : String
  kind : ColumnKind
  cells : List (Option kind.Value)

/-- A table. -/
structure Table where
  columns : List Column

/-- The number of rows of a table, which is zero without columns. -/
def Table.height (table : Table) : Nat :=
  match table.columns with
  | column :: _ => column.cells.length
  | [] => 0

/-- What a query returns: the names of the columns, and rows that may be too short or too long. -/
structure Response where
  header : List String
  rows : List (List Json)

namespace Response

/-- Decode the name of a column. -/
def decodeName : Decoder String := fun scope document => do
  let parts ← Decoder.parts ["name"] scope document
  parts.required "name" Decoder.text

/-- Decode a response. -/
def decode : Decoder Response := fun scope document => do
  let parts ← Decoder.parts ["header", "rows"] scope document
  let header ← parts.required "header" (Decoder.list decodeName)
  let rows ← parts.defaulted "rows" [] (Decoder.list (Decoder.list Decoder.json))
  return { header, rows }

/-! ### Cells -/

/-- The text of a value: texts are bare, all others are documents. -/
def textOf : Json → String
  | .text value => value
  | other => other.compact

/-- The number of a value, which may be written as a text. -/
def numberOf? : Json → Option Binary64
  | .number value => some value.toBinary64
  | .text value => Number.readBinary64? (Text.trim value.toList)
  | _ => none

/-- The truth of a value: a number other than zero is true, and some words are true or false. -/
def truthOf? : Json → Option Bool
  | .bool value => some value
  | .number value => some (!value.toBinary64.isZero)
  | .text value =>
    let word := Text.lowerCase value
    if word = "true" ∨ word = "1" ∨ word = "yes" then some true
    else if word = "false" ∨ word = "0" ∨ word = "no" then some false
    else none
  | _ => none

/-- The point in time of a value, which is written as a text. -/
def instantOf? : Json → Option Int
  | .text value => Moment.read? value
  | _ => none

/-- The key that a value is, or that is written in it. -/
def keyOf? : Json → Option Int64
  | .number (.int value) => Number.toInt64? value
  | .text value => Number.readInt64? value.toList
  | _ => none

/-- The label of a value of a discrete field, or its text when it has none. -/
def labelOf (store : Store) (fieldId : String) (value : Json) : String :=
  ((keyOf? value).bind (store.valueLabel? fieldId)).getD (textOf value)

/-- The content of a cell in a column of the given kind. -/
def cellOf? (store : Store) : (kind : ColumnKind) → Json → Option kind.Value
  | .number, value => numberOf? value
  | .truth, value => truthOf? value
  | .instant, value => instantOf? value
  | .label fieldId, value => some (labelOf store fieldId value)
  | .text, value => some (textOf value)

/-- The value at a position of a row, unless it is null or the row is too short. -/
def valueAt? (index : Nat) (row : List Json) : Option Json :=
  match row[index]? with
  | some .null => none
  | other => other

/-- The column at a position of the rows. -/
def column (store : Store) (field? : Option Field) (name : String) (index : Nat)
    (rows : List (List Json)) : Column :=
  let kind := ColumnKind.ofField? field?
  { name, kind, cells := rows.map fun row => (valueAt? index row).bind (cellOf? store kind) }

/-- The first name that occurs again later on. -/
def firstRepeated? : List String → Option String
  | [] => none
  | name :: names => if names.contains name then some name else firstRepeated? names

/-- The first name that has occurred before. -/
def firstRepetition? (seen : List String) : List String → Option String
  | [] => none
  | name :: names =>
    if seen.contains name then some name else firstRepetition? (name :: seen) names

/-- The name that is told when names repeat. It depends on the number of names which one it is. -/
def repeated? (names : List String) : Option String :=
  if names.length ≤ 4 then firstRepeated? names else firstRepetition? [] names

/-- The table of a response to a query with the given fields. -/
def toTable (store : Store) (fields : List Field) (response : Response) : Outcome Table :=
  match repeated? response.header with
  | some name => .error (.conversion (.repeatedColumn name))
  | none => .ok {
      columns := response.header.zipIdx.map fun (name, index) =>
        column store fields[index]? name index response.rows }

end Response

/-- The table that a document holds for a query with the given fields. -/
def Table.ofJson (store : Store) (fields : List Field) (content : Json) : Outcome Table :=
  match Decoder.fromJson Response.decode content with
  | some response => response.toTable store fields
  | none => .error .document

/-! ### Comma-separated values -/

namespace Table

/-- Whether a text has to be quoted. -/
def needsQuotes (text : List Char) : Bool :=
  text.isEmpty || text.any fun c => c == ',' || c == '"' || c == '\n' || c == '\r'

/-- Write a text, in quotes where needed. A quote inside of quotes is written twice. -/
def writeQuoted (text : String) : List Char :=
  let text := text.toList
  if needsQuotes text then
    '"' :: text.flatMap (fun c => if c = '"' then ['"', '"'] else [c]) ++ ['"']
  else text

/-- Write the value of a cell. -/
def writeValue : (kind : ColumnKind) → kind.Value → List Char
  | .number, value => Layout.table.write value
  | .truth, value => (if value then "true" else "false").toList
  | .instant, value => Moment.write value
  | .label _, value => writeQuoted value
  | .text, value => writeQuoted value

/-- The written cells of a column. A missing cell is empty. -/
def writeCells (column : Column) : List (List Char) :=
  column.cells.map fun cell => (cell.map (writeValue column.kind)).getD []

/-- Write a line of cells. -/
def writeLine (cells : List (List Char)) : List Char :=
  [','].intercalate cells ++ ['\n']

/-- The text of a table: a line of names, and a line for each row. -/
def toSeparated (table : Table) : String :=
  let columns := table.columns.map writeCells
  let rows := (List.range table.height).map fun index =>
    columns.map fun cells => cells[index]?.getD []
  String.ofList (writeLine (table.columns.map fun column => writeQuoted column.name) ++
    rows.flatMap writeLine)

end Table
end FlightQuery
