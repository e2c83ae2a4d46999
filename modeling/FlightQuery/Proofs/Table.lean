import FlightQuery.FieldTree
import FlightQuery.Query
import FlightQuery.Table
import Mathlib.Data.List.Duplicate

/-! A response becomes a table without a cell being shifted, dropped or doubled. -/

namespace FlightQuery

/-- What the cells of a column are. -/
inductive CellType where
  | number
  | truth
  | instant
  | text
  deriving DecidableEq, Repr

namespace CellType

/-- What cells are, by the type of the field of their column. Without a field they are texts. -/
def ofType? : Option FieldType → CellType
  | some .number => number
  | some .boolean => truth
  | some .dateTime => instant
  | some .discrete => text
  | some .text => text
  | none => text

/-- What the cells of a column of a kind are. Labels are texts. -/
def ofKind : ColumnKind → CellType
  | .number => number
  | .truth => truth
  | .instant => instant
  | .label _ => text
  | .text => text

/-- The type of a field settles what the cells of its column are. -/
theorem ofKind_ofField? (field? : Option Field) :
    ofKind (ColumnKind.ofField? field?) = ofType? (field?.map Field.type) := by
  cases field? with
  | none => rfl
  | some field =>
    obtain ⟨id, name, type⟩ := field
    cases type <;> rfl

end CellType

/-- A column stands on top of another one of the same name and kind. -/
inductive Column.IsStack : (upper lower whole : Column) → Prop
  | intro (name : String) (kind : ColumnKind) (cells cells' : List (Option kind.Value)) :
      IsStack ⟨name, kind, cells⟩ ⟨name, kind, cells'⟩ ⟨name, kind, cells ++ cells'⟩

/-- A table stands on top of another one: each of its columns does. -/
structure Table.IsStack (upper lower whole : Table) : Prop where
  upper_width : upper.columns.length = whole.columns.length
  lower_width : lower.columns.length = whole.columns.length
  columns : ∀ {index : Nat} {upper' lower' whole' : Column}, upper.columns[index]? = some upper' →
    lower.columns[index]? = some lower' → whole.columns[index]? = some whole' →
    Column.IsStack upper' lower' whole'

namespace Response

/-! ### Names that repeat -/

/-- The first name that occurs again is one that repeats. -/
theorem duplicate_of_firstRepeated? {names : List String} {name : String}
    (found : firstRepeated? names = some name) : List.Duplicate name names := by
  -- The induction follows the search, which looks for each name among the ones behind it.
  induction names with
  | nil => cases found
  | cons name' names ih =>
    rw [firstRepeated?] at found
    split at found
    · rename_i again
      cases found
      exact .cons_mem (List.contains_iff_mem.1 again)
    · exact .cons_duplicate (ih found)

/-- No name occurs again when all are distinct. -/
theorem firstRepeated?_eq_none_iff {names : List String} :
    firstRepeated? names = none ↔ names.Nodup := by
  -- Each name is compared with those behind it.
  induction names with
  | nil => simp [firstRepeated?]
  | cons name names ih =>
    rw [firstRepeated?, List.nodup_cons, ← ih]
    split <;> simp_all

/-- The first name that has occurred before was seen already, or it repeats. -/
theorem duplicate_of_firstRepetition? {seen names : List String} {name : String}
    (found : firstRepetition? seen names = some name) :
    name ∈ seen ∧ name ∈ names ∨ List.Duplicate name names := by
  induction names generalizing seen with
  | nil => cases found
  | cons name' names ih =>
    rw [firstRepetition?] at found
    split at found
    · rename_i before
      cases found
      exact .inl ⟨List.contains_iff_mem.1 before, List.mem_cons_self⟩
    · -- The name in front counts as seen for the names behind it.
      rcases ih found with ⟨before, listed⟩ | again
      · rcases List.mem_cons.1 before with rfl | before
        · exact .inr (.cons_mem listed)
        · exact .inl ⟨before, List.mem_cons_of_mem _ listed⟩
      · exact .inr (.cons_duplicate again)

/-- No name has occurred before when all are distinct and none was seen. -/
theorem firstRepetition?_eq_none_iff {seen names : List String} :
    firstRepetition? seen names = none ↔ (∀ name ∈ names, name ∉ seen) ∧ names.Nodup := by
  induction names generalizing seen with
  | nil => simp [firstRepetition?]
  | cons name names ih =>
    rw [firstRepetition?, List.nodup_cons, List.forall_mem_cons]
    split
    · simp_all
    · -- The name in front is none of those seen, and none of those behind it may be it.
      rw [ih]
      simp only [List.mem_cons, not_or]
      grind

/-- A name is told when it repeats. -/
theorem duplicate_of_repeated? {names : List String} {name : String}
    (found : repeated? names = some name) : List.Duplicate name names := by
  unfold repeated? at found
  split at found
  · exact duplicate_of_firstRepeated? found
  · -- At the start no name has been seen.
    rcases duplicate_of_firstRepetition? found with ⟨seen, _⟩ | again
    · exact nomatch seen
    · exact again

/-- No name is told when all are distinct. -/
theorem repeated?_eq_none_iff {names : List String} : repeated? names = none ↔ names.Nodup := by
  unfold repeated?
  -- Both ways to look for a repetition find one exactly when there is one.
  split
  · exact firstRepeated?_eq_none_iff
  · simp [firstRepetition?_eq_none_iff]

/-! ### Columns -/

/-- A cell is missing: the row is too short for it, or it is null. -/
def IsMissing (cell : Option Json) : Prop := cell = none ∨ cell = some .null

/-- The entry that a cell becomes in the column of a field. -/
def content? (store : Store) (field? : Option Field) :
    Option Json → Option (ColumnKind.ofField? field?).Value
  | none => none
  | some .null => none
  | some value => cellOf? store (ColumnKind.ofField? field?) value

/-- A column has the name that it is given, and one entry for each of the cells. What its entries
are is settled by the type of its field, and each depends on the field and on its own cell. -/
structure IsColumn (store : Store) (field? : Option Field) (name : String)
    (cells : List (Option Json)) (column : Column) : Prop where
  name_eq : column.name = name
  height : column.cells.length = cells.length
  type_eq : CellType.ofKind column.kind = CellType.ofType? (field?.map Field.type)
  column_eq : column = ⟨name, ColumnKind.ofField? field?, cells.map (content? store field?)⟩
  missing : ∀ {index : Nat} {cell : Option Json}, cells[index]? = some cell → IsMissing cell →
    column.cells[index]? = some none
  present : CellType.ofKind column.kind = .text → ∀ {index : Nat} {cell : Option Json},
    cells[index]? = some cell → column.cells[index]? = some none → IsMissing cell

/-- A missing cell has no entry. -/
theorem content?_of_isMissing (store : Store) (field? : Option Field) {cell : Option Json}
    (missing : IsMissing cell) : content? store field? cell = none := by
  rcases missing with rfl | rfl <;> rfl

/-- Each other cell has an entry in a column of texts. -/
theorem isMissing_of_content? {store : Store} {field? : Option Field} {cell : Option Json}
    (text : CellType.ofKind (ColumnKind.ofField? field?) = .text)
    (absent : content? store field? cell = none) : IsMissing cell := by
  unfold content? at absent
  split at absent
  · exact .inl rfl
  · exact .inr rfl
  · -- A column of texts or of labels reads every value.
    generalize ColumnKind.ofField? field? = kind at text absent
    cases kind with
    | number | truth | instant => cases text
    | label | text => cases absent

/-- The value at a position becomes the entry of its cell. -/
theorem valueAt?_bind (store : Store) (field? : Option Field) (index : Nat) (row : List Json) :
    (valueAt? index row).bind (cellOf? store (ColumnKind.ofField? field?)) =
      content? store field? row[index]? := by
  unfold valueAt? content?
  cases row[index]? with
  | none => rfl
  | some value => cases value <;> rfl

/-- The column at a position has an entry for the cell of each row there. -/
theorem column_eq (store : Store) (field? : Option Field) (name : String) (index : Nat)
    (rows : List (List Json)) :
    column store field? name index rows =
      ⟨name, ColumnKind.ofField? field?, (rows.map (·[index]?)).map (content? store field?)⟩ := by
  simp only [column, valueAt?_bind, List.map_map, Function.comp_def]

/-- The column at a position is one of the cells there. -/
theorem isColumn_column (store : Store) (field? : Option Field) (name : String) (index : Nat)
    (rows : List (List Json)) :
    IsColumn store field? name (rows.map (·[index]?)) (column store field? name index rows) := by
  rw [column_eq]
  -- The cells are all that the column depends on.
  generalize rows.map (·[index]?) = cells
  exact {
    name_eq := rfl
    height := by simp
    type_eq := CellType.ofKind_ofField? field?
    column_eq := rfl
    missing := fun cell_eq missing => by
      rw [List.getElem?_map, cell_eq, Option.map_some, content?_of_isMissing store field? missing]
    present := fun text _ _ cell_eq absent => by
      rw [List.getElem?_map, cell_eq, Option.map_some, Option.some_inj] at absent
      exact isMissing_of_content? text absent }

/-- The column of all rows is the one of the first on top of the one of the others. -/
theorem column_append (store : Store) (field? : Option Field) (name : String) (index : Nat)
    (rows rows' : List (List Json)) :
    Column.IsStack (column store field? name index rows) (column store field? name index rows')
      (column store field? name index (rows ++ rows')) := by
  rw [column, column, column, List.map_append]
  exact .intro ..

/-- Cells behind a position do not matter there. -/
theorem column_take (store : Store) (field? : Option Field) (name : String) {index width : Nat}
    (within : index < width) (rows : List (List Json)) :
    column store field? name index (rows.map (·.take width)) =
      column store field? name index rows := by
  -- A column is made of its own cells only, and those are the same.
  have cells_eq : (rows.map (·.take width)).map (·[index]?) = rows.map (·[index]?) := by
    rw [List.map_map]
    exact List.map_congr_left fun row _ => List.getElem?_take_of_lt within
  rw [column_eq, column_eq, cells_eq]

/-! ### Tables -/

/-- A table has one column for each name of the header, in their order. -/
structure IsTable (store : Store) (fields : List Field) (response : Response) (table : Table) :
    Prop where
  width : table.columns.length = response.header.length
  columns : ∀ {index : Nat} {name : String} {column : Column},
    response.header[index]? = some name → table.columns[index]? = some column →
    IsColumn store fields[index]? name (response.rows.map (·[index]?)) column

/-- Distinct names give a table. -/
theorem toTable_of_nodup (store : Store) (fields : List Field) {header : List String}
    (distinct : header.Nodup) (rows : List (List Json)) :
    toTable store fields ⟨header, rows⟩ = .ok ⟨header.zipIdx.map fun (name, index) =>
      column store fields[index]? name index rows⟩ := by
  rw [toTable, repeated?_eq_none_iff.2 distinct]

/-- The table of distinct names has the column of each name at its position. -/
theorem getElem?_columns {store : Store} {fields : List Field} {response : Response}
    {table : Table} (converted : response.toTable store fields = .ok table) (index : Nat) :
    table.columns[index]? = response.header[index]?.map fun name =>
      column store fields[index]? name index response.rows := by
  -- The table has its columns from the names, of which none repeats.
  unfold toTable at converted
  split at converted
  · cases converted
  · cases converted
    rw [List.getElem?_map, List.getElem?_zipIdx, Option.map_map, Nat.zero_add]
    rfl

/-- A table has as many columns as the header has names. -/
theorem columns_length {store : Store} {fields : List Field} {response : Response} {table : Table}
    (converted : response.toTable store fields = .ok table) :
    table.columns.length = response.header.length := by
  -- Each name gives one column.
  unfold toTable at converted
  split at converted
  · cases converted
  · cases converted
    simp

/-- What a response is converted to is its table. -/
theorem isTable_of_toTable {store : Store} {fields : List Field} {response : Response}
    {table : Table} (converted : response.toTable store fields = .ok table) :
    IsTable store fields response table := by
  -- There are as many columns as names, and each is made from its own name and place.
  refine ⟨columns_length converted, fun {index name column'} name_eq column_eq => ?_⟩
  rw [getElem?_columns converted, name_eq, Option.map_some, Option.some_inj] at column_eq
  rw [← column_eq]
  exact isColumn_column ..

/-- The table of all rows is the one of the first on top of the one of the others. -/
theorem isStack_of_toTable {store : Store} {fields : List Field} {header : List String}
    {rows rows' : List (List Json)} {upper lower whole : Table}
    (upper_eq : toTable store fields ⟨header, rows⟩ = .ok upper)
    (lower_eq : toTable store fields ⟨header, rows'⟩ = .ok lower)
    (whole_eq : toTable store fields ⟨header, rows ++ rows'⟩ = .ok whole) :
    Table.IsStack upper lower whole := by
  refine ⟨?_, ?_, fun {index _ _ _} upper_at lower_at whole_at => ?_⟩
  · rw [columns_length upper_eq, columns_length whole_eq]
  · rw [columns_length lower_eq, columns_length whole_eq]
  · rw [getElem?_columns upper_eq] at upper_at
    rw [getElem?_columns lower_eq] at lower_at
    rw [getElem?_columns whole_eq] at whole_at
    -- The three columns have the same name, for the header is the same.
    obtain ⟨name, name_eq, rfl⟩ := Option.map_eq_some_iff.1 upper_at
    dsimp only at name_eq lower_at whole_at
    rw [name_eq] at lower_at whole_at
    cases lower_at
    cases whole_at
    exact column_append ..

/-- Cells beyond the header do not matter. -/
theorem toTable_take (store : Store) (fields : List Field) (header : List String)
    (rows : List (List Json)) :
    toTable store fields ⟨header, rows.map (·.take header.length)⟩ =
      toTable store fields ⟨header, rows⟩ := by
  cases found : repeated? header with
  | some name => simp only [toTable, found]
  | none =>
    -- Each column stands within the header, and so do the cells that it reads.
    have distinct := repeated?_eq_none_iff.1 found
    rw [toTable_of_nodup store fields distinct, toTable_of_nodup store fields distinct]
    congr 2
    refine List.map_congr_left fun (name, index) listed => ?_
    have within := (List.mem_zipIdx listed).2.1
    exact column_take store _ name (by simpa using within) rows

/-- A name that repeats is refused. -/
theorem toTable_of_not_nodup (store : Store) (fields : List Field) {header : List String}
    (repeats : ¬ header.Nodup) (rows : List (List Json)) :
    ∃ name, List.Duplicate name header ∧
      toTable store fields ⟨header, rows⟩ = .error (.conversion (.repeatedColumn name)) := by
  -- The search for a repetition cannot come back empty.
  cases found : repeated? header with
  | none => exact absurd (repeated?_eq_none_iff.1 found) repeats
  | some name => exact ⟨name, duplicate_of_repeated? found, by rw [toTable, found]⟩

/--
The result of a query keeps the table that the server sends.

Distinct names give a table with their columns in order, and rows may be too short or too long.
Rows that come one after the other give tables that stand on top of each other. Cells beyond the
header do not matter, and a name that repeats is refused.
-/
theorem toTable_keeps (store : Store) (query : Query) (header : List String) :
    (∀ content rows, Decoder.fromJson decode content = some ⟨header, rows⟩ →
      Table.ofJson store query.columns content = toTable store query.columns ⟨header, rows⟩) ∧
    (header.Nodup → ∀ rows, ∃ table, toTable store query.columns ⟨header, rows⟩ = .ok table ∧
      IsTable store query.columns ⟨header, rows⟩ table) ∧
    (header.Nodup → ∀ rows rows', ∃ upper lower whole,
      toTable store query.columns ⟨header, rows⟩ = .ok upper ∧
      toTable store query.columns ⟨header, rows'⟩ = .ok lower ∧
      toTable store query.columns ⟨header, rows ++ rows'⟩ = .ok whole ∧
      Table.IsStack upper lower whole) ∧
    (∀ rows, toTable store query.columns ⟨header, rows.map (·.take header.length)⟩ =
      toTable store query.columns ⟨header, rows⟩) ∧
    (¬ header.Nodup → ∀ rows, ∃ name, List.Duplicate name header ∧
      toTable store query.columns ⟨header, rows⟩ =
        .error (.conversion (.repeatedColumn name))) := by
  refine ⟨fun content rows decoded => by rw [Table.ofJson, decoded], fun distinct rows => ?_,
    fun distinct rows rows' => ?_, toTable_take store query.columns header,
    toTable_of_not_nodup store query.columns⟩
  · -- Distinct names are converted, whatever the rows are, and each part is read off from that.
    have converted := toTable_of_nodup store query.columns distinct rows
    exact ⟨_, converted, isTable_of_toTable converted⟩
  · -- The rows of both tables are converted alike, be they taken together or apart.
    have upper_eq := toTable_of_nodup store query.columns distinct rows
    have lower_eq := toTable_of_nodup store query.columns distinct rows'
    have whole_eq := toTable_of_nodup store query.columns distinct (rows ++ rows')
    exact ⟨_, _, _, upper_eq, lower_eq, whole_eq, isStack_of_toTable upper_eq lower_eq whole_eq⟩

/-- Rows may be too short, too long or hold nulls, and a name in the header may repeat. -/
theorem toTable_keeps_ragged :
    let store : Store := FieldTree.toStore { databaseId := "fdw" }
    let query : Query := { columns := [⟨"[f][s]", "Speed", .number⟩, ⟨"[f][w]", "Word", .text⟩] }
    let header := ["Speed", "Word", "Other"]
    let rows := [[.int 3, .null], [.text "fast", .bool true, .int 7, .int 8]]
    let content := Json.object [
      ("header", .list (header.map fun name => .object [("name", .text name)])),
      ("rows", .list (rows.map .list))]
    Table.ofJson store query.columns content = toTable store query.columns ⟨header, rows⟩ ∧
      (∃ table, toTable store query.columns ⟨header, rows⟩ = .ok table ∧
        IsTable store query.columns ⟨header, rows⟩ table) ∧
      (∃ upper lower whole, toTable store query.columns ⟨header, rows⟩ = .ok upper ∧
        toTable store query.columns ⟨header, rows⟩ = .ok lower ∧
        toTable store query.columns ⟨header, rows ++ rows⟩ = .ok whole ∧
        Table.IsStack upper lower whole) ∧
      ∃ name, List.Duplicate name ("Speed" :: header) ∧
        toTable store query.columns ⟨"Speed" :: header, rows⟩ =
          .error (.conversion (.repeatedColumn name)) := by
  intro store query header rows content
  have distinct : header.Nodup := by decide
  -- The header has no name twice, and all parts follow for this query.
  obtain ⟨decoded, converted, stacked, _⟩ := toTable_keeps store query header
  exact ⟨decoded content rows rfl, converted distinct rows, stacked distinct rows rows,
    (toTable_keeps store query ("Speed" :: header)).2.2.2.2 (by decide) rows⟩

end Response
end FlightQuery
