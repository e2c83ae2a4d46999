import FlightQuery.Proofs.Literal.Parsing

/-! Literals that are written out read back as themselves, whatever quotes and blanks are chosen. -/

namespace FlightQuery

/-- The quotes around a text. -/
inductive Quote where
  | single
  | double
  deriving DecidableEq, Repr

namespace Quote

/-- The character of a quote. -/
def mark : Quote → Char
  | single => '\''
  | double => '"'

/-- Put a backslash in front of each backslash and of each quote of this kind. -/
def escape (quote : Quote) (text : List Char) : List Char :=
  text.flatMap fun c => if c = '\\' ∨ c = quote.mark then ['\\', c] else [c]

/-- Put a text in quotes. -/
def enclose (quote : Quote) (text : List Char) : List Char :=
  quote.mark :: (quote.escape text ++ [quote.mark])

end Quote

namespace Literal

open Number (IsInteger isDigit)

/-- A boolean, an integer or a text. -/
inductive IsExact : Literal → Prop
  | bool (value : Bool) : IsExact (.bool value)
  | int (value : Int64) : IsExact (.int value)
  | text (value : String) : IsExact (.text value)

/-- A literal without floats: a boolean, an integer, a text or a list of these. -/
inductive IsWritable : Literal → Prop
  | scalar {literal : Literal} (exact : literal.IsExact) : IsWritable literal
  | list {items : List Literal} (exact : ∀ item ∈ items, IsExact item) : IsWritable (.list items)

/-- Write a boolean, an integer or a text. -/
def writeScalar (quote : Quote) : Literal → List Char
  | .bool true => "True".toList
  | .bool false => "False".toList
  | .int value => writeInt value.toInt
  | .text value => quote.enclose value.toList
  | _ => []

/-- How an item of a list is written: with blanks around it, and with quotes if it is a text. -/
structure ItemStyle where
  front : List Char := []
  quote : Quote := .single
  back : List Char := []
  front_blank : Text.AllBlank front := by decide
  back_blank : Text.AllBlank back := by decide

/-- The choices of a writer of literals. -/
structure Style where
  /-- The quotes of a text that is not in a list. -/
  quote : Quote := .single
  /-- How the item at each place of a list is written. -/
  item : (place : Nat) → ItemStyle
  /-- Whether a comma stands behind the last item. -/
  comma : Bool := false
  /-- What stands behind this comma, or in a list without items. -/
  inner : List Char := []
  inner_blank : Text.AllBlank inner := by decide

namespace Style

/-- Write an item at a place of a list. -/
def writeItem (style : Style) (place : Nat) (item : Literal) : List Char :=
  (style.item place).front ++ (writeScalar (style.item place).quote item ++
    (style.item place).back)

/-- Write the items of a list from a place on. -/
def writeItems (style : Style) : (place : Nat) → List Literal → List Char
  | _, [] => style.inner
  | place, [item] =>
    style.writeItem place item ++ (if style.comma then ',' :: style.inner else [])
  | place, item :: items => style.writeItem place item ++ ',' :: style.writeItems (place + 1) items

/-- The characters of a literal that is written. -/
def writeChars (style : Style) : Literal → List Char
  | .list items => '[' :: (style.writeItems 0 items ++ [']'])
  | scalar => writeScalar style.quote scalar

/-- Write a literal. -/
def write (style : Style) (literal : Literal) : String := String.ofList (style.writeChars literal)

/-- The style of displayed literals: single quotes, and a blank behind each comma. -/
def display : Style where
  item place := match place with
    | 0 => {}
    | _ + 1 => { front := [' '] }

end Style

/-! ### Scalars -/

/-- An escaped text stands for itself between quotes of its kind. -/
theorem isQuoted_escape (quote : Quote) (text : List Char) :
    IsQuoted quote.mark (quote.escape text) text := by
  -- The escaped characters are none of the letters that stand for something else.
  have unescape_eq {c : Char} (special : c = '\\' ∨ c = quote.mark) : unescape c = c := by
    rcases special with rfl | rfl
    · rfl
    · cases quote <;> rfl
  induction text with
  | nil => exact .nil
  | cons c text ih =>
    rw [Quote.escape, List.flatMap_cons]
    by_cases special : c = '\\' ∨ c = quote.mark
    · rw [if_pos special]
      have escaped := IsQuoted.escaped c ih
      rwa [unescape_eq special] at escaped
    · rw [if_neg special]
      obtain ⟨literal, other⟩ := not_or.1 special
      exact .plain other literal ih

/-- The characters of an integer are those of a number. -/
theorem isLexeme_of_isInteger {text : List Char} {value : Int} (integer : IsInteger text value) :
    IsLexeme text := by
  obtain ⟨signed, -, digits_all⟩ := integer
  refine .intro signed ?_
  -- A digit goes on with a number behind any character.
  have chain {previous : Char} {digits : List Char} (digits_all : ∀ c ∈ digits, isDigit c = true) :
      (previous :: digits).IsChain Extends := by
    induction digits generalizing previous with
    | nil => exact .singleton previous
    | cons c digits ih =>
      obtain ⟨first, rest⟩ := List.forall_mem_cons.1 digits_all
      exact (ih rest).cons_cons (.inl first)
  exact chain digits_all

/-- An integer has no underscore. -/
theorem withoutUnderscores_of_isInteger {text : List Char} {value : Int}
    (integer : IsInteger text value) : withoutUnderscores text = text := by
  obtain ⟨signed, -, digits_all⟩ := integer
  -- Neither the sign nor a digit is an underscore.
  refine List.filter_eq_self.2 fun c listed => bne_iff_ne.2 ?_
  rintro rfl
  rcases List.mem_append.1 listed with inSign | inDigits
  · cases signed <;> simp at inSign
  · exact nomatch digits_all '_' inDigits

/-- An integer in decimal is a written form of the integer. -/
theorem spellsScalar_of_isInteger {text : List Char} {value : Int64}
    (integer : IsInteger text value.toInt) : SpellsScalar text (.int value) := by
  -- An integer holds no underscore, so the lexeme is read as it stands.
  have same := withoutUnderscores_of_isInteger integer
  refine .number (isLexeme_of_isInteger integer) ?_ (same.symm ▸ .int integer)
  obtain ⟨c, rest, rfl, start⟩ := integer.starts
  rintro ⟨⟩
  exact nomatch start

/-- What is written for a scalar is a written form of it. -/
theorem IsExact.spellsScalar {literal : Literal} (exact : literal.IsExact) (quote : Quote) :
    SpellsScalar (writeScalar quote literal) literal := by
  -- Integers and texts have been shown to be spelled, and Booleans are by evaluation.
  cases exact with
  | bool value => cases value <;> exact .bool (by decide)
  | int value => exact spellsScalar_of_isInteger (Number.isInteger_writeInt value.toInt)
  | text value =>
    have quote_eq : quote.mark = '\'' ∨ quote.mark = '"' := by cases quote <;> decide
    have spells := SpellsScalar.text quote_eq (isQuoted_escape quote value.toList)
    rwa [String.ofList_toList] at spells

/-! ### Lists -/

/-- An item that is written in front of a comma and the written form of other items. -/
theorem IsExact.spellsItems_writeItem {item : Literal} (exact : item.IsExact) (style : Style)
    (place : Nat) {rest : List Char} {items : List Literal} (others : SpellsItems rest items) :
    SpellsItems (style.writeItem place item ++ ',' :: rest) (item :: items) := by
  -- An item is a scalar between two stretches of blanks, which is what the grammar asks for.
  have spells := SpellsItems.cons (style.item place).front_blank
    (exact.spellsScalar (style.item place).quote) (style.item place).back_blank others
  simpa only [Style.writeItem, List.append_assoc] using spells

/-- What is written for the items of a list is a written form of them. -/
theorem spellsItems_writeItems (style : Style) (place : Nat) {items : List Literal}
    (exact : ∀ item ∈ items, item.IsExact) :
    SpellsItems (style.writeItems place items) items := by
  -- The induction is on the recursion of the writer, which sets the last item apart.
  induction place, items using Style.writeItems.induct with
  | case1 => exact .nil style.inner_blank
  | case2 place item =>
    have exact_item := exact item List.mem_cons_self
    rw [Style.writeItems]
    split
    · exact exact_item.spellsItems_writeItem style place (.nil style.inner_blank)
    · rw [List.append_nil]
      exact .last (style.item place).front_blank (exact_item.spellsScalar _)
        (style.item place).back_blank
  | case3 place item items several ih =>
    obtain ⟨exact_item, exact_items⟩ := List.forall_mem_cons.1 exact
    rw [Style.writeItems.eq_3 _ _ _ _ several]
    exact exact_item.spellsItems_writeItem style place (ih exact_items)

/-- A scalar is written in the quotes for texts that are not in a list. -/
theorem IsExact.writeChars_eq {literal : Literal} (exact : literal.IsExact) (style : Style) :
    style.writeChars literal = writeScalar style.quote literal := by
  cases exact <;> rfl

/-- What is written for a literal is a written form of it. -/
theorem IsWritable.spells {literal : Literal} (writable : literal.IsWritable) (style : Style) :
    Spells (style.writeChars literal) literal := by
  cases writable with
  | scalar exact =>
    rw [exact.writeChars_eq]
    exact .scalar (exact.spellsScalar style.quote)
  | list exact => exact .list (spellsItems_writeItems style 0 exact)

/-- What is written for a literal is read as this literal. -/
theorem IsWritable.parse_write {literal : Literal} (writable : literal.IsWritable) (style : Style) :
    parse (style.write literal) = .ok literal := by
  have spells := writable.spells style
  -- What is written has no blank at its ends, so trimming leaves it as it is.
  rw [parse_eq_ok_iff, Style.write, String.toList_ofList,
    Text.trim_eq_self spells.isTrimmed.starts spells.isTrimmed.ends]
  exact spells

/-! ### Displayed literals -/

/-- A text shows itself between single quotes: it has neither such a quote nor a backslash. -/
def IsUnescaped (text : String) : Prop := ∀ c ∈ text.toList, c ≠ '\'' ∧ c ≠ '\\'

instance (text : String) : Decidable (IsUnescaped text) :=
  List.decidableBAll _ text.toList

/-- The texts of a literal that is no list. -/
def scalarTexts : Literal → List String
  | .text value => [value]
  | _ => []

/-- The texts of a literal. -/
def texts : Literal → List String
  | .list items => items.flatMap scalarTexts
  | scalar => scalarTexts scalar

/-- Nothing is escaped in a text that shows itself. -/
theorem escape_eq_self {text : List Char} (unescaped : ∀ c ∈ text, c ≠ '\'' ∧ c ≠ '\\') :
    Quote.single.escape text = text := by
  -- Each character stands for itself, so that the escapes change nothing.
  induction text with
  | nil => rfl
  | cons c text ih =>
    obtain ⟨⟨other, literal⟩, unescaped⟩ := List.forall_mem_cons.1 unescaped
    have plain : ¬ (c = '\\' ∨ c = Quote.single.mark) := not_or.2 ⟨literal, other⟩
    rw [Quote.escape, List.flatMap_cons, if_neg plain]
    exact congrArg (c :: ·) (ih unescaped)

/-- A scalar whose text shows itself is displayed as it is written in single quotes. -/
theorem IsExact.displayChars_eq {literal : Literal} (exact : literal.IsExact)
    (unescaped : ∀ text ∈ literal.scalarTexts, IsUnescaped text) :
    literal.displayChars = writeScalar .single literal := by
  -- Only a text could show more in one form than in the other.
  cases exact with
  | bool value => cases value <;> rfl
  | int value => rfl
  | text value =>
    have same := escape_eq_self (unescaped value List.mem_cons_self)
    exact congrArg (fun body => '\'' :: (body ++ ['\''])) same.symm

/-- Behind an item that is written the others are displayed as they are written. -/
theorem writeItem_append_displayItems (place : Nat) (item : Literal) {items : List Literal}
    (exact : ∀ item ∈ items, item.IsExact)
    (unescaped : ∀ item ∈ items, ∀ text ∈ item.scalarTexts, IsUnescaped text) :
    Style.display.writeItem place item ++ displayItems items =
      Style.display.writeItems place (item :: items) ++ [']'] := by
  -- The item in front stays quantified over, for a comma depends on what follows it.
  induction items generalizing place item with
  | nil => exact congrArg (· ++ [']']) (List.append_nil _).symm
  | cons next items ih =>
    obtain ⟨exact_next, exact_items⟩ := List.forall_mem_cons.1 exact
    obtain ⟨unescaped_next, unescaped_items⟩ := List.forall_mem_cons.1 unescaped
    -- An item is displayed as it is written, with a space in front of it unless it is the first.
    have next_eq : ' ' :: displayChars next = Style.display.writeItem (place + 1) next := by
      rw [exact_next.displayChars_eq unescaped_next]
      exact congrArg (' ' :: ·) (List.append_nil _).symm
    calc Style.display.writeItem place item ++ displayItems (next :: items)
      _ = Style.display.writeItem place item ++
            ',' :: (' ' :: displayChars next ++ displayItems items) := by rw [displayItems]; rfl
      _ = Style.display.writeItem place item ++
            ',' :: (Style.display.writeItems (place + 1) (next :: items) ++ [']']) := by
          rw [next_eq, ih _ _ exact_items unescaped_items]
      _ = Style.display.writeItems place (item :: next :: items) ++ [']'] := by
          rw [Style.writeItems.eq_3 _ _ _ _ (List.cons_ne_nil _ _), List.append_assoc,
            List.cons_append]

/-- A literal whose texts show themselves is displayed as it is written in the style of displayed
literals. -/
theorem IsWritable.display_eq {literal : Literal} (writable : literal.IsWritable)
    (unescaped : ∀ text ∈ literal.texts, IsUnescaped text) :
    literal.display = Style.display.write literal := by
  refine congrArg String.ofList ?_
  -- A scalar is displayed on its own, a list with each of its items.
  cases writable with
  | scalar exact =>
    have texts_eq : literal.texts = literal.scalarTexts := by cases exact <;> rfl
    rw [exact.displayChars_eq (texts_eq ▸ unescaped), exact.writeChars_eq]
    rfl
  | @list items exact =>
    -- Only the first item has no space in front of it.
    cases items with
    | nil => rfl
    | cons item items =>
      obtain ⟨exact_item, exact_items⟩ := List.forall_mem_cons.1 exact
      have unescaped_items :
          ∀ item' ∈ item :: items, ∀ text ∈ item'.scalarTexts, IsUnescaped text :=
        fun item' listed text shown => unescaped text (List.mem_flatMap.2 ⟨item', listed, shown⟩)
      obtain ⟨unescaped_item, unescaped_items⟩ := List.forall_mem_cons.1 unescaped_items
      have first_eq : displayChars item = Style.display.writeItem 0 item := by
        rw [exact_item.displayChars_eq unescaped_item]
        exact (List.append_nil _).symm
      rw [displayChars, first_eq, List.cons_append,
        writeItem_append_displayItems 0 item exact_items unescaped_items]
      rfl

/--
A literal without floats is read as it was written, in whatever style: with single or double quotes
around each text, with blanks around the items of a list, with or without a comma behind the last.

It is read from its display as well if no text in it has a single quote or a backslash.
-/
theorem parse_writable {literal : Literal} (writable : literal.IsWritable) :
    (∀ style : Style, parse (style.write literal) = .ok literal) ∧
    ((∀ text ∈ literal.texts, IsUnescaped text) → parse literal.display = .ok literal) := by
  refine ⟨writable.parse_write, fun unescaped => ?_⟩
  rw [writable.display_eq unescaped]
  exact writable.parse_write .display

/-- A list is read that is written with an escape, on several lines and with a comma at its end, and
a list is read from its display. -/
theorem parse_writable_listed :
    let literal : Literal := .list [.text "it's\\n", .int Int64.minValue, .bool false]
    let style : Style := {
      item := fun _ => { front := ['\n'], back := [' '] }
      comma := true
      inner := ['\t'] }
    let shown : Literal := .list [.text "a \"b\"", .int Int64.maxValue]
    literal.IsWritable ∧
      style.write literal = "[\n'it\\'s\\\\n' ,\n-9223372036854775808 ,\nFalse ,\t]" ∧
      parse "[\n'it\\'s\\\\n' ,\n-9223372036854775808 ,\nFalse ,\t]" = .ok literal ∧
      shown.IsWritable ∧ (∀ text ∈ shown.texts, IsUnescaped text) ∧
      shown.display = "['a \"b\"', 9223372036854775807]" ∧
      parse "['a \"b\"', 9223372036854775807]" = .ok shown := by
  intro literal style shown
  -- Both literals are written by evaluation, and what is written reads by the theorem.
  -- Every item is exact, and no text of the second literal has anything to be escaped.
  have writable : literal.IsWritable := .list (List.forall_mem_cons.2
    ⟨.text _, List.forall_mem_cons.2 ⟨.int _, List.forall_mem_singleton.2 (.bool _)⟩⟩)
  have writable' : shown.IsWritable := .list (List.forall_mem_cons.2
    ⟨.text _, List.forall_mem_singleton.2 (.int _)⟩)
  have unescaped : ∀ text ∈ shown.texts, IsUnescaped text :=
    List.forall_mem_singleton.2 (by decide)
  have written : style.write literal =
      "[\n'it\\'s\\\\n' ,\n-9223372036854775808 ,\nFalse ,\t]" := by decide +kernel
  have displayed : shown.display = "['a \"b\"', 9223372036854775807]" := by decide +kernel
  exact ⟨writable, written, written ▸ (parse_writable writable).1 style, writable', unescaped,
    displayed, displayed ▸ (parse_writable writable').2 unescaped⟩

end Literal
end FlightQuery
