import FlightQuery.Proofs.Literal.Sound
import FlightQuery.Proofs.Number.Decimal
import FlightQuery.Proofs.Text.Blank
import Mathlib.Data.List.Chain

/-! The written forms of literals: texts in quotes, names of booleans, numbers, lists of these. -/

namespace FlightQuery.Literal

open Number (IsSign IsInteger IsDecimal isDigit)

/-- The character that an escaped one stands for. -/
def unescape (e : Char) : Char :=
  if e = 'n' then '\n' else if e = 't' then '\t' else if e = 'r' then '\r' else e

/-- What stands between two quotes, and the characters that it stands for. A quote of the same kind
is always escaped, so that the first one that is not closes the text. -/
inductive IsQuoted (quote : Char) : List Char → List Char → Prop
  | nil : IsQuoted quote [] []
  | plain {c : Char} {body characters : List Char} (other : c ≠ quote) (literal : c ≠ '\\')
      (rest : IsQuoted quote body characters) : IsQuoted quote (c :: body) (c :: characters)
  | escaped (e : Char) {body characters : List Char} (rest : IsQuoted quote body characters) :
      IsQuoted quote ('\\' :: e :: body) (unescape e :: characters)

/-- A character goes on with a number behind another character: it is a digit, an underscore, a
point or the mark of an exponent, or a sign directly behind such a mark. -/
def Extends (previous c : Char) : Prop :=
  isDigit c = true ∨ c = '_' ∨ c = '.' ∨ c = 'e' ∨ c = 'E' ∨
    (c = '-' ∨ c = '+') ∧ (previous = 'e' ∨ previous = 'E')

instance (previous c : Char) : Decidable (Extends previous c) :=
  inferInstanceAs (Decidable (_ ∨ _))

/-- The characters of a number: a sign, which may be left out, and what goes on with a number. -/
inductive IsLexeme : List Char → Prop
  | intro {sign body : List Char} {negative : Bool} (signed : IsSign sign negative)
      (chain : (' ' :: body).IsChain Extends) : IsLexeme (sign ++ body)

/-- A text without its underscores. -/
def withoutUnderscores (text : List Char) : List Char := text.filter (· != '_')

/-- The number that a text without underscores stands for: an integer if 64 bits can hold it, and
otherwise a float, which has to be finite. -/
inductive IsNumber : List Char → Literal → Prop
  | int {text : List Char} {value : Int64} (integer : IsInteger text value.toInt) :
      IsNumber text (.int value)
  | float {text : List Char} {value : Binary64}
      (wide : ∀ word : Int64, ¬ IsInteger text word.toInt) (decimal : IsDecimal text value)
      (finite : value.isFinite = true) : IsNumber text (.float value)

/-- The names of the booleans. -/
def booleans : List (String × Bool) :=
  [("True", true), ("true", true), ("False", false), ("false", false)]

/-- The written forms of literals that are no lists. A number does not start with an underscore. -/
inductive SpellsScalar : List Char → Literal → Prop
  | text {quote : Char} {body characters : List Char} (quote_eq : quote = '\'' ∨ quote = '"')
      (quoted : IsQuoted quote body characters) :
      SpellsScalar (quote :: (body ++ [quote])) (.text (String.ofList characters))
  | bool {name : String} {value : Bool} (named : (name, value) ∈ booleans) :
      SpellsScalar name.toList (.bool value)
  | number {text : List Char} {literal : Literal} (lexeme : IsLexeme text)
      (starts : text.head? ≠ some '_') (number : IsNumber (withoutUnderscores text) literal) :
      SpellsScalar text literal

/-- The written forms of the items of a list: there is a comma between two of them, there may be one
behind the last, and there may be blanks around each. -/
inductive SpellsItems : List Char → List Literal → Prop
  | nil {blanks : List Char} (blank : Text.AllBlank blanks) : SpellsItems blanks []
  | last {front text back : List Char} {item : Literal} (front_blank : Text.AllBlank front)
      (spells : SpellsScalar text item) (back_blank : Text.AllBlank back) :
      SpellsItems (front ++ (text ++ back)) [item]
  | cons {front text back rest : List Char} {item : Literal} {items : List Literal}
      (front_blank : Text.AllBlank front) (spells : SpellsScalar text item)
      (back_blank : Text.AllBlank back) (others : SpellsItems rest items) :
      SpellsItems (front ++ (text ++ (back ++ ',' :: rest))) (item :: items)

/-- The written forms of literals. -/
inductive Spells : List Char → Literal → Prop
  | scalar {text : List Char} {literal : Literal} (spells : SpellsScalar text literal) :
      Spells text literal
  | list {text : List Char} {items : List Literal} (spells : SpellsItems text items) :
      Spells ('[' :: (text ++ [']'])) (.list items)

/-! ### What follows a literal -/

/-- A text goes on with nothing that could belong to a literal in front of it. -/
def IsApart (rest : List Char) : Prop :=
  ∀ c ∈ rest.head?, Text.isBlank c = true ∨ c = ',' ∨ c = ']'

/-- Blanks stand apart if what follows them does. -/
theorem isApart_append {blanks rest : List Char} (blank : Text.AllBlank blanks)
    (apart : IsApart rest) : IsApart (blanks ++ rest) := by
  -- Only the first character matters, and it is a blank if there are blanks at all.
  cases blanks with
  | nil => exact apart
  | cons c blanks =>
    intro first first_eq
    cases first_eq
    exact .inl (blank c List.mem_cons_self)

/-- The codes of the blank characters. -/
def blankCodes : List Nat :=
  [9, 10, 11, 12, 13, 32, 0x85, 0xa0, 0x1680, 0x2000, 0x2001, 0x2002, 0x2003, 0x2004, 0x2005,
    0x2006, 0x2007, 0x2008, 0x2009, 0x200a, 0x2028, 0x2029, 0x202f, 0x205f, 0x3000]

/-- Blank characters have these codes. -/
theorem mem_blankCodes {c : Char} (blank : Text.isBlank c = true) : c.toNat ∈ blankCodes := by
  -- Comparisons of characters are turned into comparisons of their codes.
  have le_iff (first last : Char) : first ≤ last ↔ first.toNat ≤ last.toNat := Iff.rfl
  have eq_iff (first last : Char) : first = last ↔ first.toNat = last.toNat :=
    ⟨congrArg _, Char.toNat_inj.1⟩
  simp only [Text.isBlank, Bool.or_eq_true, Bool.and_eq_true, beq_iff_eq, decide_eq_true_eq, le_iff,
    eq_iff, Char.reduceToNat] at blank
  simp only [blankCodes, List.mem_cons, List.not_mem_nil, or_false]
  omega

/-- What stands apart from a literal belongs neither to a word nor to a number. -/
theorem IsApart.stops {rest : List Char} (apart : IsApart rest) {c : Char}
    (first : c ∈ rest.head?) :
    isWordCharacter c = false ∧ ∀ previous, ¬ Extends previous c := by
  -- All characters that can stand there are checked, the blanks by their codes.
  have table : ∀ code ∈ ','.toNat :: ']'.toNat :: blankCodes,
      isWordCharacter (Char.ofNat code) = false ∧ isDigit (Char.ofNat code) = false ∧
        Char.ofNat code ∉ ['_', '.', 'e', 'E', '-', '+'] := by decide +kernel
  have listed : c.toNat ∈ ','.toNat :: ']'.toNat :: blankCodes := by
    rcases apart c first with blank | rfl | rfl
    · exact List.mem_cons_of_mem _ (List.mem_cons_of_mem _ (mem_blankCodes blank))
    · exact List.mem_cons_self
    · exact List.mem_cons_of_mem _ List.mem_cons_self
  obtain ⟨word, digit, other⟩ := table c.toNat listed
  rw [Char.ofNat_toNat] at word digit other
  refine ⟨word, ?_⟩
  rintro previous (is | is | is | is | is | ⟨is | is, -⟩)
  · exact nomatch digit.symm.trans is
  all_goals exact other (by simp [is])

/-! ### Visible ends -/

/-- A text neither starts nor ends with a blank. -/
structure IsTrimmed (text : List Char) : Prop where
  starts : Text.startsBlank text = false
  ends : Text.endsBlank text = false

/-- A text without blanks is trimmed. -/
theorem IsTrimmed.of_visible {text : List Char}
    (visible : ∀ c ∈ text, Text.isBlank c = false) : IsTrimmed text := by
  -- The end is seen to as the start is, in the reversed text.
  have starts {text : List Char} (visible : ∀ c ∈ text, Text.isBlank c = false) :
      Text.startsBlank text = false := by
    cases text with
    | nil => rfl
    | cons c rest => exact visible c List.mem_cons_self
  exact ⟨starts visible, starts fun c listed => visible c (List.mem_reverse.1 listed)⟩

/-- A text between two visible characters is trimmed. -/
theorem IsTrimmed.of_enclosed {first last : Char} (text : List Char)
    (opens : Text.isBlank first = false) (closes : Text.isBlank last = false) :
    IsTrimmed (first :: (text ++ [last])) := by
  refine ⟨opens, ?_⟩
  rw [Text.endsBlank, List.reverse_cons, List.reverse_append]
  exact closes

/-- What goes on with a number is visible. -/
theorem Extends.visible {previous c : Char} (extends' : Extends previous c) :
    Text.isBlank c = false := by
  by_contra blank
  -- A blank would stand apart, and no character that stands apart extends a number.
  have apart : IsApart [c] := fun first first_eq => by
    cases first_eq
    exact .inl (by simpa using blank)
  exact (apart.stops rfl).2 previous extends'

/-- The characters of a number are visible. -/
theorem IsLexeme.isTrimmed {text : List Char} (lexeme : IsLexeme text) : IsTrimmed text := by
  obtain ⟨signed, chain⟩ := lexeme
  -- Whatever stands in front of it, a character that goes on with a number is visible.
  have body_visible {previous : Char} {body : List Char}
      (chain : (previous :: body).IsChain Extends) : ∀ c ∈ body, Text.isBlank c = false := by
    induction body generalizing previous with
    | nil => simp
    | cons c body ih =>
      obtain ⟨first, rest⟩ := List.isChain_cons_cons.1 chain
      exact List.forall_mem_cons.2 ⟨first.visible, ih rest⟩
  refine .of_visible (List.forall_mem_append.2 ⟨?_, body_visible chain⟩)
  cases signed with
  | none => exact List.forall_mem_nil _
  | plus | minus => exact List.forall_mem_singleton.2 rfl

/-- A literal that is no list is trimmed. -/
theorem SpellsScalar.isTrimmed {text : List Char} {literal : Literal}
    (spells : SpellsScalar text literal) : IsTrimmed text := by
  -- Quotes enclose a text, and neither Booleans nor numbers have a blank in them.
  cases spells with
  | text quote_eq quoted =>
    rcases quote_eq with rfl | rfl
    · exact .of_enclosed _ rfl rfl
    · exact .of_enclosed _ rfl rfl
  | bool named =>
    have table : ∀ entry ∈ booleans, (entry.1.toList.all fun c => !Text.isBlank c) = true := by
      decide
    exact .of_visible fun c listed => by simpa using List.all_eq_true.1 (table _ named) c listed
  | number lexeme => exact lexeme.isTrimmed

/-- A literal is trimmed. -/
theorem Spells.isTrimmed {text : List Char} {literal : Literal} (spells : Spells text literal) :
    IsTrimmed text := by
  -- A scalar has visible ends, and a list ends in its own brackets.
  cases spells with
  | scalar spells => exact spells.isTrimmed
  | list => exact .of_enclosed _ rfl rfl

end FlightQuery.Literal
