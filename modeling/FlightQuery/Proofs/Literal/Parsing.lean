import FlightQuery.Proofs.Literal.Grammar

/-! The reader accepts exactly the written forms of literals. -/

namespace FlightQuery.Literal

open Number (IsSign IsInteger IsDecimal isDigit)

/-! ### Texts -/

/-- A quote closes the text. -/
theorem readText_close (quote : Char) (rest : List Char) :
    readText quote (quote :: rest) = .ok ([], rest) := by
  rw [readText.eq_def]
  exact if_pos rfl

/-- A plain character stands for itself. -/
theorem readText_plain {quote c : Char} (other : c ≠ quote) (literal : c ≠ '\\')
    (rest : List Char) : readText quote (c :: rest) = do
      let (characters, rest) ← readText quote rest
      return (c :: characters, rest) := by
  rw [readText.eq_def]
  exact (if_neg other).trans (if_neg literal)

/-- A backslash takes the character behind it along. -/
theorem readText_escaped {quote : Char} (unescaped : quote ≠ '\\') (e : Char)
    (rest : List Char) : readText quote ('\\' :: e :: rest) = do
      let (characters, rest) ← readText quote rest
      return (unescape e :: characters, rest) := by
  rw [readText.eq_def]
  exact (if_neg unescaped.symm).trans (if_pos rfl)

/-- The reader of a text stops at the quote that closes it. -/
theorem exists_of_readText {quote : Char} (unescaped : quote ≠ '\\')
    {input characters rest : List Char} (read : readText quote input = .ok (characters, rest)) :
    ∃ body, input = body ++ quote :: rest ∧ IsQuoted quote body characters := by
  -- The induction is on the recursion of the reader: an escape takes two characters at once.
  induction input using readText.induct quote generalizing characters with
  | case1 => cases read
  -- The quote that closes the text ends it.
  | case2 rest =>
    rw [readText_close] at read
    cases read
    exact ⟨[], rfl, .nil⟩
  -- A backslash at the very end escapes nothing.
  | case3 other =>
    rw [readText.eq_2, if_neg other] at read
    cases read
  | case4 e rest other ih =>
    rw [readText_escaped unescaped] at read
    obtain ⟨⟨characters', rest'⟩, read', made⟩ := Outcome.bind_eq_ok_iff.1 read
    cases made
    obtain ⟨body, rfl, quoted⟩ := ih read'
    exact ⟨'\\' :: e :: body, rfl, .escaped e quoted⟩
  | case5 c rest other literal ih =>
    rw [readText_plain other literal] at read
    obtain ⟨⟨characters', rest'⟩, read', made⟩ := Outcome.bind_eq_ok_iff.1 read
    cases made
    obtain ⟨body, rfl, quoted⟩ := ih read'
    exact ⟨c :: body, rfl, .plain other literal quoted⟩

/-- A text is read up to the quote that closes it. -/
theorem IsQuoted.readText_eq {quote : Char} {body characters : List Char}
    (quoted : IsQuoted quote body characters) (unescaped : quote ≠ '\\') (rest : List Char) :
    readText quote (body ++ quote :: rest) = .ok (characters, rest) := by
  -- The induction follows the text that is quoted, one character or one escape at a time.
  induction quoted with
  | nil => exact readText_close quote rest
  | plain other literal _ ih =>
    rw [List.cons_append, readText_plain other literal, ih]
    rfl
  | escaped e _ ih =>
    rw [List.cons_append, List.cons_append, readText_escaped unescaped, ih]
    rfl

/-! ### Numbers -/

/-- A character goes on with a number, and it is split off. -/
theorem spanNumber_cons_of_extends {previous c : Char} (extends' : Extends previous c)
    (rest : List Char) : spanNumber previous (c :: rest) =
      (c :: (spanNumber c rest).1, (spanNumber c rest).2) := by
  refine if_pos ?_
  simpa [Extends, or_assoc] using extends'

/-- A character does not go on with a number, and nothing is split off. -/
theorem spanNumber_cons_of_not_extends {previous c : Char} (stops : ¬ Extends previous c)
    (rest : List Char) : spanNumber previous (c :: rest) = ([], c :: rest) := by
  refine if_neg ?_
  simpa [Extends, or_assoc] using stops

/-- What is split off goes on with a number, and nothing is lost. -/
theorem exists_spanNumber (previous : Char) (text : List Char) :
    text = (spanNumber previous text).1 ++ (spanNumber previous text).2 ∧
      (previous :: (spanNumber previous text).1).IsChain Extends := by
  -- Each character is judged by the one in front of it, so that the induction is over both.
  induction text generalizing previous with
  | nil => exact ⟨rfl, .singleton previous⟩
  | cons c text ih =>
    by_cases extends' : Extends previous c
    · rw [spanNumber_cons_of_extends extends']
      obtain ⟨text_eq, chain⟩ := ih c
      exact ⟨congrArg (c :: ·) text_eq, chain.cons_cons extends'⟩
    · rw [spanNumber_cons_of_not_extends extends']
      exact ⟨rfl, .singleton previous⟩

/-- A number is split off from what stands apart from it. -/
theorem spanNumber_append {previous : Char} {number rest : List Char}
    (chain : (previous :: number).IsChain Extends) (apart : IsApart rest) :
    spanNumber previous (number ++ rest) = (number, rest) := by
  -- The character before stays quantified over, since it tells whether the next one belongs to it.
  induction number generalizing previous with
  | nil =>
    cases rest with
    | nil => rfl
    | cons c rest => exact spanNumber_cons_of_not_extends ((apart.stops rfl).2 previous) rest
  | cons c number ih =>
    obtain ⟨extends', rest_chain⟩ := List.isChain_cons_cons.1 chain
    rw [List.cons_append, spanNumber_cons_of_extends extends', ih rest_chain]

/-- An integer has neither a point nor the mark of an exponent. -/
theorem isWhole_of_isInteger {text : List Char} {value : Int} (integer : IsInteger text value) :
    (!text.any fun c => c == '.' || c == 'e' || c == 'E') = true := by
  obtain ⟨signed, _, digits_all⟩ := integer
  -- A point or an exponent is no digit, and behind its sign an integer has only digits.
  have digits_whole {c : Char} (digit : isDigit c = true) : ¬ (c = '.' ∨ c = 'e' ∨ c = 'E') := by
    rintro (rfl | rfl | rfl) <;> exact nomatch digit
  cases signed <;>
    simpa [or_assoc] using fun c listed => by simpa using digits_whole (digits_all c listed)

/-- A number is read as what it stands for. -/
theorem numberValue_eq_ok_iff {text : List Char} {literal : Literal} :
    numberValue text = .ok literal ↔ IsNumber text literal := by
  -- Texts that are not whole are no integers anyway.
  have integer_eq : (if !text.any fun c => c == '.' || c == 'e' || c == 'E' then
      Number.readInt64? text else none) = Number.readInt64? text := by
    cases read : Number.readInt64? text with
    | none => exact ite_self none
    | some word => exact if_pos (isWhole_of_isInteger (Number.readInt64?_eq_some_iff.1 read))
  unfold numberValue
  simp only [integer_eq]
  -- A text that is an integer of 64 bits is read as one, and never as a float.
  cases read : Number.readInt64? text with
  | some word =>
    have integer := Number.readInt64?_eq_some_iff.1 read
    constructor
    · rintro ⟨⟩
      exact .int integer
    · rintro (⟨integer'⟩ | ⟨wide, _, _⟩)
      · cases read.symm.trans (Number.readInt64?_eq_some_iff.2 integer')
        rfl
      · exact absurd integer (wide word)
  -- Any other text is a number only if it is a decimal with a finite value.
  | none =>
    have wide (word : Int64) : ¬ IsInteger text word.toInt := fun integer =>
      nomatch read.symm.trans (Number.readInt64?_eq_some_iff.2 integer)
    constructor
    · intro valued
      cases read' : Number.readBinary64? text with
      | none => simp [read'] at valued
      | some value =>
        simp only [read'] at valued
        split at valued
        · rename_i finite
          cases valued
          exact .float wide ((Number.readBinary64?_eq_some_iff finite).1 read') finite
        · cases valued
    · rintro (⟨integer⟩ | ⟨_, decimal, finite⟩)
      · exact absurd integer (wide _)
      · simp only [(Number.readBinary64?_eq_some_iff finite).2 decimal]
        exact if_pos finite

/-- What follows a sign goes on with a number as it would without the sign. -/
theorem isChain_iff_of_unmarked {first : Char} (unmarked : first ≠ 'e' ∧ first ≠ 'E')
    (body : List Char) :
    (first :: body).IsChain Extends ↔ (' ' :: body).IsChain Extends := by
  -- A character other than the exponent letter allows what a blank before the body allows.
  cases body with
  | nil => simp
  | cons c body => simp [List.isChain_cons_cons, Extends, unmarked]

/-- A number starts with a sign, a digit or a point. -/
theorem IsNumber.starts {text : List Char} {literal : Literal} (number : IsNumber text literal) :
    ∃ c rest, text = c :: rest ∧ startsNumber c = true := by
  -- The sign may be missing, and then the first digit or point stands at the start.
  obtain ⟨c, rest, text_eq, start⟩ : ∃ c rest, text = c :: rest ∧
      (isDigit c = true ∨ c = '.' ∨ c = '-' ∨ c = '+') := by
    cases number with
    | int integer =>
      obtain ⟨c, rest, text_eq, start⟩ := integer.starts
      exact ⟨c, rest, text_eq, start.imp_right .inr⟩
    | float _ decimal => exact decimal.starts
  refine ⟨c, rest, text_eq, ?_⟩
  simp only [startsNumber, Bool.or_eq_true, beq_iff_eq]
  tauto

/-- The characters that the reader of numbers splits off, and those that follow them. -/
def splitNumber (first : Char) (rest : List Char) : List Char × List Char :=
  if first = '-' ∨ first = '+' then
    (first :: (spanNumber first rest).1, (spanNumber first rest).2)
  else spanNumber ' ' (first :: rest)

/-- The reader of numbers succeeds when the characters that it splits off stand for a number. -/
theorem readNumber_eq_ok_iff {first : Char} {input rest : List Char} {literal : Literal} :
    readNumber first input = .ok (literal, rest) ↔
      IsNumber (withoutUnderscores (splitNumber first input).1) literal ∧
        (splitNumber first input).2 = rest := by
  rw [← numberValue_eq_ok_iff]
  unfold readNumber
  -- The reader splits off the same characters, and only their value can be missing.
  split
  rename_i number rest' number_eq
  have split_eq : splitNumber first input = (number, rest') := number_eq
  rw [split_eq]
  change _ ↔ numberValue (number.filter (· != '_')) = _ ∧ _
  cases numberValue (number.filter (· != '_')) <;> simp

/-- What is split off are the characters of a number. -/
theorem exists_splitNumber (first : Char) (input : List Char) :
    first :: input = (splitNumber first input).1 ++ (splitNumber first input).2 ∧
      IsLexeme (splitNumber first input).1 := by
  -- A sign is taken without asking, and everything behind it as far as the number extends.
  unfold splitNumber
  split
  · rename_i sign
    obtain ⟨input_eq, chain⟩ := exists_spanNumber first input
    have unmarked : first ≠ 'e' ∧ first ≠ 'E' := by rcases sign with rfl | rfl <;> decide
    -- A sign marks no exponent, so that the character behind it need not extend it.
    rw [isChain_iff_of_unmarked unmarked] at chain
    refine ⟨congrArg (first :: ·) input_eq, ?_⟩
    rcases sign with rfl | rfl
    · exact .intro .minus chain
    · exact .intro .plus chain
  · obtain ⟨input_eq, chain⟩ := exists_spanNumber ' ' (first :: input)
    exact ⟨input_eq, .intro .none chain⟩

/-- The characters of a number are split off from what stands apart from them. -/
theorem IsLexeme.splitNumber_eq {first : Char} {more rest : List Char}
    (lexeme : IsLexeme (first :: more)) (apart : IsApart rest) :
    splitNumber first (more ++ rest) = (first :: more, rest) := by
  -- A sign is split off in front of what goes on with the number.
  have behind {sign : Char} {body : List Char} (signed : sign = '-' ∨ sign = '+')
      (chain : (' ' :: body).IsChain Extends) :
      splitNumber sign (body ++ rest) = (sign :: body, rest) := by
    have unmarked : sign ≠ 'e' ∧ sign ≠ 'E' := by rcases signed with rfl | rfl <;> decide
    rw [← isChain_iff_of_unmarked unmarked] at chain
    rw [splitNumber, if_pos signed, spanNumber_append chain apart]
  generalize text_eq : first :: more = text at lexeme
  obtain @⟨sign, body, negative, signed, chain⟩ := lexeme
  cases signed with
  | none =>
    rw [List.nil_append] at text_eq
    rw [← text_eq] at chain ⊢
    -- No sign goes on with a number at its start.
    have unsigned : ¬ (first = '-' ∨ first = '+') := by
      have extends' := (List.isChain_cons_cons.1 chain).1
      rintro (rfl | rfl) <;> revert extends' <;> decide
    rw [splitNumber, if_neg unsigned]
    exact spanNumber_append chain apart
  | plus =>
    obtain ⟨rfl, rfl⟩ := List.cons.inj text_eq
    exact behind (.inr rfl) chain
  | minus =>
    obtain ⟨rfl, rfl⟩ := List.cons.inj text_eq
    exact behind (.inl rfl) chain

/-- What the reader of numbers takes is a number. -/
theorem exists_of_readNumber {first : Char} {input rest : List Char} {literal : Literal}
    (starts : startsNumber first = true)
    (read : readNumber first input = .ok (literal, rest)) :
    ∃ text, first :: input = text ++ rest ∧ SpellsScalar text literal := by
  obtain ⟨number, rfl⟩ := readNumber_eq_ok_iff.1 read
  obtain ⟨input_eq, lexeme⟩ := exists_splitNumber first input
  refine ⟨_, input_eq, .number lexeme ?_ number⟩
  -- The first character of the number is the given one.
  cases text_eq : (splitNumber first input).1 with
  | nil => simp
  | cons c text =>
    rw [text_eq, List.cons_append] at input_eq
    obtain ⟨rfl, -⟩ := List.cons.inj input_eq
    rintro ⟨⟩
    exact nomatch starts

/-- A number that does not start with an underscore starts with a sign, a digit or a point. -/
theorem exists_startsNumber {text : List Char} {literal : Literal}
    (starts : text.head? ≠ some '_') (number : IsNumber (withoutUnderscores text) literal) :
    ∃ first more, text = first :: more ∧ startsNumber first = true := by
  obtain ⟨c, others, text_eq, start⟩ := number.starts
  cases text with
  | nil => cases text_eq
  | cons first more =>
    -- Without the underscores the number starts with the same character.
    have kept : first ≠ '_' := fun same => starts (congrArg some same)
    rw [withoutUnderscores, List.filter_cons_of_pos (by simpa using kept)] at text_eq
    obtain ⟨rfl, -⟩ := List.cons.inj text_eq
    exact ⟨first, more, rfl, start⟩

/-! ### Words -/

/-- What the reader of words takes is the name of a boolean. -/
theorem exists_of_readWord {input rest : List Char} {literal : Literal}
    (read : readWord input = .ok (literal, rest)) :
    ∃ text, input = text ++ rest ∧ SpellsScalar text literal := by
  -- The word in front is compared with the names of the booleans.
  have input_eq : input = (String.ofList (input.takeWhile isWordCharacter)).toList ++
      input.dropWhile isWordCharacter := by
    rw [String.toList_ofList, List.takeWhile_append_dropWhile]
  unfold readWord at read
  dsimp only at read
  split at read
  · rename_i name
    cases read
    refine ⟨_, input_eq, .bool ?_⟩
    rcases name with name | name <;> rw [name] <;> decide
  · split at read
    · rename_i name
      cases read
      refine ⟨_, input_eq, .bool ?_⟩
      rcases name with name | name <;> rw [name] <;> decide
    · cases read

/-- The name of a boolean starts with a letter, which starts nothing else. -/
theorem exists_letter_of_booleans {name : String} {value : Bool}
    (named : (name, value) ∈ booleans) :
    ∃ c rest, name.toList = c :: rest ∧ Text.isAlphabetic c = true ∧ ¬ startsNumber c = true ∧
      ¬ (c = '\'' ∨ c = '"') ∧ c ≠ '[' ∧ c ≠ ']' := by
  simp only [booleans, List.mem_cons, Prod.mk.injEq, List.not_mem_nil, or_false] at named
  -- The table has four names, and each of them starts with a letter.
  rcases named with ⟨rfl, _⟩ | ⟨rfl, _⟩ | ⟨rfl, _⟩ | ⟨rfl, _⟩
  all_goals exact ⟨_, _, rfl, by decide +kernel⟩

/-- The name of a boolean is read up to what stands apart from it. -/
theorem readWord_append {name : String} {value : Bool} {rest : List Char}
    (named : (name, value) ∈ booleans) (apart : IsApart rest) :
    readWord (name.toList ++ rest) = .ok (.bool value, rest) := by
  have table : ∀ entry ∈ booleans, entry.1.toList.all isWordCharacter = true := by
    decide +kernel
  have letters := List.all_eq_true.1 (table _ named)
  obtain ⟨word_eq, rest_eq⟩ := Number.span_append letters fun c first => (apart.stops first).1
  unfold readWord
  simp only [word_eq, rest_eq, String.ofList_toList]
  -- Each of the four names is compared with itself.
  simp only [booleans, List.mem_cons, Prod.mk.injEq, List.not_mem_nil, or_false] at named
  rcases named with ⟨rfl, rfl⟩ | ⟨rfl, rfl⟩ | ⟨rfl, rfl⟩ | ⟨rfl, rfl⟩ <;> rfl

/-! ### Scalars -/

/-- No quote is a backslash. -/
theorem unescaped_of_quote {quote : Char} (quote_eq : quote = '\'' ∨ quote = '"') :
    quote ≠ '\\' := by
  rcases quote_eq with rfl | rfl <;> decide

/-- What the reader of scalars takes is the written form of one. -/
theorem exists_of_readScalar {input rest : List Char} {literal : Literal}
    (read : readScalar input = .ok (literal, rest)) :
    ∃ text, input = text ++ rest ∧ SpellsScalar text literal := by
  cases input with
  | nil => cases read
  | cons c input =>
    -- The first character settles which of the readers goes on.
    rw [readScalar] at read
    split at read
    · rename_i quote_eq
      obtain ⟨⟨characters, rest'⟩, read', made⟩ := Outcome.bind_eq_ok_iff.1 read
      cases made
      obtain ⟨body, rfl, quoted⟩ := exists_of_readText (unescaped_of_quote quote_eq) read'
      exact ⟨c :: (body ++ [c]), by simp, .text quote_eq quoted⟩
    · -- A bracket is refused here, for lists do not hold lists.
      split at read
      · cases read
      · split at read
        · rename_i starts
          exact exists_of_readNumber starts read
        · split at read
          · exact exists_of_readWord read
          · cases read

/-- The written form of a scalar is read up to what stands apart from it. -/
theorem SpellsScalar.readScalar_append {text : List Char} {literal : Literal}
    (spells : SpellsScalar text literal) {rest : List Char} (apart : IsApart rest) :
    readScalar (text ++ rest) = .ok (literal, rest) := by
  -- The first character tells which reader is taken, and each form starts with one of its own.
  cases spells with
  | @text quote body characters quote_eq quoted =>
    have read := quoted.readText_eq (unescaped_of_quote quote_eq) rest
    rw [List.cons_append, List.append_assoc, List.singleton_append, readScalar, if_pos quote_eq,
      read]
    rfl
  | @bool name value named =>
    have read := readWord_append named apart
    obtain ⟨c, more, text_eq, letter, word, unquoted, flat, _⟩ := exists_letter_of_booleans named
    rw [text_eq, List.cons_append] at read ⊢
    rw [readScalar, if_neg unquoted, if_neg flat, if_neg word, if_pos letter, read]
  -- A number is tried behind quotes and brackets, so that it must start with neither.
  | number lexeme starts number =>
    obtain ⟨first, more, rfl, starts'⟩ := exists_startsNumber starts number
    have read : readNumber first (more ++ rest) = .ok (literal, rest) := by
      rw [readNumber_eq_ok_iff, lexeme.splitNumber_eq apart]
      exact ⟨number, rfl⟩
    have unquoted : ¬ (first = '\'' ∨ first = '"') := by
      rintro (rfl | rfl) <;> exact nomatch starts'
    have flat : first ≠ '[' := by
      rintro rfl
      exact nomatch starts'
    rw [List.cons_append, readScalar, if_neg unquoted, if_neg flat, if_pos starts', read]

/-- The written form of a scalar does not start with a bracket. -/
theorem SpellsScalar.starts {text : List Char} {literal : Literal}
    (spells : SpellsScalar text literal) :
    ∃ c rest, text = c :: rest ∧ c ≠ '[' ∧ c ≠ ']' := by
  -- No quote, letter, sign or digit is a bracket.
  cases spells with
  | @text quote body _ quote_eq =>
    exact ⟨quote, _, rfl, by rcases quote_eq with rfl | rfl <;> decide⟩
  | bool named =>
    obtain ⟨c, rest, text_eq, _, _, _, opening, closing⟩ := exists_letter_of_booleans named
    exact ⟨c, rest, text_eq, opening, closing⟩
  | number _ starts number =>
    obtain ⟨first, more, rfl, starts'⟩ := exists_startsNumber starts number
    refine ⟨first, more, rfl, ?_, ?_⟩ <;> rintro rfl <;> exact nomatch starts'

/-! ### Lists -/

/-- The reader of items stops at the bracket that closes the list. -/
theorem exists_of_readItems {fuel : Nat} {input rest : List Char} {items : List Literal}
    (read : readItems fuel input = .ok (items, rest)) :
    ∃ text, input = text ++ ']' :: rest ∧ SpellsItems text items := by
  -- The induction is on the fuel, of which each item uses up one.
  induction fuel generalizing input items with
  | zero => cases read
  | succ fuel ih =>
    -- Blanks in front of an item are skipped, and those behind it as well.
    obtain ⟨front, front_blank, input_eq⟩ := Text.exists_trimStart input
    rw [readItems] at read
    split at read
    · -- The list ends behind a comma, or it is empty.
      rename_i closed
      cases read
      exact ⟨front, closed ▸ input_eq, .nil front_blank⟩
    · obtain ⟨⟨item, rest'⟩, read', made⟩ := Outcome.bind_eq_ok_iff.1 read
      obtain ⟨text, text_eq, spells⟩ := exists_of_readScalar read'
      obtain ⟨back, back_blank, rest_eq⟩ := Text.exists_trimStart rest'
      rw [input_eq, text_eq, rest_eq]
      simp only at made
      split at made
      · cases made
      · rename_i c rest'' separated
        rw [separated]
        split at made
        · -- A comma is followed by the other items.
          rename_i comma
          obtain ⟨⟨items', last⟩, read'', made'⟩ := Outcome.bind_eq_ok_iff.1 made
          cases made'
          obtain ⟨others, rfl, spells'⟩ := ih read''
          rw [comma]
          exact ⟨front ++ (text ++ (back ++ ',' :: others)), by simp,
            .cons front_blank spells back_blank spells'⟩
        · -- Without a comma the list must end behind the item.
          split at made
          · rename_i bracket
            cases made
            rw [bracket]
            exact ⟨front ++ (text ++ back), by simp, .last front_blank spells back_blank⟩
          · cases made

/-- An item is read up to the comma or the bracket behind it. -/
theorem readItems_item (fuel : Nat) {front text back rest : List Char} {item : Literal} {c : Char}
    (front_blank : Text.AllBlank front) (spells : SpellsScalar text item)
    (back_blank : Text.AllBlank back) (separates : c = ',' ∨ c = ']') :
    readItems (fuel + 1) (front ++ (text ++ (back ++ c :: rest))) =
      if c = ',' then do
        let (items, rest) ← readItems fuel rest
        return (item :: items, rest)
      else .ok ([item], rest) := by
  -- Behind the blanks that follow the item stands the character that ends it.
  have visible : Text.startsBlank (c :: rest) = false := by
    rcases separates with rfl | rfl <;> rfl
  have behind : Text.trimStart (back ++ c :: rest) = c :: rest := by
    rw [Text.trimStart_append back_blank, Text.trimStart_eq_self visible]
  have apart : IsApart (c :: rest) := by
    intro first first_eq
    cases first_eq
    exact .inr separates
  -- The item is read up to the blanks or the character behind it.
  have read := spells.readScalar_append (isApart_append back_blank apart)
  obtain ⟨first, more, rfl, _, open_⟩ := spells.starts
  have trimmed : Text.trimStart (front ++ (first :: more ++ (back ++ c :: rest))) =
      first :: more ++ (back ++ c :: rest) := by
    rw [Text.trimStart_append front_blank, Text.trimStart_eq_self]
    exact spells.isTrimmed.starts
  rw [readItems]
  split
  · -- No item starts with the bracket that would close the list.
    rename_i closed
    rw [trimmed] at closed
    exact absurd (List.cons.inj closed).1 open_
  · simp only [trimmed, read, behind, Outcome.ok_bind]
    rcases separates with rfl | rfl <;> rfl

/-- Items are read up to the bracket that closes the list. -/
theorem SpellsItems.readItems_append {text : List Char} {items : List Literal}
    (spells : SpellsItems text items) {fuel : Nat} (enough : text.length < fuel)
    (rest : List Char) : readItems fuel (text ++ ']' :: rest) = .ok (items, rest) := by
  -- Every item is as long as its comma at least, so that the fuel is enough for the others.
  induction spells generalizing fuel with
  | @nil blanks blank =>
    obtain ⟨fuel, rfl⟩ := Nat.exists_eq_add_one_of_ne_zero (Nat.ne_zero_of_lt enough)
    rw [readItems, Text.trimStart_append blank, Text.trimStart_eq_self rfl]
    rfl
  | last front_blank spells back_blank =>
    obtain ⟨fuel, rfl⟩ := Nat.exists_eq_add_one_of_ne_zero (Nat.ne_zero_of_lt enough)
    rw [List.append_assoc, List.append_assoc,
      readItems_item fuel front_blank spells back_blank (.inr rfl)]
    rfl
  | cons front_blank spells back_blank _ ih =>
    obtain ⟨fuel, rfl⟩ := Nat.exists_eq_add_one_of_ne_zero (Nat.ne_zero_of_lt enough)
    rw [List.append_assoc, List.append_assoc, List.append_assoc, List.cons_append,
      readItems_item fuel front_blank spells back_blank (.inl rfl), if_pos rfl, ih]
    · rfl
    · simp only [List.length_append, List.length_cons] at enough
      omega

/-- What the reader takes is the written form of a literal. -/
theorem exists_of_readValue {input rest : List Char} {literal : Literal}
    (read : readValue input = .ok (literal, rest)) :
    ∃ text, input = text ++ rest ∧ Spells text literal := by
  -- A bracket at the start makes it a list, and everything else is read as a scalar.
  unfold readValue at read
  split at read
  · obtain ⟨⟨items, rest'⟩, read', made⟩ := Outcome.bind_eq_ok_iff.1 read
    cases made
    obtain ⟨text, rfl, spells⟩ := exists_of_readItems read'
    exact ⟨'[' :: (text ++ [']']), by simp, .list spells⟩
  · obtain ⟨text, input_eq, spells⟩ := exists_of_readScalar read
    exact ⟨text, input_eq, .scalar spells⟩

/-- The written form of a literal is read up to what stands apart from it. -/
theorem Spells.readValue_append {text : List Char} {literal : Literal}
    (spells : Spells text literal) {rest : List Char} (apart : IsApart rest) :
    readValue (text ++ rest) = .ok (literal, rest) := by
  -- Which reader is taken is told by the first character alone.
  cases spells with
  | scalar spells =>
    have read := spells.readScalar_append apart
    obtain ⟨first, more, rfl, open_, _⟩ := spells.starts
    unfold readValue
    split
    · rename_i opened
      exact absurd (List.cons.inj opened).1 open_
    · exact read
  -- The fuel is the length of what is left, so that the items have enough.
  | @list text items spells =>
    have enough : text.length < (text ++ ']' :: rest).length + 1 := by
      simp only [List.length_append]
      omega
    have read := spells.readItems_append enough rest
    rw [List.cons_append, List.append_assoc, List.singleton_append, readValue, read]
    rfl

/-- The reader accepts a text exactly when its trimmed form is the written form of a literal. -/
theorem readWhole_eq_ok_iff {input : List Char} {literal : Literal} :
    readWhole input = .ok literal ↔ Spells (Text.trim input) literal := by
  constructor
  · intro read
    obtain ⟨⟨literal', rest⟩, read', made⟩ := Outcome.bind_eq_ok_iff.1 read
    obtain ⟨text, text_eq, spells⟩ := exists_of_readValue read'
    simp only at made
    -- What is left behind the literal must be blank.
    split at made
    · rename_i nothing
      cases made
      obtain ⟨front, front_blank, input_eq⟩ := Text.exists_trimStart input
      obtain ⟨back, back_blank, rest_eq⟩ := Text.exists_trimStart rest
      rw [nothing, List.append_nil] at rest_eq
      -- Around the literal there are blanks only.
      subst rest_eq
      rw [text_eq, ← List.append_assoc] at input_eq
      rw [input_eq, Text.trim_append front_blank back_blank,
        Text.trim_eq_self spells.isTrimmed.starts spells.isTrimmed.ends]
      exact spells
    · cases made
  · -- Conversely, the literal is read up to the blanks around it.
    intro spells
    obtain ⟨front, back, front_blank, back_blank, input_eq⟩ := Text.exists_trim input
    generalize Text.trim input = text at spells input_eq
    have apart : IsApart (back ++ []) := isApart_append back_blank nofun
    rw [List.append_nil] at apart
    have nonempty : text ≠ [] := by
      rintro rfl
      cases spells with
      | scalar spells => exact nomatch spells.starts
    have trimmed : Text.trimStart input = text ++ back := by
      rw [input_eq, List.append_assoc, Text.trimStart_append front_blank, Text.trimStart_eq_self]
      rw [Text.startsBlank_append nonempty]
      exact spells.isTrimmed.starts
    -- Nothing but blanks is left behind the literal.
    have nothing : Text.trimStart back = [] := by
      have all := Text.trimStart_append back_blank []
      rwa [List.append_nil, Text.trimStart_nil] at all
    rw [readWhole, trimmed, spells.readValue_append apart]
    simp only [Outcome.ok_bind, nothing]
    rfl

/-- A token is parsed to a literal exactly when its trimmed form is the written form of the
literal. -/
theorem parse_eq_ok_iff {token : String} {literal : Literal} :
    parse token = .ok literal ↔ Spells (Text.trim token.toList) literal := by
  rw [← readWhole_eq_ok_iff, parse]
  -- A fault of the reader only chooses between the errors that are told.
  cases readWhole token.toList with
  | ok literal' => simp
  | error fault => cases fault <;> simp

/--
A token is parsed exactly when it is the written form of a literal between blanks.

The literal is then the one that is written: a scalar or a list of scalars, and no float that is not
finite. An integer that 64 bits can hold stays an integer, whatever underscores it is written with.
-/
theorem parse_follows_grammar (token : String) :
    (∀ literal, parse token = .ok literal ↔ Spells (Text.trim token.toList) literal) ∧
    (∀ literal, parse token = .ok literal → literal.IsFlat) ∧
    ∀ value : Int64, IsLexeme (Text.trim token.toList) →
      (Text.trim token.toList).head? ≠ some '_' →
      IsInteger (withoutUnderscores (Text.trim token.toList)) value.toInt →
      parse token = .ok (.int value) := by
  -- An integer is a number, whatever underscores stand behind its start.
  refine ⟨fun literal => parse_eq_ok_iff, fun literal => parse_isFlat,
    fun value lexeme starts integer => ?_⟩
  exact parse_eq_ok_iff.2 (.scalar (.number lexeme starts (.int integer)))

/-- A list with an escaped quote and a comma at its end is parsed, and so is an integer that has an
underscore behind its sign. -/
theorem parse_follows_grammar_listed :
    let token := " ['it\\'s' ,-_1_0, true,]\n"
    let number := "\t-_1_0 "
    let items : List Literal := [.text "it's", .int (-10), .bool true]
    parse token = .ok (.list items) ∧ Spells (Text.trim token.toList) (.list items) ∧
      (Literal.list items).IsFlat ∧ IsLexeme (Text.trim number.toList) ∧
      (Text.trim number.toList).head? ≠ some '_' ∧
      IsInteger (withoutUnderscores (Text.trim number.toList)) (-10 : Int64).toInt ∧
      parse number = .ok (.int (-10)) := by
  intro token number items
  -- The written forms are put together from their parts, in the order in which they are read.
  have lexeme : IsLexeme (['-'] ++ ['_', '1', '_', '0']) := .intro .minus (by decide)
  have integer : IsInteger (['-'] ++ ['1', '0']) (-10 : Int64).toInt :=
    .intro .minus (by decide) (List.all_eq_true.1 rfl)
  have quoted : IsQuoted '\'' "it\\'s".toList "it's".toList :=
    .plain (by decide) (by decide) (.plain (by decide) (by decide)
      (.escaped '\'' (.plain (by decide) (by decide) .nil)))
  have last : SpellsItems ([' '] ++ ("true".toList ++ ([] ++ ',' :: []))) [.bool true] :=
    .cons (by decide) (.bool (by decide)) (by decide) (.nil (by decide))
  have others := SpellsItems.cons Text.allBlank_nil
    (.number lexeme (by decide) (.int integer)) Text.allBlank_nil last
  have blank : Text.AllBlank [' '] := by decide
  have listed := Spells.list
    (SpellsItems.cons Text.allBlank_nil (.text (.inl rfl) quoted) blank others)
  -- The tokens are trimmed by evaluation, and the theorem reads what is left.
  have spelled : Spells (Text.trim token.toList) (.list items) := by
    convert listed using 1
    · decide +kernel
    · rw [String.ofList_toList]
  have trimmed : Text.trim number.toList = ['-'] ++ ['_', '1', '_', '0'] := by decide +kernel
  have bare : withoutUnderscores (Text.trim number.toList) = ['-'] ++ ['1', '0'] := by
    decide +kernel
  -- The theorem reads both tokens from the forms that have been put together.
  obtain ⟨written, flat, _⟩ := parse_follows_grammar token
  have parsed := (written (.list items)).2 spelled
  rw [← trimmed] at lexeme
  rw [← bare] at integer
  have starts : (Text.trim number.toList).head? ≠ some '_' := by rw [trimmed]; decide
  exact ⟨parsed, spelled, flat _ parsed, lexeme, starts, integer,
    (parse_follows_grammar number).2.2 (-10) lexeme starts integer⟩

/-- An integer that starts with an underscore is no literal. -/
theorem parse_underscored_ne :
    let token := "_1"
    IsLexeme (Text.trim token.toList) ∧
      IsNumber (withoutUnderscores (Text.trim token.toList)) (.int 1) ∧
      ∀ literal, parse token ≠ .ok literal := by
  intro token
  -- The token is a number without its underscore, but its first character is no start of one.
  have trimmed : Text.trim token.toList = [] ++ ['_', '1'] := by decide +kernel
  have fails : (parse token).isOk = false := by decide +kernel
  rw [trimmed]
  have integer : IsInteger ([] ++ ['1']) (1 : Int64).toInt :=
    .intro .none (by decide) (List.all_eq_true.1 rfl)
  refine ⟨.intro .none (by decide), .int integer, fun literal parsed => ?_⟩
  rw [parsed] at fails
  cases fails

end FlightQuery.Literal
