import FlightQuery.Proofs.Expression.Reading

/-! Quotes around a name hide it from the search for operators, unless one stands within it. -/

namespace FlightQuery

namespace OperatorFamily

/-- No operator has a quote at its start or at its end. -/
theorem operators_unquoted (family : OperatorFamily) :
    ∀ operator ∈ family.operators,
      operator.toList.head? ≠ some '\'' ∧ operator.toList.getLast? ≠ some '\'' := by
  cases family <;> decide

end OperatorFamily

namespace Pieces

variable {family : OperatorFamily}

/-- The same place in a text that goes on at both sides. -/
def Place.widen (first last : List Char) (place : Place) : Place where
  before := first ++ place.before
  operator := place.operator
  after := place.after ++ last

/-- An operator that stands in a part of a text stands in the whole text. -/
theorem Place.StandsIn.widen {text : List Char} {place : Place}
    (stands : place.StandsIn family text) (first last : List Char) :
    (place.widen first last).StandsIn family (first ++ text ++ last) where
  -- What is put around the text goes to the two ends, and the blanks next to the operator stay.
  text_eq := by
    rw [stands.text_eq]
    simp only [Place.widen, List.append_assoc]
  listed := stands.listed
  blankBefore := by
    rw [Place.widen, Text.endsBlank_append _ (Text.ne_nil_of_endsBlank stands.blankBefore)]
    exact stands.blankBefore
  blankAfter := by
    rw [Place.widen, Text.startsBlank_append (Text.ne_nil_of_startsBlank stands.blankAfter)]
    exact stands.blankAfter

/-- No operator is added by a visible character on either side of a text. -/
theorem Place.StandsIn.of_enclosed {text : List Char} {first last : Char} {place : Place}
    (visible : Text.isBlank first = false) (visible' : Text.isBlank last = false)
    (stands : place.StandsIn family ([first] ++ text ++ [last])) :
    ∃ inner : Place, inner.StandsIn family text := by
  obtain ⟨before, operator, after⟩ := place
  obtain ⟨text_eq, listed, blankBefore, blankAfter⟩ := stands
  dsimp only at text_eq listed blankBefore blankAfter
  -- The blanks beside the operator lie between it and the two characters.
  cases before with
  -- The operator would stand at the very start, with no blank before it.
  | nil => exact absurd blankBefore (by decide)
  | cons c rest =>
    rcases List.eq_nil_or_concat' after with rfl | ⟨middle, d, rfl⟩
    · -- The operator would stand at the very end, with no blank behind it.
      exact absurd blankAfter (by decide)
    · simp only [List.cons_append, List.nil_append, List.cons.injEq,
        ← List.append_assoc] at text_eq
      obtain ⟨rfl, parts⟩ := text_eq
      obtain ⟨core, same⟩ := List.append_inj' parts rfl
      obtain rfl : last = d := by simpa using same
      -- The enclosing characters are visible, so that the blanks stand inside.
      have opens : rest ≠ [] := by
        rintro rfl
        exact absurd blankBefore (by simpa [Text.endsBlank] using visible)
      have closes : middle ≠ [] := by
        rintro rfl
        exact absurd blankAfter (by simpa using visible')
      refine ⟨⟨rest, operator, middle⟩, ?_, listed, ?_, ?_⟩
      · rw [core, List.append_assoc]
      · rwa [← List.singleton_append, Text.endsBlank_append _ opens] at blankBefore
      · rwa [Text.startsBlank_append closes] at blankAfter

/-- A text on one line can be an operand. -/
theorem isOperand_of_line {text : List Char} (line : '\n' ∉ text) : isOperand text = true :=
  isOperand_iff.mpr fun member => line (Text.mem_of_mem_trim member)

/-- A family that does not take a line apart has no operator in it. -/
theorem not_standsIn_of_ofFamily? {text : List Char} (between : family.isCheck = false)
    (line : '\n' ∉ text) (missed : ofFamily? family text = none) (place : Place) :
    ¬ place.StandsIn family text := by
  intro stands
  rw [ofFamily?, if_neg (by simp [between]), Option.or_eq_none_iff] at missed
  -- The parts around an operator of a line are operands.
  have whole := stands.text_eq
  have left : '\n' ∉ place.before := fun member => line (by simp [whole, member])
  have right : '\n' ∉ place.after := fun member => line (by simp [whole, member])
  exact not_isPair_of_pair? missed.2 place
    ⟨stands, isOperand_of_line left, isOperand_of_line right⟩

/-- A line that is divided at one operator only has no other one in front of it. -/
theorem not_standsIn_of_pair {link : Link family} {left right : List Char}
    {leftPiece sign rightPiece : String} (between : family.isCheck = false)
    (trimmed : Text.trim (left ++ link.text ++ right) = left ++ link.text ++ right)
    (line : '\n' ∉ left ++ link.text ++ right)
    (found : ofFamily? family (left ++ link.text ++ right)
      = some (.pair leftPiece sign rightPiece)) (place : Place) :
    ¬ place.StandsIn family left := by
  intro stands
  have whole := stands.text_eq
  -- The operator in front and the one of the link would make a chain.
  have isChain : IsChain family (left ++ link.text ++ right)
      (place.widen [] (link.text ++ right))
      ⟨place.after ++ link.gap, link.operator, link.gap' ++ right⟩ := by
    refine ⟨?_, ?_, ⟨?_, link.listed, link.endsBlank_before, link.startsBlank_after⟩, ?_, ?_, ?_⟩
    · have wide := stands.widen [] (link.text ++ right)
      rwa [List.nil_append, ← List.append_assoc] at wide
    · exact isOperand_of_line fun member => line (by simp_all [Place.widen])
    · simp only [Place.widen, Link.text, List.append_assoc]
    · -- Each of the two operators has a blank of its own beside the operand.
      have first := List.length_pos_iff.mpr (Text.ne_nil_of_startsBlank stands.blankAfter)
      have second := List.length_pos_iff.mpr link.isGap.nonempty
      simp only [List.length_append]
      omega
    · refine isOperand_of_line fun member => line ?_
      rcases List.mem_append.mp member with inside | gap
      · simp [whole, inside]
      · simp [Link.text, gap]
    · refine isOperand_of_line fun member => line ?_
      rcases List.mem_append.mp member with gap | behind
      · simp [Link.text, gap]
      · simp [behind]
  -- Two operators are preferred to one.
  obtain ⟨starts, division, foremost⟩ := foremost_of_ofFamily? trimmed found
  have chain := (division_chain_iff trimmed between).mpr ⟨_, _, isChain, rfl, rfl, rfl⟩
  rcases division.starts_eq with ⟨start, rfl⟩ | ⟨first, second, rfl⟩
  · exact foremost _ _ chain (.inl (by simp))
  · obtain ⟨outer, inner, -, pieces_eq, -⟩ := (division_chain_iff trimmed between).mp division
    cases pieces_eq

end Pieces

namespace Expression

/-- A name in quotes. -/
def quoted (name : String) : String := "'" ++ name ++ "'"

/-- A name on one line in which no operator of some families stands between blanks. -/
structure IsClearOf (families : List OperatorFamily) (name : String) : Prop where
  line : '\n' ∉ name.toList
  clear : ∀ family ∈ families, ∀ place : Pieces.Place, ¬ place.StandsIn family name.toList

section Quoted

variable {name : String} {family : OperatorFamily}

/-- The characters of a quoted name are those of the name between two quotes. -/
theorem toList_quoted (name : String) : (quoted name).toList = ['\''] ++ name.toList ++ ['\''] := by
  simp only [quoted, String.toList_append]
  rfl

/-- Quotes do not add an operator to a name. -/
theorem not_standsIn_quoted (clear : ∀ place : Pieces.Place, ¬ place.StandsIn family name.toList)
    (place : Pieces.Place) : ¬ place.StandsIn family (quoted name).toList := by
  intro stands
  rw [toList_quoted] at stands
  -- A quotation mark stands in no operator, so a place in the quoted name is one in the name.
  obtain ⟨inner, inside⟩ := stands.of_enclosed (by decide) (by decide)
  exact clear inner inside

/-- Quotes do not take an operator away from a name. -/
theorem not_standsIn_of_quoted
    (clear : ∀ place : Pieces.Place, ¬ place.StandsIn family (quoted name).toList)
    (place : Pieces.Place) : ¬ place.StandsIn family name.toList := by
  intro stands
  -- A place in the name is one in any longer text around it.
  have wide := stands.widen ['\''] ['\'']
  rw [← toList_quoted] at wide
  exact clear _ wide

/-- A quoted name ends in no word that does not end in a quote. -/
theorem not_wordAt_end {word before : List Char} (nonempty : word ≠ [])
    (unquoted : word.getLast? ≠ some '\'') :
    ¬ Text.WordAt word (quoted name).toList before [] := by
  intro stands
  -- The last character of the quoted name would be that of the word.
  have last := congrArg List.getLast? stands.text_eq
  rw [toList_quoted, List.append_nil, List.getLast?_append_of_ne_nil _ nonempty,
    List.getLast?_concat] at last
  exact unquoted last.symm

/-- In a quoted name the words that are operators stand between blanks. -/
theorem freeOf_quoted (single : family.IsSingle)
    (clear : ∀ place : Pieces.Place, ¬ place.StandsIn family name.toList) :
    Pieces.FreeOf family (quoted name).toList := by
  rintro sign listed ⟨before, after, stands⟩
  obtain ⟨head, last⟩ := family.operators_unquoted sign listed
  have nonempty := (single.isWord sign listed).nonempty
  -- At an end of the quoted name the word would have one of the quotes.
  have blankBefore : Text.endsBlank before = true := by
    rcases stands.opens with rfl | blank
    · have first := congrArg List.head? stands.text_eq
      rw [toList_quoted, List.nil_append, List.head?_append_of_ne_nil _ nonempty] at first
      exact absurd first.symm head
    · exact blank
  have blankAfter : Text.startsBlank after = true := by
    rcases stands.closes with rfl | blank
    · exact absurd stands (not_wordAt_end nonempty last)
    · exact blank
  exact not_standsIn_quoted clear ⟨before, sign, after⟩
    ⟨stands.text_eq, listed, blankBefore, blankAfter⟩

/-- A quoted name is a plain operand when it is clear of comparisons. -/
theorem isPlain_quoted (line : '\n' ∉ name.toList)
    (clear : ∀ place : Pieces.Place, ¬ place.StandsIn .comparison name.toList) :
    IsPlain (quoted name) where
  -- The quotes make the operand neither empty nor blank at its ends, whatever the name is.
  nonempty := by
    intro empty
    have characters := congrArg String.toList empty
    simp [toList_quoted] at characters
  trimmed := by
    have trimmed := trim_between name.toList (List.cons_ne_nil '\'' [])
      (List.cons_ne_nil '\'' []) (by decide) (by decide)
    rw [← toList_quoted] at trimmed
    rw [Text.trimmed, trimmed, String.ofList_toList]
  line := by
    rw [toList_quoted]
    simpa using line
  -- The quotes are no comparisons, so that only the name could have one.
  signless := freeOf_quoted (.inl rfl) clear

/-- A quoted name is a bare operand when it is clear of simple memberships as well. -/
theorem IsClearOf.isBare_quoted (clear : IsClearOf [.comparison, .isIn] name) :
    IsBare (quoted name) where
  toIsPlain := isPlain_quoted clear.line (clear.clear _ (by simp))
  wordless := freeOf_quoted (.inr rfl) (clear.clear .isIn (by simp)) "in" (by decide)

/-- A digit and a list of it are bare operands. -/
theorem isBare_constant : IsBare "1" ∧ IsBare "[1]" :=
  ⟨isBare_of_isWord (by decide) (by decide) (by decide),
    isBare_of_isWord (by decide) (by decide) (by decide)⟩

/-- A family that does not take a line apart has no operator in a quoted name at its start. -/
theorem clear_of_missed {text : String} {rest : List Char}
    (whole : text.toList = (quoted name).toList ++ rest) (line : '\n' ∉ text.toList)
    (between : family.isCheck = false) (missed : Pieces.ofFamily? family text.toList = none) :
    ∀ place : Pieces.Place, ¬ place.StandsIn family name.toList := by
  -- An operator in the name would stand in the whole text as well, where none has been found.
  refine not_standsIn_of_quoted fun place stands => ?_
  have wide := stands.widen [] rest
  rw [List.nil_append, ← whole] at wide
  exact Pieces.not_standsIn_of_ofFamily? between line missed _ wide

/-- What follows a quoted name leaves it at the start of a trimmed text. -/
theorem trim_quoted (name : String) (middle : List Char) {last : List Char} (nonempty : last ≠ [])
    (ends : Text.endsBlank last = false) :
    Text.trim ((quoted name).toList ++ middle ++ last)
      = (quoted name).toList ++ middle ++ last :=
  trim_between middle (by simp [toList_quoted]) nonempty
    (by simpa [toList_quoted] using (by decide : Text.isBlank '\'' = false)) ends

/-- When a quoted name is read as the left operand of a binary operator, no operator of its family
or of those tried before stands in the name. -/
theorem clear_of_parse_binary (operator : BinaryOperator) {right : String} (bare : IsBare right)
    (parsed : parse (quoted name ++ " " ++ operator.sign ++ " " ++ right)
      = .ok (.binary (quoted name) operator right)) :
    '\n' ∉ name.toList ∧ ∀ family : OperatorFamily, family.isCheck = false →
      family = operator.family ∨ family.rank < operator.family.rank →
      ∀ place : Pieces.Place, ¬ place.StandsIn family name.toList := by
  -- The sign with its blanks is the link between the two operands.
  let link : Pieces.Link operator.family :=
    ⟨" ".toList, operator.sign, " ".toList, operator.sign_mem, by decide, by decide⟩
  have whole : (quoted name ++ " " ++ operator.sign ++ " " ++ right).toList
      = (quoted name).toList ++ link.text ++ right.toList := by
    simp only [String.toList_append, Pieces.Link.text, link, List.append_assoc]
  have trimmed := trim_quoted name link.text bare.toList_ne_nil bare.endsBlank
  obtain ⟨other, pieces, found, read, missed⟩ :=
    exists_family_of_parse (by rw [whole, trimmed]) parsed
  obtain rfl := eq_pair_of_ofPieces read
  rw [whole] at found
  -- The name was taken from one line, and the sign tells the family.
  obtain ⟨starts, division, -⟩ := Pieces.foremost_of_ofFamily? trimmed found
  have lineQuoted := division.line (quoted name) (by simp [Pieces.tokens])
  obtain rfl := BinaryOperator.family_of_sign_mem division.listed_pair
  have lineSign := operator.family.operators_line _ operator.sign_mem
  have line : '\n' ∉ (quoted name).toList ++ link.text ++ right.toList := by
    simp [lineQuoted, lineSign, bare.line, Pieces.Link.text, link]
  -- The own family is clear to the right of its place, an earlier one has missed everywhere.
  refine ⟨fun member => lineQuoted (by simp [toList_quoted, member]), ?_⟩
  rintro family between (rfl | before)
  · exact not_standsIn_of_quoted (Pieces.not_standsIn_of_pair between trimmed line found)
  · rw [← whole] at line
    rw [List.append_assoc] at whole
    exact clear_of_missed whole line between (missed family before)

/-- When a quoted name is read as the operand of a null check, no operator between operands stands
in it. -/
theorem clear_of_parse_check {check check' : NullCheck}
    (parsed : parse (quoted name ++ " " ++ check.sign) = .ok (.check (quoted name) check')) :
    '\n' ∉ name.toList ∧ ∀ family : OperatorFamily, family.isCheck = false →
      ∀ place : Pieces.Place, ¬ place.StandsIn family name.toList := by
  -- The text is the name, a blank and the sign, of which only the name is unknown.
  have whole : (quoted name ++ " " ++ check.sign).toList
      = (quoted name).toList ++ " ".toList ++ check.sign.toList := by
    simp only [String.toList_append]
  have sign : check.sign.toList ≠ [] ∧ Text.endsBlank check.sign.toList = false ∧
      '\n' ∉ check.sign.toList := by
    cases check <;> decide
  have trimmed := trim_quoted name " ".toList sign.1 sign.2.1
  obtain ⟨other, pieces, found, read, missed⟩ :=
    exists_family_of_parse (by rw [whole, trimmed]) parsed
  obtain rfl := eq_check_of_ofPieces read
  rw [whole] at found
  -- What has been found has the name as its operand, so that the name has one line.
  obtain ⟨starts, division, -⟩ := Pieces.foremost_of_ofFamily? trimmed found
  have lineQuoted := division.line (quoted name) (by simp [Pieces.tokens])
  have line : '\n' ∉ (quoted name ++ " " ++ check.sign).toList := by
    rw [whole]
    simp [lineQuoted, sign.2.2]
  refine ⟨fun member => lineQuoted (by simp [toList_quoted, member]), ?_⟩
  -- The families between operands are tried before those of the checks.
  intro family between
  have before : family.rank < other.rank :=
    OperatorFamily.rank_lt_of_isCheck between (NullCheck.isCheck_of_sign_mem division.listed_check)
  rw [List.append_assoc] at whole
  exact clear_of_missed whole line between (missed family before)

end Quoted

/--
A quoted name is the operand in front of an operator exactly when it stands on one line and is
clear of the operators that the search would prefer.

These are the comparisons for all of them, a simple membership for simple memberships and null
checks, and a negated membership for negated memberships.
-/
theorem parse_quoted (name : String) :
    (∀ check : NullCheck,
      parse (quoted name ++ " " ++ check.sign) = .ok (.check (quoted name) check) ↔
        IsClearOf [.comparison, .isIn] name) ∧
    (∀ comparator : Comparator,
      parse (quoted name ++ " " ++ comparator.sign ++ " " ++ "1")
          = .ok (.binary (quoted name) (.compare comparator) "1") ↔
        IsClearOf [.comparison] name) ∧
    (parse (quoted name ++ " " ++ "in" ++ " " ++ "[1]")
          = .ok (.binary (quoted name) (.membership false) "[1]") ↔
        IsClearOf [.comparison, .isIn] name) ∧
    (parse (quoted name ++ " " ++ "not in" ++ " " ++ "[1]")
          = .ok (.binary (quoted name) (.membership true) "[1]") ↔
        IsClearOf [.comparison, .notIn] name) := by
  -- Each reading is shown in both directions: it shows that the name is clear, and a clear name
  -- reads.
  have isGap : Text.IsGap " ".toList := by decide
  obtain ⟨bareOne, bareList⟩ := isBare_constant
  refine ⟨fun check => ⟨fun parsed => ?_, fun clear => ?_⟩,
    fun comparator => ⟨fun parsed => ?_, fun clear => ?_⟩,
    ⟨fun parsed => ?_, fun clear => ?_⟩, ⟨fun parsed => ?_, fun clear => ?_⟩⟩
  · -- A check is tried after comparisons and simple memberships.
    obtain ⟨line, clear⟩ := clear_of_parse_check parsed
    exact ⟨line, by simpa using ⟨clear .comparison rfl, clear .isIn rfl⟩⟩
  · exact parse_check clear.isBare_quoted isGap check
  · -- Only comparisons are tried before a comparison is found, and it stands behind the name.
    obtain ⟨line, clear⟩ := clear_of_parse_binary (.compare comparator) bareOne parsed
    exact ⟨line, by simpa using clear .comparison rfl (.inl rfl)⟩
  · exact parse_compare comparator (isPlain_quoted clear.line (clear.clear _ (by simp)))
      bareOne.toIsPlain isGap isGap
  · -- A simple membership is tried after comparisons, of which the list has none.
    obtain ⟨line, clear⟩ := clear_of_parse_binary (.membership false) bareList parsed
    exact ⟨line, by
      simpa using ⟨clear .comparison rfl (.inr (by decide)), clear .isIn rfl (.inl rfl)⟩⟩
  · exact parse_isIn clear.isBare_quoted bareList isGap isGap
      fun ⟨before, stands⟩ => not_wordAt_end (by decide) (by decide) stands
  · -- A negated membership is tried after comparisons and before simple memberships.
    obtain ⟨line, clear⟩ := clear_of_parse_binary (.membership true) bareList parsed
    exact ⟨line, by
      simpa using ⟨clear .comparison rfl (.inr (by decide)), clear .notIn rfl (.inl rfl)⟩⟩
  · -- A simple membership inside the name is no matter here, so that the name need not be bare.
    exact parse_notIn_of_plain (isPlain_quoted clear.line (clear.clear _ (by simp))) bareList isGap
      isGap (not_standsIn_quoted (clear.clear _ (by simp)))
      fun before stands => not_wordAt_end (by decide) (by decide) stands

/-- Quotes do not protect a name from a comparison, a membership or a negated one within it, even
if it has no quotes, backslashes or line breaks. -/
theorem parse_quoted_ne :
    (∀ name ∈ ["Fuel < 100 in Tank", "Takeoff in Fog", "Flaps not in Use"],
      ∀ c ∈ name.toList, c ∉ ['\'', '"', '\\', '\n', '\r']) ∧
    parse (quoted "Fuel < 100 in Tank" ++ " " ++ "==" ++ " " ++ "1")
      ≠ .ok (.binary (quoted "Fuel < 100 in Tank") (.compare .equal) "1") ∧
    parse (quoted "Takeoff in Fog" ++ " " ++ "is null")
      ≠ .ok (.check (quoted "Takeoff in Fog") .isNull) ∧
    parse (quoted "Flaps not in Use" ++ " " ++ "not in" ++ " " ++ "[1]")
      ≠ .ok (.binary (quoted "Flaps not in Use") (.membership true) "[1]") := by
  -- The first two are taken apart within the quotes, and the last one is refused.
  refine ⟨by simp, ?_, ?_, ?_⟩
  all_goals decide +kernel

end Expression
end FlightQuery
