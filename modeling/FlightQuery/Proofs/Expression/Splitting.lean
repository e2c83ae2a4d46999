import FlightQuery.Proofs.Expression.Division

/-! The search for operators finds the foremost division of an expression. -/

namespace FlightQuery

/-- Every family is tried. -/
theorem OperatorFamily.mem_all (family : OperatorFamily) : family ∈ all := by
  cases family <;> decide

/-- Operators behind their only operand are single. -/
theorem OperatorFamily.check_single {family : OperatorFamily} (behind : family.isCheck = true) :
    ∃ sign, family.operators = [sign] := by
  cases family with
  | isNull => exact ⟨_, rfl⟩
  | isNotNull => exact ⟨_, rfl⟩
  | _ => simp [OperatorFamily.isCheck] at behind

namespace Pieces

/-- One start is preferred to another one exactly when it is further right. -/
theorem preferred_one {start other : Nat} : Preferred [start] [other] ↔ other < start := by
  simp [Preferred, List.cons_lt_cons_iff]

/-- Two starts are compared by the first one, and by the second one when the first ones agree. -/
theorem preferred_two {first second first' second' : Nat} :
    Preferred [first, second] [first', second'] ↔
      first' < first ∨ first' = first ∧ second' < second := by
  simp [Preferred, List.cons_lt_cons_iff]

/-- One start is not preferred to two. -/
theorem not_preferred_fewer (first second start : Nat) :
    ¬ Preferred [start] [first, second] := by
  simp [Preferred]

/-- Of two lists of starts one is preferred, unless they are equal. -/
theorem eq_of_not_preferred {starts others : List Nat} (notLess : ¬ Preferred starts others)
    (notGreater : ¬ Preferred others starts) : starts = others := by
  simp only [Preferred, not_or, not_and, not_lt] at notLess notGreater
  -- Neither has more operators, and of as many the order is linear.
  have lengths : others.length = starts.length := Nat.le_antisymm notGreater.1 notLess.1
  exact le_antisymm (notLess.2 lengths) (notGreater.2 lengths.symm)

/-- A division between operands is at one operator or at two. -/
theorem Division.starts_eq {family : OperatorFamily} {text : List Char} {pieces : Pieces}
    {starts : List Nat} (division : Division family text pieces starts) :
    (∃ start, starts = [start]) ∨ ∃ first second, starts = [first, second] := by
  cases division with
  | check => exact .inl ⟨_, rfl⟩
  | pair => exact .inl ⟨_, rfl⟩
  | chain => exact .inr ⟨_, _, rfl⟩

section Between

variable {family : OperatorFamily} {text : List Char}

/-- The chain that is found in a text is its foremost division. -/
theorem foremost_of_chain? (trimmed : Text.trim text = text) (between : family.isCheck = false)
    {pieces : Pieces} (found : chain? family text = some pieces) :
    ∃ starts, Foremost family text pieces starts := by
  obtain ⟨outer, stands, here, rightmost⟩ := findSome?_places_eq_some_iff.mp found
  obtain ⟨left, here⟩ := Option.ite_none_right_eq_some.mp here
  obtain ⟨inner, stands', here', rightmost'⟩ := findSome?_places_eq_some_iff.mp here
  obtain ⟨fits, taken⟩ := Option.ite_none_right_eq_some.mp here'
  simp only [Bool.and_eq_true, decide_eq_true_eq] at fits
  -- The search tests exactly what makes the two places a chain.
  have isChain : IsChain family text outer inner :=
    ⟨stands, left, stands', fits.1.1, fits.1.2, fits.2⟩
  refine ⟨_, (division_chain_iff trimmed between).mpr
    ⟨outer, inner, isChain, (Option.some.inj taken).symm, rfl, rfl⟩, ?_⟩
  intro others starts division preferred
  rcases division.starts_eq with ⟨start, rfl⟩ | ⟨first, second, rfl⟩
  · exact not_preferred_fewer _ _ _ preferred
  obtain ⟨outer', inner', isChain', -, rfl, rfl⟩ :=
    (division_chain_iff trimmed between).mp division
  rcases preferred_two.mp preferred with further | ⟨same, further⟩
  · -- An outer operator further right would have been found first.
    have missed := rightmost outer' isChain'.stands further
    rw [if_pos isChain'.left, findSome?_places_eq_none_iff] at missed
    have missed' := missed inner' isChain'.stands'
    simp [isChain'.room, isChain'.middle, isChain'.right] at missed'
  · -- Behind the same outer operator the inner one would have been found first.
    have equal := isChain'.stands.unique stands same.symm
    subst equal
    simp only [Place.startBehind, List.length_append] at further
    have missed := rightmost' inner' isChain'.stands' (by omega)
    simp [isChain'.room, isChain'.middle, isChain'.right] at missed

/-- When no chain is found, there are no two places between operands. -/
theorem not_isChain_of_chain? (missing : chain? family text = none) (outer inner : Place) :
    ¬ IsChain family text outer inner := by
  -- The search would have stopped at the two places.
  intro isChain
  have missed := findSome?_places_eq_none_iff.mp missing outer isChain.stands
  rw [if_pos isChain.left, findSome?_places_eq_none_iff] at missed
  have missed' := missed inner isChain.stands'
  simp [isChain.room, isChain.middle, isChain.right] at missed'

/-- The pair that is found in a text without chains is its foremost division. -/
theorem foremost_of_pair? (trimmed : Text.trim text = text) (between : family.isCheck = false)
    (missing : chain? family text = none) {pieces : Pieces}
    (found : pair? family text = some pieces) : ∃ starts, Foremost family text pieces starts := by
  obtain ⟨place, stands, here, rightmost⟩ := findSome?_places_eq_some_iff.mp found
  obtain ⟨fits, taken⟩ := Option.ite_none_right_eq_some.mp here
  -- The search tests exactly what makes the place a pair.
  rw [Bool.and_eq_true] at fits
  refine ⟨_, (division_pair_iff trimmed between).mpr
    ⟨place, ⟨stands, fits.1, fits.2⟩, (Option.some.inj taken).symm, rfl⟩, ?_⟩
  intro others starts division preferred
  rcases division.starts_eq with ⟨start, rfl⟩ | ⟨first, second, rfl⟩
  · -- An operator further right would have been found first.
    obtain ⟨place', isPair', -, rfl⟩ := (division_pair_iff trimmed between).mp division
    have missed := rightmost place' isPair'.stands (preferred_one.mp preferred)
    simp [isPair'.left, isPair'.right] at missed
  · -- Two operators would have been found as a chain.
    obtain ⟨outer, inner, isChain, -⟩ := (division_chain_iff trimmed between).mp division
    exact not_isChain_of_chain? missing outer inner isChain

/-- When no pair is found, there is no place between operands. -/
theorem not_isPair_of_pair? (missing : pair? family text = none) (place : Place) :
    ¬ IsPair family text place := by
  -- The search would have stopped at the place.
  intro isPair
  have missed := findSome?_places_eq_none_iff.mp missing place isPair.stands
  simp [isPair.left, isPair.right] at missed

end Between

/-- What is left in front of the end of a text. -/
private theorem take_front (before : List Char) (sign : String) :
    (before ++ sign.toList).take ((before ++ sign.toList).length - sign.length) = before := by
  rw [List.length_append, String.length_toList, Nat.add_sub_cancel, List.take_left]

/-- An operator is found at the end of a text exactly when it stands there behind an operand. -/
theorem check?_eq_some_iff {family : OperatorFamily} {text : List Char}
    (behind : family.isCheck = true) {pieces : Pieces} :
    check? family text = some pieces ↔
      ∃ before, ∃ sign ∈ family.operators, text = before ++ sign.toList ∧
        Text.endsBlank before = true ∧ isOperand before = true ∧
        pieces = .check (operand before) sign := by
  constructor
  · intro found
    obtain ⟨sign, listed, here⟩ := List.exists_of_findSome?_eq_some found
    obtain ⟨fits, taken⟩ := Option.ite_none_right_eq_some.mp here
    simp only [Bool.and_eq_true] at fits
    obtain ⟨⟨ending, blank⟩, line⟩ := fits
    -- The operator ends the text, and the tests are about what is left in front of it.
    obtain ⟨before, rfl⟩ := List.isSuffixOf_iff_suffix.mp ending
    rw [take_front] at blank line taken
    exact ⟨before, sign, listed, rfl, blank, line, (Option.some.inj taken).symm⟩
  · rintro ⟨before, sign, listed, rfl, blank, line, rfl⟩
    -- The operator is the only one of its family.
    obtain ⟨only, single⟩ := OperatorFamily.check_single behind
    rw [single, List.mem_singleton] at listed
    subst listed
    have ending : sign.toList <:+ before ++ sign.toList := List.suffix_append _ _
    rw [Text.endsBlank] at blank
    simp only [check?, single, List.findSome?_cons, take_front]
    simp [ending, blank, line]

section Family

variable {family : OperatorFamily} {text : List Char}

/-- The division of a trimmed text that is found at the operators of a family is the foremost. -/
theorem foremost_of_ofFamily? (trimmed : Text.trim text = text) {pieces : Pieces}
    (found : ofFamily? family text = some pieces) :
    ∃ starts, Foremost family text pieces starts := by
  cases kind : family.isCheck with
  | true =>
    rw [ofFamily?, if_pos kind] at found
    obtain ⟨before, sign, listed, text_eq, blank, line, pieces_eq⟩ :=
      (check?_eq_some_iff kind).mp found
    refine ⟨[before.length], (division_check_iff trimmed kind).mpr
      ⟨before, sign, listed, text_eq, blank, line, pieces_eq, rfl⟩, ?_⟩
    intro others starts division preferred
    obtain ⟨before', sign', listed', text_eq', -, -, -, rfl⟩ :=
      (division_check_iff trimmed kind).mp division
    -- The only operator of the family leaves the same in front of it.
    obtain ⟨only, single⟩ := OperatorFamily.check_single kind
    rw [single, List.mem_singleton] at listed listed'
    subst listed listed'
    have same := List.append_cancel_right (text_eq.symm.trans text_eq')
    rw [preferred_one, same] at preferred
    exact Nat.lt_irrefl _ preferred
  -- A chain is tried before a pair, which counts only where no chain is found.
  | false =>
    rw [ofFamily?, if_neg (by simp [kind]), Option.or_eq_some_iff] at found
    rcases found with chain | ⟨missing, pair⟩
    · exact foremost_of_chain? trimmed kind chain
    · exact foremost_of_pair? trimmed kind missing pair

/-- When no division is found at the operators of a family, the family does not apply. -/
theorem not_applies_of_ofFamily? (trimmed : Text.trim text = text)
    (missing : ofFamily? family text = none) : ¬ Applies family text := by
  -- A division is at places that the search would have stopped at.
  rintro ⟨pieces, starts, division⟩
  cases kind : family.isCheck with
  | true =>
    rw [ofFamily?, if_pos kind] at missing
    obtain ⟨before, sign, listed, text_eq, blank, line, pieces_eq, -⟩ :=
      (division_check_iff trimmed kind).mp division
    have found := (check?_eq_some_iff kind).mpr
      ⟨before, sign, listed, text_eq, blank, line, pieces_eq⟩
    simp [found] at missing
  | false =>
    rw [ofFamily?, if_neg (by simp [kind]), Option.or_eq_none_iff] at missing
    rcases division.starts_eq with ⟨start, rfl⟩ | ⟨first, second, rfl⟩
    · obtain ⟨place, isPair, -⟩ := (division_pair_iff trimmed kind).mp division
      exact not_isPair_of_pair? missing.2 place isPair
    · obtain ⟨outer, inner, isChain, -⟩ := (division_chain_iff trimmed kind).mp division
      exact not_isChain_of_chain? missing.1 outer inner isChain

/-- A division of a trimmed text is determined by where its operators start. -/
theorem Division.unique (trimmed : Text.trim text = text) {pieces others : Pieces}
    {starts : List Nat} (division : Division family text pieces starts)
    (division' : Division family text others starts) : pieces = others := by
  -- The starts of the operators are the same, and they determine the pieces.
  cases kind : family.isCheck with
  | true =>
    obtain ⟨before, sign, listed, text_eq, -, -, rfl, -⟩ :=
      (division_check_iff trimmed kind).mp division
    obtain ⟨before', sign', listed', text_eq', -, -, rfl, -⟩ :=
      (division_check_iff trimmed kind).mp division'
    obtain ⟨only, single⟩ := OperatorFamily.check_single kind
    rw [single, List.mem_singleton] at listed listed'
    subst listed listed'
    rw [List.append_cancel_right (text_eq.symm.trans text_eq')]
  | false =>
    rcases division.starts_eq with ⟨start, rfl⟩ | ⟨first, second, rfl⟩
    · obtain ⟨place, isPair, rfl, start⟩ := (division_pair_iff trimmed kind).mp division
      obtain ⟨place', isPair', rfl, start'⟩ := (division_pair_iff trimmed kind).mp division'
      rw [isPair.stands.unique isPair'.stands (start.symm.trans start')]
    · obtain ⟨outer, inner, isChain, rfl, start, start₂⟩ :=
        (division_chain_iff trimmed kind).mp division
      obtain ⟨outer', inner', isChain', rfl, start', start₂'⟩ :=
        (division_chain_iff trimmed kind).mp division'
      -- The outer operators agree, and the inner ones stand in the same text behind them.
      have equal := isChain.stands.unique isChain'.stands (start.symm.trans start')
      subst equal
      rw [start₂] at start₂'
      simp only [Place.startBehind, List.length_append] at start₂'
      rw [isChain.stands'.unique isChain'.stands' (by omega)]

/-- A text is taken apart at the operators of a family into its foremost division. -/
theorem ofFamily?_eq_some_iff (trimmed : Text.trim text = text) {pieces : Pieces} :
    ofFamily? family text = some pieces ↔ ∃ starts, Foremost family text pieces starts := by
  refine ⟨foremost_of_ofFamily? trimmed, ?_⟩
  rintro ⟨starts, division, foremost⟩
  cases found : ofFamily? family text with
  | none => exact absurd ⟨pieces, starts, division⟩ (not_applies_of_ofFamily? trimmed found)
  | some others =>
    -- Two foremost divisions have the same starts, and these determine the pieces.
    obtain ⟨starts', division', foremost'⟩ := foremost_of_ofFamily? trimmed found
    have same := eq_of_not_preferred (foremost' _ _ division) (foremost _ _ division')
    subst same
    rw [division.unique trimmed division']

/-- A text is not taken apart at the operators of a family exactly when this does not apply. -/
theorem ofFamily?_eq_none_iff (trimmed : Text.trim text = text) :
    ofFamily? family text = none ↔ ¬ Applies family text := by
  -- A text that is taken apart gives a division of its own, and this shows that the family applies.
  refine ⟨not_applies_of_ofFamily? trimmed, fun inapplicable => ?_⟩
  cases found : ofFamily? family text with
  | none => rfl
  | some pieces =>
    obtain ⟨starts, division, -⟩ := foremost_of_ofFamily? trimmed found
    exact absurd ⟨pieces, starts, division⟩ inapplicable

end Family

/-- An operator with its gaps glues a token to what follows. -/
theorem Glued.link {family : OperatorFamily} {tokens : List String} {rest : List Char}
    (glued : Glued tokens rest) (link : Link family) (token : String) :
    Glued (token :: link.operator :: tokens) (token.toList ++ link.text ++ rest) := by
  -- The operator is a token of its own between its gaps.
  have whole := Glued.next token link.isGap (Glued.next link.operator link.isGap' glued)
  simpa only [Link.text, List.append_assoc] using whole

/-- A division of a trimmed text has the trimmed operands and the operators as its tokens. -/
theorem Division.glued {family : OperatorFamily} {text : List Char} {pieces : Pieces}
    {starts : List Nat} (division : Division family text pieces starts)
    (trimmed : Text.trim text = text) : Glued pieces.tokens text := by
  -- Operands are trimmed, so that the blanks go to the gaps between the tokens.
  have toList_operand : ∀ part, (operand part).toList = Text.trim part := fun part =>
    String.toList_ofList
  cases kind : family.isCheck with
  -- A check has one operand, and the gap lies behind it.
  | true =>
    obtain ⟨before, sign, -, text_eq, blank, -, rfl, -⟩ :=
      (division_check_iff trimmed kind).mp division
    have visible : Text.startsBlank before = false := by
      have starts := Text.startsBlank_of_trim trimmed
      rwa [text_eq, Text.startsBlank_append (Text.ne_nil_of_endsBlank blank)] at starts
    obtain ⟨gap, isGap, same⟩ := Text.exists_gap_behind visible blank
    have glued := Glued.next (operand before) isGap (Glued.last sign)
    rwa [toList_operand, ← same, ← text_eq] at glued
  | false =>
    -- The other families have one operator or two.
    rcases division.starts_eq with ⟨start, rfl⟩ | ⟨first, second, rfl⟩
    · obtain ⟨place, isPair, rfl, -⟩ := (division_pair_iff trimmed kind).mp division
      obtain ⟨link, named, -, whole⟩ := isPair.exists_link trimmed
      have glued := (Glued.last (operand place.after)).link link (operand place.before)
      rwa [toList_operand, toList_operand, ← whole, named] at glued
    · obtain ⟨outer, inner, isChain, rfl, -⟩ := (division_chain_iff trimmed kind).mp division
      obtain ⟨link, link', named, named', -, -, whole⟩ := isChain.exists_links trimmed
      have glued := ((Glued.last (operand inner.after)).link link' (operand inner.before)).link
        link (operand outer.before)
      simp only [toList_operand, ← List.append_assoc, ← whole, named, named'] at glued
      exact glued

/-- Pieces are two, three or five tokens. -/
theorem tokens_length (pieces : Pieces) :
    pieces.tokens.length = 2 ∨ pieces.tokens.length = 3 ∨ pieces.tokens.length = 5 := by
  cases pieces with
  | check => exact .inl rfl
  | pair => exact .inr (.inl rfl)
  | chain => exact .inr (.inr rfl)

/-- An expression is taken apart exactly when its trimmed text is, by the first family that can. -/
theorem ofExpression_eq_ok_iff {expression : String} {pieces : Pieces} :
    ofExpression expression = .ok pieces ↔
      ∃ earlier family later, OperatorFamily.all = earlier ++ family :: later ∧
        ofFamily? family (Text.trim expression.toList) = some pieces ∧
        ∀ other ∈ earlier, ofFamily? other (Text.trim expression.toList) = none := by
  -- The families are tried in turn, and the first that takes the text apart decides.
  rw [← List.findSome?_eq_some_iff, ofExpression]
  cases OperatorFamily.all.findSome? fun family => ofFamily? family (Text.trim expression.toList)
    <;> simp

/-- An expression is refused exactly when no family takes its trimmed text apart. -/
theorem ofExpression_eq_error_iff {expression : String} {error : Error} :
    ofExpression expression = .error error ↔
      error = .malformed (.noOperator (Text.trimmed expression)) ∧
        ∀ family, ofFamily? family (Text.trim expression.toList) = none := by
  -- The families tried are all there are.
  have missing : (OperatorFamily.all.findSome? fun family =>
      ofFamily? family (Text.trim expression.toList)) = none ↔
        ∀ family, ofFamily? family (Text.trim expression.toList) = none := by
    simp [List.findSome?_eq_none_iff, OperatorFamily.mem_all]
  rw [← missing, ofExpression]
  cases OperatorFamily.all.findSome? fun family => ofFamily? family (Text.trim expression.toList)
  · simp [Text.trimmed, eq_comm]
  · simp

/--
An expression is divided by the first family that applies to its trimmed text, and foremost.

It is refused exactly when no family applies. The tokens are two, three or five, and the trimmed
text consists of them with gaps between.
-/
theorem ofExpression_foremost (expression : String) :
    (∀ pieces, ofExpression expression = .ok pieces ↔
      ∃ earlier family later starts, OperatorFamily.all = earlier ++ family :: later ∧
        Foremost family (Text.trim expression.toList) pieces starts ∧
        ∀ other ∈ earlier, ¬ Applies other (Text.trim expression.toList)) ∧
    (∀ error, ofExpression expression = .error error ↔
      error = .malformed (.noOperator (Text.trimmed expression)) ∧
        ∀ family, ¬ Applies family (Text.trim expression.toList)) ∧
    (∀ pieces, ofExpression expression = .ok pieces →
      (pieces.tokens.length = 2 ∨ pieces.tokens.length = 3 ∨ pieces.tokens.length = 5) ∧
        Glued pieces.tokens (Text.trim expression.toList)) := by
  -- The trimmed text is trimmed, so that each family finds its foremost division.
  have trimmed := Text.trim_trim expression.toList
  refine ⟨fun pieces => ?_, fun error => ?_, fun pieces taken => ?_⟩
  · -- The families are tried one after the other, and each finds its foremost division or misses.
    simp only [ofExpression_eq_ok_iff, ofFamily?_eq_some_iff trimmed,
      ofFamily?_eq_none_iff trimmed]
    constructor
    · rintro ⟨earlier, family, later, split, ⟨starts, foremost⟩, inapplicable⟩
      exact ⟨earlier, family, later, starts, split, foremost, inapplicable⟩
    · rintro ⟨earlier, family, later, starts, split, foremost, inapplicable⟩
      exact ⟨earlier, family, later, split, ⟨starts, foremost⟩, inapplicable⟩
  · simp only [ofExpression_eq_error_iff, ofFamily?_eq_none_iff trimmed]
  · obtain ⟨-, family, -, -, found, -⟩ := ofExpression_eq_ok_iff.mp taken
    obtain ⟨starts, division, -⟩ := foremost_of_ofFamily? trimmed found
    exact ⟨pieces.tokens_length, division.glued trimmed⟩

end Pieces
end FlightQuery
