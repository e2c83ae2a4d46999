import FlightQuery.Proofs.Expression.Place
import Mathlib.Data.List.Lex

/-! An expression is divided at the operators that are furthest right. -/

namespace FlightQuery.Pieces

/-- An operator of a family between two gaps. -/
structure Link (family : OperatorFamily) where
  gap : List Char
  operator : String
  gap' : List Char
  listed : operator ∈ family.operators
  isGap : Text.IsGap gap
  isGap' : Text.IsGap gap'

/-- The text of an operator with the gaps on its two sides. -/
def Link.text {family : OperatorFamily} (link : Link family) : List Char :=
  link.gap ++ link.operator.toList ++ link.gap'

/--
A text divided at operators of a family, with the positions at which the operators start.

Operands stay on one line, and gaps of blanks lie between all neighbours.
-/
inductive Division (family : OperatorFamily) : List Char → Pieces → (starts : List Nat) → Prop
  | check {written gap : List Char} {sign : String} (behind : family.isCheck = true)
      (listed : sign ∈ family.operators) (isGap : Text.IsGap gap) (line : '\n' ∉ written) :
      Division family (written ++ gap ++ sign.toList) (.check (operand written) sign)
        [(written ++ gap).length]
  | pair {left right : List Char} (link : Link family) (between : family.isCheck = false)
      (lineLeft : '\n' ∉ left) (lineRight : '\n' ∉ right) :
      Division family (left ++ link.text ++ right)
        (.pair (operand left) link.operator (operand right)) [(left ++ link.gap).length]
  | chain {low middle high : List Char} (outer inner : Link family)
      (between : family.isCheck = false) (lineLow : '\n' ∉ low) (lineMiddle : '\n' ∉ middle)
      (lineHigh : '\n' ∉ high) :
      Division family (low ++ outer.text ++ middle ++ inner.text ++ high)
        (.chain (operand low) outer.operator (operand middle) inner.operator (operand high))
        [(low ++ outer.gap).length, (low ++ outer.text ++ middle ++ inner.gap).length]

/-- A family applies to a text that can be divided at its operators. -/
def Applies (family : OperatorFamily) (text : List Char) : Prop :=
  ∃ pieces starts, Division family text pieces starts

/--
Whether operators at some positions are preferred to operators at others.

More operators are, and of as many operators those further right, the first one foremost.
-/
def Preferred (starts others : List Nat) : Prop :=
  others.length < starts.length ∨ others.length = starts.length ∧ others < starts

/-- A division of a text to which no other division at operators of its family is preferred. -/
structure Foremost (family : OperatorFamily) (text : List Char) (pieces : Pieces)
    (starts : List Nat) : Prop where
  division : Division family text pieces starts
  foremost : ∀ others starts', Division family text others starts' → ¬ Preferred starts' starts

/-- A text that consists of some tokens in turn, with gaps between them. -/
inductive Glued : List String → List Char → Prop
  | last (token : String) : Glued [token] token.toList
  | next (token : String) {gap rest : List Char} {tokens : List String}
      (isGap : Text.IsGap gap) (glued : Glued tokens rest) :
      Glued (token :: tokens) (token.toList ++ gap ++ rest)

/-- A text can be an operand exactly when its trimmed form stays on one line. -/
theorem isOperand_iff {text : List Char} : isOperand text = true ↔ '\n' ∉ Text.trim text := by
  simp [isOperand]

/-- Blanks around a text do not change whether it can be an operand. -/
theorem isOperand_append {front back : List Char} (blankFront : Text.AllBlank front)
    (blankBack : Text.AllBlank back) {core : List Char} (line : '\n' ∉ core) :
    isOperand (front ++ core ++ back) = true := by
  rw [isOperand_iff, Text.trim_append blankFront blankBack]
  exact fun member => line (Text.mem_of_mem_trim member)

/-- Blanks around a text do not change it as an operand. -/
theorem operand_append {front back : List Char} (blankFront : Text.AllBlank front)
    (blankBack : Text.AllBlank back) (core : List Char) :
    operand (front ++ core ++ back) = operand core := by
  rw [operand, Text.trim_append blankFront blankBack, operand]

/-- A text with blanks behind it can be an operand when it stays on one line. -/
theorem isOperand_append_blank {text back : List Char} (blank : Text.AllBlank back)
    (line : '\n' ∉ text) : isOperand (text ++ back) = true :=
  isOperand_append Text.allBlank_nil blank line

/-- A text with blanks in front of it can be an operand when it stays on one line. -/
theorem isOperand_blank_append {front text : List Char} (blank : Text.AllBlank front)
    (line : '\n' ∉ text) : isOperand (front ++ text) = true := by
  simpa using isOperand_append blank Text.allBlank_nil line

/-- Blanks behind a text do not change it as an operand. -/
theorem operand_append_blank {back : List Char} (blank : Text.AllBlank back) (text : List Char) :
    operand (text ++ back) = operand text :=
  operand_append Text.allBlank_nil blank text

/-- Blanks in front of a text do not change it as an operand. -/
theorem operand_blank_append {front : List Char} (blank : Text.AllBlank front) (text : List Char) :
    operand (front ++ text) = operand text := by
  simpa using operand_append blank Text.allBlank_nil text

/-- The trimmed form of a text is the same operand. -/
theorem operand_trim (text : List Char) : operand (Text.trim text) = operand text := by
  rw [operand, Text.trim_trim, operand]

/-- An operator that stands in a trimmed text has its left operand before a gap. -/
theorem Place.StandsIn.gap_before {family : OperatorFamily} {text : List Char} {place : Place}
    (stands : place.StandsIn family text) (starts : Text.startsBlank text = false) :
    ∃ gap, Text.IsGap gap ∧ place.before = Text.trim place.before ++ gap := by
  -- The text opens with no blank, so neither does its part before the place.
  refine Text.exists_gap_behind ?_ stands.blankBefore
  rwa [stands.text_eq,
    Text.startsBlank_append (Text.ne_nil_of_endsBlank stands.blankBefore)] at starts

/-- An operator that stands in a trimmed text has its right operand behind a gap. -/
theorem Place.StandsIn.gap_after {family : OperatorFamily} {text : List Char} {place : Place}
    (stands : place.StandsIn family text) (ends : Text.endsBlank text = false) :
    ∃ gap, Text.IsGap gap ∧ place.after = gap ++ Text.trim place.after := by
  -- The text ends with no blank, so neither does its part after the place.
  refine Text.exists_gap_before stands.blankAfter ?_
  rwa [stands.text_eq, ← List.append_assoc,
    Text.endsBlank_append _ (Text.ne_nil_of_startsBlank stands.blankAfter)] at ends

/-- A place at which a text can be taken apart into two operands. -/
structure IsPair (family : OperatorFamily) (text : List Char) (place : Place) : Prop where
  stands : place.StandsIn family text
  left : isOperand place.before = true
  right : isOperand place.after = true

/-- The pieces at one place. -/
def Place.pair (place : Place) : Pieces :=
  .pair (operand place.before) place.operator (operand place.after)

/-- A text at a place between operands consists of these in trimmed form around the operator. -/
theorem IsPair.exists_link {family : OperatorFamily} {text : List Char} {place : Place}
    (isPair : IsPair family text place) (trimmed : Text.trim text = text) :
    ∃ link : Link family, link.operator = place.operator ∧
      place.before = Text.trim place.before ++ link.gap ∧
      text = Text.trim place.before ++ link.text ++ Text.trim place.after := by
  obtain ⟨stands, -, -⟩ := isPair
  -- The blanks beside the operator are its gaps, since the text has none at its ends.
  obtain ⟨gap, isGap, before⟩ := stands.gap_before (Text.startsBlank_of_trim trimmed)
  obtain ⟨gap', isGap', after⟩ := stands.gap_after (Text.endsBlank_of_trim trimmed)
  refine ⟨⟨gap, place.operator, gap', stands.listed, isGap, isGap'⟩, rfl, before, ?_⟩
  calc text
    _ = place.before ++ (place.operator.toList ++ place.after) := stands.text_eq
    _ = Text.trim place.before ++ gap ++ (place.operator.toList
          ++ (gap' ++ Text.trim place.after)) := by rw [← before, ← after]
    _ = Text.trim place.before ++ (gap ++ place.operator.toList ++ gap')
          ++ Text.trim place.after := by simp only [List.append_assoc]

/-- The divisions of a trimmed text at one operator are those at the places between operands. -/
theorem division_pair_iff {family : OperatorFamily} {text : List Char}
    (trimmed : Text.trim text = text) (between : family.isCheck = false) {pieces : Pieces}
    {start : Nat} :
    Division family text pieces [start] ↔
      ∃ place, IsPair family text place ∧ pieces = place.pair ∧ start = place.before.length := by
  constructor
  · intro division
    cases division with
    | check behind => simp [between] at behind
    | @pair left right link _ lineLeft lineRight =>
      -- The gaps of the operator belong to the texts on its two sides.
      have before := operand_append_blank link.isGap.blank left
      have after := operand_blank_append link.isGap'.blank right
      have lineBefore := isOperand_append_blank link.isGap.blank lineLeft
      have lineAfter := isOperand_blank_append link.isGap'.blank lineRight
      refine ⟨⟨left ++ link.gap, link.operator, link.gap' ++ right⟩,
        ⟨⟨?_, link.listed, ?_, ?_⟩, lineBefore, lineAfter⟩, ?_, rfl⟩
      · simp [Link.text]
      · rw [Text.endsBlank_append _ link.isGap.nonempty, link.isGap.endsBlank]
      · rw [Text.startsBlank_append link.isGap'.nonempty, link.isGap'.startsBlank]
      · rw [Place.pair, before, after]
  · -- Trimming what stands on the two sides leaves the operands and the gaps.
    rintro ⟨place, isPair, rfl, rfl⟩
    obtain ⟨link, named, before, whole⟩ := isPair.exists_link trimmed
    have division := Division.pair link between (isOperand_iff.mp isPair.left)
      (isOperand_iff.mp isPair.right)
    simp only [← whole, ← before, named, operand_trim] at division
    exact division

/-- Two places at which a text can be taken apart into three operands. -/
structure IsChain (family : OperatorFamily) (text : List Char) (outer inner : Place) : Prop where
  stands : outer.StandsIn family text
  left : isOperand outer.before = true
  stands' : inner.StandsIn family outer.after
  room : 2 ≤ inner.before.length
  middle : isOperand inner.before = true
  right : isOperand inner.after = true

/-- The pieces at two places, the second one in what follows the first one. -/
def Place.chain (outer inner : Place) : Pieces :=
  .chain (operand outer.before) outer.operator (operand inner.before) inner.operator
    (operand inner.after)

/-- The position of a place in what follows another place, counted from the start of the text. -/
def Place.startBehind (outer inner : Place) : Nat :=
  (outer.before ++ outer.operator.toList ++ inner.before).length

/-- A text at two places between operands consists of these in trimmed form around the two
operators. -/
theorem IsChain.exists_links {family : OperatorFamily} {text : List Char} {outer inner : Place}
    (isChain : IsChain family text outer inner) (trimmed : Text.trim text = text) :
    ∃ link link' : Link family, link.operator = outer.operator ∧ link'.operator = inner.operator ∧
      outer.before = Text.trim outer.before ++ link.gap ∧
      inner.before = link.gap' ++ Text.trim inner.before ++ link'.gap ∧
      text = Text.trim outer.before ++ link.text ++ Text.trim inner.before ++ link'.text
        ++ Text.trim inner.after := by
  obtain ⟨stands, -, stands', room, -, -⟩ := isChain
  -- What follows the outer operator starts with a blank, and ends as the text does.
  have ends : Text.endsBlank outer.after = false := by
    have visible := Text.endsBlank_of_trim trimmed
    rwa [stands.text_eq, ← List.append_assoc,
      Text.endsBlank_append _ (Text.ne_nil_of_startsBlank stands.blankAfter)] at visible
  have starts : Text.startsBlank inner.before = true := by
    have blank := stands.blankAfter
    rwa [stands'.text_eq,
      Text.startsBlank_append (Text.ne_nil_of_endsBlank stands'.blankBefore)] at blank
  -- There is a gap on either side of each operator, four of them altogether.
  obtain ⟨gap₁, isGap₁, before⟩ := stands.gap_before (Text.startsBlank_of_trim trimmed)
  obtain ⟨gap₂, gap₃, isGap₂, isGap₃, around⟩ :=
    Text.exists_gaps_around starts stands'.blankBefore room
  obtain ⟨gap₄, isGap₄, after⟩ := stands'.gap_after ends
  refine ⟨⟨gap₁, outer.operator, gap₂, stands.listed, isGap₁, isGap₂⟩,
    ⟨gap₃, inner.operator, gap₄, stands'.listed, isGap₃, isGap₄⟩, rfl, rfl, before, around, ?_⟩
  -- Both divisions are put together, and the gaps are taken off the trimmed operands.
  calc text
    _ = outer.before ++ (outer.operator.toList
          ++ (inner.before ++ (inner.operator.toList ++ inner.after))) := by
      rw [← stands'.text_eq, ← stands.text_eq]
    _ = Text.trim outer.before ++ gap₁ ++ (outer.operator.toList
          ++ (gap₂ ++ Text.trim inner.before ++ gap₃
            ++ (inner.operator.toList ++ (gap₄ ++ Text.trim inner.after)))) := by
      rw [← before, ← around, ← after]
    _ = Text.trim outer.before ++ (gap₁ ++ outer.operator.toList ++ gap₂)
          ++ Text.trim inner.before ++ (gap₃ ++ inner.operator.toList ++ gap₄)
          ++ Text.trim inner.after := by
      simp only [List.append_assoc]

/-- The divisions of a trimmed text at two operators are those at places between operands. -/
theorem division_chain_iff {family : OperatorFamily} {text : List Char}
    (trimmed : Text.trim text = text) (between : family.isCheck = false) {pieces : Pieces}
    {first second : Nat} :
    Division family text pieces [first, second] ↔
      ∃ outer inner, IsChain family text outer inner ∧ pieces = outer.chain inner ∧
        first = outer.before.length ∧ second = outer.startBehind inner := by
  constructor
  · intro division
    cases division with
    | @chain low middle high outer inner _ lineLow lineMiddle lineHigh =>
      -- Each gap belongs to the text on its side of the operator, and trimming takes it away.
      have before := operand_append_blank outer.isGap.blank low
      have around := operand_append outer.isGap'.blank inner.isGap.blank middle
      have after := operand_blank_append inner.isGap'.blank high
      have lineBefore := isOperand_append_blank outer.isGap.blank lineLow
      have lineAround := isOperand_append outer.isGap'.blank inner.isGap.blank lineMiddle
      have lineAfter := isOperand_blank_append inner.isGap'.blank lineHigh
      refine ⟨⟨low ++ outer.gap, outer.operator, outer.gap' ++ (middle ++ inner.text ++ high)⟩,
        ⟨outer.gap' ++ middle ++ inner.gap, inner.operator, inner.gap' ++ high⟩,
        ⟨⟨?_, outer.listed, ?_, ?_⟩, lineBefore, ⟨?_, inner.listed, ?_, ?_⟩, ?_, lineAround,
          lineAfter⟩, ?_, rfl, ?_⟩
      · simp [Link.text]
      · rw [Text.endsBlank_append _ outer.isGap.nonempty, outer.isGap.endsBlank]
      · rw [Text.startsBlank_append outer.isGap'.nonempty, outer.isGap'.startsBlank]
      · simp [Link.text]
      · rw [Text.endsBlank_append _ inner.isGap.nonempty, inner.isGap.endsBlank]
      · rw [Text.startsBlank_append inner.isGap'.nonempty, inner.isGap'.startsBlank]
      · -- The two gaps are not empty.
        have first := List.length_pos_iff.mpr outer.isGap'.nonempty
        have second := List.length_pos_iff.mpr inner.isGap.nonempty
        simp only [List.length_append]
        omega
      · rw [Place.chain, before, around, after]
      · simp [Place.startBehind, Link.text]
  · -- The two operators have their gaps, and the operands between them are trimmed.
    rintro ⟨outer, inner, isChain, rfl, rfl, rfl⟩
    obtain ⟨link, link', named, named', before, around, whole⟩ := isChain.exists_links trimmed
    have division := Division.chain link link' between (isOperand_iff.mp isChain.left)
      (isOperand_iff.mp isChain.middle) (isOperand_iff.mp isChain.right)
    -- The second operator starts where the search counts it from the first one.
    have start : Text.trim outer.before ++ link.text ++ Text.trim inner.before ++ link'.gap
        = outer.before ++ outer.operator.toList ++ inner.before := by
      calc
        _ = Text.trim outer.before ++ link.gap ++ link.operator.toList
              ++ (link.gap' ++ Text.trim inner.before ++ link'.gap) := by
          simp only [Link.text, List.append_assoc]
        _ = outer.before ++ outer.operator.toList ++ inner.before := by
          rw [← before, ← around, named]
    simp only [← whole, start, ← before, named, named', operand_trim] at division
    exact division

/-- The divisions of a trimmed text at an operator at its end. -/
theorem division_check_iff {family : OperatorFamily} {text : List Char}
    (trimmed : Text.trim text = text) (behind : family.isCheck = true) {pieces : Pieces}
    {starts : List Nat} :
    Division family text pieces starts ↔
      ∃ before, ∃ sign ∈ family.operators, text = before ++ sign.toList ∧
        Text.endsBlank before = true ∧ isOperand before = true ∧
        pieces = .check (operand before) sign ∧ starts = [before.length] := by
  constructor
  · intro division
    cases division with
    | @check written gap sign _ listed isGap line =>
      -- The gap belongs to what stands in front of the operator.
      have same := operand_append_blank isGap.blank written
      have lineBefore := isOperand_append_blank isGap.blank line
      refine ⟨written ++ gap, sign, listed, rfl, ?_, lineBefore, by rw [same], rfl⟩
      rw [Text.endsBlank_append _ isGap.nonempty, isGap.endsBlank]
    | pair _ between => simp [between] at behind
    | chain _ _ between => simp [between] at behind
  · rintro ⟨before, sign, listed, text_eq, blank, line, rfl, rfl⟩
    -- A trimmed text starts with no blank, so that the gap stands behind the operand.
    have visible : Text.startsBlank before = false := by
      have starts := Text.startsBlank_of_trim trimmed
      rwa [text_eq, Text.startsBlank_append (Text.ne_nil_of_endsBlank blank)] at starts
    obtain ⟨gap, isGap, same⟩ := Text.exists_gap_behind visible blank
    have division := Division.check behind listed isGap (isOperand_iff.mp line)
    simp only [← same, ← text_eq, operand_trim] at division
    exact division

end FlightQuery.Pieces
