import FlightQuery.Proofs.Expression.Splitting
import FlightQuery.Proofs.Text.Word

/-! Operators stand in a text as words, and divide it where no other words are operators. -/

namespace FlightQuery

namespace OperatorFamily

/-- The operators of comparisons and the simple membership are single words. -/
def IsSingle (family : OperatorFamily) : Prop := family = comparison ∨ family = isIn

/-- The operators of these families are single words. -/
theorem IsSingle.isWord {family : OperatorFamily} (single : family.IsSingle) :
    ∀ sign ∈ family.operators, Text.IsWord sign.toList := by
  rcases single with rfl | rfl <;> decide

/-- The operators of these families stand between two operands. -/
theorem IsSingle.between {family : OperatorFamily} (single : family.IsSingle) :
    family.isCheck = false := by
  rcases single with rfl | rfl <;> rfl

end OperatorFamily

namespace Pieces

/-- A text of which no word is an operator of a family. -/
def FreeOf (family : OperatorFamily) (text : List Char) : Prop :=
  ∀ sign ∈ family.operators, ¬ Text.HasWord sign.toList text

section Single

variable {family : OperatorFamily}

/-- What stands in front of an operator ends with its gap. -/
theorem Link.endsBlank_before (link : Link family) {first : List Char} :
    Text.endsBlank (first ++ link.gap) = true := by
  rw [Text.endsBlank_append first link.isGap.nonempty, link.isGap.endsBlank]

/-- What stands behind an operator starts with its gap. -/
theorem Link.startsBlank_after (link : Link family) {rest : List Char} :
    Text.startsBlank (link.gap' ++ rest) = true := by
  rw [Text.startsBlank_append link.isGap'.nonempty, link.isGap'.startsBlank]

/-- A gap does not add a word to a text that has no operator among its words. -/
theorem FreeOf.gap {first gap last : List Char} (single : family.IsSingle)
    (isGap : Text.IsGap gap) (free : FreeOf family first) (free' : FreeOf family last) :
    FreeOf family (first ++ (gap ++ last)) := by
  intro sign listed has
  -- A word does not extend over the gap.
  rcases has.of_gap (single.isWord sign listed) isGap with inside | inside
  · exact free sign listed inside
  · exact free' sign listed inside

/-- The empty text has no operator among its words. -/
theorem freeOf_nil (single : family.IsSingle) : FreeOf family [] := fun sign listed =>
  Text.not_hasWord_of_blank (single.isWord sign listed) Text.allBlank_nil

/-- A word that is no operator has none among its words. -/
theorem freeOf_word {word : List Char} (isWord : Text.IsWord word)
    (other : ∀ sign ∈ family.operators, sign.toList ≠ word) : FreeOf family word :=
  fun sign listed has => other sign listed (has.of_isWord isWord)

/-- An operator of another family does not add a word either, if it has none itself. -/
theorem FreeOf.link {other : OperatorFamily} {first last : List Char} (link : Link other)
    (single : family.IsSingle) (free : FreeOf family first)
    (free' : FreeOf family link.operator.toList) (free'' : FreeOf family last) :
    FreeOf family (first ++ link.text ++ last) := by
  -- The two gaps of the operator add no word either.
  have behind := free'.gap single link.isGap' free''
  have whole := free.gap single link.isGap behind
  simpa only [Link.text, List.append_assoc] using whole

/-- An operator stands at a place as a word. -/
theorem Place.StandsIn.wordAt {text : List Char} {place : Place}
    (stands : place.StandsIn family text) :
    Text.WordAt place.operator.toList text place.before place.after :=
  ⟨stands.text_eq, .inr stands.blankBefore, .inr stands.blankAfter⟩

/-- No operator stands in a text that has none among its words. -/
theorem FreeOf.not_standsIn {text : List Char} (free : FreeOf family text) (place : Place) :
    ¬ place.StandsIn family text := fun stands =>
  free place.operator stands.listed ⟨_, _, stands.wordAt⟩

/-- A text in which no operator of a family stands is not taken apart by it. -/
theorem ofFamily?_eq_none_of_not_standsIn {text : List Char} (between : family.isCheck = false)
    (bare : ∀ place : Place, ¬ place.StandsIn family text) : ofFamily? family text = none := by
  rw [ofFamily?, if_neg (by simp [between]), Option.or_eq_none_iff]
  -- Both searches go through the places of operators, of which there are none.
  exact ⟨findSome?_places_eq_none_iff.mpr fun place stands => absurd stands (bare place),
    findSome?_places_eq_none_iff.mpr fun place stands => absurd stands (bare place)⟩

/-- Behind a text without operators the first operator is that of the link, or stands behind it. -/
theorem Place.StandsIn.of_link (single : family.IsSingle) {link : Link family}
    {first rest : List Char} {place : Place} (free : FreeOf family first)
    (stands : place.StandsIn family (first ++ link.text ++ rest)) :
    (place.before = first ++ link.gap ∧ place.after = link.gap' ++ rest) ∨
      ∃ inner : Place, inner.StandsIn family (link.gap' ++ rest) ∧ inner.after = place.after := by
  -- The operator is a word, and no word of the text in front of the link.
  have isWord := single.isWord place.operator stands.listed
  have around : first ++ link.text ++ rest
      = first ++ link.gap ++ (link.operator.toList ++ (link.gap' ++ rest)) := by
    simp only [Link.text, List.append_assoc]
  have starts : Text.startsBlank (link.gap' ++ rest) = true := link.startsBlank_after
  have free' := free.gap single link.isGap (freeOf_nil single) place.operator stands.listed
  rw [List.append_nil] at free'
  have word := stands.wordAt
  rw [around] at word
  rcases word.of_append_word isWord (single.isWord _ link.listed) (.inr link.endsBlank_before)
    (.inr starts) free' with ⟨-, before, after⟩ | ⟨ahead, behind, -⟩
  · exact .inl ⟨before, after⟩
  · refine .inr ⟨⟨ahead, place.operator, place.after⟩,
      ⟨behind.text_eq, stands.listed, ?_, stands.blankAfter⟩, rfl⟩
    -- The rest starts with a blank, so the operator is not at its very start.
    rcases behind.opens with nothing | blank
    · rw [behind.text_eq, nothing, List.nil_append, Text.startsBlank_append isWord.nonempty,
        isWord.startsBlank] at starts
      exact absurd starts (by simp)
    · exact blank

/-- A text of which no other word is an operator is divided at its only operator. -/
theorem ofFamily?_link {link : Link family} {left right : List Char}
    (between : family.isCheck = false)
    (trimmed : Text.trim (left ++ link.text ++ right) = left ++ link.text ++ right)
    (lineLeft : '\n' ∉ left) (lineRight : '\n' ∉ right)
    (sole : ∀ place : Place, place.StandsIn family (left ++ link.text ++ right) →
      place.before = left ++ link.gap ∧ place.after = link.gap' ++ right)
    (bare : ∀ place : Place, ¬ place.StandsIn family (link.gap' ++ right)) :
    ofFamily? family (left ++ link.text ++ right)
      = some (.pair (operand left) link.operator (operand right)) := by
  refine (ofFamily?_eq_some_iff trimmed).mpr
    ⟨_, Division.pair link between lineLeft lineRight, fun others starts division preferred => ?_⟩
  rcases division.starts_eq with ⟨start, rfl⟩ | ⟨first, second, rfl⟩
  · -- Another division would be at the same operator.
    obtain ⟨place, isPair, -, rfl⟩ := (division_pair_iff trimmed between).mp division
    rw [(sole place isPair.stands).1, preferred_one] at preferred
    exact Nat.lt_irrefl _ preferred
  · -- A second operator would stand behind the first one.
    obtain ⟨outer, inner, isChain, -⟩ := (division_chain_iff trimmed between).mp division
    have stands := isChain.stands'
    rw [(sole outer isChain.stands).2] at stands
    exact bare inner stands

/-- A text is divided at an operator between operands without operators among their words. -/
theorem ofFamily?_pair (single : family.IsSingle) {link : Link family} {left right : List Char}
    (trimmed : Text.trim (left ++ link.text ++ right) = left ++ link.text ++ right)
    (lineLeft : '\n' ∉ left) (lineRight : '\n' ∉ right) (freeLeft : FreeOf family left)
    (freeRight : FreeOf family right) :
    ofFamily? family (left ++ link.text ++ right)
      = some (.pair (operand left) link.operator (operand right)) := by
  -- What follows the operator has none among its words, gap included.
  have bare : FreeOf family (link.gap' ++ right) :=
    (freeOf_nil single).gap single link.isGap' freeRight
  refine ofFamily?_link single.between trimmed lineLeft lineRight ?_ bare.not_standsIn
  intro place stands
  rcases stands.of_link single freeLeft with sole | ⟨inner, beyond, -⟩
  · exact sole
  · exact absurd beyond (bare.not_standsIn inner)

/-- A text is divided at two operators between operands without operators among their words. -/
theorem ofFamily?_chain (single : family.IsSingle) {outer inner : Link family}
    {low middle high : List Char}
    (trimmed : Text.trim (low ++ outer.text ++ middle ++ inner.text ++ high)
      = low ++ outer.text ++ middle ++ inner.text ++ high)
    (lineLow : '\n' ∉ low) (lineMiddle : '\n' ∉ middle) (lineHigh : '\n' ∉ high)
    (freeLow : FreeOf family low) (freeMiddle : FreeOf family middle)
    (freeHigh : FreeOf family high) :
    ofFamily? family (low ++ outer.text ++ middle ++ inner.text ++ high)
      = some (.chain (operand low) outer.operator (operand middle) inner.operator
          (operand high)) := by
  -- Each operand stays free of operators with the gap in front of it.
  have bare : FreeOf family (inner.gap' ++ high) :=
    (freeOf_nil single).gap single inner.isGap' freeHigh
  have freeMiddle' : FreeOf family (outer.gap' ++ middle) :=
    (freeOf_nil single).gap single outer.isGap' freeMiddle
  -- Behind the outer operator only the inner one stands, and nothing behind that.
  have around : low ++ outer.text ++ middle ++ inner.text ++ high
      = low ++ outer.text ++ (middle ++ inner.text ++ high) := by simp only [List.append_assoc]
  have behind : outer.gap' ++ (middle ++ inner.text ++ high)
      = (outer.gap' ++ middle) ++ inner.text ++ high := by simp only [List.append_assoc]
  have second : ∀ place : Place,
      place.StandsIn family (outer.gap' ++ (middle ++ inner.text ++ high)) →
        place.before = outer.gap' ++ middle ++ inner.gap ∧ place.after = inner.gap' ++ high := by
    intro place stands
    rw [behind] at stands
    rcases stands.of_link single freeMiddle' with sole | ⟨place', beyond, -⟩
    · exact sole
    · exact absurd beyond (bare.not_standsIn place')
  refine (ofFamily?_eq_some_iff trimmed).mpr ⟨_, Division.chain outer inner single.between lineLow
    lineMiddle lineHigh, fun others starts division preferred => ?_⟩
  rcases division.starts_eq with ⟨start, rfl⟩ | ⟨first, second', rfl⟩
  · exact not_preferred_fewer _ _ _ preferred
  obtain ⟨place, place', isChain, -, rfl, rfl⟩ :=
    (division_chain_iff trimmed single.between).mp division
  have stands := isChain.stands
  have stands' := isChain.stands'
  rw [around] at stands
  rcases stands.of_link single freeLow with ⟨before, after⟩ | ⟨inner', beyond, after⟩
  · -- The places are those of the two operators.
    rw [after] at stands'
    have before' := (second place' stands').1
    have operator : place.operator.toList.length = outer.operator.toList.length := by
      have whole := stands.text_eq
      rw [before, after] at whole
      have lengths := congrArg List.length whole
      simp only [Link.text, List.length_append] at lengths
      omega
    simp only [preferred_two, Place.startBehind, before, before', Link.text,
      List.length_append] at preferred
    omega
  · -- The outer place would be the inner operator, with no operator left behind it.
    rw [← after, (second inner' beyond).2] at stands'
    exact bare.not_standsIn place' stands'

end Single

section NotIn

/-- A negated membership ends in the word of a membership. -/
theorem Place.StandsIn.wordAt_notIn {text : List Char} {place : Place}
    (stands : place.StandsIn .notIn text) :
    Text.WordAt "in".toList text (place.before ++ "not ".toList) place.after := by
  -- The operator of the family is its first word, a blank and the word of a membership.
  have operator : place.operator = "not in" := List.mem_singleton.mp stands.listed
  refine ⟨?_, .inr ?_, .inr stands.blankAfter⟩
  · have whole := stands.text_eq
    rw [operator] at whole
    rw [whole, List.append_assoc]
    rfl
  · rw [Text.endsBlank_append _ (by decide)]
    decide

/-- No negated membership stands in a text without the word of a membership. -/
theorem FreeOf.not_standsIn_notIn {text : List Char} (free : FreeOf .isIn text) (place : Place) :
    ¬ place.StandsIn .notIn text := fun stands =>
  free "in" (by decide) ⟨_, _, stands.wordAt_notIn⟩

/-- The only negated membership between two operands is the one that links them, unless the left
operand has one of its own, which may also stand at its end. -/
theorem Place.StandsIn.of_notIn_link {link : Link .notIn} {left right : List Char} {place : Place}
    (bare : ∀ inner : Place, ¬ inner.StandsIn .notIn left)
    (unended : ∀ before, ¬ Text.WordAt "in".toList left (before ++ "not ".toList) [])
    (freeRight : FreeOf .isIn right)
    (stands : place.StandsIn .notIn (left ++ link.text ++ right)) :
    place.before = left ++ link.gap ∧ place.after = link.gap' ++ right := by
  have single : OperatorFamily.isIn.IsSingle := .inr rfl
  have operator : link.operator = "not in" := List.mem_singleton.mp link.listed
  have closes : Text.startsBlank (link.text ++ right) = true := by
    rw [Link.text, List.append_assoc, List.append_assoc,
      Text.startsBlank_append link.isGap.nonempty, link.isGap.startsBlank]
  -- The operator ends in the word of a membership, which is in the left operand or behind it.
  have word := stands.wordAt_notIn
  rw [List.append_assoc] at word
  rcases word.of_append (by decide) (.inr (.inr closes)) with
    ⟨behind, inside, -⟩ | ⟨ahead, beyond, before⟩
  · rcases inside.closes with rfl | blank
    · exact absurd inside (unended place.before)
    · -- The blank behind the word makes it a negated membership of the left operand.
      have whole : left = place.before ++ ("not in".toList ++ behind) := by
        rw [inside.text_eq, List.append_assoc]
        rfl
      exact absurd ⟨whole, List.mem_singleton.mpr rfl, stands.blankBefore, blank⟩
        (bare ⟨place.before, "not in", behind⟩)
  · -- Behind the left operand the only such word is that of the link.
    have around : link.text ++ right
        = link.gap ++ "not ".toList ++ ("in".toList ++ (link.gap' ++ right)) := by
      rw [Link.text, operator]
      simp only [List.append_assoc]
      rfl
    have negation : FreeOf .isIn ("not".toList ++ (" ".toList ++ [])) :=
      (freeOf_word (by decide) (by decide)).gap single (by decide) (freeOf_nil single)
    have free := ((freeOf_nil single).gap single link.isGap negation) "in" (by decide)
    have free' := ((freeOf_nil single).gap single link.isGap' freeRight) "in" (by decide)
    have opens : Text.endsBlank (link.gap ++ "not ".toList) = true := by
      rw [Text.endsBlank_append _ (by decide)]
      decide
    rw [around] at beyond
    obtain ⟨rfl, after⟩ := beyond.sole (by decide) (.inr opens) (.inr link.startsBlank_after) free
      free'
    rw [← List.append_assoc] at before
    exact ⟨List.append_cancel_right before, after⟩

/-- No negated membership stands in a text with a membership, unless its left operand ends so. -/
theorem not_standsIn_notIn_of_isIn {link : Link .isIn} {left right : List Char}
    (freeLeft : FreeOf .isIn left) (freeRight : FreeOf .isIn right)
    (visible : Text.endsBlank left = false)
    (unnegated : ∀ before, ¬ Text.WordAt "not".toList left before []) (place : Place) :
    ¬ place.StandsIn .notIn (left ++ link.text ++ right) := by
  intro stands
  have single : OperatorFamily.isIn.IsSingle := .inr rfl
  have operator : link.operator = "in" := List.mem_singleton.mp link.listed
  have around : left ++ link.text ++ right
      = left ++ link.gap ++ ("in".toList ++ (link.gap' ++ right)) := by
    rw [Link.text, operator]
    simp only [List.append_assoc]
  -- The word of the membership is on neither side of the link, so that both operators end alike.
  have free := (freeLeft.gap single link.isGap (freeOf_nil single)) "in" (by decide)
  rw [List.append_nil] at free
  have free' := ((freeOf_nil single).gap single link.isGap' freeRight) "in" (by decide)
  have word := stands.wordAt_notIn
  rw [around] at word
  obtain ⟨before, -⟩ := word.sole (by decide) (.inr link.endsBlank_before)
    (.inr link.startsBlank_after) free free'
  -- Without the gap the left operand ends in the word of the negation.
  have trimmed := congrArg Text.trimEnd before
  have parts : place.before ++ "not ".toList = place.before ++ "not".toList ++ " ".toList := by
    rw [List.append_assoc]
    rfl
  have ends : Text.endsBlank (place.before ++ "not".toList) = false := by
    rw [Text.endsBlank_append _ (by decide)]
    decide
  rw [parts, Text.trimEnd_append _ (by decide), Text.trimEnd_append _ link.isGap.blank,
    Text.trimEnd_eq_self ends, Text.trimEnd_eq_self visible] at trimmed
  exact unnegated place.before
    ⟨by rw [← trimmed, List.append_nil], .inr stands.blankBefore, .inl rfl⟩

end NotIn

end Pieces
end FlightQuery
