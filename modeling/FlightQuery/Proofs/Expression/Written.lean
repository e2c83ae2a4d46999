import FlightQuery.Expression
import FlightQuery.Proofs.Expression.Word

/-! Expressions that are written out read back as themselves. -/

namespace FlightQuery

/-- The sign of a comparison denotes it. -/
@[simp] theorem Comparator.ofSign?_sign (comparator : Comparator) :
    Comparator.ofSign? comparator.sign = some comparator := by
  cases comparator <;> decide

/-- The sign of a comparison is an operator of the first family. -/
theorem Comparator.sign_mem (comparator : Comparator) :
    comparator.sign ∈ OperatorFamily.comparison.operators := by
  cases comparator <;> decide

/-- The text of an operator between operands denotes it. -/
@[simp] theorem BinaryOperator.ofSign?_sign (operator : BinaryOperator) :
    BinaryOperator.ofSign? operator.sign = some operator := by
  rcases operator with comparator | negated
  · cases comparator <;> decide
  · cases negated <;> decide

/-- The text of a null check denotes it. -/
@[simp] theorem NullCheck.ofSign?_sign (check : NullCheck) :
    NullCheck.ofSign? check.sign = some check := by
  cases check <;> decide

namespace Expression

/-- A trimmed operand on one line that has no sign of a comparison among its words. -/
structure IsPlain (operand : String) : Prop where
  nonempty : operand ≠ ""
  trimmed : Text.trimmed operand = operand
  line : '\n' ∉ operand.toList
  signless : Pieces.FreeOf .comparison operand.toList

/-- A plain operand that does not have the word of a membership either. -/
structure IsBare (operand : String) : Prop extends IsPlain operand where
  wordless : ¬ Text.HasWord "in".toList operand.toList

/-- The last word of a text, behind which nothing follows. -/
def EndsInWord (word operand : String) : Prop :=
  ∃ before, Text.WordAt word.toList operand.toList before []

/-- An expression is written out as its operands and operators with gaps of blanks between. -/
inductive Written : Expression → String → Prop
  | compare {left right gap gap' : String} (comparator : Comparator) (plainLeft : IsPlain left)
      (plainRight : IsPlain right) (isGap : Text.IsGap gap.toList)
      (isGap' : Text.IsGap gap'.toList) :
      Written (.binary left (.compare comparator) right)
        (left ++ gap ++ comparator.sign ++ gap' ++ right)
  | range {low field high gap₁ gap₂ gap₃ gap₄ : String} (outer inner : Comparator)
      (plainLow : IsPlain low) (plainField : IsPlain field) (plainHigh : IsPlain high)
      (isGap₁ : Text.IsGap gap₁.toList) (isGap₂ : Text.IsGap gap₂.toList)
      (isGap₃ : Text.IsGap gap₃.toList) (isGap₄ : Text.IsGap gap₄.toList) :
      Written (.range low outer field inner high)
        (low ++ gap₁ ++ outer.sign ++ gap₂ ++ field ++ gap₃ ++ inner.sign ++ gap₄ ++ high)
  | isIn {left right gap gap' : String} (bareLeft : IsBare left) (bareRight : IsBare right)
      (isGap : Text.IsGap gap.toList) (isGap' : Text.IsGap gap'.toList)
      (unnegated : ¬ EndsInWord "not" left) :
      Written (.binary left (.membership false) right) (left ++ gap ++ "in" ++ gap' ++ right)
  | notIn {left right gap gap' : String} (bareLeft : IsBare left) (bareRight : IsBare right)
      (isGap : Text.IsGap gap.toList) (isGap' : Text.IsGap gap'.toList) :
      Written (.binary left (.membership true) right) (left ++ gap ++ "not in" ++ gap' ++ right)
  | isNull {operand gap : String} (bare : IsBare operand) (isGap : Text.IsGap gap.toList) :
      Written (.check operand .isNull) (operand ++ gap ++ "is null")
  | isNotNull {operand gap : String} (bare : IsBare operand) (isGap : Text.IsGap gap.toList) :
      Written (.check operand .isNotNull) (operand ++ gap ++ "is not null")

/-- The characters of a plain operand are trimmed. -/
theorem IsPlain.trim_toList {operand : String} (plain : IsPlain operand) :
    Text.trim operand.toList = operand.toList := by
  have trimmed := congrArg String.toList plain.trimmed
  rwa [Text.trimmed, String.toList_ofList] at trimmed

/-- A plain operand starts with no blank. -/
theorem IsPlain.startsBlank {operand : String} (plain : IsPlain operand) :
    Text.startsBlank operand.toList = false := Text.startsBlank_of_trim plain.trim_toList

/-- A plain operand ends with no blank. -/
theorem IsPlain.endsBlank {operand : String} (plain : IsPlain operand) :
    Text.endsBlank operand.toList = false := Text.endsBlank_of_trim plain.trim_toList

/-- A plain operand has some characters. -/
theorem IsPlain.toList_ne_nil {operand : String} (plain : IsPlain operand) :
    operand.toList ≠ [] := by
  intro empty
  exact plain.nonempty (String.toList_inj.mp (by simpa using empty))

/-- A plain operand is taken out of a text as it is. -/
theorem IsPlain.operand_eq {operand : String} (plain : IsPlain operand) :
    Pieces.operand operand.toList = operand := plain.trimmed

/-- What stands between visible characters is trimmed. -/
theorem trim_between {first last : List Char} (middle : List Char) (nonempty : first ≠ [])
    (nonempty' : last ≠ []) (starts : Text.startsBlank first = false)
    (ends : Text.endsBlank last = false) :
    Text.trim (first ++ middle ++ last) = first ++ middle ++ last := by
  -- The whole starts as its first part does and ends as its last part does.
  refine Text.trim_eq_self ?_ ?_
  · rwa [List.append_assoc, Text.startsBlank_append nonempty]
  · rwa [Text.endsBlank_append _ nonempty']

/-- Pieces around the sign of a binary operator are read as it. -/
theorem ofPieces_pair (expression left right : String) (operator : BinaryOperator) :
    ofPieces expression (.pair left operator.sign right) = .ok (.binary left operator right) := by
  simp [ofPieces]

/-- Pieces around the signs of two comparisons are read as a range. -/
theorem ofPieces_chain (expression low field high : String) (outer inner : Comparator) :
    ofPieces expression (.chain low outer.sign field inner.sign high)
      = .ok (.range low outer field inner high) := by
  simp [ofPieces]

/-- A piece in front of the sign of a null check is read as it. -/
theorem ofPieces_check (expression operand : String) (check : NullCheck) :
    ofPieces expression (.check operand check.sign) = .ok (.check operand check) := by
  simp [ofPieces]

/-- A trimmed text is read from the pieces of the first family that takes it apart. -/
theorem parse_eq_ofPieces {text : String} {family : OperatorFamily} {pieces : Pieces}
    (trimmed : Text.trim text.toList = text.toList) (earlier : List OperatorFamily)
    {later : List OperatorFamily} (split : OperatorFamily.all = earlier ++ family :: later)
    (found : Pieces.ofFamily? family text.toList = some pieces)
    (missed : ∀ other ∈ earlier, Pieces.ofFamily? other text.toList = none) :
    parse text = ofPieces (Text.trimmed text) pieces := by
  -- The families before this one miss, and the search stops here.
  have taken : Pieces.ofExpression text = .ok pieces := by
    refine Pieces.ofExpression_eq_ok_iff.mpr ⟨earlier, family, later, split, ?_, ?_⟩
    · rwa [trimmed]
    · rwa [trimmed]
  rw [parse, taken]
  rfl

/-- Plain operands around an operator make a trimmed text. -/
theorem IsPlain.trim_link {family : OperatorFamily} {left right : String} (plainLeft : IsPlain left)
    (plainRight : IsPlain right) (link : Pieces.Link family) :
    Text.trim (left.toList ++ link.text ++ right.toList)
      = left.toList ++ link.text ++ right.toList :=
  trim_between link.text plainLeft.toList_ne_nil plainRight.toList_ne_nil plainLeft.startsBlank
    plainRight.endsBlank

/-- A text of plain operands around an operator reads back when the family of the operator is the
first one that takes the text apart, and does so at this operator. -/
theorem parse_link {family : OperatorFamily} {link : Pieces.Link family} {left right text : String}
    {operator : BinaryOperator} (named : link.operator = operator.sign) (plainLeft : IsPlain left)
    (plainRight : IsPlain right) (whole : text.toList = left.toList ++ link.text ++ right.toList)
    (earlier : List OperatorFamily) {later : List OperatorFamily}
    (split : OperatorFamily.all = earlier ++ family :: later)
    (found : Pieces.ofFamily? family (left.toList ++ link.text ++ right.toList)
      = some (.pair (Pieces.operand left.toList) link.operator (Pieces.operand right.toList)))
    (missed : ∀ other ∈ earlier,
      Pieces.ofFamily? other (left.toList ++ link.text ++ right.toList) = none) :
    parse text = .ok (.binary left operator right) := by
  have trimmed := plainLeft.trim_link plainRight link
  -- The operands are taken out of the text as they were written into it.
  rw [← whole] at trimmed found missed
  rw [plainLeft.operand_eq, plainRight.operand_eq, named] at found
  rw [parse_eq_ofPieces trimmed earlier split found missed]
  exact ofPieces_pair _ left right operator

/-- A comparison of plain operands reads back. -/
theorem parse_compare {left right gap gap' : String} (comparator : Comparator)
    (plainLeft : IsPlain left) (plainRight : IsPlain right) (isGap : Text.IsGap gap.toList)
    (isGap' : Text.IsGap gap'.toList) :
    parse (left ++ gap ++ comparator.sign ++ gap' ++ right)
      = .ok (.binary left (.compare comparator) right) := by
  -- The text written is the two operands around one operator with its gaps.
  let link : Pieces.Link .comparison :=
    ⟨gap.toList, comparator.sign, gap'.toList, comparator.sign_mem, isGap, isGap'⟩
  have whole : (left ++ gap ++ comparator.sign ++ gap' ++ right).toList
      = left.toList ++ link.text ++ right.toList := by
    simp only [String.toList_append, Pieces.Link.text, link, List.append_assoc]
  -- The comparisons are tried first, and the sign is the only operator among the words.
  have found := Pieces.ofFamily?_pair (.inl rfl) (plainLeft.trim_link plainRight link)
    plainLeft.line plainRight.line plainLeft.signless plainRight.signless
  have named : link.operator = (BinaryOperator.compare comparator).sign := rfl
  exact parse_link named plainLeft plainRight whole [] rfl found (by simp)

/-- A range between plain operands reads back. -/
theorem parse_range {low field high gap₁ gap₂ gap₃ gap₄ : String} (outer inner : Comparator)
    (plainLow : IsPlain low) (plainField : IsPlain field) (plainHigh : IsPlain high)
    (isGap₁ : Text.IsGap gap₁.toList) (isGap₂ : Text.IsGap gap₂.toList)
    (isGap₃ : Text.IsGap gap₃.toList) (isGap₄ : Text.IsGap gap₄.toList) :
    parse (low ++ gap₁ ++ outer.sign ++ gap₂ ++ field ++ gap₃ ++ inner.sign ++ gap₄ ++ high)
      = .ok (.range low outer field inner high) := by
  -- The text written is the three operands around two operators with their gaps.
  let link : Pieces.Link .comparison :=
    ⟨gap₁.toList, outer.sign, gap₂.toList, outer.sign_mem, isGap₁, isGap₂⟩
  let link' : Pieces.Link .comparison :=
    ⟨gap₃.toList, inner.sign, gap₄.toList, inner.sign_mem, isGap₃, isGap₄⟩
  have whole : (low ++ gap₁ ++ outer.sign ++ gap₂ ++ field ++ gap₃ ++ inner.sign ++ gap₄
      ++ high).toList = low.toList ++ link.text ++ field.toList ++ link'.text ++ high.toList := by
    simp only [String.toList_append, Pieces.Link.text, link, link', List.append_assoc]
  have trimmed := trim_between (link.text ++ field.toList ++ link'.text) plainLow.toList_ne_nil
    plainHigh.toList_ne_nil plainLow.startsBlank plainHigh.endsBlank
  simp only [← List.append_assoc] at trimmed
  -- Both signs belong to the first family that is tried, and no other words do.
  have found := Pieces.ofFamily?_chain (.inl rfl) trimmed plainLow.line plainField.line
    plainHigh.line plainLow.signless plainField.signless plainHigh.signless
  rw [← whole, plainLow.operand_eq, plainField.operand_eq, plainHigh.operand_eq] at found
  rw [← whole] at trimmed
  rw [parse_eq_ofPieces trimmed [] rfl found (by simp)]
  exact ofPieces_chain _ low field high outer inner

/-- A bare operand has no operator of a simple membership among its words. -/
theorem IsBare.freeOf {operand : String} (bare : IsBare operand) :
    Pieces.FreeOf .isIn operand.toList := by
  -- The family has a single operator.
  intro sign listed
  rw [List.mem_singleton.mp listed]
  exact bare.wordless

/-- The comparisons do not take a text apart that has none of their signs among its words. -/
theorem comparison_eq_none {text : List Char} (free : Pieces.FreeOf .comparison text) :
    Pieces.ofFamily? .comparison text = none :=
  Pieces.ofFamily?_eq_none_of_not_standsIn rfl free.not_standsIn

/-- The words of memberships are no comparisons. -/
theorem freeOf_membership (negated : Bool) :
    Pieces.FreeOf .comparison (BinaryOperator.membershipSign negated).toList := by
  -- Each word is checked on its own, and a gap between two words adds no operator.
  have single : OperatorFamily.comparison.IsSingle := .inl rfl
  have simple : Pieces.FreeOf .comparison "in".toList := Pieces.freeOf_word (by decide) (by decide)
  have negation : Pieces.FreeOf .comparison "not".toList :=
    Pieces.freeOf_word (by decide) (by decide)
  cases negated with
  | false => exact simple
  | true => exact negation.gap single (by decide : Text.IsGap " ".toList) simple

/-- The words of null checks are neither comparisons nor memberships. -/
theorem freeOf_check {family : OperatorFamily} (single : family.IsSingle) (check : NullCheck) :
    Pieces.FreeOf family check.sign.toList := by
  -- The checks are made of three words, and none of them is an operator.
  have word : ∀ text ∈ ["is", "not", "null"], Pieces.FreeOf family text.toList := by
    have isWord : ∀ text ∈ ["is", "not", "null"], Text.IsWord text.toList := by decide
    have other : ∀ text ∈ ["is", "not", "null"], ∀ sign ∈ family.operators,
        sign.toList ≠ text.toList := by
      rcases single with rfl | rfl <;> decide
    exact fun text listed => Pieces.freeOf_word (isWord text listed) (other text listed)
  have isGap : Text.IsGap " ".toList := by decide
  have last := word "null" (by decide)
  have middle := (word "not" (by decide)).gap single isGap last
  cases check with
  | isNull => exact (word "is" (by decide)).gap single isGap last
  | isNotNull => exact (word "is" (by decide)).gap single isGap middle

/-- A simple membership of bare operands reads back, unless its left operand ends in a negation. -/
theorem parse_isIn {left right gap gap' : String} (bareLeft : IsBare left)
    (bareRight : IsBare right) (isGap : Text.IsGap gap.toList) (isGap' : Text.IsGap gap'.toList)
    (unnegated : ¬ EndsInWord "not" left) :
    parse (left ++ gap ++ "in" ++ gap' ++ right)
      = .ok (.binary left (.membership false) right) := by
  let link : Pieces.Link .isIn := ⟨gap.toList, "in", gap'.toList, by decide, isGap, isGap'⟩
  have whole : (left ++ gap ++ "in" ++ gap' ++ right).toList
      = left.toList ++ link.text ++ right.toList := by
    simp only [String.toList_append, Pieces.Link.text, link, List.append_assoc]
  -- Neither the comparisons nor the negated membership, which are tried before, apply.
  have missed := comparison_eq_none (bareLeft.signless.link link (.inl rfl)
    (freeOf_membership false) bareRight.signless)
  have missed' : Pieces.ofFamily? .notIn (left.toList ++ link.text ++ right.toList) = none :=
    Pieces.ofFamily?_eq_none_of_not_standsIn rfl (Pieces.not_standsIn_notIn_of_isIn bareLeft.freeOf
      bareRight.freeOf bareLeft.endsBlank fun before stands => unnegated ⟨before, stands⟩)
  -- Neither operand has the word, so that the link is the only place for it.
  have found := Pieces.ofFamily?_pair (.inr rfl)
    (bareLeft.toIsPlain.trim_link bareRight.toIsPlain link) bareLeft.line bareRight.line
    bareLeft.freeOf bareRight.freeOf
  have named : link.operator = (BinaryOperator.membership false).sign := rfl
  exact parse_link named bareLeft.toIsPlain bareRight.toIsPlain whole [.comparison, .notIn] rfl
    found (List.forall_mem_cons.mpr ⟨missed, List.forall_mem_singleton.mpr missed'⟩)

/-- A negated membership reads back, unless its left operand has one of its own, which may also
stand at its end. -/
theorem parse_notIn_of_plain {left right gap gap' : String} (plainLeft : IsPlain left)
    (bareRight : IsBare right) (isGap : Text.IsGap gap.toList) (isGap' : Text.IsGap gap'.toList)
    (bare : ∀ place : Pieces.Place, ¬ place.StandsIn .notIn left.toList)
    (unended : ∀ before, ¬ Text.WordAt "in".toList left.toList (before ++ "not ".toList) []) :
    parse (left ++ gap ++ "not in" ++ gap' ++ right)
      = .ok (.binary left (.membership true) right) := by
  let link : Pieces.Link .notIn := ⟨gap.toList, "not in", gap'.toList, by decide, isGap, isGap'⟩
  have whole : (left ++ gap ++ "not in" ++ gap' ++ right).toList
      = left.toList ++ link.text ++ right.toList := by
    simp only [String.toList_append, Pieces.Link.text, link, List.append_assoc]
  -- Only the comparisons are tried before.
  have missed := comparison_eq_none (plainLeft.signless.link link (.inl rfl)
    (freeOf_membership true) bareRight.signless)
  -- The right operand has no word of a membership, so no second operator stands behind it.
  have behind : Pieces.FreeOf .isIn (link.gap' ++ right.toList) :=
    (Pieces.freeOf_nil (.inr rfl)).gap (.inr rfl) link.isGap' bareRight.freeOf
  -- The left operand may have the word "in" in it, but no place with both words.
  have found := Pieces.ofFamily?_link rfl
    (plainLeft.trim_link bareRight.toIsPlain link) plainLeft.line bareRight.line
    (fun place stands => stands.of_notIn_link bare unended bareRight.freeOf)
    behind.not_standsIn_notIn
  have named : link.operator = (BinaryOperator.membership true).sign := rfl
  exact parse_link named plainLeft bareRight.toIsPlain whole [.comparison] rfl found
    (List.forall_mem_singleton.mpr missed)

/-- A negated membership of bare operands reads back. -/
theorem parse_notIn {left right gap gap' : String} (bareLeft : IsBare left)
    (bareRight : IsBare right) (isGap : Text.IsGap gap.toList) (isGap' : Text.IsGap gap'.toList) :
    parse (left ++ gap ++ "not in" ++ gap' ++ right)
      = .ok (.binary left (.membership true) right) :=
  parse_notIn_of_plain bareLeft.toIsPlain bareRight isGap isGap' bareLeft.freeOf.not_standsIn_notIn
    fun _ stands => bareLeft.wordless ⟨_, _, stands⟩

/-- A text that ends in the check for a value does not end in the check for none. -/
theorem isNull_eq_none (front : List Char) :
    Pieces.ofFamily? .isNull (front ++ "is not null".toList) = none := by
  cases found : Pieces.ofFamily? .isNull (front ++ "is not null".toList) with
  | none => rfl
  | some pieces =>
    -- Otherwise the last characters of the two checks would agree.
    obtain ⟨before, sign, listed, same, -⟩ := (Pieces.check?_eq_some_iff rfl).mp found
    rw [List.mem_singleton.mp listed] at same
    have parts : front ++ "is not null".toList = (front ++ "is n".toList) ++ "ot null".toList := by
      rw [List.append_assoc]
      rfl
    rw [parts] at same
    exact absurd (List.append_inj' same rfl).2 (by decide)

/-- A text is taken apart at an operator at its end behind a plain operand. -/
theorem ofFamily?_behind {family : OperatorFamily} {operand sign : String} {gap : List Char}
    (behind : family.isCheck = true) (listed : sign ∈ family.operators) (plain : IsPlain operand)
    (isGap : Text.IsGap gap) :
    Pieces.ofFamily? family (operand.toList ++ gap ++ sign.toList)
      = some (.check operand sign) := by
  -- The gap is trimmed away from what stands in front of the operator.
  have line := Pieces.isOperand_append_blank isGap.blank plain.line
  have same := Pieces.operand_append_blank isGap.blank operand.toList
  rw [Pieces.ofFamily?, if_pos behind]
  refine (Pieces.check?_eq_some_iff behind).mpr
    ⟨operand.toList ++ gap, sign, listed, rfl, ?_, line, by rw [same, plain.operand_eq]⟩
  rw [Text.endsBlank_append _ isGap.nonempty, isGap.endsBlank]

/-- A null check of a bare operand reads back. -/
theorem parse_check {operand gap : String} (bare : IsBare operand)
    (isGap : Text.IsGap gap.toList) (check : NullCheck) :
    parse (operand ++ gap ++ check.sign) = .ok (.check operand check) := by
  have whole : (operand ++ gap ++ check.sign).toList
      = operand.toList ++ gap.toList ++ check.sign.toList := by
    simp only [String.toList_append]
  -- The check itself is visible at its end.
  have sign : check.sign.toList ≠ [] ∧ Text.endsBlank check.sign.toList = false := by
    cases check <;> decide
  have trimmed := trim_between gap.toList bare.toList_ne_nil sign.1 bare.startsBlank sign.2
  -- No operator between operands occurs, so that none of their families applies.
  have signless := bare.signless.gap (.inl rfl) isGap (freeOf_check (.inl rfl) check)
  have wordless := bare.freeOf.gap (.inr rfl) isGap (freeOf_check (.inr rfl) check)
  rw [← List.append_assoc, ← whole] at signless wordless
  rw [← whole] at trimmed
  have missed : ∀ family ∈ [OperatorFamily.comparison, .notIn, .isIn],
      Pieces.ofFamily? family (operand ++ gap ++ check.sign).toList = none := by
    have notIn : Pieces.ofFamily? .notIn (operand ++ gap ++ check.sign).toList = none :=
      Pieces.ofFamily?_eq_none_of_not_standsIn rfl wordless.not_standsIn_notIn
    have isIn := Pieces.ofFamily?_eq_none_of_not_standsIn rfl wordless.not_standsIn
    exact List.forall_mem_cons.mpr ⟨comparison_eq_none signless,
      List.forall_mem_cons.mpr ⟨notIn, List.forall_mem_singleton.mpr isIn⟩⟩
  cases check with
  | isNull =>
    have found : Pieces.ofFamily? .isNull (operand ++ gap ++ NullCheck.isNull.sign).toList
        = some (.check operand NullCheck.isNull.sign) := by
      rw [whole]
      exact ofFamily?_behind rfl (by decide) bare.toIsPlain isGap
    rw [parse_eq_ofPieces trimmed [.comparison, .notIn, .isIn] rfl found missed]
    exact ofPieces_check _ operand .isNull
  | isNotNull =>
    have found : Pieces.ofFamily? .isNotNull (operand ++ gap ++ NullCheck.isNotNull.sign).toList
        = some (.check operand NullCheck.isNotNull.sign) := by
      rw [whole]
      exact ofFamily?_behind rfl (by decide) bare.toIsPlain isGap
    -- The check for no value is tried first, and does not end the text.
    have missed' : Pieces.ofFamily? .isNull (operand ++ gap ++ NullCheck.isNotNull.sign).toList
        = none := by
      rw [whole]
      exact isNull_eq_none _
    rw [parse_eq_ofPieces trimmed [.comparison, .notIn, .isIn, .isNull] rfl found
      (List.forall_mem_append.mpr ⟨missed, List.forall_mem_singleton.mpr missed'⟩)]
    exact ofPieces_check _ operand .isNotNull

/-- Every expression that is written out reads back as itself, its operands unchanged. -/
theorem parse_written {expression : Expression} {text : String}
    (written : Written expression text) : parse text = .ok expression := by
  -- There is one lemma for each form, and the two checks share theirs.
  cases written with
  | compare comparator plainLeft plainRight isGap isGap' =>
    exact parse_compare comparator plainLeft plainRight isGap isGap'
  | range outer inner plainLow plainField plainHigh isGap₁ isGap₂ isGap₃ isGap₄ =>
    exact parse_range outer inner plainLow plainField plainHigh isGap₁ isGap₂ isGap₃ isGap₄
  | isIn bareLeft bareRight isGap isGap' unnegated =>
    exact parse_isIn bareLeft bareRight isGap isGap' unnegated
  | notIn bareLeft bareRight isGap isGap' => exact parse_notIn bareLeft bareRight isGap isGap'
  | isNull bare isGap => exact parse_check bare isGap .isNull
  | isNotNull bare isGap => exact parse_check bare isGap .isNotNull

/-- A single word that is no operator is a bare operand. -/
theorem isBare_of_isWord {operand : String} (isWord : Text.IsWord operand.toList)
    (signless : ∀ sign ∈ OperatorFamily.comparison.operators, sign.toList ≠ operand.toList)
    (wordless : "in".toList ≠ operand.toList) : IsBare operand where
  -- A word has no blank in it, so that it is neither empty, blank at an end nor of several lines.
  nonempty := by
    rintro rfl
    exact isWord.nonempty (by decide)
  trimmed := by
    rw [Text.trimmed, Text.trim_eq_self isWord.startsBlank isWord.endsBlank, String.ofList_toList]
  line := fun member => absurd (isWord.visible _ member) (by decide)
  signless := Pieces.freeOf_word isWord signless
  wordless := fun has => wordless (has.of_isWord isWord)

/-- A negated membership reads back although its left operand is the word of the negation. -/
theorem parse_written_negation :
    Written (.binary "not" (.membership true) "['x']")
        ("not" ++ " " ++ "not in" ++ "\n\t" ++ "['x']")
      ∧ parse "not not in\n\t['x']" = .ok (.binary "not" (.membership true) "['x']") := by
  -- The operands are single words, and all conditions on them can be decided.
  have written : Written (.binary "not" (.membership true) "['x']")
      ("not" ++ " " ++ "not in" ++ "\n\t" ++ "['x']") :=
    .notIn (isBare_of_isWord (by decide) (by decide) (by decide))
      (isBare_of_isWord (by decide) (by decide) (by decide)) (by decide) (by decide)
  exact ⟨written, parse_written written⟩

end Expression
end FlightQuery
