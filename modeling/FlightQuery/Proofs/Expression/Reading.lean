import FlightQuery.Proofs.Expression.Splitting
import FlightQuery.Proofs.Expression.Written
import FlightQuery.Proofs.Outcome

/-! What is read of an expression tells how its text was taken apart. -/

namespace FlightQuery

namespace OperatorFamily

/-- The number of families that are tried before a family. -/
def rank (family : OperatorFamily) : Nat := all.idxOf family

/-- The families are tried in the order of their ranks. -/
theorem all_pairwise : all.Pairwise fun family later => family.rank < later.rank := by decide

/-- A family of a lower rank is among those tried before. -/
theorem mem_of_rank_lt {earlier later : List OperatorFamily} {family other : OperatorFamily}
    (split : all = earlier ++ family :: later) (before : other.rank < family.rank) :
    other ∈ earlier := by
  -- Every family is tried, and those tried afterwards have greater ranks.
  have ordered := all_pairwise
  rw [split, List.pairwise_append, List.pairwise_cons] at ordered
  have listed := mem_all other
  rw [split, List.mem_append, List.mem_cons] at listed
  rcases listed with found | rfl | behind
  · exact found
  · exact absurd before (Nat.lt_irrefl _)
  · exact absurd (ordered.2.1.1 other behind) (Nat.lt_asymm before)

/-- The null checks are tried after all operators between operands. -/
theorem rank_lt_of_isCheck {family other : OperatorFamily} (between : family.isCheck = false)
    (behind : other.isCheck = true) : family.rank < other.rank := by
  cases family <;> cases other <;> first | contradiction | decide

/-- No operator extends over a line feed. -/
theorem operators_line (family : OperatorFamily) :
    ∀ operator ∈ family.operators, '\n' ∉ operator.toList := by
  cases family <;> decide

end OperatorFamily

namespace Pieces

variable {family : OperatorFamily} {text : List Char} {starts : List Nat}

/-- The pieces of a division stay on one line each. -/
theorem Division.line {pieces : Pieces}
    (division : Division family text pieces starts) :
    ∀ token ∈ pieces.tokens, '\n' ∉ token.toList := by
  have line_operand : ∀ {written : List Char}, '\n' ∉ written → '\n' ∉ (operand written).toList :=
    fun line member => line (Text.mem_of_mem_trim (by simpa [operand] using member))
  have line_sign : ∀ {sign : String}, sign ∈ family.operators → '\n' ∉ sign.toList :=
    fun listed => family.operators_line _ listed
  -- The tokens are operands and operators in turn.
  cases division with
  | check _ listed _ line =>
    simp [tokens, line_operand line, line_sign listed]
  | pair link _ lineLeft lineRight =>
    simp [tokens, line_operand lineLeft, line_operand lineRight, line_sign link.listed]
  | chain outer inner _ lineLow lineMiddle lineHigh =>
    simp [tokens, line_operand lineLow, line_operand lineMiddle, line_operand lineHigh,
      line_sign outer.listed, line_sign inner.listed]

/-- The sign between two operands is an operator of the family. -/
theorem Division.listed_pair {left sign right : String}
    (division : Division family text (.pair left sign right) starts) :
    sign ∈ family.operators := by
  cases division with
  | pair link => exact link.listed

/-- The sign behind an operand is an operator of the family. -/
theorem Division.listed_check {operand sign : String}
    (division : Division family text (.check operand sign) starts) :
    sign ∈ family.operators := by
  cases division with
  | check _ listed => exact listed

end Pieces

/-- Only the sign of a comparison denotes it. -/
theorem Comparator.eq_of_ofSign? {sign : String} {comparator : Comparator}
    (denoted : ofSign? sign = some comparator) : sign = comparator.sign := by
  have tested := List.find?_some denoted
  exact (beq_iff_eq.mp tested).symm

/-- Only the text of a null check denotes it. -/
theorem NullCheck.eq_of_ofSign? {sign : String} {check : NullCheck}
    (denoted : ofSign? sign = some check) : sign = check.sign := by
  have tested := List.find?_some denoted
  exact (beq_iff_eq.mp tested).symm

/-- The text of a null check belongs to no operator between operands. -/
theorem NullCheck.isCheck_of_sign_mem {check : NullCheck} {family : OperatorFamily}
    (listed : check.sign ∈ family.operators) : family.isCheck = true := by
  cases check <;> cases family <;> revert listed <;> decide

namespace BinaryOperator

/-- The family of an operator. -/
def family : BinaryOperator → OperatorFamily
  | compare _ => .comparison
  | membership true => .notIn
  | membership false => .isIn

/-- The text of an operator belongs to its family. -/
theorem sign_mem (operator : BinaryOperator) : operator.sign ∈ operator.family.operators := by
  rcases operator with comparator | _ | _
  · exact comparator.sign_mem
  · decide
  · decide

/-- The text of an operator belongs to no other family. -/
theorem family_of_sign_mem {operator : BinaryOperator} {family : OperatorFamily}
    (listed : operator.sign ∈ family.operators) : family = operator.family := by
  -- No sign is listed by two families, which is checked sign by sign.
  rcases operator with comparator | _ | _
  · cases comparator <;> cases family <;> revert listed <;> decide
  · cases family <;> revert listed <;> decide
  · cases family <;> revert listed <;> decide

/-- Only the text of an operator denotes it. -/
theorem eq_of_ofSign? {sign : String} {operator : BinaryOperator}
    (denoted : ofSign? sign = some operator) : sign = operator.sign := by
  -- The two memberships are asked for first, and whatever is left is a comparison.
  unfold ofSign? at denoted
  split at denoted
  · cases denoted
    assumption
  · split at denoted
    · cases denoted
      assumption
    · obtain ⟨comparator, sign_eq, rfl⟩ := Option.map_eq_some_iff.mp denoted
      exact Comparator.eq_of_ofSign? sign_eq

end BinaryOperator

namespace Expression

/-- Only pieces around its sign are read as a binary operator. -/
theorem eq_pair_of_ofPieces {expression left right : String} {operator : BinaryOperator}
    {pieces : Pieces} (read : ofPieces expression pieces = .ok (.binary left operator right)) :
    pieces = .pair left operator.sign right := by
  unfold ofPieces at read
  -- Of all the ways to read pieces, only a pair gives a binary expression.
  split at read <;> split at read <;> cases read
  rename_i denoted
  rw [BinaryOperator.eq_of_ofSign? denoted]

/-- Only a piece in front of its sign is read as a null check. -/
theorem eq_check_of_ofPieces {expression operand : String} {check : NullCheck} {pieces : Pieces}
    (read : ofPieces expression pieces = .ok (.check operand check)) :
    pieces = .check operand check.sign := by
  unfold ofPieces at read
  -- Of all the ways to read pieces, only a check gives a null check.
  split at read <;> split at read <;> cases read
  rename_i denoted
  rw [NullCheck.eq_of_ofSign? denoted]

/-- A trimmed text is read from its pieces at the operators of a family, after all families that
are tried before have missed. -/
theorem exists_family_of_parse {text : String} {expression : Expression}
    (trimmed : Text.trim text.toList = text.toList) (parsed : parse text = .ok expression) :
    ∃ family pieces, Pieces.ofFamily? family text.toList = some pieces ∧
      ofPieces (Text.trimmed text) pieces = .ok expression ∧
      ∀ other : OperatorFamily, other.rank < family.rank →
        Pieces.ofFamily? other text.toList = none := by
  -- The families are tried in the order of their ranks, so that lesser ranks have missed.
  obtain ⟨pieces, taken, read⟩ := Outcome.bind_eq_ok_iff.mp parsed
  obtain ⟨earlier, family, later, split, found, missed⟩ :=
    Pieces.ofExpression_eq_ok_iff.mp taken
  rw [trimmed] at found missed
  exact ⟨family, pieces, found, read, fun other before =>
    missed other (OperatorFamily.mem_of_rank_lt split before)⟩

end Expression
end FlightQuery
