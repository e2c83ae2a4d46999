import FlightQuery.Condition
import FlightQuery.Proofs.Literal.Sound

/-! The operands of a resolved expression: a field of the store and constants that were read. -/

namespace FlightQuery.Condition

/-- A condition as it is read: of scalars, at least one of them in a membership. -/
inductive IsRead : Condition → Prop
  | null (check : NullCheck) : IsRead (.null check)
  | compare (comparator : Comparator) {value : Literal} (scalar : value.IsScalar) :
      IsRead (.compare comparator value)
  | membership (negated : Bool) {values : List Literal} (nonempty : values ≠ [])
      (scalars : ∀ value ∈ values, value.IsScalar) : IsRead (.membership negated values)
  | range (outer inner : Comparator) {low high : Literal} (scalarLow : low.IsScalar)
      (scalarHigh : high.IsScalar) : IsRead (.range outer inner low high)

/-- A store gives a field for some keyword. -/
def Finds (store : Store) (field : Field) : Prop :=
  ∃ keyword, store.searchField keyword = .ok field

variable {store : Store} {field : Field}

/-- A constant that is no list is a scalar. -/
theorem readScalar_isScalar {token : String} {literal : Literal}
    (read : readScalar token = .ok literal) : literal.IsScalar := by
  -- The literal is flat, and lists are refused.
  obtain ⟨value, parsed, checked⟩ := Outcome.bind_eq_ok_iff.1 read
  split at checked
  · cases checked
  · rename_i single
    cases checked
    exact (Literal.parse_isFlat parsed).isScalar (Bool.eq_false_iff.2 single)

/-- The values of a membership are scalars, and there is at least one of them. -/
theorem readValues_isScalar {negated : Bool} {token : String} {values : List Literal}
    (read : readValues negated token = .ok values) :
    values ≠ [] ∧ ∀ value ∈ values, value.IsScalar := by
  obtain ⟨literal, parsed, collected⟩ := Outcome.bind_eq_ok_iff.1 read
  -- The items of a list are scalars, since lists do not nest.
  have flat := Literal.parse_isFlat parsed
  split at collected
  · cases collected
  · rename_i items nonempty
    cases collected
    cases flat with
    | scalar scalar => exact nomatch scalar
    | list scalars => exact ⟨fun empty => nonempty (empty ▸ rfl), scalars⟩
  · -- Anything but a list is the only value.
    rename_i single
    cases collected
    cases flat with
    | scalar scalar => exact ⟨List.cons_ne_nil _ _, List.forall_mem_singleton.2 scalar⟩
    | list => exact absurd rfl (single _)

/-- The field that an operand names is one that the store finds. -/
theorem resolveField_finds {token : String} (resolved : resolveField store token = .ok field) :
    Finds store field := by
  obtain ⟨name, _, found⟩ := Outcome.bind_eq_ok_iff.1 resolved
  exact ⟨name, found⟩

/-- The field of a mirrored comparison is one that the store finds. -/
theorem mirroredField?_finds {right : String} (mirrored : mirroredField? store right = some field) :
    Finds store field := by
  unfold mirroredField? at mirrored
  -- A failure to find the field counts as no field.
  cases resolved : resolveField store right with
  | error error => rw [resolved] at mirrored; cases mirrored
  | ok other =>
    rw [resolved] at mirrored
    cases mirrored
    exact resolveField_finds resolved

/-- A comparison with a constant that is read. -/
theorem isRead_of_readScalar {comparator : Comparator} {token : String} {other : Field}
    {condition : Condition}
    (read : (do return (other, .compare comparator (← readScalar token)) :
      Outcome (Field × Condition)) = .ok (field, condition)) :
    other = field ∧ condition.IsRead := by
  -- The field is passed through, and only the constant can be at fault.
  obtain ⟨literal, scalar, done⟩ := Outcome.bind_eq_ok_iff.1 read
  cases done
  exact ⟨rfl, .compare comparator (readScalar_isScalar scalar)⟩

/-- A mirrored comparison is one of a constant with a field that the store finds. -/
theorem resolveMirrored_sound {left right : String} {comparator : Comparator} {otherwise : Error}
    {condition : Condition}
    (resolved : resolveMirrored store left comparator right otherwise = .ok (field, condition)) :
    Finds store field ∧ condition.IsRead := by
  -- The constant is read only when the right operand names a field.
  unfold resolveMirrored at resolved
  split at resolved
  · rename_i other found
    obtain ⟨rfl, isRead⟩ := isRead_of_readScalar resolved
    exact ⟨mirroredField?_finds found, isRead⟩
  · cases resolved

/-- A comparison resolves to a field that the store finds, on whichever side it stands. -/
theorem resolveComparison_sound {left right : String} {comparator : Comparator}
    {condition : Condition}
    (resolved : resolveComparison store left comparator right = .ok (field, condition)) :
    Finds store field ∧ condition.IsRead := by
  -- The left operand names the field if it can, and otherwise the sides are exchanged.
  unfold resolveComparison at resolved
  split at resolved
  · exact resolveMirrored_sound resolved
  · split at resolved
    · rename_i other found
      obtain ⟨rfl, isRead⟩ := isRead_of_readScalar resolved
      exact ⟨⟨_, found⟩, isRead⟩
    · -- An unknown name on the left leaves the right operand to name the field.
      exact resolveMirrored_sound resolved
    · cases resolved

/-- A resolved expression is a condition that was read, on a field that the store finds. -/
theorem resolve_sound {expression : Expression} {condition : Condition}
    (resolved : resolve store expression = .ok (field, condition)) :
    Finds store field ∧ condition.IsRead := by
  -- The field is found first, and then the constants are read in their order.
  cases expression with
  | check operand check =>
    obtain ⟨other, found, done⟩ := Outcome.bind_eq_ok_iff.1 resolved
    cases done
    exact ⟨resolveField_finds found, .null check⟩
  | binary left operator right =>
    cases operator with
    | compare comparator => exact resolveComparison_sound resolved
    | membership negated =>
      obtain ⟨other, found, rest⟩ := Outcome.bind_eq_ok_iff.1 resolved
      obtain ⟨values, read, done⟩ := Outcome.bind_eq_ok_iff.1 rest
      cases done
      obtain ⟨nonempty, scalars⟩ := readValues_isScalar read
      exact ⟨resolveField_finds found, .membership negated nonempty scalars⟩
  -- The lower bound is read before the upper one.
  | range low outer token inner high =>
    obtain ⟨other, found, rest⟩ := Outcome.bind_eq_ok_iff.1 resolved
    obtain ⟨first, readLow, rest⟩ := Outcome.bind_eq_ok_iff.1 rest
    obtain ⟨second, readHigh, done⟩ := Outcome.bind_eq_ok_iff.1 rest
    cases done
    exact ⟨resolveField_finds found,
      .range outer inner (readScalar_isScalar readLow) (readScalar_isScalar readHigh)⟩

end FlightQuery.Condition
