import FlightQuery.Literal.Reader
import FlightQuery.Proofs.Outcome

/-! The reader gives no list within a list and no float that is not finite. -/

namespace FlightQuery

/-- A boolean, a text or a finite number. -/
inductive Json.IsScalar : Json → Prop
  | bool (value : Bool) : IsScalar (.bool value)
  | text (value : String) : IsScalar (.text value)
  | int (value : Int) : IsScalar (.number (.int value))
  | float {value : Binary64} (finite : value.isFinite) : IsScalar (.number (.float value))

namespace Literal

/-- A literal that is neither a list nor a float that is not finite. -/
inductive IsScalar : Literal → Prop
  | bool (value : Bool) : IsScalar (.bool value)
  | int (value : Int64) : IsScalar (.int value)
  | float {value : Binary64} (finite : value.isFinite) : IsScalar (.float value)
  | text (value : String) : IsScalar (.text value)

/-- A scalar or a list of scalars. -/
inductive IsFlat : Literal → Prop
  | scalar {literal : Literal} (scalar : literal.IsScalar) : IsFlat literal
  | list {items : List Literal} (scalars : ∀ item ∈ items, IsScalar item) : IsFlat (.list items)

/-- The value of a scalar in a document is a scalar, and never null. -/
theorem IsScalar.toJson {literal : Literal} (scalar : literal.IsScalar) :
    literal.toJson.IsScalar := by
  -- Only a float may turn into null, and a finite one does not.
  cases scalar with
  | bool value => exact .bool value
  | int value => exact .int value.toInt
  | @float value finite =>
    have json_eq : (Literal.float value).toJson = .number (.float value) := if_pos finite
    exact json_eq ▸ .float finite
  | text value => exact .text value

/-- A flat literal that is no list is a scalar. -/
theorem IsFlat.isScalar {literal : Literal} (flat : literal.IsFlat)
    (single : literal.isList = false) : literal.IsScalar := by
  -- A flat literal is a scalar or a list, and the second is ruled out.
  cases flat with
  | scalar scalar => exact scalar
  | list => exact nomatch single

/-- A number is an integer or a finite float. -/
theorem numberValue_isScalar {number : List Char} {literal : Literal}
    (read : numberValue number = .ok literal) : literal.IsScalar := by
  -- Either the number is whole and within 64 bits, or it is read as a float.
  unfold numberValue at read
  dsimp only at read
  split at read
  · cases read
    exact .int _
  · split at read
    · -- An overflowing float is an error of its own.
      split at read
      · rename_i finite
        cases read
        exact .float finite
      · cases read
    · cases read

/-- A number that is read from a longer text is a scalar. -/
theorem readNumber_isScalar {first : Char} {input rest : List Char} {literal : Literal}
    (read : readNumber first input = .ok (literal, rest)) : literal.IsScalar := by
  -- The sign and the digits are set apart first, and only their value matters here.
  unfold readNumber at read
  dsimp only at read
  split at read
  · rename_i value found
    cases read
    exact numberValue_isScalar found
  · cases read

/-- A word that is read is a boolean. -/
theorem readWord_isScalar {input rest : List Char} {literal : Literal}
    (read : readWord input = .ok (literal, rest)) : literal.IsScalar := by
  -- Only the names of the two booleans are read.
  unfold readWord at read
  dsimp only at read
  split at read
  · cases read
    exact .bool true
  · split at read
    · cases read
      exact .bool false
    · cases read

/-- A value that is read is a scalar, whatever stands behind it. -/
theorem readScalar_isScalar {input rest : List Char} {literal : Literal}
    (read : readScalar input = .ok (literal, rest)) : literal.IsScalar := by
  -- The first character tells what is read.
  unfold readScalar at read
  split at read
  · cases read
  · split at read
    · obtain ⟨⟨characters, behind⟩, _, done⟩ := Outcome.bind_eq_ok_iff.1 read
      cases done
      exact .text _
    · split at read
      · -- A bracket opens no list here.
        cases read
      · split at read
        · exact readNumber_isScalar read
        · split at read
          · exact readWord_isScalar read
          · cases read

/-- The items of a list are scalars. -/
theorem readItems_isScalar {fuel : Nat} {input rest : List Char} {items : List Literal}
    (read : readItems fuel input = .ok (items, rest)) : ∀ item ∈ items, item.IsScalar := by
  -- One item is read for each unit of fuel.
  induction fuel generalizing input items rest with
  | zero => cases read
  | succ fuel ih =>
    unfold readItems at read
    split at read
    · cases read
      simp
    · obtain ⟨⟨item, behind⟩, first, later⟩ := Outcome.bind_eq_ok_iff.1 read
      have scalar := readScalar_isScalar first
      dsimp only at later
      split at later
      · cases later
      · split at later
        · -- A comma stands in front of the items that remain.
          obtain ⟨⟨others, behind⟩, found, done⟩ := Outcome.bind_eq_ok_iff.1 later
          cases done
          exact List.forall_mem_cons.2 ⟨scalar, ih found⟩
        · split at later
          · cases later
            exact List.forall_mem_singleton.2 scalar
          · cases later

/-- A value that is read is flat. -/
theorem readValue_isFlat {input rest : List Char} {literal : Literal}
    (read : readValue input = .ok (literal, rest)) : literal.IsFlat := by
  -- A bracket opens a list, and anything else is a value of its own.
  unfold readValue at read
  split at read
  · obtain ⟨⟨items, behind⟩, found, done⟩ := Outcome.bind_eq_ok_iff.1 read
    cases done
    exact .list (readItems_isScalar found)
  · exact .scalar (readScalar_isScalar read)

/-- A literal that is read is flat. -/
theorem parse_isFlat {token : String} {literal : Literal} (parsed : parse token = .ok literal) :
    literal.IsFlat := by
  unfold parse at parsed
  split at parsed
  · rename_i value read
    cases parsed
    obtain ⟨⟨literal, rest⟩, found, done⟩ := Outcome.bind_eq_ok_iff.1 read
    -- Nothing but blanks may stand behind the literal.
    dsimp only at done
    split at done
    · cases done
      exact readValue_isFlat found
    · cases done
  · cases parsed
  · cases parsed

end Literal
end FlightQuery
