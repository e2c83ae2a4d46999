import FlightQuery.Json.Document
import FlightQuery.Proofs.Number.Decimal

/-! Integers within 64 bits read back from the digits that they are written in. -/

namespace FlightQuery

namespace Number

/-- Positive numbers are not written with a zero in front. -/
theorem head?_toDigits_ne {n : Nat} (positive : 0 < n) :
    (Nat.toDigits 10 n).head? ≠ some '0' := by
  -- The first digit is that of the quotient until only one digit is left.
  induction n using Nat.strongRecOn with
  | ind n ih =>
    by_cases small : n < 10
    · rw [Nat.toDigits_of_lt_base small]
      simpa using Nat.ne_of_gt positive
    · rw [Nat.toDigits_of_base_le (by decide) (by omega)]
      have others := ih (n / 10) (by omega) (by omega)
      cases digits : Nat.toDigits 10 (n / 10) with
      | nil => exact absurd digits Nat.toDigits_ne_nil
      | cons first rest => simpa [digits] using others

/-- An integer that documents keep as it is. -/
def IsExact (value : Int) : Prop := Int64.minValue.toInt ≤ value ∧ value < UInt64.size

/-- Documents keep the integers of 64 bits. -/
theorem isExact_int64 (value : Int64) : IsExact value.toInt :=
  ⟨Int64.minValue_le_toInt value, Int.lt_of_le_of_lt (Int64.toInt_le value) (by decide)⟩

/-- Documents keep the natural numbers of 32 bits. -/
theorem isExact_uint32 (value : UInt32) : IsExact value.toNat :=
  ⟨Int.le_trans (by decide) (Int.natCast_nonneg _),
    Int.ofNat_lt.mpr (Nat.lt_trans value.toNat_lt (by decide))⟩

end Number

namespace Document

/-- A text goes on with nothing that a number could go on with. -/
def Stops (rest : List Char) : Prop :=
  ∀ c ∈ rest.head?, ¬ Number.isDigit c ∧ c ≠ '.' ∧ c ≠ 'e' ∧ c ≠ 'E'

/-- Nothing comes behind the last number. -/
theorem stops_nil : Stops [] := by simp [Stops]

/-- All digits at the head of a text are read when there are some. -/
theorem readRun?_append {digits rest : List Char} (nonempty : digits ≠ [])
    (all : ∀ c ∈ digits, Number.isDigit c) (stops : Stops rest) :
    readRun? (digits ++ rest) = some (digits, rest) := by
  -- The character behind the digits is none.
  have taken : rest.takeWhile Number.isDigit = [] := by
    cases rest with
    | nil => rfl
    | cons c rest => simp [(stops c rfl).1]
  have dropped : rest.dropWhile Number.isDigit = rest := by
    cases rest with
    | nil => rfl
    | cons c rest => simp [(stops c rfl).1]
  unfold readRun?
  rw [List.takeWhile_append_of_pos all, List.dropWhile_append_of_pos all, taken, dropped,
    List.append_nil]
  cases digits with
  | nil => exact absurd rfl nonempty
  | cons => rfl

/-- A numeral without a fraction and an exponent. -/
def Numeral.integer (negative : Bool) (n : Nat) : Numeral where
  negative := negative
  whole := Nat.toDigits 10 n
  fraction := none
  exponent := none

/-- The digits of a number are read as a whole part. -/
theorem readNumeral?_toDigits (negative : Bool) (n : Nat) {rest : List Char} (stops : Stops rest) :
    readNumeral? negative (Nat.toDigits 10 n ++ rest) =
      some (Numeral.integer negative n, rest) := by
  have run := readRun?_append Nat.toDigits_ne_nil (Number.all_isDigit_toDigits n) stops
  -- A zero stands in front of no other digit.
  have leading : ¬ ((Nat.toDigits 10 n).head? = some '0' ∧ (Nat.toDigits 10 n).length ≠ 1) := by
    rintro ⟨zero, several⟩
    rcases Nat.eq_zero_or_pos n with rfl | positive
    · exact several (by rw [Nat.toDigits_zero]; rfl)
    · exact Number.head?_toDigits_ne positive zero
  unfold readNumeral?
  rw [run]
  simp only [Option.bind_eq_bind, Option.bind_some, if_neg leading]
  -- Neither a point nor an exponent follows.
  cases rest with
  | nil => rfl
  | cons c rest =>
    obtain ⟨_, point, small, capital⟩ := stops c rfl
    simp [point, small, capital, Numeral.integer]

/-- Digits are absorbed as long as the number that they stand for has 64 bits. -/
theorem absorb_eq {digits : List Char} {significand : Nat}
    (bounded : Nat.ofDigitChars 10 digits significand < UInt64.size) :
    absorb significand digits = (Nat.ofDigitChars 10 digits significand, []) := by
  -- Every number on the way is at most the last one.
  induction digits generalizing significand with
  | nil => rfl
  | cons digit digits ih =>
    rw [Nat.ofDigitChars_cons, Nat.mul_comm] at bounded ⊢
    -- More digits do not make a number smaller.
    have least : significand * 10 + (digit.toNat - '0'.toNat) ≤
        Nat.ofDigitChars 10 digits (significand * 10 + (digit.toNat - '0'.toNat)) := by
      rw [Nat.ofDigitChars_eq_ofDigitChars_zero]
      exact Nat.le_add_right_of_le (Nat.le_mul_of_pos_left _ (Nat.pow_pos (by decide)))
    rw [absorb, if_pos (Nat.lt_of_le_of_lt least bounded)]
    exact ih bounded

/-- The numeral that an integer is written as. -/
def Numeral.ofInt (value : Int) : Numeral := .integer (decide (value < 0)) value.natAbs

/-- An integer is written with a minus in front of its digits, or with its digits alone. -/
theorem writeInt_cases (value : Int) :
    (∃ digits, writeInt value = '-' :: digits ∧ ∀ rest, Stops rest →
      readNumeral? true (digits ++ rest) = some (.ofInt value, rest)) ∨
    (∃ c digits, writeInt value = c :: digits ∧ Number.isDigit c ∧ ∀ rest, Stops rest →
      readNumeral? false (c :: digits ++ rest) = some (.ofInt value, rest)) := by
  -- Either way the digits are those of the distance from zero.
  have read (negative : Bool) (rest : List Char) (stops : Stops rest) :
      readNumeral? negative (Nat.toDigits 10 value.natAbs ++ rest) =
        some (.integer negative value.natAbs, rest) :=
    readNumeral?_toDigits negative value.natAbs stops
  unfold writeInt Numeral.ofInt
  by_cases negative : value < 0
  · rw [if_pos negative, decide_eq_true negative]
    exact .inl ⟨_, rfl, read true⟩
  · -- A number without a sign starts with a digit, because it has at least one.
    rw [if_neg negative, decide_eq_false negative]
    cases digits : Nat.toDigits 10 value.natAbs with
    | nil => exact absurd digits Nat.toDigits_ne_nil
    | cons first others =>
      have digit := Number.all_isDigit_toDigits value.natAbs first (by simp [digits])
      rw [digits] at read
      exact .inr ⟨first, others, rfl, digit, read false⟩

/-- An integer within 64 bits is the value of its numeral. -/
theorem Numeral.value?_ofInt {value : Int} (bounded : Number.IsExact value) :
    (ofInt value).value? = some (.int value) := by
  obtain ⟨least, greatest⟩ := bounded
  have small : value.natAbs < UInt64.size := by
    have : Int64.minValue.toInt = -9223372036854775808 := rfl
    simp only [UInt64.size] at greatest ⊢
    omega
  have absorbed : absorb 0 (Nat.toDigits 10 value.natAbs) = (value.natAbs, []) := by
    rw [absorb_eq] <;> rw [Nat.ofDigitChars_ten_toDigits]
    exact small
  unfold value?
  simp only [ofInt, integer, absorbed, and_self, if_true]
  by_cases negative : value < 0
  · -- A negative integer is read by its distance from zero.
    have within : 0 < value.natAbs ∧ Int64.minValue.toInt ≤ -(value.natAbs : Int) := by omega
    have same : -(value.natAbs : Int) = value := by omega
    rw [if_pos (decide_eq_true negative), if_pos within, same]
  · have same : (value.natAbs : Int) = value := by omega
    rw [if_neg (by simpa using negative), same]

end Document
end FlightQuery
