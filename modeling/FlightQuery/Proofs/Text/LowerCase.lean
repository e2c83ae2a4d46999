import FlightQuery.Text.LowerCase

/-! The lower case of a text does not depend on the case of its ASCII letters. -/

namespace FlightQuery.Text

/-- The capital ASCII letters. -/
def capitals : List Char := (List.range 26).map fun n => Char.ofNat (65 + n)

/-- Only a capital letter has a small one. -/
theorem mem_capitals_of_toLower_ne {c : Char} (capital : c.toLower ≠ c) : c ∈ capitals := by
  -- A character that changes lies between the letters A and Z.
  unfold Char.toLower at capital
  split at capital
  · rename_i between
    have first : 65 ≤ c.toNat := between.1
    have last : c.toNat ≤ 90 := between.2
    refine List.mem_map.2 ⟨c.toNat - 65, List.mem_range.2 (by omega), ?_⟩
    rw [Nat.add_sub_cancel' first, Char.ofNat_toNat]
  · exact absurd rfl capital

/-- What is told alike of each capital letter and its small letter is told alike of every character
in lower case. -/
theorem apply_toLower {α : Type} [DecidableEq α] (tell : Char → α)
    (alike : capitals.all (fun c => tell c.toLower = tell c) = true) (c : Char) :
    tell c.toLower = tell c := by
  -- Only a capital changes in lower case, and the capitals are a list to check.
  by_cases small : c.toLower = c
  · rw [small]
  · exact of_decide_eq_true (List.all_eq_true.1 alike c (mem_capitals_of_toLower_ne small))

/-- The small letter of a character is that of its ASCII small letter. -/
theorem smallLetter_toLower (c : Char) : smallLetter c.toLower = smallLetter c :=
  apply_toLower smallLetter (by decide +kernel) c

/-- Whether a character is skipped in the search for a case does not depend on its ASCII case. -/
theorem inRanges_caseIgnorable_toLower (c : Char) :
    inRanges caseIgnorableRanges c.toLower = inRanges caseIgnorableRanges c :=
  apply_toLower (inRanges caseIgnorableRanges) (by decide +kernel) c

/-- Whether a character has a case does not depend on its ASCII case. -/
theorem inRanges_cased_toLower (c : Char) :
    inRanges casedRanges c.toLower = inRanges casedRanges c :=
  apply_toLower (inRanges casedRanges) (by decide +kernel) c

/-- The two letters with rules of their own are not ASCII letters. -/
theorem toLower_eq_iff {special : Char} (listed : special ∈ ['Σ', 'İ']) (c : Char) :
    c.toLower = special ↔ c = special := by
  -- Lower case neither makes nor unmakes one of the two letters, which the list decides.
  have told : ['Σ', 'İ'].all (fun special => capitals.all fun c =>
      decide (c.toLower = special) = decide (c = special)) = true := by decide +kernel
  have alike := List.all_eq_true.1 told special listed
  simpa using apply_toLower (fun c => decide (c = special)) alike c

/-- Whether a character with a case comes first does not depend on the case of ASCII letters. -/
theorem meetsCased_map_toLower (text : List Char) :
    meetsCased (text.map Char.toLower) = meetsCased text := by
  -- Characters that are skipped are skipped in either case, so that the same one is met.
  have skipped : inRanges caseIgnorableRanges ∘ Char.toLower = inRanges caseIgnorableRanges :=
    funext inRanges_caseIgnorable_toLower
  rw [meetsCased, meetsCased, List.dropWhile_map, skipped]
  cases text.dropWhile (inRanges caseIgnorableRanges) with
  | nil => rfl
  | cons c rest => exact inRanges_cased_toLower c

/-- The lower case of a text stays when ASCII letters in it and in front of it are lowered. -/
theorem lowerAfter_map_toLower (before text : List Char) :
    lowerAfter (before.map Char.toLower) (text.map Char.toLower) = lowerAfter before text := by
  -- What has been passed stays quantified over, since the last small letter depends on it.
  induction text generalizing before with
  | nil => rfl
  | cons c rest ih =>
    rw [List.map_cons, lowerAfter, lowerAfter, ← List.map_cons, ih]
    simp only [smallLetter_toLower, toLower_eq_iff (List.mem_cons_self),
      toLower_eq_iff (List.mem_cons_of_mem _ List.mem_cons_self), meetsCased_map_toLower]

/-- Texts that differ in the case of ASCII letters only have the same lower case. -/
theorem lower_map_toLower (text : List Char) : lower (text.map Char.toLower) = lower text :=
  lowerAfter_map_toLower [] text

end FlightQuery.Text
