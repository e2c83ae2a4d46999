import FlightQuery.Proofs.Text.Blank

/-! Words of a text: runs of visible characters between blanks. -/

namespace FlightQuery.Text

/-- A word is not empty, and none of its characters is blank. -/
structure IsWord (word : List Char) : Prop where
  nonempty : word ≠ []
  visible : ∀ c ∈ word, isBlank c = false

/-- Whether a text is a word is told by a look at each of its characters. -/
theorem isWord_iff {word : List Char} :
    (word.isEmpty = false ∧ word.any isBlank = false) ↔ IsWord word := by
  rw [List.isEmpty_eq_false_iff, List.any_eq_false]
  -- The code looks for an empty text and for blanks, the property is told of each character.
  constructor
  · rintro ⟨nonempty, visible⟩
    exact ⟨nonempty, fun c member => Bool.eq_false_iff.2 (visible c member)⟩
  · intro isWord
    exact ⟨isWord.nonempty, fun c member => Bool.eq_false_iff.1 (isWord.visible c member)⟩

instance (word : List Char) : Decidable (IsWord word) := decidable_of_iff _ isWord_iff

/-- A text is delimited on its left when nothing or a blank stands there. -/
def OpensAfter (before : List Char) : Prop := before = [] ∨ endsBlank before = true

/-- A text is delimited on its right when nothing or a blank stands there. -/
def ClosesBefore (after : List Char) : Prop := after = [] ∨ startsBlank after = true

/-- A word stands between two parts of a text, delimited on both sides. -/
structure WordAt (word text before after : List Char) : Prop where
  text_eq : text = before ++ (word ++ after)
  opens : OpensAfter before
  closes : ClosesBefore after

/-- A text has a word when the word stands somewhere in it. -/
def HasWord (word text : List Char) : Prop := ∃ before after, WordAt word text before after

/-- The first character of a word is visible. -/
theorem IsWord.startsBlank {word : List Char} (isWord : IsWord word) :
    startsBlank word = false := by
  obtain ⟨c, rest, rfl⟩ := List.exists_cons_of_ne_nil isWord.nonempty
  exact isWord.visible c (by simp)

/-- The last character of a word is visible. -/
theorem IsWord.endsBlank {word : List Char} (isWord : IsWord word) : endsBlank word = false := by
  have reversed : IsWord word.reverse :=
    ⟨by simpa using isWord.nonempty, fun c member => isWord.visible c (by simpa using member)⟩
  exact reversed.startsBlank

/-- Parts of a word that have something in them are words. -/
theorem IsWord.of_append {first last : List Char} (isWord : IsWord (first ++ last)) :
    (first ≠ [] → IsWord first) ∧ (last ≠ [] → IsWord last) :=
  ⟨fun nonempty => ⟨nonempty, fun c member => isWord.visible c (by simp [member])⟩,
    fun nonempty => ⟨nonempty, fun c member => isWord.visible c (by simp [member])⟩⟩

/-- What is delimited on its left behind two parts is so behind the second one. -/
theorem OpensAfter.of_append {first last : List Char} (opens : OpensAfter (first ++ last)) :
    OpensAfter last := by
  -- A last part that is not empty decides how the whole text ends.
  by_cases empty : last = []
  · exact .inl empty
  · rcases opens with nothing | blank
    · exact .inl (List.append_eq_nil_iff.mp nothing).2
    · exact .inr (by rwa [endsBlank_append first empty] at blank)

/-- What is delimited on its right before two parts is so before the first one. -/
theorem ClosesBefore.of_append {first last : List Char} (closes : ClosesBefore (first ++ last)) :
    ClosesBefore first := by
  -- A first part that is not empty decides how the whole text starts.
  by_cases empty : first = []
  · exact .inl empty
  · rcases closes with nothing | blank
    · exact .inl (List.append_eq_nil_iff.mp nothing).1
    · exact .inr (by rwa [startsBlank_append empty] at blank)

/-- A word does not extend over a blank: it stands on one of the two sides of it. -/
theorem WordAt.of_append {word first last before after : List Char} (isWord : IsWord word)
    (boundary : OpensAfter first ∨ ClosesBefore last)
    (stands : WordAt word (first ++ last) before after) :
    (∃ behind, WordAt word first before behind ∧ after = behind ++ last) ∨
      ∃ ahead, WordAt word last ahead after ∧ before = first ++ ahead := by
  obtain ⟨text_eq, opens, closes⟩ := stands
  -- The boundary of the two parts lies in front of the word, behind it or within it.
  rcases List.append_eq_append_iff.mp text_eq with
    ⟨ahead, before_eq, last_eq⟩ | ⟨middle, first_eq, rest_eq⟩
  · -- All of the first part is passed before the word starts.
    subst before_eq
    exact .inr ⟨ahead, ⟨last_eq, opens.of_append, closes⟩, rfl⟩
  rcases List.append_eq_append_iff.mp rest_eq with
    ⟨behind, middle_eq, after_eq⟩ | ⟨behind, word_eq, last_eq⟩
  · subst middle_eq after_eq
    exact .inl ⟨behind, ⟨first_eq, opens, closes.of_append⟩, rfl⟩
  · -- The word would have to be cut in two, unless one of its parts is empty.
    by_cases none : behind = []
    · subst none
      rw [List.append_nil] at word_eq
      rw [List.nil_append] at last_eq
      subst word_eq last_eq
      exact .inl ⟨[], ⟨by simpa using first_eq, opens, .inl rfl⟩, rfl⟩
    by_cases nothing : middle = []
    · subst nothing
      rw [List.append_nil] at first_eq
      rw [List.nil_append] at word_eq
      subst word_eq first_eq
      exact .inr ⟨[], ⟨last_eq, .inl rfl, closes⟩, by simp⟩
    -- Both parts are visible at the boundary, and a blank stands on one side of it.
    rw [word_eq] at isWord
    have visible := (isWord.of_append.1 nothing).endsBlank
    have visible' := (isWord.of_append.2 none).startsBlank
    rcases boundary with (empty | blank) | (empty | blank)
    · simp_all
    · rw [first_eq, endsBlank_append before nothing, visible] at blank
      exact absurd blank (by simp)
    · simp_all
    · rw [last_eq, startsBlank_append none, visible'] at blank
      exact absurd blank (by simp)

/-- A word of two parts that a blank delimits is a word of one of them. -/
theorem HasWord.of_append {word first last : List Char} (isWord : IsWord word)
    (boundary : OpensAfter first ∨ ClosesBefore last) (has : HasWord word (first ++ last)) :
    HasWord word first ∨ HasWord word last := by
  obtain ⟨before, after, stands⟩ := has
  -- A word cannot stand across a boundary between words.
  rcases stands.of_append isWord boundary with ⟨behind, stands, -⟩ | ⟨ahead, stands, -⟩
  · exact .inl ⟨_, _, stands⟩
  · exact .inr ⟨_, _, stands⟩

/-- Blanks have no words. -/
theorem not_hasWord_of_blank {word blanks : List Char} (isWord : IsWord word)
    (blank : AllBlank blanks) : ¬ HasWord word blanks := by
  rintro ⟨before, after, text_eq, -, -⟩
  -- The first character of the word would be visible and blank.
  obtain ⟨c, rest, rfl⟩ := List.exists_cons_of_ne_nil isWord.nonempty
  have seen := isWord.visible c (by simp)
  have unseen := blank c (by simp [text_eq])
  rw [seen] at unseen
  exact absurd unseen (by simp)

/-- A word of two parts with a gap between them is a word of one of the parts. -/
theorem HasWord.of_gap {word first gap last : List Char} (isWord : IsWord word)
    (isGap : IsGap gap) (has : HasWord word (first ++ (gap ++ last))) :
    HasWord word first ∨ HasWord word last := by
  -- The gap delimits the first part on its right and the last part on its left.
  have closes : ClosesBefore (gap ++ last) :=
    .inr (by rw [startsBlank_append isGap.nonempty, isGap.startsBlank])
  rcases has.of_append isWord (.inr closes) with inside | beyond
  · exact .inl inside
  · rcases beyond.of_append isWord (.inl (.inr isGap.endsBlank)) with blank | inside
    · exact absurd blank (not_hasWord_of_blank isWord isGap.blank)
    · exact .inr inside

/-- The only word of a word is itself. -/
theorem WordAt.of_isWord {word other before after : List Char} (isWord : IsWord other)
    (stands : WordAt word other before after) : word = other ∧ before = [] ∧ after = [] := by
  obtain ⟨text_eq, opens, closes⟩ := stands
  -- Something in front of the word would end with a blank of the other word.
  have empty : before = [] := by
    rcases opens with empty | blank
    · exact empty
    · by_contra nonempty
      rw [text_eq] at isWord
      rw [(isWord.of_append.1 nonempty).endsBlank] at blank
      exact absurd blank (by simp)
  -- Something behind the word would start with one.
  have empty' : after = [] := by
    rcases closes with empty' | blank
    · exact empty'
    · by_contra nonempty
      rw [text_eq, ← List.append_assoc] at isWord
      rw [(isWord.of_append.2 nonempty).startsBlank] at blank
      exact absurd blank (by simp)
  subst empty empty'
  exact ⟨by simpa using text_eq.symm, rfl, rfl⟩

/--
In a text without a word up to another word, the word is that one or stands behind it.

The parts on the two sides of the other word end and start with blanks, unless they are empty.
-/
theorem WordAt.of_append_word {word first other last before after : List Char}
    (isWord : IsWord word) (isWord' : IsWord other) (opens : OpensAfter first)
    (closes : ClosesBefore last) (free : ¬ HasWord word first)
    (stands : WordAt word (first ++ (other ++ last)) before after) :
    (word = other ∧ before = first ∧ after = last) ∨
      ∃ ahead, WordAt word last ahead after ∧ before = first ++ (other ++ ahead) := by
  -- The first part has no such word, and the other word has at most itself.
  rcases stands.of_append isWord (.inl opens) with ⟨behind, inside, -⟩ | ⟨ahead, beyond, rfl⟩
  · exact absurd ⟨_, _, inside⟩ free
  rcases beyond.of_append isWord (.inr closes) with
    ⟨behind, inside, rfl⟩ | ⟨further, farther, rfl⟩
  · obtain ⟨same, rfl, rfl⟩ := inside.of_isWord isWord'
    exact .inl ⟨same, by simp, rfl⟩
  · exact .inr ⟨further, farther, rfl⟩

/-- A text has a word when this is the whole text. -/
theorem HasWord.of_isWord {word other : List Char} (isWord : IsWord other)
    (has : HasWord word other) : word = other := by
  obtain ⟨before, after, stands⟩ := has
  exact (stands.of_isWord isWord).1

/-- A word that is in neither of two parts stands only between them. -/
theorem WordAt.sole {word first last before after : List Char} (isWord : IsWord word)
    (opens : OpensAfter first) (closes : ClosesBefore last) (free : ¬ HasWord word first)
    (free' : ¬ HasWord word last) (stands : WordAt word (first ++ (word ++ last)) before after) :
    before = first ∧ after = last := by
  -- The word stands right behind the first part, or it stands in the last part.
  rcases stands.of_append_word isWord isWord opens closes free
    with ⟨-, before_eq, after_eq⟩ | ⟨ahead, beyond, -⟩
  · exact ⟨before_eq, after_eq⟩
  · exact absurd ⟨_, _, beyond⟩ free'

end FlightQuery.Text
