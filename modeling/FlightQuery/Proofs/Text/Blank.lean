import FlightQuery.Text.Blank
import Mathlib.Data.List.DropRight
import Mathlib.Data.List.TakeWhile

/-! Trimming takes away exactly the blanks on both sides of a text. -/

namespace FlightQuery.Text

/-- A text of blanks only. -/
def AllBlank (text : List Char) : Prop := ∀ c ∈ text, isBlank c = true

instance (text : List Char) : Decidable (AllBlank text) :=
  decidable_of_iff (text.all isBlank = true) List.all_eq_true

/-- The empty text has no visible character. -/
theorem allBlank_nil : AllBlank [] := fun _ member => nomatch member

/-- A non-empty run of blanks, which separates what stands on its two sides. -/
structure IsGap (gap : List Char) : Prop where
  nonempty : gap ≠ []
  blank : AllBlank gap

instance (gap : List Char) : Decidable (IsGap gap) :=
  decidable_of_iff (gap ≠ [] ∧ AllBlank gap) ⟨fun h => ⟨h.1, h.2⟩, fun h => ⟨h.1, h.2⟩⟩

/-- Whether a text ends with a blank. -/
def endsBlank (text : List Char) : Bool := startsBlank text.reverse

/-- A text starts with a blank exactly when its first character is one. -/
@[simp] theorem startsBlank_cons (c : Char) (rest : List Char) :
    startsBlank (c :: rest) = isBlank c := rfl

/-- The empty text does not start with a blank. -/
@[simp] theorem startsBlank_nil : startsBlank [] = false := rfl

/-- Only the first part of a text that has one decides whether it starts with a blank. -/
theorem startsBlank_append {first : List Char} (nonempty : first ≠ []) (rest : List Char) :
    startsBlank (first ++ rest) = startsBlank first := by
  cases first with
  | nil => exact absurd rfl nonempty
  | cons c tail => rfl

/-- Only the last part of a text that has one decides whether it ends with a blank. -/
theorem endsBlank_append (first : List Char) {last : List Char} (nonempty : last ≠ []) :
    endsBlank (first ++ last) = endsBlank last := by
  -- The reversed text starts with the last part.
  have reversed : last.reverse ≠ [] := by simpa using nonempty
  rw [endsBlank, List.reverse_append, startsBlank_append reversed]
  rfl

/-- A text that starts with a blank is not empty. -/
theorem ne_nil_of_startsBlank {text : List Char} (starts : startsBlank text = true) :
    text ≠ [] := by
  rintro rfl
  exact absurd starts (by simp)

/-- A text that ends with a blank is not empty. -/
theorem ne_nil_of_endsBlank {text : List Char} (ends : endsBlank text = true) : text ≠ [] := by
  rintro rfl
  exact absurd ends (by simp [endsBlank])

/-- A gap starts with a blank. -/
theorem IsGap.startsBlank {gap : List Char} (isGap : IsGap gap) : startsBlank gap = true := by
  obtain ⟨c, rest, rfl⟩ := List.exists_cons_of_ne_nil isGap.nonempty
  exact isGap.blank c (by simp)

/-- A gap ends with a blank. -/
theorem IsGap.endsBlank {gap : List Char} (isGap : IsGap gap) : endsBlank gap = true := by
  -- A gap read from its end is a gap again.
  have reversed : IsGap gap.reverse :=
    ⟨by simpa using isGap.nonempty, fun c member => isGap.blank c (by simpa using member)⟩
  exact reversed.startsBlank

/-- There is nothing to drop from the empty text. -/
@[simp] theorem trimStart_nil : trimStart [] = [] := rfl

/-- Blanks in front of a text are dropped from its start. -/
theorem trimStart_append {front : List Char} (blank : AllBlank front) (rest : List Char) :
    trimStart (front ++ rest) = trimStart rest := by
  -- Each blank of the front part is dropped in turn.
  induction front with
  | nil => rfl
  | cons c tail ih =>
    have head : isBlank c = true := blank c (by simp)
    have trimmed := ih fun d member => blank d (by simp [member])
    simpa [trimStart, head] using trimmed

/-- A text that starts with no blank loses nothing at its start. -/
theorem trimStart_eq_self {text : List Char} (starts : startsBlank text = false) :
    trimStart text = text := by
  cases text with
  | nil => rfl
  | cons c rest =>
    have head : isBlank c = false := starts
    simp [trimStart, head]

/-- A text trimmed at its start does not start with a blank. -/
theorem startsBlank_trimStart (text : List Char) :
    startsBlank (trimStart text) = false := by
  -- Blanks are dropped one after the other, until a visible character is met.
  induction text with
  | nil => rfl
  | cons c rest ih =>
    by_cases head : isBlank c
    · simpa [trimStart, head] using ih
    · simp [trimStart, head]

/-- What is dropped from the start of a text are blanks. -/
theorem exists_trimStart (text : List Char) :
    ∃ front, AllBlank front ∧ text = front ++ trimStart text := by
  -- The blanks that are dropped are those up to the first visible character.
  refine ⟨text.takeWhile isBlank, fun c member => List.mem_takeWhile_imp member, ?_⟩
  exact (List.takeWhile_append_dropWhile).symm

/-- What is dropped from the end of a text satisfies the test. -/
theorem exists_dropEndWhile (drop : Char → Bool) (text : List Char) :
    ∃ back, (∀ c ∈ back, drop c = true) ∧ text = dropEndWhile drop text ++ back :=
  ⟨text.rtakeWhile drop, fun _ member => List.mem_rtakeWhile_imp member,
    List.rdropWhile_append_rtakeWhile.symm⟩

/-- What satisfies the test behind a text is dropped from its end. -/
theorem dropEndWhile_append {drop : Char → Bool} (text : List Char) {back : List Char}
    (all : ∀ c ∈ back, drop c = true) :
    dropEndWhile drop (text ++ back) = dropEndWhile drop text := by
  have reversed : ∀ c ∈ back.reverse, drop c = true :=
    fun c member => all c (by simpa using member)
  rw [dropEndWhile, List.reverse_append, List.dropWhile_append_of_pos reversed, dropEndWhile]

/-- Trimming the end is trimming the start of the reversed text. -/
theorem trimEnd_eq (text : List Char) : trimEnd text = (trimStart text.reverse).reverse := rfl

/-- What is dropped from the end of a text are blanks. -/
theorem exists_trimEnd (text : List Char) :
    ∃ back, AllBlank back ∧ text = trimEnd text ++ back :=
  exists_dropEndWhile isBlank text

/-- Blanks behind a text are dropped from its end. -/
theorem trimEnd_append (text : List Char) {back : List Char} (blank : AllBlank back) :
    trimEnd (text ++ back) = trimEnd text :=
  dropEndWhile_append text blank

/-- A text that ends with no blank loses nothing at its end. -/
theorem trimEnd_eq_self {text : List Char} (ends : endsBlank text = false) :
    trimEnd text = text := by
  simp [trimEnd_eq, trimStart_eq_self ends]

/-- A text of blanks is trimmed to nothing. -/
theorem trim_eq_nil {text : List Char} (blank : AllBlank text) : trim text = [] := by
  -- All of the text is dropped from its start, and nothing is left for the end.
  have started := trimStart_append blank []
  rw [List.append_nil, trimStart_nil] at started
  rw [trim, started]
  rfl

/-- Blanks in front of a text and behind it do not matter to its trimmed form. -/
theorem trim_append {front back : List Char} (blankFront : AllBlank front)
    (blankBack : AllBlank back) (core : List Char) :
    trim (front ++ core ++ back) = trim core := by
  -- Either the core starts somewhere, or all of the text is blank.
  rw [List.append_assoc, trim, trimStart_append blankFront]
  cases started : trimStart core with
  | nil =>
    obtain ⟨lead, blankLead, same⟩ := exists_trimStart core
    rw [started, List.append_nil] at same
    subst same
    rw [trimStart_append blankLead, trim, started]
    have nothing := trim_eq_nil blankBack
    simpa [trim, trimEnd, dropEndWhile] using nothing
  | cons c rest =>
    obtain ⟨lead, blankLead, same⟩ := exists_trimStart core
    have visible := startsBlank_trimStart core
    rw [started] at same visible
    subst same
    have kept : trimStart ((c :: rest) ++ back) = (c :: rest) ++ back := trimStart_eq_self visible
    rw [List.append_assoc, trimStart_append blankLead, kept, trimEnd_append _ blankBack]
    -- Without its blanks, the core is trimmed at its end alone.
    rw [trim, trimStart_append blankLead, trimStart_eq_self visible]

/-- A text is its trimmed form between blanks. -/
theorem exists_trim (text : List Char) :
    ∃ front back, AllBlank front ∧ AllBlank back ∧ text = front ++ trim text ++ back := by
  -- Trimming takes blanks off the front first, then off the end of what is left.
  obtain ⟨front, blankFront, start⟩ := exists_trimStart text
  obtain ⟨back, blankBack, ending⟩ := exists_trimEnd (trimStart text)
  refine ⟨front, back, blankFront, blankBack, ?_⟩
  rw [trim, List.append_assoc, ← ending]
  exact start

/-- A trimmed text has nothing left to trim. -/
@[simp] theorem trim_trim (text : List Char) : trim (trim text) = trim text := by
  obtain ⟨front, back, blankFront, blankBack, same⟩ := exists_trim text
  -- The blanks around the trimmed form do not matter to it.
  have core := trim_append blankFront blankBack (trim text)
  rw [← same] at core
  exact core.symm

/-- All characters of a trimmed text come from the text. -/
theorem mem_of_mem_trim {c : Char} {text : List Char} (member : c ∈ trim text) : c ∈ text := by
  obtain ⟨front, back, -, -, same⟩ := exists_trim text
  rw [same]
  simp [member]

/-- A trimmed text does not start with a blank. -/
theorem startsBlank_of_trim {text : List Char} (trimmed : trim text = text) :
    startsBlank text = false := by
  -- Otherwise the text would be longer than its trimmed form.
  cases text with
  | nil => rfl
  | cons c rest =>
    by_contra blank
    have head : isBlank c = true := by simpa using blank
    have dropped : trim (c :: rest) = trim rest := by
      have front : AllBlank [c] := fun d member => by simp_all
      simpa using trim_append front allBlank_nil rest
    -- The trimmed form of the rest is no longer than the rest.
    obtain ⟨front, back, -, -, same⟩ := exists_trim rest
    have lengths := congrArg List.length same
    have lengths' := congrArg List.length (dropped.symm.trans trimmed)
    simp only [List.length_append, List.length_cons] at lengths lengths'
    omega

/-- A trimmed text does not end with a blank. -/
theorem endsBlank_of_trim {text : List Char} (trimmed : trim text = text) :
    endsBlank text = false := by
  -- The text is trimmed at its start, so that only its end was left to trim.
  have started : trimEnd (trimStart text) = text := trimmed
  rw [trimStart_eq_self (startsBlank_of_trim trimmed), trimEnd_eq] at started
  have reversed := congrArg List.reverse started
  rw [List.reverse_reverse] at reversed
  rw [endsBlank, ← reversed]
  exact startsBlank_trimStart _

/-- A text that neither starts nor ends with a blank is trimmed. -/
theorem trim_eq_self {text : List Char} (starts : startsBlank text = false)
    (ends : endsBlank text = false) : trim text = text := by
  rw [trim, trimStart_eq_self starts, trimEnd_eq_self ends]

/-- Only the end of a text is trimmed when its first part starts and ends with no blank. -/
theorem trim_append_of_visible {first : List Char} (nonempty : first ≠ [])
    (starts : startsBlank first = false) (ends : endsBlank first = false) (rest : List Char) :
    trim (first ++ rest) = first ++ trimEnd rest := by
  obtain ⟨back, blank, same⟩ := exists_trimEnd rest
  -- Without the blanks at its end, the text ends as one of its parts does.
  have ends' : endsBlank (first ++ trimEnd rest) = false := by
    by_cases nothing : trimEnd rest = []
    · rwa [nothing, List.append_nil]
    · rw [endsBlank_append first nothing, trimEnd_eq, endsBlank, List.reverse_reverse]
      exact startsBlank_trimStart _
  have starts' : startsBlank (first ++ trimEnd rest) = false := by
    rwa [startsBlank_append nonempty]
  calc trim (first ++ rest)
      = trim ([] ++ (first ++ trimEnd rest) ++ back) := by
        rw [List.nil_append, List.append_assoc, ← same]
    _ = trim (first ++ trimEnd rest) := trim_append allBlank_nil blank _
    _ = first ++ trimEnd rest := trim_eq_self starts' ends'

/-- A text that is trimmed to nothing consists of blanks. -/
theorem allBlank_of_trim_eq_nil {text : List Char} (nothing : trim text = []) : AllBlank text := by
  -- With nothing between them, the blanks at both ends are the whole text.
  obtain ⟨front, back, blankFront, blankBack, same⟩ := exists_trim text
  rw [nothing, List.append_nil] at same
  intro c member
  rw [same, List.mem_append] at member
  exact member.elim (blankFront c) (blankBack c)

/-- A text that ends with a blank, and starts with none, is its trimmed form before a gap. -/
theorem exists_gap_behind {text : List Char} (starts : startsBlank text = false)
    (ends : endsBlank text = true) : ∃ gap, IsGap gap ∧ text = trim text ++ gap := by
  have trim_eq : trim text = trimEnd text := by rw [trim, trimStart_eq_self starts]
  -- The start is trimmed already, so that all blanks stand at the end.
  obtain ⟨gap, blank, same⟩ := exists_trimEnd text
  rw [← trim_eq] at same
  refine ⟨gap, ⟨?_, blank⟩, same⟩
  -- Without a gap the text would be trimmed, and end with no blank.
  rintro rfl
  rw [List.append_nil] at same
  exact absurd (endsBlank_of_trim same.symm) (by simp [ends])

/-- A text that starts with a blank, and ends with none, is its trimmed form behind a gap. -/
theorem exists_gap_before {text : List Char} (starts : startsBlank text = true)
    (ends : endsBlank text = false) : ∃ gap, IsGap gap ∧ text = gap ++ trim text := by
  obtain ⟨gap, blank, same⟩ := exists_trimStart text
  -- What is left of the text ends as the text does, if anything is left.
  have kept : endsBlank (trimStart text) = false := by
    cases started : trimStart text with
    | nil => rfl
    | cons c rest =>
      rw [same, started, endsBlank_append gap (by simp)] at ends
      exact ends
  rw [← trimEnd_eq_self kept, ← trim] at same
  refine ⟨gap, ⟨?_, blank⟩, same⟩
  rintro rfl
  rw [List.nil_append] at same
  exact absurd (startsBlank_of_trim same.symm) (by simp [starts])

/-- A text that starts and ends with blanks of their own is its trimmed form between two gaps. -/
theorem exists_gaps_around {text : List Char} (starts : startsBlank text = true)
    (ends : endsBlank text = true) (room : 2 ≤ text.length) :
    ∃ gap gap', IsGap gap ∧ IsGap gap' ∧ text = gap ++ trim text ++ gap' := by
  by_cases nothing : trim text = []
  · -- The first blank is one gap, and all others are the other gap.
    have blank := allBlank_of_trim_eq_nil nothing
    obtain ⟨c, d, rest, rfl⟩ : ∃ c d rest, text = c :: d :: rest := by
      match text, room with
      | c :: d :: rest, _ => exact ⟨c, d, rest, rfl⟩
    refine ⟨[c], d :: rest, ⟨by simp, ?_⟩, ⟨by simp, ?_⟩, by simp [nothing]⟩
    · intro e member
      exact blank e (by simp_all)
    · intro e member
      exact blank e (List.mem_cons_of_mem _ member)
  · -- The blanks on the two sides of the trimmed form are the gaps, and neither can be missing.
    obtain ⟨front, back, blankFront, blankBack, same⟩ := exists_trim text
    refine ⟨front, back, ⟨?_, blankFront⟩, ⟨?_, blankBack⟩, same⟩
    · rintro rfl
      have visible := startsBlank_of_trim (trim_trim text)
      rw [same, List.nil_append, startsBlank_append nothing, visible] at starts
      exact absurd starts (by simp)
    · rintro rfl
      have visible := endsBlank_of_trim (trim_trim text)
      rw [same, List.append_nil, endsBlank_append front nothing, visible] at ends
      exact absurd ends (by simp)

/-! ### Slashes at the end -/

/-- A number of slashes. -/
def slashes (count : Nat) : String := String.ofList (List.replicate count '/')

/-- An address with further slashes at its end. -/
theorem toList_append_slashes (address : String) (count : Nat) :
    (address ++ slashes count).toList = address.toList ++ List.replicate count '/' := by
  rw [String.toList_append, slashes, String.toList_ofList]

/-- Further slashes at the end of a text are dropped as well. -/
theorem dropEndWhile_append_slashes (text : List Char) (count : Nat) :
    dropEndWhile (· == '/') (text ++ List.replicate count '/') =
      dropEndWhile (· == '/') text := by
  -- Each of the further characters is a slash.
  refine dropEndWhile_append text fun c member => ?_
  exact beq_iff_eq.2 (List.eq_of_mem_replicate member)

/-- A text is what is left of it, with a number of slashes at its end. -/
theorem exists_dropEndWhile_slashes (text : List Char) :
    ∃ count, text = dropEndWhile (· == '/') text ++ List.replicate count '/' := by
  -- What is dropped consists of slashes, so that only their number has to be told.
  obtain ⟨back, all, same⟩ := exists_dropEndWhile (· == '/') text
  have slash : back = List.replicate back.length '/' :=
    List.eq_replicate_iff.2 ⟨rfl, fun c member => beq_iff_eq.1 (all c member)⟩
  exact ⟨back.length, slash ▸ same⟩

end FlightQuery.Text
