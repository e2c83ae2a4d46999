import FlightQuery.Proofs.Text.Word
import FlightQuery.Settings.File

/-! Lines of a settings file: what a key and a value on a line are read as, and what values can
be read from a line. -/

namespace FlightQuery.SettingsFile

/-! ### Comments -/

/-- A text without a character that starts a comment. -/
def IsUncommented (text : List Char) : Prop := ∀ c ∈ text, startsComment c = false

/-- Whether a text has a comment is told by a look at each of its characters. -/
theorem isUncommented_iff {text : List Char} :
    text.any startsComment = false ↔ IsUncommented text := by
  simp [IsUncommented]

instance (text : List Char) : Decidable (IsUncommented text) :=
  decidable_of_iff _ isUncommented_iff

/-- What stands in front of the comment of a text. -/
def uncommented (text : List Char) : List Char :=
  Text.trim (text.takeWhile fun c => !startsComment c)

/-- The content of a line is what stands in front of the comment when its blanks are taken away. -/
theorem content_eq (line : List Char) : content line = uncommented (Text.trim line) := rfl

/-- There is no comment in what stands in front of the comment. -/
theorem isUncommented_uncommented (text : List Char) : IsUncommented (uncommented text) := by
  intro c member
  have taken := List.mem_takeWhile_imp (Text.mem_of_mem_trim member)
  simpa using taken

/-- What stands in front of the comment comes from the text. -/
theorem mem_of_mem_uncommented {c : Char} {text : List Char} (member : c ∈ uncommented text) :
    c ∈ text :=
  (List.takeWhile_prefix _).mem (Text.mem_of_mem_trim member)

/-- A trimmed text is all that stands in front of the comment exactly when it has no comment. -/
theorem uncommented_eq_self_iff {text : List Char} (trimmed : Text.trim text = text) :
    uncommented text = text ↔ IsUncommented text := by
  constructor
  · intro same
    rw [← same]
    exact isUncommented_uncommented text
  · -- The text has no start of a comment, so that everything of it is taken.
    intro free
    have taken : text.takeWhile (fun c => !startsComment c) = text :=
      List.takeWhile_eq_self_iff.2 fun c member => by simp [free c member]
    rw [uncommented, taken, trimmed]

/-- Behind a visible text without a comment, the comment starts where that of the rest does. -/
theorem uncommented_append {first rest : List Char} (nonempty : first ≠ [])
    (starts : Text.startsBlank first = false) (ends : Text.endsBlank first = false)
    (free : IsUncommented first) (visible : Text.startsBlank rest = false) :
    uncommented (first ++ rest) = first ++ uncommented rest := by
  have taken : ∀ c ∈ first, (!startsComment c) = true := fun c member => by simp [free c member]
  -- What is left of the rest starts as the rest does, if anything is left.
  have visible' : Text.startsBlank (rest.takeWhile fun c => !startsComment c) = false := by
    cases rest with
    | nil => rfl
    | cons c rest => by_cases comment : startsComment c <;> simp_all
  calc uncommented (first ++ rest)
      = Text.trim (first ++ rest.takeWhile fun c => !startsComment c) := by
        rw [uncommented, List.takeWhile_append_of_pos taken]
    _ = first ++ Text.trimEnd (rest.takeWhile fun c => !startsComment c) :=
        Text.trim_append_of_visible nonempty starts ends _
    _ = first ++ uncommented rest := by
        rw [uncommented, Text.trim, Text.trimStart_eq_self visible']

/-! ### Keys with values -/

/-- A text that is read as a key when it stands in front of a delimiter. -/
structure IsKey (key : List Char) : Prop where
  isWord : Text.IsWord key
  isUncommented : IsUncommented key
  undelimited : ∀ c ∈ key, isDelimiter c = false
  unbracketed : key.head? ≠ some '['
  lower_eq : Text.lower key = key

/-- Whether a text is read as a key is told by its characters. -/
theorem isKey_iff {key : List Char} :
    (Text.IsWord key ∧ IsUncommented key ∧ key.any isDelimiter = false ∧
      key.head? ≠ some '[' ∧ Text.lower key = key) ↔ IsKey key := by
  -- Having no delimiter can be said of the text or of each character.
  have undelimited_iff : key.any isDelimiter = false ↔ ∀ c ∈ key, isDelimiter c = false := by simp
  rw [undelimited_iff]
  constructor
  · rintro ⟨isWord, free, undelimited, unbracketed, lower_eq⟩
    exact ⟨isWord, free, undelimited, unbracketed, lower_eq⟩
  · intro isKey
    exact ⟨isKey.isWord, isKey.isUncommented, isKey.undelimited, isKey.unbracketed,
      isKey.lower_eq⟩

instance (key : List Char) : Decidable (IsKey key) := decidable_of_iff _ isKey_iff

/-- A line with a key and a value. -/
def entryLine (key value : List Char) : List Char := key ++ '=' :: value

/-- The content of a line with a key and a value ends where the comment of the value starts. -/
theorem content_entryLine {key value : List Char} (isKey : IsKey key)
    (trimmed : Text.trim value = value) :
    content (entryLine key value) = entryLine key (uncommented value) := by
  -- The key and the delimiter behind it are the first part of the line, and it has no blank.
  have first_eq (rest : List Char) : entryLine key rest = (key ++ ['=']) ++ rest := by
    simp [entryLine]
  have nonempty : key ++ ['='] ≠ [] := by simp
  have starts : Text.startsBlank (key ++ ['=']) = false := by
    rw [Text.startsBlank_append isKey.isWord.nonempty, isKey.isWord.startsBlank]
  have ends : Text.endsBlank (key ++ ['=']) = false := by
    rw [Text.endsBlank_append key (by simp)]
    decide
  have free : IsUncommented (key ++ ['=']) := by
    intro c member
    rcases List.mem_append.1 member with member | member
    · exact isKey.isUncommented c member
    · rw [List.mem_singleton.1 member]
      decide
  -- The value has no blank at its end, and so the line is trimmed.
  have whole : Text.trim (entryLine key value) = entryLine key value := by
    have ended := Text.trimEnd_eq_self (Text.endsBlank_of_trim trimmed)
    rw [first_eq, Text.trim_append_of_visible nonempty starts ends, ended]
  rw [content_eq, whole, first_eq, first_eq,
    uncommented_append nonempty starts ends free (Text.startsBlank_of_trim trimmed)]

/-- A line with a key and a value is read as the key and what stands in front of the comment of the
value. -/
theorem readLine_entryLine {key value : List Char} (isKey : IsKey key)
    (trimmed : Text.trim value = value) :
    readLine (entryLine key value) =
      .ok (.entry (String.ofList key) (some (String.ofList (uncommented value)))) := by
  have undelimited : ∀ c ∈ key, (!isDelimiter c) = true := fun c member => by
    simp [isKey.undelimited c member]
  have whole : Text.trim key = key :=
    Text.trim_eq_self isKey.isWord.startsBlank isKey.isWord.endsBlank
  -- The line is split where the key ends.
  have front : (entryLine key (uncommented value)).takeWhile (fun c => !isDelimiter c) = key := by
    rw [entryLine, List.takeWhile_append_of_pos undelimited]
    simp [isDelimiter]
  have back : (entryLine key (uncommented value)).dropWhile (fun c => !isDelimiter c) =
      '=' :: uncommented value := by
    rw [entryLine, List.dropWhile_append_of_pos undelimited]
    simp [isDelimiter]
  have trimmed' : Text.trim (uncommented value) = uncommented value := Text.trim_trim _
  have lowered := isKey.lower_eq
  obtain ⟨c, rest, rfl⟩ := List.exists_cons_of_ne_nil isKey.isWord.nonempty
  have unbracketed : c ≠ '[' := by simpa using isKey.unbracketed
  rw [readLine, content_entryLine isKey trimmed]
  -- The line is neither blank nor a heading.
  split
  · next blank => simp [entryLine] at blank
  · next heading => simp [entryLine, unbracketed] at heading
  · simp only [front, back, whole, lowered, trimmed']

/-! ### Values -/

/-- A text that fits behind a key: it is not empty, has a single line and is trimmed. -/
structure IsValue (value : String) : Prop where
  nonempty : value ≠ ""
  single : '\n' ∉ value.toList
  trimmed : Text.trim value.toList = value.toList

/-- Whether a text fits behind a key is told by its characters. -/
theorem isValue_iff {value : String} :
    (value ≠ "" ∧ '\n' ∉ value.toList ∧ Text.trim value.toList = value.toList) ↔ IsValue value :=
  ⟨fun ⟨nonempty, single, trimmed⟩ => ⟨nonempty, single, trimmed⟩,
    fun isValue => ⟨isValue.nonempty, isValue.single, isValue.trimmed⟩⟩

instance (value : String) : Decidable (IsValue value) := decidable_of_iff _ isValue_iff

/-- A text that is read as it is when it stands behind a key. -/
structure IsPlain (value : String) : Prop extends IsValue value where
  isUncommented : IsUncommented value.toList

instance (value : String) : Decidable (IsPlain value) :=
  decidable_of_iff (IsValue value ∧ IsUncommented value.toList)
    ⟨fun h => ⟨h.1, h.2⟩, fun h => ⟨h.1, h.2⟩⟩

/-- No line of a text has the end of a line in it. -/
theorem newline_notMem_of_mem_splitLines {line text : List Char} (member : line ∈ splitLines text) :
    '\n' ∉ line := by
  -- The first line of the rest goes on in front, unless a line ends there.
  unfold splitLines at member
  induction text generalizing line with
  | nil => simp_all
  | cons c rest ih =>
    rw [List.splitOn_cons_eq_if_modifyHead] at member
    by_cases ends : c = '\n'
    · -- A line ends here, and it is empty so far.
      subst ends
      simp only [beq_self_eq_true, if_true, List.mem_cons] at member
      rcases member with rfl | member
      · simp
      · exact ih member
    · rw [if_neg (by simpa using ends)] at member
      cases lines : rest.splitOn '\n' with
      | nil => exact absurd lines (by simp)
      | cons first others =>
        rw [lines] at member ih
        -- Only the first line gets the character, which is no end of a line.
        rcases List.mem_cons.1 member with rfl | member
        · have first_single := ih (List.mem_cons_self ..)
          simp [first_single, Ne.symm ends]
        · exact ih (List.mem_cons_of_mem _ member)

/-- What is read as the value of a line is plain, unless it is empty. -/
theorem isPlain_of_readLine {line : List Char} {key value : String} (single : '\n' ∉ line)
    (nonempty : value ≠ "") (read : readLine line = .ok (.entry key (some value))) :
    IsPlain value := by
  -- The value is what stands behind the first delimiter of the content.
  obtain ⟨text, value_eq, part⟩ : ∃ text, value = String.ofList (Text.trim text) ∧
      ∀ c ∈ text, c ∈ content line := by
    -- A blank line, a heading and a key alone have no value.
    unfold readLine at read
    split at read
    · simp at read
    · split at read <;> simp at read
    · split at read
      · simp at read
      · next text behind =>
        split at read
        · simp at read
        · simp only [Except.ok.injEq, Line.entry.injEq, Option.some.injEq] at read
          refine ⟨text, read.2.symm, fun c member => ?_⟩
          have suffix := List.dropWhile_suffix (fun c => !isDelimiter c) (l := content line)
          rw [behind] at suffix
          exact suffix.mem (List.mem_cons_of_mem _ member)
  have from_content (c : Char) (member : c ∈ value.toList) : c ∈ content line := by
    rw [value_eq, String.toList_ofList] at member
    exact part c (Text.mem_of_mem_trim member)
  refine ⟨⟨nonempty, ?_, ?_⟩, ?_⟩
  · intro member
    exact single (Text.mem_of_mem_trim (mem_of_mem_uncommented (from_content _ member)))
  · rw [value_eq, String.toList_ofList, Text.trim_trim]
  · intro c member
    exact isUncommented_uncommented _ c (from_content c member)

end FlightQuery.SettingsFile
