import FlightQuery.Json.Document
import FlightQuery.Json.Printer

/-! The two ways of writing a value differ in the spaces between its parts only. -/

namespace FlightQuery.Json

/-- The spaces between the parts of a written value. -/
structure Spacing where
  /-- What stands in front of the parts of a list or an object of the given level. -/
  line : (level : Nat) → List Char
  /-- What stands behind a colon. -/
  colon : List Char
  line_isSpace : ∀ level, ∀ c ∈ line level, Document.isSpace c
  colon_isSpace : ∀ c ∈ colon, Document.isSpace c

namespace Spacing

/-- No spaces at all. -/
def none : Spacing where
  line _ := []
  colon := []
  line_isSpace := by simp
  colon_isSpace := by simp

/-- Every part stands on a line of its own. -/
def lines : Spacing where
  line := newLine
  colon := [' ']
  line_isSpace level c listed := by
    -- A line break stands first, and blanks stand behind it.
    rcases List.mem_cons.mp listed with rfl | indented
    · rfl
    · rw [List.eq_of_mem_replicate indented]
      rfl
  colon_isSpace c listed := by
    rw [List.mem_singleton.mp listed]
    rfl

end Spacing

mutual

/-- Write a value with some spaces between its parts. -/
def spell (spacing : Spacing) (level : Nat) : Json → List Char
  | list [] => ['[', ']']
  | list (item :: items) =>
    '[' :: spacing.line (level + 1) ++ spell spacing (level + 1) item ++
      spellItems spacing level items
  | object [] => ['{', '}']
  | object ((key, value) :: members) =>
    '{' :: spacing.line (level + 1) ++ writeText key ++ ':' :: spacing.colon ++
      spell spacing (level + 1) value ++ spellMembers spacing level members
  | scalar => writeScalar scalar

/-- Write the items after the first one and close the list. -/
def spellItems (spacing : Spacing) (level : Nat) : List Json → List Char
  | [] => spacing.line level ++ [']']
  | item :: items =>
    ',' :: spacing.line (level + 1) ++ spell spacing (level + 1) item ++
      spellItems spacing level items

/-- Write the members after the first one and close the object. -/
def spellMembers (spacing : Spacing) (level : Nat) : List (String × Json) → List Char
  | [] => spacing.line level ++ ['}']
  | (key, value) :: members =>
    ',' :: spacing.line (level + 1) ++ writeText key ++ ':' :: spacing.colon ++
      spell spacing (level + 1) value ++ spellMembers spacing level members

end

mutual

/-- A value without any space is written on one line. -/
theorem spell_none (level : Nat) : (value : Json) → spell .none level value = write value
  | list [] => rfl
  | list (item :: items) => by
    -- Items and members have lemmas of their own, which this one is mutual with.
    rw [spell, write, spell_none (level + 1) item, spellItems_none level items]
    rfl
  | object [] => rfl
  | object ((key, value) :: members) => by
    rw [spell, write, spell_none (level + 1) value, spellMembers_none level members]
    simp [Spacing.none]
  | null | bool _ | number _ | text _ => rfl

/-- Items without any space are written on one line. -/
theorem spellItems_none (level : Nat) :
    (items : List Json) → spellItems .none level items = writeItems items
  | [] => rfl
  | item :: items => by
    rw [spellItems, writeItems, spell_none (level + 1) item, spellItems_none level items]
    rfl

/-- Members without any space are written on one line. -/
theorem spellMembers_none (level : Nat) :
    (members : List (String × Json)) → spellMembers .none level members = writeMembers members
  | [] => rfl
  | (key, value) :: members => by
    rw [spellMembers, writeMembers, spell_none (level + 1) value, spellMembers_none level members]
    simp [Spacing.none]

end

mutual

/-- A value with every part on a line of its own is written indented. -/
theorem spell_lines (level : Nat) :
    (value : Json) → spell .lines level value = writeIndented level value
  | list [] => rfl
  | list (item :: items) => by
    -- Items and members have lemmas of their own, which this one is mutual with.
    rw [spell, writeIndented, spell_lines (level + 1) item, spellItems_lines level items]
    rfl
  | object [] => rfl
  | object ((key, value) :: members) => by
    rw [spell, writeIndented, spell_lines (level + 1) value, spellMembers_lines level members]
    simp [Spacing.lines]
  | null | bool _ | number _ | text _ => rfl

/-- Items with every part on a line of its own are written indented. -/
theorem spellItems_lines (level : Nat) :
    (items : List Json) → spellItems .lines level items = writeIndentedItems level items
  | [] => rfl
  | item :: items => by
    rw [spellItems, writeIndentedItems, spell_lines (level + 1) item,
      spellItems_lines level items]
    rfl

/-- Members with every part on a line of its own are written indented. -/
theorem spellMembers_lines (level : Nat) : (members : List (String × Json)) →
    spellMembers .lines level members = writeIndentedMembers level members
  | [] => rfl
  | (key, value) :: members => by
    rw [spellMembers, writeIndentedMembers, spell_lines (level + 1) value,
      spellMembers_lines level members]
    simp [Spacing.lines]

end

end FlightQuery.Json
