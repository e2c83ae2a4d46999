import FlightQuery.Json.Document
import FlightQuery.Json.Printer

/-! Quoted texts read back as what was written. -/

namespace FlightQuery

/-- The quoted text that a text is written as. -/
def Quoted.ofText (text : String) : Quoted where
  text? := some text
  escaped := (Json.writeText text).contains '\\'

namespace Document

open Json (writeChar writeText)

/-- The ways of writing a character: by a letter, by its code, or as it is. -/
inductive Writes (c : Char) : List Char → Piece → Prop
  | letter {e : Char} (stands : shortEscape? e = some c) (other : e ≠ 'u') :
      Writes c ['\\', e] (.char c)
  | code (control : c.toNat < 32) :
      Writes c ['\\', 'u', '0', '0', Nat.digitChar (c.toNat / 16), Nat.digitChar (c.toNat % 16)]
        (.unit c.toNat)
  | plain (visible : 32 ≤ c.toNat) (unquoted : c ≠ '"') (unescaped : c ≠ '\\') :
      Writes c [c] (.char c)

/-- Every character is written in one of these ways. -/
theorem exists_writes (c : Char) : ∃ piece, Writes c (writeChar c) piece := by
  by_cases lettered : c ∈ ['"', '\\', '\n', '\r', '\t', '\u0008', '\u000c']
  · simp only [List.mem_cons, List.not_mem_nil, or_false] at lettered
    rcases lettered with rfl | rfl | rfl | rfl | rfl | rfl | rfl
    all_goals exact ⟨_, .letter rfl (by decide)⟩
  · simp only [List.mem_cons, List.not_mem_nil, or_false, not_or] at lettered
    obtain ⟨unquoted, unescaped, others⟩ := lettered
    -- Without a letter of its own, a control character is given by its code.
    by_cases control : c.toNat < 32
    · refine ⟨.unit c.toNat, ?_⟩
      simpa [writeChar, unquoted, unescaped, others, control] using Writes.code control
    · refine ⟨.char c, ?_⟩
      simpa [writeChar, unquoted, unescaped, others, control] using
        Writes.plain (Nat.le_of_not_lt control) unquoted unescaped

/-- The digits of a code below 32 read back as the code. -/
theorem hexUnit?_digitChar {code : Nat} (control : code < 32) :
    hexUnit? '0' '0' (Nat.digitChar (code / 16)) (Nat.digitChar (code % 16)) = some code := by
  -- There are as many cases as there are codes.
  have all : ∀ code < 32, hexUnit? '0' '0' (Nat.digitChar (code / 16)) (Nat.digitChar (code % 16)) =
      some code := by decide
  exact all code control

/-- What a character is written as is read as its piece. -/
theorem Writes.readPieces?_append {c : Char} {written : List Char} {piece : Piece}
    (writes : Writes c written piece) (rest : List Char) :
    readPieces? (written ++ rest) =
      (readPieces? rest).map fun (pieces, rest) => (piece :: pieces, rest) := by
  -- The reader tells a code from a letter by the character behind the backslash.
  cases writes with
  | letter stands other =>
    rw [List.cons_append, List.cons_append, List.nil_append, readPieces?, stands]
    · cases readPieces? rest <;> rfl
    · exact fun _ _ _ _ _ unit => absurd unit other
  | code control =>
    simp only [List.cons_append, List.nil_append, readPieces?, hexUnit?_digitChar control]
    cases readPieces? rest <;> rfl
  | plain visible unquoted unescaped =>
    have shown : ¬ (c.toNat < 32 ∨ c = '\\') := by simp [unescaped, visible]
    rw [List.singleton_append, readPieces?, if_neg shown]
    · cases readPieces? rest <;> rfl
    all_goals simp [unquoted, unescaped]

/-- The pieces of a character stand for it, whatever comes behind them. -/
theorem Writes.joinPieces?_cons {c : Char} {written : List Char} {piece : Piece}
    (writes : Writes c written piece) (pieces : List Piece) :
    joinPieces? (piece :: pieces) = (joinPieces? pieces).map (c :: ·) := by
  cases writes with
  | letter | plain => rfl
  | code control =>
    -- A control character is no half of a surrogate pair.
    have high : ¬ (0xD800 ≤ c.toNat ∧ c.toNat < 0xDC00) := by omega
    have low : ¬ (0xDC00 ≤ c.toNat ∧ c.toNat < 0xE000) := by omega
    have half : ¬ (0xD800 ≤ c.toNat ∧ c.toNat < 0xE000) := by omega
    rcases pieces with _ | ⟨_ | code, pieces⟩
    · simp only [joinPieces?, if_neg half, Char.ofNat_toNat]
    · simp only [joinPieces?, if_neg half, Char.ofNat_toNat]
    · simp only [joinPieces?, if_neg high, if_neg low, Char.ofNat_toNat]

/-- A text that was written is read up to its closing quote, and its pieces stand for it. -/
theorem readPieces?_written (text : List Char) (rest : List Char) :
    ∃ pieces, readPieces? (text.flatMap writeChar ++ '"' :: rest) = some (pieces, rest) ∧
      joinPieces? pieces = some text := by
  -- Each character gives one piece, and the quote at the end gives none.
  induction text with
  | nil => exact ⟨[], by simp [readPieces?], rfl⟩
  | cons c text ih =>
    obtain ⟨piece, writes⟩ := exists_writes c
    obtain ⟨pieces, read, joined⟩ := ih
    refine ⟨piece :: pieces, ?_, ?_⟩
    · rw [List.flatMap_cons, List.append_assoc, writes.readPieces?_append, read]
      rfl
    · rw [writes.joinPieces?_cons, joined]
      rfl

/-- A text that was written is read as it was. -/
theorem readQuoted?_written (text : String) (rest : List Char) :
    readQuoted? (text.toList.flatMap writeChar ++ '"' :: rest) =
      some (Quoted.ofText text, rest) := by
  obtain ⟨pieces, read, joined⟩ := readPieces?_written text.toList rest
  -- What was written is the text in front of the rest.
  have parts : text.toList.flatMap writeChar ++ '"' :: rest =
      (text.toList.flatMap writeChar ++ ['"']) ++ rest := by simp
  have written : (text.toList.flatMap writeChar ++ '"' :: rest).take
      ((text.toList.flatMap writeChar ++ '"' :: rest).length - rest.length) =
        text.toList.flatMap writeChar ++ ['"'] := by
    rw [parts, List.length_append, Nat.add_sub_cancel, List.take_left]
  have escaped : (text.toList.flatMap writeChar ++ ['"']).contains '\\' =
      (writeText text).contains '\\' := by
    rw [writeText, List.cons_append, List.contains_cons]
    rfl
  unfold readQuoted?
  simp only [read, written, joined, escaped, Option.bind_eq_bind, Option.bind_some, Option.map_some,
    String.ofList_toList]
  rfl

end Document
end FlightQuery
