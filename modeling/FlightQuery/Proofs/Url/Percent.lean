import FlightQuery.Proofs.Number.Decimal
import FlightQuery.Url.Percent

/-! What is percent-encoded is decoded to the bytes of the same text, and so are the pairs of a
form. -/

namespace FlightQuery.Percent

/-! ### Bytes -/

/-- The bytes of a text. -/
def bytes (text : String) : List UInt8 := text.toUTF8.data.toList

/-- The bytes of a text are those of its characters. -/
theorem bytes_eq (text : String) : bytes text = text.toList.flatMap String.utf8EncodeChar := by
  rw [bytes, String.toUTF8, ← String.utf8Encode_toList, List.utf8Encode, List.data_toByteArray]

/-- Texts with the same bytes are the same. -/
theorem bytes_inj {text text' : String} (same : bytes text = bytes text') : text = text' :=
  String.toByteArray_inj.1 (ByteArray.ext (Array.toList_inj.1 same))

/-- The upper case of a hexadecimal digit has its value. -/
theorem hexDigit?_digitChar {value : Nat} (small : value < 16) :
    Number.hexDigit? (Nat.digitChar value).toUpper = some value := by
  have all : ∀ value < 16, Number.hexDigit? (Nat.digitChar value).toUpper = some value := by
    decide
  exact all value small

/-- A percent sign with the digits of a byte stands for the byte. -/
theorem decode_encodeByte (byte : UInt8) (rest : List Char) :
    decode (encodeByte byte ++ rest) = byte :: decode rest := by
  -- A byte has two digits in base 16.
  have high : byte.toNat / 16 < 16 := by
    have := byte.toNat_lt
    omega
  have low : byte.toNat % 16 < 16 := Nat.mod_lt _ (by decide)
  simp only [encodeByte, List.cons_append, List.nil_append, decode, hexDigit?_digitChar high,
    hexDigit?_digitChar low, Nat.div_add_mod, UInt8.ofNat_toNat]

/-- Only a percent sign stands for anything but itself. -/
theorem decode_cons {c : Char} (plain : c ≠ '%') (rest : List Char) :
    decode (c :: rest) = String.utf8EncodeChar c ++ decode rest := by
  rw [decode]
  -- An escape opens with a percent sign, which this character is not.
  rintro high low rest rfl
  exact absurd rfl plain

/-- An encoded character stands for its bytes. -/
theorem decode_encodeChar (c : Char) (rest : List Char) :
    decode (encodeChar c ++ rest) = String.utf8EncodeChar c ++ decode rest := by
  unfold encodeChar
  -- Each byte of the character is escaped and read back on its own.
  induction String.utf8EncodeChar c with
  | nil => rfl
  | cons byte further ih =>
    rw [List.flatMap_cons, List.append_assoc, decode_encodeByte, ih, List.cons_append]

/-- What is encoded is decoded to the bytes of the text, if no percent sign stands for itself. -/
theorem decode_encode {keeps : Char → Bool} (strict : keeps '%' = false) (text : List Char) :
    decode (encode keeps text) = text.flatMap String.utf8EncodeChar := by
  unfold encode
  -- The induction is on the text, of which each character is kept or encoded.
  induction text with
  | nil => rfl
  | cons c rest ih =>
    rw [List.flatMap_cons, List.flatMap_cons]
    by_cases kept : keeps c = true
    · -- A percent sign is not kept, so that the kept character begins no byte.
      have plain : c ≠ '%' := by
        rintro rfl
        exact nomatch strict.symm.trans kept
      rw [if_pos kept, List.singleton_append, decode_cons plain, ih]
    · rw [if_neg kept, decode_encodeChar, ih]

/-- Nothing but the empty text is decoded to nothing. -/
@[simp] theorem decode_eq_nil_iff {text : List Char} : decode text = [] ↔ text = [] := by
  fun_cases decode text <;> simp_all [String.utf8EncodeChar_ne_nil]

/-- Encoded bytes are written with percent signs, letters and digits. -/
theorem mem_encodeChar {c d : Char} (listed : d ∈ encodeChar c) :
    d = '%' ∨ d.isAlphanum = true := by
  obtain ⟨byte, _, listed⟩ := List.mem_flatMap.1 listed
  -- The digits in base 16 are checked one by one.
  have digits : ∀ value < 16, (Nat.digitChar value).toUpper.isAlphanum = true := by decide
  have high : byte.toNat / 16 < 16 := by
    have := byte.toNat_lt
    omega
  simp only [encodeByte, List.mem_cons, List.not_mem_nil, or_false] at listed
  rcases listed with rfl | rfl | rfl
  · exact .inl rfl
  · exact .inr (digits _ high)
  · exact .inr (digits _ (Nat.mod_lt _ (by decide)))

/-- A character of an encoded text stands for itself, or bytes are written with it. -/
theorem mem_encode {keeps : Char → Bool} {text : List Char} {c : Char}
    (listed : c ∈ encode keeps text) :
    (c ∈ text ∧ keeps c = true) ∨ c = '%' ∨ c.isAlphanum = true := by
  -- Each character of the text is either kept or encoded, and so is what comes of it.
  obtain ⟨d, inside, listed⟩ := List.mem_flatMap.1 listed
  by_cases kept : keeps d = true
  · rw [if_pos kept, List.mem_singleton] at listed
    exact .inl (listed ▸ ⟨inside, kept⟩)
  · rw [if_neg kept] at listed
    exact .inr (mem_encodeChar listed)

/-! ### Forms -/

/-- The blank that a plus in a form stands for. -/
def blankOfPlus (c : Char) : Char := if c = '+' then ' ' else c

/-- The bytes of a name or a value of a form. -/
def decodeForm (text : List Char) : List UInt8 := decode (text.map blankOfPlus)

/-- The pairs of a form. A name ends before the first equals sign. -/
def readForm (text : List Char) : List (List UInt8 × List UInt8) :=
  ((text.splitOn '&').filter (· != [])).map fun part =>
    (decodeForm (part.takeWhile (· != '=')), decodeForm ((part.dropWhile (· != '=')).drop 1))

/-- The characters that bytes are written with stand for themselves in a form, but for the percent
sign. -/
theorem mem_encodeChar_form {c d : Char} (listed : d ∈ encodeChar c) :
    d = '%' ∨ keepsForm d = true :=
  (mem_encodeChar listed).imp_right fun letter => by rw [keepsForm, letter, Bool.true_or]

/-- The characters that separate the parts of a form do not stand in its parts. -/
theorem mem_encodeForm {text : String} {c : Char} (listed : c ∈ encodeForm text) :
    c ≠ '&' ∧ c ≠ '=' := by
  obtain ⟨d, _, listed⟩ := List.mem_flatMap.1 listed
  -- A blank becomes a plus sign, and any other character is kept or encoded.
  have kept_cases : c = '+' ∨ c = '%' ∨ keepsForm c = true := by
    split at listed
    · exact .inl (List.mem_singleton.1 listed)
    · split at listed
      · rename_i kept
        exact .inr (.inr (List.mem_singleton.1 listed ▸ kept))
      · exact .inr (mem_encodeChar_form listed)
  constructor <;> rintro rfl <;> revert kept_cases <;> decide

/-- With blanks for its plus signs, a part of a form is percent-encoded. -/
theorem map_encodeForm (text : String) : (encodeForm text).map blankOfPlus =
    encode (fun c => c == ' ' || keepsForm c) text.toList := by
  -- Only a plus sign is changed, and none is kept or written for a byte.
  have same {d : Char} (plain : d = '%' ∨ keepsForm d = true) : blankOfPlus d = d := by
    refine if_neg ?_
    rintro rfl
    revert plain
    decide
  -- Each character may be looked at alone.
  rw [encodeForm, encode, List.map_flatMap]
  refine congrArg text.toList.flatMap (funext fun c => ?_)
  by_cases blank : c = ' '
  · subst blank
    rfl
  · by_cases kept : keepsForm c = true
    · simp [blank, kept, same (.inr kept)]
    · simp only [if_neg blank, kept, beq_eq_false_iff_ne.2 blank, Bool.or_self, Bool.false_eq_true,
        if_false]
      exact (List.map_congr_left fun d listed => same (mem_encodeChar_form listed)).trans
        (List.map_id' _)

/-- A part of a form is decoded to the bytes of its text. -/
theorem decodeForm_encodeForm (text : String) : decodeForm (encodeForm text) = bytes text := by
  rw [decodeForm, map_encodeForm, decode_encode (by decide), bytes_eq]

/-- The pairs of a form are those that it was written with. -/
theorem readForm_writeForm (pairs : List (String × String)) :
    readForm (writeForm pairs) = pairs.map fun (name, value) => (bytes name, bytes value) := by
  rcases eq_or_ne pairs [] with rfl | nonempty
  · rfl
  -- No part holds an ampersand, and none is empty.
  have parts_eq : (writeForm pairs).splitOn '&' =
      pairs.map fun (name, value) => encodeForm name ++ '=' :: encodeForm value := by
    refine List.splitOn_intercalate _ ?_ (by simpa using nonempty)
    intro part listed inside
    obtain ⟨⟨name, value⟩, _, rfl⟩ := List.mem_map.1 listed
    rcases List.mem_append.1 inside with inside | inside
    · exact (mem_encodeForm inside).1 rfl
    · rcases List.mem_cons.1 inside with equals | inside
      · cases equals
      · exact (mem_encodeForm inside).1 rfl
  have filled : ∀ part ∈ pairs.map fun (name, value) => encodeForm name ++ '=' :: encodeForm value,
      (part != []) = true := by
    intro part listed
    obtain ⟨⟨name, value⟩, _, rfl⟩ := List.mem_map.1 listed
    simp
  -- The parts are read back one by one, and a name ends at the first sign of equality.
  rw [readForm, parts_eq, List.filter_eq_self.2 filled, List.map_map]
  refine List.map_congr_left fun (name, value) _ => ?_
  have name_all : ∀ c ∈ encodeForm name, (c != '=') = true :=
    fun c listed => bne_iff_ne.2 (mem_encodeForm listed).2
  simp [List.takeWhile_append_of_pos name_all, List.dropWhile_append_of_pos name_all,
    decodeForm_encodeForm]

end FlightQuery.Percent
