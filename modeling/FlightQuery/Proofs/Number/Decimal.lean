import FlightQuery.Number.Layout
import FlightQuery.Number.Reader
import Mathlib.Data.List.TakeWhile

/-! What readers of numbers accept: signs, digits, fractions and exponents. Integers are written in
a form that they accept. -/

namespace FlightQuery.Number

/-- A sign, which may be left out, `true` standing for a minus. -/
inductive IsSign : List Char → Bool → Prop
  | none : IsSign [] false
  | plus : IsSign ['+'] false
  | minus : IsSign ['-'] true

/-- An integer in decimal and its value: digits behind a sign. -/
inductive IsInteger : List Char → Int → Prop
  | intro {sign digits : List Char} {negative : Bool} (signed : IsSign sign negative)
      (nonempty : digits ≠ []) (digits_all : ∀ c ∈ digits, isDigit c = true) :
      IsInteger (sign ++ digits)
        (if negative then -(Nat.ofDigitChars 10 digits 0 : Int) else Nat.ofDigitChars 10 digits 0)

/-- A fraction and its digits, both of which may be left out. -/
inductive IsFraction : List Char → List Char → Prop
  | none : IsFraction [] []
  | point {digits : List Char} (digits_all : ∀ c ∈ digits, isDigit c = true) :
      IsFraction ('.' :: digits) digits

/-- An exponent, which may be left out, and its value. -/
inductive IsExponent : List Char → Int → Prop
  | none : IsExponent [] 0
  | marked {mark : Char} {text : List Char} {value : Int} (mark_eq : mark = 'e' ∨ mark = 'E')
      (integer : IsInteger text value) : IsExponent (mark :: text) value

/-- A number in decimal without its sign, and the binary number next to it: digits with a point in
front of, among or behind them, and an exponent. -/
inductive IsMagnitude (negative : Bool) : List Char → Binary64 → Prop
  | intro {whole point fraction mark : List Char} {exponent : Int}
      (whole_all : ∀ c ∈ whole, isDigit c = true) (pointed : IsFraction point fraction)
      (nonempty : whole ≠ [] ∨ fraction ≠ []) (marked : IsExponent mark exponent) :
      IsMagnitude negative (whole ++ (point ++ mark))
        (.ofDecimal negative (Nat.ofDigitChars 10 (whole ++ fraction) 0)
          (exponent - fraction.length))

/-- A number in decimal and the binary number next to it. -/
inductive IsDecimal : List Char → Binary64 → Prop
  | intro {sign text : List Char} {negative : Bool} {value : Binary64}
      (signed : IsSign sign negative) (magnitude : IsMagnitude negative text value) :
      IsDecimal (sign ++ text) value

/-- A text starts with no sign. -/
def IsUnsigned (text : List Char) : Prop := ∀ c ∈ text.head?, c ≠ '-' ∧ c ≠ '+'

/-- A digit is no sign. -/
theorem isUnsigned_of_isDigit {c : Char} (digit : isDigit c = true) (rest : List Char) :
    IsUnsigned (c :: rest) := by
  intro first first_eq
  cases first_eq
  -- Neither sign is a digit.
  constructor <;> rintro rfl <;> exact nomatch digit

/-- Behind a sign that is split off is the rest. -/
theorem splitSign_append {sign rest : List Char} {negative : Bool} (signed : IsSign sign negative)
    (unsigned : IsUnsigned rest) : splitSign (sign ++ rest) = (negative, rest) := by
  cases signed with
  | plus => rfl
  | minus => rfl
  | none =>
    -- Without a sign the text starts with none either.
    rw [List.nil_append]
    unfold splitSign
    split
    · exact absurd rfl (unsigned '-' rfl).1
    · exact absurd rfl (unsigned '+' rfl).2
    · rfl

/-- What is split off is a sign. -/
theorem exists_splitSign (text : List Char) :
    ∃ sign, IsSign sign (splitSign text).1 ∧ text = sign ++ (splitSign text).2 := by
  unfold splitSign
  split
  · exact ⟨['-'], .minus, rfl⟩
  · exact ⟨['+'], .plus, rfl⟩
  · exact ⟨[], .none, rfl⟩

/-- Digits are read. -/
theorem readDigits?_eq_some_iff {text : List Char} {value : Nat} :
    readDigits? text = some value ↔
      text ≠ [] ∧ (∀ c ∈ text, isDigit c = true) ∧ Nat.ofDigitChars 10 text 0 = value := by
  rw [readDigits?, Option.ite_none_right_eq_some, List.all_eq_true, Option.some_inj, and_assoc]

/-- Integers are read. -/
theorem readInt?_eq_some_iff {text : List Char} {value : Int} :
    readInt? text = some value ↔ IsInteger text value := by
  -- The sign is split off, and what follows it has to be digits.
  have read_iff : readInt? text = some value ↔ ∃ magnitude,
      readDigits? (splitSign text).2 = some magnitude ∧
        (if (splitSign text).1 then -(magnitude : Int) else magnitude) = value := by
    unfold readInt?
    rcases splitSign text with ⟨negative, digits⟩
    change Option.map _ ((readDigits? digits).bind _) = _ ↔ _
    cases readDigits? digits <;> simp
  simp only [read_iff, readDigits?_eq_some_iff]
  constructor
  · rintro ⟨_, ⟨nonempty, digits_all, rfl⟩, rfl⟩
    obtain ⟨sign, signed, text_eq⟩ := exists_splitSign text
    have integer := IsInteger.intro signed nonempty digits_all
    rwa [← text_eq] at integer
  · rintro ⟨signed, nonempty, digits_all⟩
    -- No more than the sign is split off, for a digit is none.
    obtain ⟨c, rest, rfl⟩ := List.exists_cons_of_ne_nil nonempty
    have unsigned := isUnsigned_of_isDigit (digits_all c List.mem_cons_self) rest
    rw [splitSign_append signed unsigned]
    exact ⟨_, ⟨nonempty, digits_all, rfl⟩, rfl⟩

/-- An integer of 64 bits is the value it stands for. -/
theorem toInt64?_eq_some_iff {value : Int} {word : Int64} :
    toInt64? value = some word ↔ word.toInt = value := by
  unfold toInt64?
  -- The bounds are those of the words themselves, so that each word is within them.
  constructor
  · intro bounded
    split at bounded
    · rename_i within
      cases bounded
      exact Int64.toInt_ofInt_of_le within.1 (Int.lt_of_le_of_lt within.2 (by decide))
    · cases bounded
  · rintro rfl
    rw [if_pos ⟨word.minValue_le_toInt, word.toInt_le⟩, Int64.ofInt_toInt]

/-- Integers of 64 bits are read. -/
theorem readInt64?_eq_some_iff {text : List Char} {word : Int64} :
    readInt64? text = some word ↔ IsInteger text word.toInt := by
  -- The text is read as an integer of any size, which has to fit into the word.
  rw [readInt64?, Option.bind_eq_some_iff, ← readInt?_eq_some_iff]
  simp only [toInt64?_eq_some_iff]
  constructor
  · rintro ⟨value, read, rfl⟩
    exact read
  · exact fun read => ⟨_, read, rfl⟩

/-- A text does not start with a digit. -/
def IsUndigited (text : List Char) : Prop := ∀ c ∈ text.head?, isDigit c = false

/-- Characters of one sort are told from what follows them. -/
theorem span_append {p : Char → Bool} {front rest : List Char} (all : ∀ c ∈ front, p c = true)
    (stops : ∀ c ∈ rest.head?, p c = false) :
    (front ++ rest).takeWhile p = front ∧ (front ++ rest).dropWhile p = rest := by
  -- All of the front is taken, and nothing of the rest is.
  rw [List.takeWhile_append_of_pos all, List.dropWhile_append_of_pos all]
  cases rest with
  | nil => exact ⟨List.append_nil _, rfl⟩
  | cons c rest => simp [stops c rfl]

/-- An exponent starts with no digit. -/
theorem IsExponent.isUndigited {mark : List Char} {exponent : Int}
    (marked : IsExponent mark exponent) : IsUndigited mark := by
  intro c first
  -- An exponent is missing or starts with its mark, which is no digit.
  cases marked with
  | none => cases first
  | marked mark_eq integer =>
    rcases mark_eq with rfl | rfl
    · cases first
      rfl
    · cases first
      rfl

/-- Exponents are read. -/
theorem readExponent_eq_some_iff {mark : List Char} {value : Binary64} (make : Int → Binary64) :
    (match mark with
      | [] => some (make 0)
      | e :: rest => if e = 'e' ∨ e = 'E' then (readInt? rest).map make else none) = some value ↔
      ∃ exponent, IsExponent mark exponent ∧ make exponent = value := by
  -- Without a mark the exponent is zero, and behind a mark it is an integer.
  cases mark with
  | nil =>
    constructor
    · exact fun read => ⟨0, .none, Option.some.inj read⟩
    · rintro ⟨_, ⟨⟩, rfl⟩
      rfl
  | cons e rest =>
    simp only [Option.ite_none_right_eq_some, Option.map_eq_some_iff, readInt?_eq_some_iff]
    constructor
    · rintro ⟨mark_eq, exponent, integer, made⟩
      exact ⟨exponent, .marked mark_eq integer, made⟩
    · rintro ⟨exponent, ⟨⟩ | ⟨mark_eq, integer⟩, made⟩
      exact ⟨mark_eq, exponent, integer, made⟩

/-- Magnitudes are read. -/
theorem readUnsigned?_of_isMagnitude {negative : Bool} {text : List Char} {value : Binary64}
    (magnitude : IsMagnitude negative text value) : readUnsigned? negative text = some value := by
  obtain @⟨whole, point, fraction, mark, exponent, whole_all, pointed, nonempty, marked⟩ :=
    magnitude
  -- Neither a point nor the mark of an exponent is a digit.
  have stops : IsUndigited (point ++ mark) := by
    cases pointed with
    | none => exact marked.isUndigited
    | point => exact fun c first => by cases first; rfl
  obtain ⟨whole_eq, rest_eq⟩ := span_append whole_all stops
  unfold readUnsigned?
  simp only [whole_eq, rest_eq]
  have read := (readExponent_eq_some_iff fun exponent =>
    .ofDecimal negative (Nat.ofDigitChars 10 (whole ++ fraction) 0)
      (exponent - fraction.length)).2 ⟨exponent, marked, rfl⟩
  cases pointed with
  | none =>
    -- The mark of an exponent is no point.
    cases marked with
    | none => exact (if_neg (not_and_or.2 nonempty)).trans read
    | marked mark_eq =>
      rcases mark_eq with rfl | rfl
      · exact (if_neg (not_and_or.2 nonempty)).trans read
      · exact (if_neg (not_and_or.2 nonempty)).trans read
  | point digits_all =>
    obtain ⟨fraction_eq, mark_eq⟩ := span_append digits_all marked.isUndigited
    simp only [List.cons_append, fraction_eq, mark_eq]
    exact (if_neg (not_and_or.2 nonempty)).trans read

/-- What is read is a magnitude. -/
theorem isMagnitude_of_readUnsigned? {negative : Bool} {text : List Char} {value : Binary64}
    (read : readUnsigned? negative text = some value) : IsMagnitude negative text value := by
  have all_takeWhile (text : List Char) : ∀ c ∈ text.takeWhile isDigit, isDigit c = true :=
    fun c listed => List.mem_takeWhile_imp listed
  -- Whatever the fraction is, the digits in front of it and the exponent behind it are read.
  have parts {point fraction mark : List Char} (pointed : IsFraction point fraction)
      (rest_eq : text.dropWhile isDigit = point ++ mark)
      (nonempty : ¬ (text.takeWhile isDigit = [] ∧ fraction = []))
      (exponents : ∃ exponent, IsExponent mark exponent ∧
        Binary64.ofDecimal negative (Nat.ofDigitChars 10 (text.takeWhile isDigit ++ fraction) 0)
          (exponent - fraction.length) = value) : IsMagnitude negative text value := by
    obtain ⟨exponent, marked, rfl⟩ := exponents
    have magnitude : IsMagnitude negative _ _ :=
      .intro (all_takeWhile text) pointed (not_and_or.1 nonempty) marked
    rwa [← rest_eq, List.takeWhile_append_dropWhile] at magnitude
  unfold readUnsigned? at read
  dsimp only at read
  -- There is a point and a fraction, or there is neither.
  split at read
  · rename_i rest rest_eq
    obtain ⟨nonempty, marked⟩ := Option.ite_none_left_eq_some.1 read
    refine parts (.point (all_takeWhile rest)) ?_ nonempty ((readExponent_eq_some_iff _).1 marked)
    rw [rest_eq, List.cons_append, List.takeWhile_append_dropWhile]
  · obtain ⟨nonempty, marked⟩ := Option.ite_none_left_eq_some.1 read
    exact parts .none rfl nonempty ((readExponent_eq_some_iff _).1 marked)

/-- Magnitudes are read. -/
theorem readUnsigned?_eq_some_iff {negative : Bool} {text : List Char} {value : Binary64} :
    readUnsigned? negative text = some value ↔ IsMagnitude negative text value :=
  ⟨isMagnitude_of_readUnsigned?, readUnsigned?_of_isMagnitude⟩

/-- A magnitude starts with a digit or a point. -/
theorem IsMagnitude.starts {negative : Bool} {text : List Char} {value : Binary64}
    (magnitude : IsMagnitude negative text value) :
    ∃ c rest, text = c :: rest ∧ (isDigit c = true ∨ c = '.') := by
  obtain @⟨whole, point, fraction, mark, exponent, whole_all, pointed, nonempty, marked⟩ :=
    magnitude
  -- Without digits in front there must be a point, for the digits behind it need one.
  cases whole with
  | cons c whole => exact ⟨c, _, rfl, .inl (whole_all c List.mem_cons_self)⟩
  | nil =>
    cases pointed with
    | none => simp at nonempty
    | point => exact ⟨'.', _, rfl, .inr rfl⟩

/-- An integer starts with a sign or a digit. -/
theorem IsInteger.starts {text : List Char} {value : Int} (integer : IsInteger text value) :
    ∃ c rest, text = c :: rest ∧ (isDigit c = true ∨ c = '-' ∨ c = '+') := by
  obtain ⟨signed, nonempty, digits_all⟩ := integer
  obtain ⟨c, rest, rfl⟩ := List.exists_cons_of_ne_nil nonempty
  -- The sign stands first, and without it the first digit does.
  cases signed with
  | none => exact ⟨c, rest, rfl, .inl (digits_all c List.mem_cons_self)⟩
  | plus => exact ⟨'+', c :: rest, rfl, .inr (.inr rfl)⟩
  | minus => exact ⟨'-', c :: rest, rfl, .inr (.inl rfl)⟩

/-- A number in decimal starts with a sign, a digit or a point. -/
theorem IsDecimal.starts {text : List Char} {value : Binary64} (decimal : IsDecimal text value) :
    ∃ c rest, text = c :: rest ∧ (isDigit c = true ∨ c = '.' ∨ c = '-' ∨ c = '+') := by
  obtain ⟨signed, magnitude⟩ := decimal
  obtain ⟨c, rest, rfl, start⟩ := magnitude.starts
  -- The sign stands first, and without it the magnitude does.
  cases signed with
  | none => exact ⟨c, rest, rfl, start.imp_right .inl⟩
  | plus => exact ⟨'+', c :: rest, rfl, .inr (.inr (.inr rfl))⟩
  | minus => exact ⟨'-', c :: rest, rfl, .inr (.inr (.inl rfl))⟩

/-- What holds of the ten digits holds of a digit. -/
theorem of_isDigit {p : Char → Prop} (ten : ∀ code < 58, 48 ≤ code → p (Char.ofNat code))
    {c : Char} (digit : isDigit c = true) : p c := by
  rw [isDigit, Bool.and_eq_true, decide_eq_true_eq, decide_eq_true_eq] at digit
  -- The digits are the ten characters from the code 48 on.
  have least : 48 ≤ c.toNat := Char.le_def.1 digit.1
  have greatest : c.toNat < 58 := Nat.lt_succ_of_le (Char.le_def.1 digit.2)
  simpa using ten c.toNat greatest least

/-- A digit has no other case. -/
theorem toLower_of_isDigit {c : Char} (digit : isDigit c = true) : c.toLower = c := by
  -- All capital letters come behind the digits.
  obtain ⟨_, below⟩ : '0' ≤ c ∧ c ≤ '9' := by simpa [isDigit] using digit
  unfold Char.toLower
  split
  · rename_i upper
    exact absurd (UInt32.le_trans upper.1 below) (by decide)
  · rfl

/-- Numbers in decimal are read, and nothing else is read as a finite number. -/
theorem readBinary64?_eq_some_iff {text : List Char} {value : Binary64}
    (finite : value.isFinite = true) : readBinary64? text = some value ↔ IsDecimal text value := by
  constructor
  · intro read
    unfold readBinary64? at read
    obtain ⟨sign, signed, text_eq⟩ := exists_splitSign text
    rcases splitSign text with ⟨negative, unsigned⟩
    simp only at read signed text_eq
    rw [text_eq]
    -- The names of values are read as none that is finite.
    split at read
    · cases read
      cases finite
    · split at read
      · cases read
        cases finite
      · exact .intro signed (readUnsigned?_eq_some_iff.1 read)
  · -- Conversely, the magnitude behind the sign is read as such, unless it could be a name.
    rintro ⟨signed, magnitude⟩
    obtain ⟨c, rest, rfl, start⟩ := magnitude.starts
    have unsigned : IsUnsigned (c :: rest) := by
      rcases start with digit | rfl
      · exact isUnsigned_of_isDigit digit rest
      · exact fun first first_eq => by cases first_eq; decide
    -- A name starts with a letter, and what starts a magnitude has no other case.
    have unnamed (name : List Char) (first : name.head? = some 'i' ∨ name.head? = some 'n') :
        (c :: rest).map Char.toLower ≠ name := by
      have same : c.toLower = c := by
        rcases start with digit | rfl
        · exact toLower_of_isDigit digit
        · rfl
      rintro rfl
      rw [List.map_cons, List.head?_cons, same] at first
      rcases start with digit | rfl
      · rcases first with first | first <;> cases first <;> exact nomatch digit
      · simp at first
    simp only [readBinary64?, splitSign_append signed unsigned]
    rw [if_neg, if_neg]
    · exact readUnsigned?_eq_some_iff.2 magnitude
    · exact unnamed _ (.inr rfl)
    · exact not_or.2 ⟨unnamed _ (.inl rfl), unnamed _ (.inl rfl)⟩

/-! ### Integers that are written -/

/-- The ten digits are those that the library knows. -/
theorem isDigit_eq (c : Char) : isDigit c = c.isDigit := rfl

/-- Numbers are written in digits. -/
theorem all_isDigit_toDigits (n : Nat) : ∀ c ∈ Nat.toDigits 10 n, isDigit c := by
  intro c listed
  rw [isDigit_eq]
  exact Nat.isDigit_of_mem_toDigits (by decide) (by decide) listed

/-- An integer is written in decimal. -/
theorem isInteger_writeInt (value : Int) : IsInteger (writeInt value) value := by
  have digits_all := all_isDigit_toDigits value.natAbs
  have digits_value : Nat.ofDigitChars 10 (Nat.toDigits 10 value.natAbs) 0 = value.natAbs :=
    Nat.ofDigitChars_ten_toDigits
  unfold writeInt
  -- The digits are those of the absolute value, behind a minus if there has to be one.
  split
  · rename_i negative
    have integer := IsInteger.intro .minus Nat.toDigits_ne_nil digits_all
    rwa [if_pos rfl, digits_value, Int.ofNat_natAbs_of_nonpos (Int.le_of_lt negative),
      Int.neg_neg] at integer
  · rename_i natural
    have integer := IsInteger.intro .none Nat.toDigits_ne_nil digits_all
    rwa [if_neg Bool.false_ne_true, digits_value,
      Int.natAbs_of_nonneg (Int.not_lt.1 natural)] at integer

end FlightQuery.Number
