import FlightQuery.Cache.Key
import FlightQuery.Proofs.Text.Blank
import FlightQuery.Proofs.Url.Percent
import Mathlib.Data.Nat.Digits.Defs

/-! The names of the files that keep trees: what is hashed tells the keys apart, and the names tell
the hashes apart. -/

namespace FlightQuery.CacheKey

open Text

/-! ### What is hashed -/

/-- No character is written with the byte that ends a text. -/
theorem forall_mem_utf8EncodeChar (c : Char) : ∀ byte ∈ String.utf8EncodeChar c, byte ≠ 0xff := by
  have small (value : Nat) (bound : value < 255) : UInt8.ofNat value ≠ 0xff := by
    intro same
    have values := congrArg UInt8.toNat same
    rw [UInt8.toNat_ofNat_of_lt' (Nat.lt_succ_of_lt bound)] at values
    exact absurd values (Nat.ne_of_lt bound)
  -- Each of the four lengths has its own first byte, and all further bytes are alike.
  simp only [String.utf8EncodeChar]
  split_ifs <;>
    simp only [List.forall_mem_cons, List.not_mem_nil, false_implies, implies_true, and_true]
  · exact small _ (by omega)
  · exact ⟨small _ (by omega), small _ (by omega)⟩
  · exact ⟨small _ (by omega), small _ (by omega), small _ (by omega)⟩
  · exact ⟨small _ (by omega), small _ (by omega), small _ (by omega), small _ (by omega)⟩

/-- The byte that ends a text does not stand in it. -/
theorem ne_of_mem_bytes {text : String} {byte : UInt8} (listed : byte ∈ Percent.bytes text) :
    byte ≠ 0xff := by
  -- The bytes of a text are those of its characters.
  rw [Percent.bytes_eq] at listed
  obtain ⟨c, _, listed⟩ := List.mem_flatMap.1 listed
  exact forall_mem_utf8EncodeChar c byte listed

/-- The bytes of a text tell where it ends, whatever follows them. -/
theorem textBytes_append_inj {text text' : String} {rest rest' : List UInt8} :
    textBytes text ++ rest = textBytes text' ++ rest' ↔ text = text' ∧ rest = rest' := by
  -- The text is what stands in front of the first byte that ends one.
  have all (text : String) : ∀ byte ∈ Percent.bytes text, (byte != 0xff) = true :=
    fun byte listed => bne_iff_ne.2 (ne_of_mem_bytes listed)
  have opened (text : String) (rest : List UInt8) :
      textBytes text ++ rest = Percent.bytes text ++ 0xff :: rest := List.append_assoc ..
  have front (text : String) (rest : List UInt8) :
      (textBytes text ++ rest).takeWhile (· != 0xff) = Percent.bytes text := by
    simp [opened, List.takeWhile_append_of_pos (all text)]
  have back (text : String) (rest : List UInt8) :
      (textBytes text ++ rest).dropWhile (· != 0xff) = 0xff :: rest := by
    simp [opened, List.dropWhile_append_of_pos (all text)]
  -- Cutting both sides at this byte gives their texts and what follows them.
  constructor
  · intro same
    have fronts := congrArg (List.takeWhile (· != 0xff)) same
    have backs := congrArg (List.dropWhile (· != 0xff)) same
    rw [front, front] at fronts
    rw [back, back] at backs
    exact ⟨Percent.bytes_inj fronts, (List.cons_eq_cons.1 backs).2⟩
  · rintro ⟨rfl, rfl⟩
    rfl

/-- The bytes of a word are its digits, the lowest first. -/
theorem ofDigits_wordBytes (word : UInt32) :
    Nat.ofDigits 256 ((wordBytes word).map UInt8.toNat) = word.toNat := by
  -- Shifting by eight places takes a digit away, and four digits are all that a word has.
  have bound := word.toNat_lt
  have digits : (wordBytes word).map UInt8.toNat = [word.toNat % 256, word.toNat / 256 % 256,
      word.toNat / 65536 % 256, word.toNat / 16777216 % 256] := by
    simp [wordBytes, Nat.shiftRight_eq_div_pow]
  rw [digits]
  simp only [Nat.ofDigits_cons, Nat.ofDigits_nil]
  omega

/-- The bytes of a word have a fixed length, so that what follows them is told from them. -/
theorem wordBytes_append_inj {word word' : UInt32} {rest rest' : List UInt8} :
    wordBytes word ++ rest = wordBytes word' ++ rest' ↔ word = word' ∧ rest = rest' := by
  constructor
  · -- Four bytes on either side are those of the words, which are read from them.
    intro same
    obtain ⟨words, rests⟩ := List.append_inj same rfl
    have values := congrArg (fun bytes => Nat.ofDigits 256 (bytes.map UInt8.toNat)) words
    simp only [ofDigits_wordBytes] at values
    exact ⟨UInt32.toNat_inj.1 values, rests⟩
  · rintro ⟨rfl, rfl⟩
    rfl

/-- Two servers are the same but for slashes behind them when they are the same without these. -/
theorem withoutSlashes_eq_iff {root root' : String} :
    withoutSlashes root = withoutSlashes root' ↔ ∃ server count count',
      root = server ++ slashes count ∧ root' = server ++ slashes count' := by
  have kept (root : String) : ∃ count, root = withoutSlashes root ++ slashes count := by
    obtain ⟨count, same⟩ := exists_dropEndWhile_slashes root.toList
    refine ⟨count, String.toList_inj.1 ?_⟩
    rwa [toList_append_slashes, withoutSlashes, String.toList_ofList]
  have dropped (server : String) (count : Nat) :
      withoutSlashes (server ++ slashes count) = withoutSlashes server := by
    rw [withoutSlashes, toList_append_slashes, dropEndWhile_append_slashes, withoutSlashes]
  constructor
  · -- What is left without slashes is the server that the two have in common.
    intro same
    obtain ⟨count, root_eq⟩ := kept root
    obtain ⟨count', root_eq'⟩ := kept root'
    exact ⟨withoutSlashes root, count, count', root_eq, same ▸ root_eq'⟩
  · rintro ⟨server, count, count', rfl, rfl⟩
    rw [dropped, dropped]

/-- What is hashed for two keys is the same when they differ in slashes behind the server only. -/
theorem bytes_eq_iff {key key' : CacheKey} : key.bytes = key'.bytes ↔
    (∃ server count count', key.root = server ++ slashes count ∧
      key'.root = server ++ slashes count') ∧
    key.installationId = key'.installationId ∧ key.databaseId = key'.databaseId := by
  -- The parts are taken off one after the other, as each of them tells where it ends.
  have last : textBytes key.databaseId = textBytes key'.databaseId ↔
      key.databaseId = key'.databaseId := by
    simpa using @textBytes_append_inj key.databaseId key'.databaseId [] []
  rw [bytes, bytes, List.append_assoc, List.append_assoc, textBytes_append_inj,
    wordBytes_append_inj, last, withoutSlashes_eq_iff]

/-! ### The names of files -/

/-- A digit of a number in base sixteen, letters being small. -/
def isHexDigit (c : Char) : Bool := Number.isDigit c || ('a' ≤ c && c ≤ 'f')

/-- The number that is written with some digits in base sixteen. -/
def readHex (digits : List Char) : Nat :=
  digits.foldl (fun value c => 16 * value + (Number.hexDigit? c).getD 0) 0

/-- The digits of a number are as many as they have to be. -/
@[simp] theorem length_hexDigits (value count : Nat) : (hexDigits value count).length = count := by
  induction count generalizing value with
  | zero => rfl
  | succ count ih => rw [hexDigits, List.length_append, ih, List.length_singleton]

/-- A number is written with digits in base sixteen. -/
theorem isHexDigit_of_mem {value count : Nat} {c : Char} (listed : c ∈ hexDigits value count) :
    isHexDigit c = true := by
  have all : ∀ digit < 16, isHexDigit (Nat.digitChar digit) = true := by decide
  -- The lowest digit stands last, behind those of the quotient.
  induction count generalizing value with
  | zero => cases listed
  | succ count ih =>
    rcases List.mem_append.1 listed with higher | lowest
    · exact ih higher
    · rw [List.mem_singleton.1 lowest]
      exact all _ (Nat.mod_lt _ (by decide))

/-- The digits of a number are read as the number, as far as there are enough of them. -/
theorem readHex_hexDigits (value count : Nat) :
    readHex (hexDigits value count) = value % 16 ^ count := by
  have all : ∀ digit < 16, Number.hexDigit? (Nat.digitChar digit) = some digit := by decide
  induction count generalizing value with
  | zero => rw [Nat.pow_zero, Nat.mod_one]; rfl
  | succ count ih =>
    -- Reading the last digit multiplies what was read in front of it.
    have step : readHex (hexDigits value (count + 1)) =
        16 * readHex (hexDigits (value / 16) count) + value % 16 := by
      rw [hexDigits, readHex, List.foldl_append, List.foldl_cons, List.foldl_nil,
        all _ (Nat.mod_lt _ (by decide)), Option.getD_some, readHex]
    rw [step, ih, Nat.pow_succ', Nat.mod_mul, Nat.add_comm]

/-- The digits of a hash are read as the hash. -/
theorem readHex_hash (hash : UInt64) : readHex (hexDigits hash.toNat 16) = hash.toNat := by
  rw [readHex_hexDigits]
  exact Nat.mod_eq_of_lt hash.toNat_lt

/-- Different hashes make for different names. -/
theorem fileOfHash_inj {hash hash' : UInt64} :
    fileOfHash hash = fileOfHash hash' ↔ hash = hash' := by
  constructor
  · -- The digits stand in front of the same extension, and the hashes are read from them.
    intro same
    obtain ⟨digits, _⟩ := List.append_inj (String.ofList_injective same) (by simp)
    have values := congrArg readHex digits
    rw [readHex_hash, readHex_hash] at values
    exact UInt64.toNat_inj.1 values
  · rintro rfl
    rfl

/--
The files of two keys have the same name only if the keys are the same or their hashes clash.

What is hashed tells the installation, the database and the server without the slashes behind it.
A name is made of the sixteen digits of the hash and the extension, so that it tells the hash.
-/
theorem file_eq_iff_hash (key key' : CacheKey) :
    (key.bytes = key'.bytes ↔
      (∃ server count count', key.root = server ++ slashes count ∧
        key'.root = server ++ slashes count') ∧
      key.installationId = key'.installationId ∧ key.databaseId = key'.databaseId) ∧
    (∃ digits : List Char, digits.length = 16 ∧ (∀ c ∈ digits, isHexDigit c = true) ∧
      readHex digits = (Sip.hash key.bytes).toNat ∧ key.file = String.ofList digits ++ ".json") ∧
    (key.file = key'.file ↔ Sip.hash key.bytes = Sip.hash key'.bytes) ∧
    ∀ hash hash', fileOfHash hash = fileOfHash hash' ↔ hash = hash' := by
  -- The extension has a fixed length and the digits read back, so that the name tells the hash.
  refine ⟨bytes_eq_iff, ?_, fileOfHash_inj, fun _ _ => fileOfHash_inj⟩
  exact ⟨hexDigits (Sip.hash key.bytes).toNat 16, length_hexDigits .., fun _ => isHexDigit_of_mem,
    readHex_hash _, String.ofList_append⟩

end FlightQuery.CacheKey
