import FlightQuery.Json
import FlightQuery.Number.Reader

/-! JSON documents as they are written.

A document keeps repeated keys and parts that no value can represent: these matter only to those
who ask for the value of such a part. -/

namespace FlightQuery

/-- A quoted text of a document. -/
structure Quoted where
  /-- The text, unless an escape in it stands for half of a surrogate pair. -/
  text? : Option String
  /-- Whether any character was written as an escape. -/
  escaped : Bool
  deriving Repr, Inhabited

/-- A document, in which every part is well formed. -/
inductive Document where
  | null
  | bool (value : Bool)
  /-- A number, unless it lies outside the range of numbers. -/
  | number (value? : Option JsonNumber)
  | text (quoted : Quoted)
  | list (items : List Document)
  | object (members : List (Quoted × Document))
  deriving Repr, Inhabited

namespace Document

/-- Whether a character may stand between the parts of a document. -/
def isSpace (c : Char) : Bool := c == ' ' || c == '\t' || c == '\n' || c == '\r'

/-- Drop the space in front of the next part. -/
def skipSpace (input : List Char) : List Char := input.dropWhile isSpace

/-! ### Quoted texts -/

/-- A piece of a quoted text: a character, or a code unit given by its four hexadecimal digits. -/
inductive Piece where
  | char (c : Char)
  | unit (code : Nat)

/-- The code unit with the given four digits. -/
def hexUnit? (a b c d : Char) : Option Nat := do
  let digits ← [a, b, c, d].mapM Number.hexDigit?
  return digits.foldl (fun code digit => 16 * code + digit) 0

/-- The character that a backslash and the given character stand for. -/
def shortEscape? (c : Char) : Option Char :=
  [('"', '"'), ('\\', '\\'), ('/', '/'), ('b', '\u0008'), ('f', '\u000c'), ('n', '\n'),
    ('r', '\r'), ('t', '\t')].lookup c

/-- Read the pieces up to the closing quote, and the rest of the text. -/
def readPieces? : List Char → Option (List Piece × List Char)
  | [] => none
  | '"' :: rest => some ([], rest)
  | '\\' :: 'u' :: a :: b :: c :: d :: rest => do
    let code ← hexUnit? a b c d
    let (pieces, rest) ← readPieces? rest
    return (.unit code :: pieces, rest)
  | '\\' :: e :: rest => do
    let c ← shortEscape? e
    let (pieces, rest) ← readPieces? rest
    return (.char c :: pieces, rest)
  | c :: rest =>
    -- Control characters are written as escapes only, and a backslash alone is none.
    if c.toNat < 32 ∨ c = '\\' then none
    else do
      let (pieces, rest) ← readPieces? rest
      return (.char c :: pieces, rest)

/-- The text of the pieces, unless a unit is half of a surrogate pair. -/
def joinPieces? : List Piece → Option (List Char)
  | [] => some []
  | .char c :: rest => (joinPieces? rest).map (c :: ·)
  | .unit high :: .unit low :: rest =>
    if 0xD800 ≤ high ∧ high < 0xDC00 then
      if 0xDC00 ≤ low ∧ low < 0xE000 then
        (joinPieces? rest).map
          (Char.ofNat (0x10000 + (high - 0xD800) * 0x400 + (low - 0xDC00)) :: ·)
      else none
    else if 0xDC00 ≤ high ∧ high < 0xE000 then none
    else (joinPieces? (.unit low :: rest)).map (Char.ofNat high :: ·)
  | .unit code :: rest =>
    if 0xD800 ≤ code ∧ code < 0xE000 then none
    else (joinPieces? rest).map (Char.ofNat code :: ·)

/-- Read a quoted text after its opening quote. -/
def readQuoted? (input : List Char) : Option (Quoted × List Char) := do
  let (pieces, rest) ← readPieces? input
  let written := input.take (input.length - rest.length)
  return ({ text? := (joinPieces? pieces).map String.ofList, escaped := written.contains '\\' },
    rest)

/-! ### Numbers -/

/-- A number as it is written. -/
structure Numeral where
  negative : Bool
  whole : List Char
  fraction : Option (List Char)
  exponent : Option Int

/-- Read the digits at the head of a text, of which there is at least one. -/
def readRun? (input : List Char) : Option (List Char × List Char) :=
  match input.takeWhile Number.isDigit with
  | [] => none
  | digits => some (digits, input.dropWhile Number.isDigit)

/-- Read a numeral after its sign. A whole part of several digits does not start with a zero. -/
def readNumeral? (negative : Bool) (input : List Char) : Option (Numeral × List Char) := do
  let (whole, rest) ← readRun? input
  if whole.head? = some '0' ∧ whole.length ≠ 1 then none
  let (fraction, rest) ← match rest with
    | '.' :: rest => (readRun? rest).map fun (digits, rest) => (some digits, rest)
    | _ => some (none, rest)
  let (exponent, rest) ← match rest with
    | e :: rest' =>
      if e = 'e' ∨ e = 'E' then
        let (negative, rest') := Number.splitSign rest'
        (readRun? rest').map fun (digits, rest) =>
          let value : Int := Nat.ofDigitChars 10 digits 0
          (some (if negative then -value else value), rest)
      else some (none, rest)
    | [] => some (none, rest)
  return ({ negative, whole, fraction, exponent }, rest)

/-- Append digits to a significand for as long as it stays within 64 bits. -/
def absorb (significand : Nat) : List Char → Nat × List Char
  | [] => (significand, [])
  | digit :: digits =>
    let next := significand * 10 + (digit.toNat - '0'.toNat)
    if next < UInt64.size then absorb next digits else (significand, digit :: digits)

/-- Scale a significand by a power of ten in one rounded step, or two for the smallest numbers. -/
def scale? (significand : Nat) (exponent : Int) : Option Binary64 :=
  let value := Binary64.ofInt significand
  if 0 ≤ exponent then
    if exponent ≤ 308 then
      let product := value.times (.powerOfTen exponent.toNat)
      if product.isFinite then some product else none
    else if significand = 0 then some value else none
  else if -308 ≤ exponent then some (value.dividedBy (.powerOfTen exponent.natAbs))
  else if -616 ≤ exponent then
    some ((value.dividedBy (.powerOfTen 308)).dividedBy (.powerOfTen (exponent.natAbs - 308)))
  else some (.zero false)

/-- The value of a numeral, unless it is out of range. Digits beyond 64 bits are dropped. -/
def Numeral.value? (numeral : Numeral) : Option JsonNumber :=
  let (significand, dropped) := absorb 0 numeral.whole
  let signed (value : Binary64) := if numeral.negative then value.negate else value
  if dropped = [] ∧ numeral.fraction = none ∧ numeral.exponent = none then
    if numeral.negative then
      if 0 < significand ∧ Int64.minValue.toInt ≤ -significand then some (.int (-significand))
      else some (.float (signed (.ofInt significand)))
    else some (.int significand)
  else
    let fraction := numeral.fraction.getD []
    let (significand, ignored) := absorb significand fraction
    let exponent : Int := dropped.length - (fraction.length - ignored.length : Nat)
    (scale? significand (exponent + numeral.exponent.getD 0)).map fun value =>
      .float (signed value)

/-! ### Documents -/

/-- Drop a word from the head of a text. -/
def dropWord? (word : List Char) (input : List Char) : Option (List Char) :=
  if word.isPrefixOf input then some (input.drop word.length) else none

mutual

/-- Read a document and the rest of the text. The fuel bounds the number of nested calls. -/
def readValue? : (fuel : Nat) → List Char → Option (Document × List Char)
  | 0, _ => none
  | fuel + 1, input =>
    match skipSpace input with
    | '"' :: rest => (readQuoted? rest).map fun (quoted, rest) => (.text quoted, rest)
    | '[' :: rest =>
      match skipSpace rest with
      | ']' :: rest => some (.list [], rest)
      | _ => do
        let (item, rest) ← readValue? fuel rest
        let (items, rest) ← readItems? fuel rest
        return (.list (item :: items), rest)
    | '{' :: rest =>
      match skipSpace rest with
      | '}' :: rest => some (.object [], rest)
      | _ => do
        let (member, rest) ← readMember? fuel rest
        let (members, rest) ← readMembers? fuel rest
        return (.object (member :: members), rest)
    | 'n' :: rest => (dropWord? ['u', 'l', 'l'] rest).map fun rest => (.null, rest)
    | 't' :: rest => (dropWord? ['r', 'u', 'e'] rest).map fun rest => (.bool true, rest)
    | 'f' :: rest => (dropWord? ['a', 'l', 's', 'e'] rest).map fun rest => (.bool false, rest)
    | '-' :: rest =>
      (readNumeral? true rest).map fun (numeral, rest) => (.number numeral.value?, rest)
    | rest => (readNumeral? false rest).map fun (numeral, rest) => (.number numeral.value?, rest)

/-- Read the items after the first one and the closing bracket. -/
def readItems? : (fuel : Nat) → List Char → Option (List Document × List Char)
  | 0, _ => none
  | fuel + 1, input =>
    match skipSpace input with
    | ']' :: rest => some ([], rest)
    | ',' :: rest => do
      let (item, rest) ← readValue? fuel rest
      let (items, rest) ← readItems? fuel rest
      return (item :: items, rest)
    | _ => none

/-- Read a key, a colon and a value. -/
def readMember? : (fuel : Nat) → List Char → Option ((Quoted × Document) × List Char)
  | 0, _ => none
  | fuel + 1, input =>
    match skipSpace input with
    | '"' :: rest => do
      let (key, rest) ← readQuoted? rest
      match skipSpace rest with
      | ':' :: rest =>
        let (value, rest) ← readValue? fuel rest
        return ((key, value), rest)
      | _ => none
    | _ => none

/-- Read the members after the first one and the closing brace. -/
def readMembers? : (fuel : Nat) → List Char → Option (List (Quoted × Document) × List Char)
  | 0, _ => none
  | fuel + 1, input =>
    match skipSpace input with
    | '}' :: rest => some ([], rest)
    | ',' :: rest => do
      let (member, rest) ← readMember? fuel rest
      let (members, rest) ← readMembers? fuel rest
      return (member :: members, rest)
    | _ => none

end

/-- Read a text that holds one document and nothing else but space. -/
def read? (input : String) : Option Document :=
  -- Every nested call stands behind a character of its own.
  match readValue? (input.length + 1) input.toList with
  | some (document, rest) => if skipSpace rest = [] then some document else none
  | none => none

end Document
end FlightQuery
