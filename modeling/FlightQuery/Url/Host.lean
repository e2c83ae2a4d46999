import FlightQuery.Error
import FlightQuery.Url.Domain.Label
import FlightQuery.Url.Percent

/-! The hosts of URLs: domains and addresses. -/

namespace FlightQuery

namespace Domain

/-- Whether a domain cannot hold a character. -/
def isForbidden (c : Char) : Bool :=
  c ≤ ' ' || c == '\x7f' ||
    ['%', '#', '/', ':', '<', '>', '?', '@', '[', '\\', ']', '^', '|'].contains c

/-- The domain in ASCII letters that a text stands for. -/
def read? (text : List Char) : Option (List Char) := do
  let mapped ← text.mapM map?
  let composed := compose mapped.flatten
  let labels := composed.splitOn '.'
  let meanings ← labels.mapM meaning?
  if composed.any isForbidden then none
  else if meanings.all isSound && directionsAgree meanings then
    some (['.'].intercalate (labels.map writeLabel))
  else none

end Domain

/-- A host. -/
inductive Host where
  /-- A name, which is empty where a URL names no host. -/
  | domain (name : String)
  | ipv4 (address : UInt32)
  /-- The eight pieces of an address. -/
  | ipv6 (pieces : List UInt16)
  deriving DecidableEq, Repr, Inhabited

namespace Host

/-! ### Addresses of 32 bits -/

/-- Read one number of an address, in octal behind a zero and in hexadecimal behind `0x`. -/
def readIpv4Number? (text : List Char) : Option Nat :=
  let inBase (base : Nat) (isDigit : Char → Bool) (digits : List Char) :=
    if digits.all isDigit then
      some (digits.foldl
        (fun value c => base * value + (Number.hexDigit? c).getD 0) 0)
    else none
  match text with
  | [] => none
  | '0' :: 'x' :: digits => inBase 16 (fun c => (Number.hexDigit? c).isSome) digits
  | '0' :: 'X' :: digits => inBase 16 (fun c => (Number.hexDigit? c).isSome) digits
  | '0' :: c :: digits => inBase 8 (fun c => '0' ≤ c && c ≤ '7') (c :: digits)
  | digits => inBase 10 Char.isDigit digits

/-- The parts of a domain between its points. A last point has nothing behind it. -/
def domainParts (text : List Char) : List (List Char) :=
  let parts := text.splitOn '.'
  if 1 < parts.length ∧ parts.getLast? = some [] then parts.dropLast else parts

/-- Whether the last part of a domain is a number, so that the domain is an address. -/
def endsInNumber (text : List Char) : Bool :=
  match (domainParts text).getLast? with
  | none => false
  | some [] => false
  | some part => part.all Char.isDigit || (readIpv4Number? part).isSome

/-- The address of its numbers. All but the last stand for one byte each. -/
def ipv4OfNumbers? (numbers : List Nat) : Option UInt32 :=
  match numbers.reverse with
  | [] => none
  | last :: front =>
    if 4 < numbers.length ∨ front.any (fun number => 255 < number) ∨
        Nat.pow 256 (5 - numbers.length) ≤ last then none
    else
      let high := front.reverse.foldl (fun value number => 256 * value + number) 0
      some (UInt32.ofNat (high * Nat.pow 256 (5 - numbers.length) + last))

/-- Read an address of 32 bits. -/
def readIpv4? (text : List Char) : Option UInt32 :=
  ((domainParts text).mapM readIpv4Number?).bind ipv4OfNumbers?

/-- Write an address of 32 bits by its bytes. -/
def writeIpv4 (address : UInt32) : List Char :=
  let value := address.toNat
  ['.'].intercalate
    ([value / Nat.pow 256 3, value / Nat.pow 256 2 % 256, value / 256 % 256, value % 256].map
      (Nat.toDigits 10))

/-! ### Addresses of 128 bits -/

/-- Read one piece of an address. -/
def readPiece? (text : List Char) : Option UInt16 :=
  if text = [] ∨ 4 < text.length then none
  else
    (text.mapM Number.hexDigit?).map fun digits =>
      UInt16.ofNat (digits.foldl (fun value digit => 16 * value + digit) 0)

/-- Read a byte in decimal without leading zeros. -/
def readByte? (text : List Char) : Option Nat :=
  if text = [] ∨ !text.all Char.isDigit ∨ (1 < text.length ∧ text.head? = some '0') then none
  else
    let value := Nat.ofDigitChars 10 text 0
    if value < 256 then some value else none

/-- Read four bytes as two pieces. -/
def readBytes? (text : List Char) : Option (List UInt16) := do
  match ← (text.splitOn '.').mapM readByte? with
  | [a, b, c, d] => some [UInt16.ofNat (256 * a + b), UInt16.ofNat (256 * c + d)]
  | _ => none

/-- Read pieces between colons. The last two pieces may be written as four bytes. -/
def readPieces? (bytesAllowed : Bool) : List (List Char) → Option (List UInt16)
  | [] => some []
  | [part] =>
    if bytesAllowed ∧ part.contains '.' then readBytes? part
    else (readPiece? part).map fun piece => [piece]
  | part :: parts => do
    let piece ← readPiece? part
    let pieces ← readPieces? bytesAllowed parts
    return piece :: pieces

/-- Split a text at its first two colons in a row. -/
def splitDoubleColon? : List Char → Option (List Char × List Char)
  | [] => none
  | ':' :: ':' :: rest => some ([], rest)
  | c :: rest => (splitDoubleColon? rest).map fun (front, back) => (c :: front, back)

/-- The pieces of a text, which may be empty. -/
def piecesOf? (bytesAllowed : Bool) (text : List Char) : Option (List UInt16) :=
  if text = [] then some [] else readPieces? bytesAllowed (text.splitOn ':')

/-- Read an address of 128 bits. Two colons in a row stand for one or more zero pieces. -/
def readIpv6? (text : List Char) : Option (List UInt16) :=
  match splitDoubleColon? text with
  | none => do
    let pieces ← readPieces? true (text.splitOn ':')
    if pieces.length = 8 then some pieces else none
  | some (front, back) => do
    let front ← piecesOf? false front
    let back ← piecesOf? true back
    if front.length + back.length ≤ 7 then
      some (front ++ List.replicate (8 - front.length - back.length) 0 ++ back)
    else none

/-- The number of zeros a list starts with. -/
def zeros (pieces : List UInt16) : Nat := (pieces.takeWhile (· == 0)).length

/-- The start and the length of the first of the longest runs of zeros. -/
def longestZeros (pieces : List UInt16) : Nat × Nat :=
  (List.range pieces.length).foldl (fun best start =>
    let length := zeros (pieces.drop start)
    if best.2 < length then (start, length) else best) (0, 0)

/-- Write pieces with colons between them. -/
def writePieces (pieces : List UInt16) : List Char :=
  [':'].intercalate (pieces.map fun piece => Nat.toDigits 16 piece.toNat)

/-- Write an address of 128 bits. A run of zeros is left out. -/
def writeIpv6 (pieces : List UInt16) : List Char :=
  match longestZeros pieces with
  | (start, length) =>
    if length < 2 then writePieces pieces
    else
      writePieces (pieces.take start) ++ ':' :: ':' :: writePieces (pieces.drop (start + length))

/-! ### Reading -/

/-- The domain in ASCII letters that the bytes of a text stand for. -/
def readDomain? (text : List Char) : Option (List Char) := do
  let decoded ← String.fromUTF8? ⟨(Percent.decode text).toArray⟩
  Domain.read? decoded.toList

/-- The text between brackets, if a text is in brackets. -/
def bracketed? : List Char → Option (Option (List Char))
  | '[' :: rest => if rest.getLast? = some ']' then some (some rest.dropLast) else some none
  | _ => none

/-- Read the host of a special URL. -/
def readSpecial (text : List Char) : Except UrlFault Host :=
  match bracketed? text with
  | some inside =>
    match inside.bind readIpv6? with
    | some pieces => .ok (.ipv6 pieces)
    | none => .error .invalidIpv6
  | none =>
    match readDomain? text with
    | none => .error .idna
    | some name =>
      if name = [] then .error .emptyHost
      else if endsInNumber name then
        match readIpv4? name with
        | some address => .ok (.ipv4 address)
        | none => .error .invalidIpv4
      else .ok (.domain (String.ofList name))

/-- Whether a name that is no domain cannot hold a character. -/
def isForbiddenPlain (c : Char) : Bool :=
  ['\x00', '\t', '\n', '\r', ' ', '#', '/', ':', '<', '>', '?', '@', '[', '\\', ']', '^',
    '|'].contains c

/-- Read the host of a URL that is not special. Its name is kept as it is written. -/
def readPlain (text : List Char) : Except UrlFault Host :=
  match bracketed? text with
  | some inside =>
    match inside.bind readIpv6? with
    | some pieces => .ok (.ipv6 pieces)
    | none => .error .invalidIpv6
  | none =>
    if text.any isForbiddenPlain then .error .invalidDomainCharacter
    else .ok (.domain (String.ofList (Percent.encode Percent.keepsPlain text)))

/-- Write a host. -/
def write : Host → List Char
  | domain name => name.toList
  | ipv4 address => writeIpv4 address
  | ipv6 pieces => '[' :: writeIpv6 pieces ++ [']']

end Host
end FlightQuery
