import FlightQuery.Number.Reader

/-! Percent-encoding: bytes that a part of a URL cannot hold are written by their digits. -/

namespace FlightQuery.Percent

/-- The two hexadecimal digits of a byte behind a percent sign. -/
def encodeByte (byte : UInt8) : List Char :=
  ['%', (Nat.digitChar (byte.toNat / 16)).toUpper, (Nat.digitChar (byte.toNat % 16)).toUpper]

/-- Encode all bytes of a character. -/
def encodeChar (c : Char) : List Char := (String.utf8EncodeChar c).flatMap encodeByte

/-- Encode the characters of a text that do not stand for themselves. -/
def encode (keeps : Char → Bool) (text : List Char) : List Char :=
  text.flatMap fun c => if keeps c then [c] else encodeChar c

/-- The bytes of a text, in which percent signs with two digits stand for bytes. -/
def decode : List Char → List UInt8
  | [] => []
  | '%' :: high :: low :: rest =>
    match Number.hexDigit? high, Number.hexDigit? low with
    | some high, some low => UInt8.ofNat (16 * high + low) :: decode rest
    | _, _ => String.utf8EncodeChar '%' ++ decode (high :: low :: rest)
  | c :: rest => String.utf8EncodeChar c ++ decode rest

/-! ### The characters that stand for themselves -/

/-- A printing ASCII character. -/
def isPrinting (c : Char) : Bool := ' ' ≤ c && c ≤ '~'

/-- In a path that does not consist of segments. -/
def keepsPlain (c : Char) : Bool := isPrinting c

/-- In a fragment. -/
def keepsFragment (c : Char) : Bool :=
  isPrinting c && !([' ', '"', '<', '>', '`'].contains c)

/-- In a query. -/
def keepsQuery (c : Char) : Bool := isPrinting c && !([' ', '"', '#', '<', '>'].contains c)

/-- In a query of a special URL. -/
def keepsSpecialQuery (c : Char) : Bool := keepsQuery c && c != '\''

/-- In a path that is read as a whole. -/
def keepsPath (c : Char) : Bool := keepsFragment c && !(['#', '?', '\x7b', '\x7d'].contains c)

/-- In one segment of a path. -/
def keepsSegment (c : Char) : Bool := keepsPath c && !(['/', '%'].contains c)

/-- In one segment of the path of a special URL. -/
def keepsSpecialSegment (c : Char) : Bool := keepsSegment c && c != '\\'

/-- In a user or a password. -/
def keepsUserinfo (c : Char) : Bool :=
  keepsPath c && !(['/', ':', ';', '=', '@', '[', '\\', ']', '^', '|'].contains c)

/-- In a name or a value of a form. -/
def keepsForm (c : Char) : Bool := c.isAlphanum || ['*', '-', '.', '_'].contains c

/-! ### Forms -/

/-- Encode a name or a value of a form, in which a plus stands for a blank. -/
def encodeForm (text : String) : List Char :=
  text.toList.flatMap fun c =>
    if c = ' ' then ['+'] else if keepsForm c then [c] else encodeChar c

/-- Write the pairs of names and values of a form. -/
def writeForm (pairs : List (String × String)) : List Char :=
  ['&'].intercalate (pairs.map fun (name, value) => encodeForm name ++ '=' :: encodeForm value)

end FlightQuery.Percent
