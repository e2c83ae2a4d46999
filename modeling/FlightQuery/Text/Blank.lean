/-! Blank characters and the removal of surrounding blanks. -/

namespace FlightQuery.Text

/-- The blank characters are those with the White_Space property. -/
def isBlank (c : Char) : Bool :=
  c == ' ' || ('\t' ≤ c && c ≤ '\r') || c == '\u0085' || c == '\u00a0' || c == '\u1680' ||
    ('\u2000' ≤ c && c ≤ '\u200a') || c == '\u2028' || c == '\u2029' || c == '\u202f' ||
    c == '\u205f' || c == '\u3000'

/-- Whether a text starts with a blank. -/
def startsBlank : List Char → Bool
  | c :: _ => isBlank c
  | [] => false

/-- Drop the blanks a text starts with. -/
def trimStart (text : List Char) : List Char :=
  text.dropWhile isBlank

/-- Drop the characters a text ends with for as long as they satisfy a test. -/
def dropEndWhile (drop : Char → Bool) (text : List Char) : List Char :=
  (text.reverse.dropWhile drop).reverse

/-- Drop the blanks a text ends with. -/
def trimEnd (text : List Char) : List Char :=
  dropEndWhile isBlank text

/-- Drop the blanks on both sides of a text. -/
def trim (text : List Char) : List Char :=
  trimEnd (trimStart text)

/-- A trimmed string. -/
def trimmed (text : String) : String :=
  String.ofList (trim text.toList)

end FlightQuery.Text
