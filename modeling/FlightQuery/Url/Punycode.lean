/-! Punycode, which writes the labels of domains in ASCII letters and reads them back. -/

namespace FlightQuery.Punycode

/-- The digit of a value below 36. -/
def digit (value : Nat) : Char :=
  if value < 26 then Char.ofNat ('a'.toNat + value) else Char.ofNat ('0'.toNat + (value - 26))

/-- From which value on a digit at a position is followed by another one. -/
def threshold (position bias : Nat) : Nat := min 26 (max 1 (position - bias))

/-- Divide a difference until it is small, and count the positions gained. -/
def shrink (difference positions : Nat) : Nat × Nat :=
  if 455 < difference then shrink (difference / 35) (positions + 36) else (difference, positions)
termination_by difference
decreasing_by exact Nat.div_lt_self (by omega) (by omega)

/-- The bias after a difference, of which there have been `count` with this one. -/
def adapt (difference count : Nat) (first : Bool) : Nat :=
  let scaled := if first then difference / 700 else difference / 2
  let (rest, positions) := shrink (scaled + scaled / count) 0
  positions + 36 * rest / (rest + 38)

/-- The digits of a difference, the lowest first. -/
def digits (bias position difference : Nat) : List Char :=
  let least := threshold position bias
  if difference < least then [digit difference]
  else
    digit (least + (difference - least) % (36 - least)) ::
      digits bias (position + 36) ((difference - least) / (36 - least))
termination_by difference
decreasing_by
  have positive : 1 ≤ threshold position bias := by unfold threshold; omega
  calc (difference - threshold position bias) / (36 - threshold position bias)
      ≤ difference - threshold position bias := Nat.div_le_self _ _
    _ < difference := by omega

/-- An encoding in progress. -/
structure State where
  written : List Char
  difference : Nat
  bias : Nat
  /-- How many characters have been written. -/
  count : Nat

/-- Meet a character of the label while the given code point is written. -/
def meet (basic code : Nat) (state : State) (c : Char) : State :=
  if c.toNat < code then { state with difference := state.difference + 1 }
  else if c.toNat = code then
    { written := state.written ++ digits state.bias 36 state.difference
      difference := 0
      bias := adapt state.difference (state.count + 1) (state.count == basic)
      count := state.count + 1 }
  else state

/-- Write the code points of a label that are not ASCII, in ascending order. -/
def writeCodes (label : List Char) (basic : Nat) : (codes : List Nat) → (next : Nat) → State →
    List Char
  | [], _, state => state.written
  | code :: codes, next, state =>
    let state := { state with
      difference := state.difference + (code - next) * (state.count + 1) }
    let state := label.foldl (meet basic code) state
    writeCodes label basic codes (code + 1) { state with difference := state.difference + 1 }

/-- Put a number among ascending ones, once. -/
def insertCode (code : Nat) : List Nat → List Nat
  | [] => [code]
  | other :: codes =>
    if code < other then code :: other :: codes
    else if code = other then other :: codes
    else other :: insertCode code codes

/-- Whether a character is ASCII. -/
def isAscii (c : Char) : Bool := c.toNat < 128

/-- Encode a label. -/
def encode (label : List Char) : List Char :=
  let basic := label.filter isAscii
  let codes := ((label.filter fun c => !isAscii c).map Char.toNat).foldr insertCode []
  (if basic = [] then [] else basic ++ ['-']) ++
    writeCodes label basic.length codes 128
      { written := [], difference := 0, bias := 72, count := basic.length }

/-! ### Reading -/

/-- The value of a digit. -/
def value? (c : Char) : Option Nat :=
  if 'a' ≤ c ∧ c ≤ 'z' then some (c.toNat - 'a'.toNat)
  else if c.isDigit then some (c.toNat - '0'.toNat + 26)
  else none

/-- The numbers of a decoding lie below. -/
def bound : Nat := UInt32.size

/-- A decoding in progress. -/
structure Decoding where
  /-- The characters so far. -/
  written : List Char
  /-- The code point to be inserted next. -/
  code : Nat
  /-- Where it is inserted. -/
  index : Nat
  /-- The index before the difference that is being read. -/
  start : Nat
  bias : Nat
  /-- The weight and the position of the next digit of the difference. -/
  weight : Nat
  position : Nat

/-- Start on a text of ASCII characters. -/
def Decoding.initial (written : List Char) : Decoding where
  written := written
  code := 128
  index := 0
  start := 0
  bias := 72
  weight := 1
  position := 36

/-- Insert the character that a complete difference leads to. -/
def Decoding.insert? (state : Decoding) : Option Decoding :=
  let count := state.written.length + 1
  let code := state.code + state.index / count
  let index := state.index % count
  if code.isValidChar then
    some {
      written := state.written.take index ++ Char.ofNat code :: state.written.drop index
      code := code
      index := index + 1
      start := index + 1
      bias := adapt (state.index - state.start) count (state.start == 0)
      weight := 1
      position := 36 }
  else none

/-- Read one digit of a difference. -/
def Decoding.step? (state : Decoding) (c : Char) : Option Decoding := do
  let digit ← value? c
  let index := state.index + digit * state.weight
  let least := threshold state.position state.bias
  let weight := state.weight * (36 - least)
  if bound ≤ index then none
  else if digit < least then Decoding.insert? { state with index := index }
  else if bound ≤ weight then none
  else some { state with index := index, weight := weight, position := state.position + 36 }

/-- Decode a label. Its ASCII characters stand in front of the last hyphen. -/
def decode? (label : List Char) : Option (List Char) := do
  let digits := (label.reverse.takeWhile (· != '-')).reverse
  let basic := label.take (label.length - digits.length - 1)
  let state ← (if basic = [] then label else digits).foldlM Decoding.step? (.initial basic)
  if state.position = 36 then some state.written else none

end FlightQuery.Punycode
