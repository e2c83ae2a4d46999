/-! SipHash with one compression round and three finalization rounds, under the zero key. -/

namespace FlightQuery.Sip

/-- The four words of a hash in progress. -/
structure State where
  a : UInt64
  b : UInt64
  c : UInt64
  d : UInt64
  deriving DecidableEq, Repr

/-- Rotate a word to the left by between 1 and 63 places. -/
def rotate (word : UInt64) (places : UInt64) : UInt64 :=
  (word <<< places) ||| (word >>> (64 - places))

/-- The words before the first input. -/
def start : State where
  a := 0x736f6d6570736575
  b := 0x646f72616e646f6d
  c := 0x6c7967656e657261
  d := 0x7465646279746573

/-- The half of a round that mixes two pairs of words. -/
def mix (a b c d : UInt64) (first second : UInt64) : UInt64 × UInt64 × UInt64 × UInt64 :=
  let a := a + b
  let c := c + d
  (rotate a 32, rotate b first ^^^ a, c, rotate d second ^^^ c)

/-- One round. -/
def round (state : State) : State :=
  let (a, b, c, d) := mix state.a state.b state.c state.d 13 16
  -- The second half mixes the same words, crossed over.
  let (c, b, a, d) := mix c b a d 17 21
  { a, b, c, d }

/-- Take a word of the input in. -/
def absorb (state : State) (word : UInt64) : State :=
  let state := round { state with d := state.d ^^^ word }
  { state with a := state.a ^^^ word }

/-- The word of at most eight bytes, the first of which is the lowest. -/
def wordOf : List UInt8 → UInt64
  | [] => 0
  | byte :: bytes => byte.toUInt64 ||| (wordOf bytes <<< 8)

/-- The last word: the bytes that fill no word below the length of the whole input. -/
def lastWord (bytes : List UInt8) (length : Nat) : UInt64 :=
  wordOf bytes ||| (UInt64.ofNat (length % 256) <<< 56)

/-- Take in all whole words of the input, then the last one. -/
def absorbAll (length : Nat) (state : State) : List UInt8 → State
  | b₀ :: b₁ :: b₂ :: b₃ :: b₄ :: b₅ :: b₆ :: b₇ :: rest =>
    absorbAll length (absorb state (wordOf [b₀, b₁, b₂, b₃, b₄, b₅, b₆, b₇])) rest
  | bytes => absorb state (lastWord bytes length)

/-- The hash of a state that has taken in all input. -/
def finish (state : State) : UInt64 :=
  let state := round (round (round { state with c := state.c ^^^ 0xff }))
  state.a ^^^ state.b ^^^ state.c ^^^ state.d

/-- The hash of some bytes. -/
def hash (bytes : List UInt8) : UInt64 := finish (absorbAll bytes.length start bytes)

end FlightQuery.Sip
