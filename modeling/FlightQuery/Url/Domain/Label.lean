import FlightQuery.Url.Domain.Composition
import FlightQuery.Url.Domain.Direction
import FlightQuery.Url.Domain.Joining
import FlightQuery.Url.Domain.Mapping

/-! The labels of domains, which are the parts between their points. -/

namespace FlightQuery.Domain

/-- What labels start with that stand for others in ASCII letters. -/
def asciiMarker : List Char := ['x', 'n', '-', '-']

/-- The most digits that a label in ASCII letters can have. -/
def digitLimit : Nat := 2000

/-- The most characters of a label that is not ASCII. -/
def labelLimit : Nat := 1000

/-- Whether a label is ASCII. -/
def isAscii (label : List Char) : Bool := label.all Punycode.isAscii

/-- The label that a label in ASCII letters stands for. It is not ASCII, and it is composed of
characters that stand for themselves. -/
def decodeLabel? (label : List Char) : Option (List Char) :=
  let digits := label.drop asciiMarker.length
  if isAscii label && digits.length ≤ digitLimit then
    match Punycode.decode? digits with
    | some decoded =>
      if !isAscii decoded && decoded.all isKept && compose decoded == decoded then some decoded
      else none
    | none => none
  else none

/-- The characters that a label stands for. -/
def meaning? (label : List Char) : Option (List Char) :=
  if asciiMarker.isPrefixOf label then decodeLabel? label else some label

/-- Whether the characters of a label can stand together. -/
def isSound (label : List Char) : Bool :=
  (label.head?.all fun c => !isMark c) && joinersFit [] label &&
    (isAscii label || label.length ≤ labelLimit)

/-- Whether the directions of labels agree. They matter as soon as one is written from the right. -/
def directionsAgree (labels : List (List Char)) : Bool :=
  let directions := labels.map (·.map Direction.of)
  !(directions.any (·.any Direction.isRightward)) || directions.all Direction.agree

/-- Write a label in ASCII letters. -/
def writeLabel (label : List Char) : List Char :=
  if isAscii label then label else asciiMarker ++ Punycode.encode label

end FlightQuery.Domain
