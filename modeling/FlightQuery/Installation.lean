import FlightQuery.Error
import FlightQuery.Text.Blank
import FlightQuery.Text.LowerCase

/-! The installations that a server gives access to. -/

namespace FlightQuery

/-- An installation, which holds databases of its own. -/
structure Installation where
  id : UInt32
  name : String
  description : Option String := none
  deriving DecidableEq, Repr, Inhabited

namespace Installation

/-- Decode an installation. -/
def decode : Decoder Installation := fun scope document => do
  let parts ← Decoder.parts ["id", "name", "description"] scope document
  let id ← parts.required "id" Decoder.uint32
  let name ← parts.required "name" Decoder.text
  let description ← parts.defaulted "description" none (Decoder.nullable Decoder.text)
  return { id, name, description }

/-- The document of an installation. -/
def toJson (installation : Installation) : Json :=
  .object [("id", .int installation.id.toNat), ("name", .text installation.name),
    ("description", .ofText? installation.description)]

/-- Whether the name of an installation starts with a keyword, the case of letters aside. -/
def startsWith (keyword : String) (installation : Installation) : Bool :=
  (Text.lower (Text.trim keyword.toList)).isPrefixOf (Text.lower installation.name.toList)

/-- A text with its ASCII letters in lower case. -/
def foldAscii (text : List Char) : List Char := text.map Char.toLower

/-- Whether an installation has the given name, the case of ASCII letters aside. -/
def isNamed (keyword : String) (installation : Installation) : Bool :=
  foldAscii installation.name.toList == foldAscii (Text.trim keyword.toList)

/-- The installations whose names start with a keyword, or all of them without a keyword. -/
def candidates (installations : List Installation) : (keyword : Option String) → List Installation
  | some keyword => installations.filter (startsWith keyword)
  | none => installations

/-- The installation that a keyword denotes. Of several candidates one has to bear the very name. -/
def choose (installations : List Installation) (keyword : Option String) : Outcome UInt32 :=
  match candidates installations keyword with
  | [] => .error (.parameter (.noInstallation (installations.map Installation.name)))
  | [installation] => .ok installation.id
  | several =>
    match keyword.bind fun keyword => several.find? (isNamed keyword) with
    | some installation => .ok installation.id
    | none => .error (.parameter (.severalInstallations (several.map Installation.name)))

end Installation
end FlightQuery
