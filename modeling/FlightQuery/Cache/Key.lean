import FlightQuery.Hash.Sip
import FlightQuery.Text.Blank

/-! The names of the files that keep trees. -/

namespace FlightQuery

/-- What a tree is kept under: the server, the installation and the database that it belongs to. -/
structure CacheKey where
  root : String
  installationId : UInt32
  databaseId : String
  deriving DecidableEq, Repr

namespace CacheKey

/-- The bytes of a text and a byte that no text contains. -/
def textBytes (text : String) : List UInt8 := text.toUTF8.data.toList ++ [0xff]

/-- The four bytes of a word, the lowest first. -/
def wordBytes (word : UInt32) : List UInt8 :=
  [word.toUInt8, (word >>> 8).toUInt8, (word >>> 16).toUInt8, (word >>> 24).toUInt8]

/-- An address without the slashes it ends in. -/
def withoutSlashes (root : String) : String :=
  String.ofList (Text.dropEndWhile (· == '/') root.toList)

/-- The bytes that are hashed. -/
def bytes (key : CacheKey) : List UInt8 :=
  textBytes (withoutSlashes key.root) ++ wordBytes key.installationId ++ textBytes key.databaseId

/-- The lowest hexadecimal digits of a number, the given count of them. -/
def hexDigits (value : Nat) : (count : Nat) → List Char
  | 0 => []
  | count + 1 => hexDigits (value / 16) count ++ [Nat.digitChar (value % 16)]

/-- The end of the names of the files that keep trees. -/
def fileEnd : List Char := ['.', 'j', 's', 'o', 'n']

/-- The name of the file of a hash. -/
def fileOfHash (hash : UInt64) : String := String.ofList (hexDigits hash.toNat 16 ++ fileEnd)

/-- The name of the file of a key. -/
def file (key : CacheKey) : String := fileOfHash (Sip.hash key.bytes)

end CacheKey
end FlightQuery
