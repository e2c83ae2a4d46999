import FlightQuery.Cache.Key
import FlightQuery.Disk
import FlightQuery.FieldTree.Document
import FlightQuery.Number.Layout

/-! The cache, which keeps field trees in the files of a folder. -/

namespace FlightQuery

/-- The folder of the cache. There is none before the first tree is kept. -/
abbrev Cache := Option Folder

/-- What a cache amounts to. -/
structure CacheStats where
  /-- Whether there is a folder. -/
  present : Bool
  files : Nat
  /-- The size of all files in bytes. -/
  size : Nat
  deriving DecidableEq, Repr

/-- The units of a size, each 1024 times the one before, the largest first. -/
def sizeUnits : List (Nat × String) :=
  [(Nat.pow 1024 3, " GB"), (Nat.pow 1024 2, " MB"), (1024, " KB")]

/-- A size in a unit. The size is rounded to a 64-bit binary number before it is divided. -/
def sizeInUnit (size unit : Nat) : List Char :=
  match Binary64.ofInt size with
  | .finite _ mantissa exponent =>
    let (numerator, denominator) := Binary64.ratio mantissa exponent
    writeHundredths numerator (denominator * unit)
  | other => Layout.message.write other

/-- A size in the largest unit that it reaches. -/
def sizeText (size : Nat) : String :=
  match sizeUnits.find? fun (unit, _) => unit ≤ size with
  | some (unit, name) => String.ofList (sizeInUnit size unit) ++ name
  | none => size.repr ++ " B"

namespace Cache

/-- A file of the cache. -/
def find? (cache : Cache) (file : String) : Option StoredFile :=
  cache.bind fun folder => folder.find? file

/-- Write a file into the cache, making the folder first if there is none. -/
def put (now : Int) (file : String) (content : Content) (cache : Cache) : Cache :=
  some ((cache.getD .empty).insert file { content, modified := now })

/-- Remove a file from the cache. -/
def removeFile (file : String) (cache : Cache) : Cache :=
  cache.map fun folder => folder.erase file

/-- Whether more nanoseconds have passed since a file was written than the given number. A file from
the future is not old. -/
def isExpired (now : Int) (maxAge : Option Nat) (stored : StoredFile) : Bool :=
  match maxAge with
  | none => false
  | some age => age < now - stored.modified

/-- The tree in a file, if it holds one. -/
def tree? (stored : StoredFile) : Option FieldTree := (FieldTree.ofFile stored.toFile).toOption

/-- The tree that is kept under a key. An expired file is removed, an unreadable one stays. -/
def get (now : Int) (maxAge : Option Nat) (key : CacheKey) (cache : Cache) :
    Option FieldTree × Cache :=
  match cache.find? key.file with
  | none => (none, cache)
  | some stored =>
    if isExpired now maxAge stored then (none, cache.removeFile key.file)
    else (tree? stored, cache)

/-- Keep a tree. -/
def save (now : Int) (key : CacheKey) (tree : FieldTree) (cache : Cache) : Cache :=
  cache.put now key.file (.text tree.save)

/-- Forget the tree that is kept under a key. -/
def remove (key : CacheKey) (cache : Cache) : Cache := cache.removeFile key.file

/-- Whether a file of the folder belongs to the cache. -/
def isTreeFile (file : String) : Bool := Place.extension? file == some "json"

/-- The files that belong to the cache. -/
def treeFiles (cache : Cache) : List (String × StoredFile) :=
  ((cache.getD .empty).entries).filter fun entry => isTreeFile entry.1

/-- Forget all trees, and count the files that are removed. -/
def clear (cache : Cache) : Nat × Cache :=
  (cache.treeFiles.length, cache.map fun folder => folder.filter fun file => !isTreeFile file)

/-- What the cache amounts to. -/
def stats (cache : Cache) : CacheStats where
  present := cache.isSome
  files := cache.treeFiles.length
  size := cache.treeFiles.foldl (fun size entry => size + entry.2.content.size) 0

end Cache
end FlightQuery
