import FlightQuery.Dictionary
import FlightQuery.Error
import FlightQuery.Table

/-! A disk: folders with files, as far as a program meets them. -/

namespace FlightQuery

/-- A file as it is found. -/
inductive File where
  | missing
  /-- A folder stands in its place. -/
  | folder
  /-- The content is no text. -/
  | binary
  | text (content : String)
  deriving DecidableEq, Repr, Inhabited

/-- A file with the given bytes. -/
def File.ofBytes (bytes : ByteArray) : File :=
  match String.fromUTF8? bytes with
  | some content => .text content
  | none => .binary

/-- What a file holds. -/
inductive Content where
  | text (content : String)
  /-- Some bytes that are no text. -/
  | binary (size : Nat)
  /-- A table in a packed form, the bytes of which are left open. -/
  | packed (table : Table)

instance : Inhabited Content := ⟨.text ""⟩

/-- The number of bytes, which a packed table leaves open. -/
def Content.size : Content → Nat
  | text content => content.utf8ByteSize
  | binary size => size
  | packed _ => 0

/-- A file on a disk. -/
structure StoredFile where
  content : Content
  /-- When it was written, in nanoseconds. -/
  modified : Int

/-- A stored file as it is found. -/
def StoredFile.toFile (stored : StoredFile) : File :=
  match stored.content with
  | .text content => .text content
  | .binary _ => .binary
  | .packed _ => .binary

/-- The files of a folder by their names. -/
abbrev Folder := Dictionary String StoredFile

/-- The names on the way to a file or a folder. -/
abbrev Place := List String

namespace Place

/-- The separator of the names of a place. -/
def separator : Char := '/'

/-- The text of a place. -/
def text (place : Place) : String := "/".intercalate place

/-- The names in a text. -/
def names (text : String) : List String := (text.toList.splitOn separator).map String.ofList

/-- The folder that holds a place. -/
def parent (place : Place) : Place := place.dropLast

/-- The last name of a place. -/
def name (place : Place) : String := place.getLast?.getD ""

/-- The part of a name behind its last point, unless the name starts with this point. -/
def extension? (name : String) : Option String :=
  let behind := name.toList.reverse.takeWhile (· != '.')
  match name.toList.reverse.dropWhile (· != '.') with
  | _ :: _ :: _ => some (String.ofList behind.reverse)
  | _ => none

end Place

/-- A disk, given by the files of its folders. It has no rights: a folder or a file is refused only
where something else stands in its way. -/
structure Disk where
  folders : Dictionary String Folder := .empty

instance : Inhabited Disk := ⟨{}⟩

namespace Disk

/-- The files of a folder. -/
def folder? (disk : Disk) (place : Place) : Option Folder := disk.folders.find? place.text

/-- Whether a folder stands at a place. -/
def isFolder (disk : Disk) (place : Place) : Bool := (disk.folder? place).isSome

/-- Set the files of a folder. -/
def setFolder (disk : Disk) (place : Place) (folder : Folder) : Disk where
  folders := disk.folders.insert place.text folder

/-- The place that names lead to from a folder. Every name but the last has to lead to a folder. -/
def locate? (disk : Disk) : (place : Place) → (names : List String) → Option Place
  | place, [] => some place
  | place, name :: names =>
    if !disk.isFolder place then none
    else if name = "" ∨ name = "." then locate? disk place names
    else if name = ".." then locate? disk (if place.length ≤ 1 then place else place.parent) names
    else locate? disk (place ++ [name]) names

/-- The place of a path, which starts at a folder or, with a separator in front, at the root. -/
def resolve? (disk : Disk) (folder : Place) (path : String) : Option Place :=
  match Place.names path with
  | [""] => none
  | "" :: names => locate? disk [""] names
  | names => locate? disk folder names

/-- The stored file at a place. -/
def stored? (disk : Disk) (place : Place) : Option StoredFile :=
  (disk.folder? place.parent).bind fun folder => folder.find? place.name

/-- What is found at a place. -/
def find (disk : Disk) (place : Place) : File :=
  if disk.isFolder place then .folder
  else match disk.stored? place with
    | some stored => stored.toFile
    | none => .missing

/-- Make a folder if there is none, unless a file stands in its place. -/
def addFolder (disk : Disk) (place : Place) : Outcome Disk :=
  if disk.isFolder place then .ok disk
  else if (disk.stored? place).isSome then .error .storage
  else .ok (disk.setFolder place .empty)

/-- Make a folder and all folders on the way to it, if it is not there already. -/
def addFolders (disk : Disk) (place : Place) : Outcome Disk :=
  if disk.isFolder place then .ok disk
  else (List.range place.length).foldlM
    (fun disk count => addFolder disk (place.take (count + 1))) disk

/-- Write a file into a folder, which has to be there. -/
def write (disk : Disk) (now : Int) (place : Place) (content : Content) : Outcome Disk :=
  if disk.isFolder place then .error .storage
  else match disk.folder? place.parent with
    | some folder =>
      .ok (disk.setFolder place.parent (folder.insert place.name { content, modified := now }))
    | none => .error .storage

/-- The contents of all files, by the texts of their places. -/
def contents (disk : Disk) : List (String × Content) :=
  disk.folders.entries.flatMap fun (folder, files) =>
    files.entries.map fun (name, stored) => (folder ++ "/" ++ name, stored.content)

end Disk
end FlightQuery
