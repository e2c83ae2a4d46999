import FlightQuery.Url.Host

/-! URLs and the addresses below them. -/

namespace FlightQuery

/-- The part of a URL that names a server. -/
structure Authority where
  username : List Char := []
  password : List Char := []
  host : Host
  /-- The port, unless it is the usual one. -/
  port : Option UInt16 := none
  deriving DecidableEq, Repr

/-- The path of a URL. -/
inductive UrlPath where
  /-- A path that does not consist of segments. -/
  | plain (text : List Char)
  /-- The segments behind the slashes. -/
  | segments (segments : List (List Char))
  deriving DecidableEq, Repr

/-- A URL. All its parts are encoded. -/
structure Url where
  scheme : List Char
  authority : Option Authority
  path : UrlPath
  query : Option (List Char) := none
  fragment : Option (List Char) := none
  deriving DecidableEq, Repr

namespace Url

/-- The special schemes with their usual ports. -/
def specialSchemes : List (List Char × Option UInt16) := [
  ("http".toList, some 80), ("https".toList, some 443), ("ws".toList, some 80),
  ("wss".toList, some 443), ("ftp".toList, some 21), ("file".toList, none)]

/-- Whether a scheme is special. -/
def isSpecialScheme (scheme : List Char) : Bool := (specialSchemes.lookup scheme).isSome

/-- The usual port of a scheme. -/
def usualPort? (scheme : List Char) : Option UInt16 := (specialSchemes.lookup scheme).join

/-- Write a user with a password, either of which may be empty. -/
def writeUserinfo (authority : Authority) : List Char :=
  if authority.username = [] ∧ authority.password = [] then []
  else
    authority.username ++
      (if authority.password = [] then [] else ':' :: authority.password) ++ ['@']

/-- Write an authority. -/
def writeAuthority (authority : Authority) : List Char :=
  writeUserinfo authority ++ authority.host.write ++
    match authority.port with
    | some port => ':' :: Nat.toDigits 10 port.toNat
    | none => []

/-- Write segments, a slash in front of each. -/
def writeSegments (segments : List (List Char)) : List Char := segments.flatMap ('/' :: ·)

/-- Write a path. Without an authority it cannot start with two slashes. -/
def writePath (hasAuthority : Bool) : UrlPath → List Char
  | .plain text => text
  | .segments segments =>
    match hasAuthority, segments with
    | false, [] :: _ :: _ => ['/', '.'] ++ writeSegments segments
    | _, _ => writeSegments segments

/-- Write a URL. -/
def write (url : Url) : List Char :=
  url.scheme ++ ':' ::
    ((match url.authority with
      | some authority => '/' :: '/' :: writeAuthority authority
      | none => []) ++
    writePath url.authority.isSome url.path ++
    (match url.query with
      | some query => '?' :: query
      | none => []) ++
    match url.fragment with
      | some fragment => '#' :: fragment
      | none => [])

/-- The text of a URL. -/
def text (url : Url) : String := String.ofList url.write

/-! ### Segments -/

/-- Whether a character is left out of every URL. -/
def isIgnored (c : Char) : Bool := c == '\t' || c == '\n' || c == '\r'

/-- Whether a segment is a point, which may be encoded. -/
def isDot (segment : List Char) : Bool :=
  [['.'], ['%', '2', 'e']].contains (segment.map Char.toLower)

/-- Whether a segment is two points, each of which may be encoded. -/
def isDoubleDot (segment : List Char) : Bool :=
  [['.', '.'], ['.', '%', '2', 'e'], ['%', '2', 'e', '.'],
    ['%', '2', 'e', '%', '2', 'e']].contains (segment.map Char.toLower)

/-- Whether the scheme is that of files. -/
def isFileScheme (scheme : List Char) : Bool := scheme == "file".toList

/-- Whether a segment is the letter of a drive, or starts with one and a backslash. -/
def startsWithDrive : List Char → Bool
  | letter :: mark :: rest =>
    letter.isAlpha && (mark == ':' || mark == '|') && rest.head?.all (· == '\\')
  | _ => false

/-- Whether a text is the letter of a drive, with a colon or a bar. -/
def isDrive (text : List Char) : Bool := startsWithDrive text && text.length == 2

/-- Leave the last segment, unless it is a drive. -/
def leaveLast (segments : List (List Char)) : List (List Char) :=
  if segments.getLast?.any startsWithDrive then segments else segments.dropLast

/-- Append an encoded segment. A point stays at a segment, two points leave it, and a path that ends
there ends in a slash. A drive in front of the path of a file has a colon. -/
def appendSegment (scheme : List Char) (segments : List (List Char)) (segment : List Char)
    (isLast : Bool) : List (List Char) :=
  if isDoubleDot segment then leaveLast segments ++ (if isLast then [[]] else [])
  else if isDot segment then segments ++ (if isLast then [[]] else [])
  else if isFileScheme scheme ∧ segments = [] ∧ isDrive segment then [segment.take 1 ++ [':']]
  else segments ++ [segment]

/-- The segments of a path in files, which has no empty segments in front. -/
def withoutLeading (scheme : List Char) (segments : List (List Char)) : List (List Char) :=
  if isFileScheme scheme then
    match segments.dropWhile (· == []) with
    | [] => [[]]
    | rest => rest
  else segments

/-- The set of characters that stand for themselves in a segment. -/
def keepsSegment (scheme : List Char) : Char → Bool :=
  if isSpecialScheme scheme then Percent.keepsSpecialSegment else Percent.keepsSegment

/-- Add a segment to a path. A path of nothing but a slash is replaced, and points are skipped. -/
def pushSegment (scheme : List Char) (segments : List (List Char)) (segment : String) :
    List (List Char) :=
  if segment = "." ∨ segment = ".." then segments
  else
    let base := if segments = [[]] then [] else segments
    let encoded := Percent.encode (keepsSegment scheme)
      (segment.toList.filter fun c => !isIgnored c)
    withoutLeading scheme (appendSegment scheme base encoded true)

/-- The segments without the empty one that stands for a slash at the end. -/
def dropLastSlash (segments : List (List Char)) : List (List Char) :=
  if 1 < segments.length ∧ segments.getLast? = some [] then segments.dropLast else segments

/-- The address below a URL that further segments lead to, unless the path has no segments. -/
def extend? (url : Url) (further : List String) : Option Url :=
  match url.path with
  | .plain _ => none
  | .segments segments =>
    some { url with
      path := .segments (further.foldl (pushSegment url.scheme) (dropLastSlash segments)) }

/-- The URL with further pairs in its query. -/
def addQuery (url : Url) (pairs : List (String × String)) : Url :=
  if pairs = [] then url
  else
    let form := Percent.writeForm pairs
    match url.query with
    | some (c :: query) => { url with query := some (c :: query ++ '&' :: form) }
    | _ => { url with query := some form }

end Url
end FlightQuery
