import FlightQuery.Url

/-! The reading of URLs. -/

namespace FlightQuery.Url

/-- Whether a character is left out around a URL. -/
def isOuter (c : Char) : Bool := c ≤ ' '

/-- The characters of a text that are read as a URL. -/
def significant (text : List Char) : List Char :=
  ((text.dropWhile isOuter).reverse.dropWhile isOuter).reverse.filter fun c => !isIgnored c

/-- Whether a character can stand in a scheme. -/
def isSchemeChar (c : Char) : Bool := c.isAlphanum || c == '+' || c == '-' || c == '.'

/-- Read a scheme, which starts with a letter, and the colon behind it. -/
def readScheme? (text : List Char) : Option (List Char × List Char) :=
  let name := text.takeWhile isSchemeChar
  match name, text.dropWhile isSchemeChar with
  | c :: _, ':' :: rest => if c.isAlpha then some (name.map Char.toLower, rest) else none
  | _, _ => none

/-- Whether a path ends before a character. -/
def endsPath (c : Char) : Bool := c == '?' || c == '#'

/-- Whether a character is a slash. In a special URL a backslash is one. -/
def isSlash (special : Bool) (c : Char) : Bool := c == '/' || (special && c == '\\')

/-- Whether an authority ends before a character. -/
def endsAuthority (special : Bool) (c : Char) : Bool :=
  isSlash special c || endsPath c

/-- Resolve the segments of a path one after the other. -/
def resolveSegments (scheme : List Char) (segments : List (List Char)) :
    List (List Char) → List (List Char)
  | [] => segments
  | [segment] => appendSegment scheme segments segment true
  | segment :: rest => resolveSegments scheme (appendSegment scheme segments segment false) rest

/-- Read the segments of a path behind its first slash. -/
def readSegments (scheme text : List Char) : List (List Char) :=
  let segments := text.splitOnP (isSlash (isSpecialScheme scheme))
  withoutLeading scheme
    (resolveSegments scheme [] (segments.map (Percent.encode Percent.keepsPath)))

/-- The text behind the slash that it starts with, if it does. -/
def dropSlash (special : Bool) : List Char → List Char
  | [] => []
  | c :: rest => if isSlash special c then rest else c :: rest

/-- Read what follows a path: a query and a fragment. -/
def readEnd (special : Bool) (text : List Char) : Option (List Char) × Option (List Char) :=
  let keeps := if special then Percent.keepsSpecialQuery else Percent.keepsQuery
  let fragment? : List Char → Option (List Char)
    | '#' :: rest => some (Percent.encode Percent.keepsFragment rest)
    | _ => none
  match text with
  | '?' :: rest =>
    (some (Percent.encode keeps (rest.takeWhile (· != '#'))),
      fragment? (rest.dropWhile (· != '#')))
  | rest => (none, fragment? rest)

/-- The URL of its parts, of which the path and what follows it are still to be read. -/
def ofParts (scheme : List Char) (authority : Option Authority)
    (path : List Char → UrlPath) (text : List Char) : Url :=
  let (query, fragment) :=
    readEnd (isSpecialScheme scheme) (text.dropWhile fun c => !endsPath c)
  { scheme, authority, path := path (text.takeWhile fun c => !endsPath c), query, fragment }

/-- Split a text behind the last occurrence of a character. -/
def splitLast? (c : Char) (text : List Char) : Option (List Char × List Char) :=
  let back := text.reverse.takeWhile (· != c)
  match text.reverse.dropWhile (· != c) with
  | _ :: front => some (front.reverse, back.reverse)
  | [] => none

/-- Split a host from the colon of its port. A colon between brackets belongs to the host. -/
def splitHost (inside : Bool) : List Char → List Char × List Char
  | [] => ([], [])
  | c :: rest =>
    if c = ':' ∧ !inside then ([], c :: rest)
    else
      let inside := if c = '[' then true else if c = ']' then false else inside
      let (host, port) := splitHost inside rest
      (c :: host, port)

/-- Read a port behind its colon. The usual port of a scheme is no port. -/
def readPort (scheme digits : List Char) : Except UrlFault (Option UInt16) :=
  if !digits.all Char.isDigit then .error .invalidPort
  else if digits = [] then .ok none
  else
    let value := Nat.ofDigitChars 10 digits 0
    if 65535 < value then .error .invalidPort
    else
      let port := UInt16.ofNat value
      .ok (if usualPort? scheme = some port then none else some port)

/-- Read a user and a password. -/
def readUserinfo (text : List Char) : List Char × List Char :=
  (Percent.encode Percent.keepsUserinfo (text.takeWhile (· != ':')),
    Percent.encode Percent.keepsUserinfo ((text.dropWhile (· != ':')).drop 1))

/-- Read an authority, and what is left behind a backslash after its port. Behind a user, and in a
special URL, a host has to follow. -/
def readAuthority (scheme text : List Char) (followed : Bool) :
    Except UrlFault (Authority × List Char) := do
  let special := isSpecialScheme scheme
  let (userinfo?, rest) := match splitLast? '@' text with
    | some (userinfo, rest) => (some userinfo, rest)
    | none => (none, text)
  let (username, password) := readUserinfo (userinfo?.getD [])
  let (hostText, portText) := splitHost false rest
  if hostText = [] ∧ (special ∨ portText ≠ [] ∨ username ≠ [] ∨ password ≠ [] ∨
      (userinfo? = some [] ∧ followed)) then
    throw .emptyHost
  let host ← if special then Host.readSpecial hostText else Host.readPlain hostText
  let port ← readPort scheme ((portText.drop 1).takeWhile (· != '\\'))
  return ({ username, password, host, port }, portText.dropWhile (· != '\\'))

/-- Read what follows the two slashes of an authority. -/
def readHierarchy (scheme text : List Char) : Except UrlFault Url := do
  let special := isSpecialScheme scheme
  let rest := text.dropWhile fun c => !endsAuthority special c
  let (authority, left) ←
    readAuthority scheme (text.takeWhile fun c => !endsAuthority special c) (rest ≠ [])
  let path (text : List Char) : UrlPath :=
    if text = [] then .segments (if special then [[]] else [])
    else .segments (readSegments scheme (dropSlash special text))
  return ofParts scheme (some authority) path (left ++ rest)

/-- The URL of a file on a host, which is empty for the own one. -/
def ofFile (scheme : List Char) (host : Host) (path : List Char) : Url :=
  ofParts scheme (some { host }) (fun text => .segments (readSegments scheme text)) path

/-- Whether the path of a URL starts at a drive. -/
def startsAtDrive (url : Url) : Bool :=
  match url.path with
  | .segments (segment :: _) => isDrive segment
  | _ => false

/-- Read the URL of a file behind two slashes. A drive is no host, and a host is dropped in front of
one. Without a host the slash behind it belongs to the path. -/
def readFileHost (scheme text : List Char) : Except UrlFault Url := do
  let hostText := text.takeWhile fun c => !endsAuthority true c
  let path := text.dropWhile fun c => !endsAuthority true c
  if isDrive hostText then return ofFile scheme (.domain "") text
  let host ← if hostText = [] then pure (.domain "") else Host.readSpecial hostText
  if host = .domain "" ∨ host = .domain "localhost" then return ofFile scheme (.domain "") path
  let url := ofFile scheme host (dropSlash true path)
  return if startsAtDrive url then { url with authority := some { host := .domain "" } } else url

/-- Read the URL of a file, whose host may be left out. -/
def readFile (scheme text : List Char) : Except UrlFault Url :=
  match text with
  | first :: second :: rest =>
    if isSlash true first && isSlash true second then readFileHost scheme rest
    else .ok (ofFile scheme (.domain "") (dropSlash true text))
  | _ => .ok (ofFile scheme (.domain "") (dropSlash true text))

/-- Read a URL that is no reference to another one. -/
def read (text : String) : Except UrlFault Url :=
  match readScheme? (significant text.toList) with
  | none => .error .relativeWithoutBase
  | some (scheme, rest) =>
    if isFileScheme scheme then readFile scheme rest
    else if isSpecialScheme scheme then
      readHierarchy scheme (rest.dropWhile fun c => c == '/' || c == '\\')
    else
      match rest with
      | '/' :: '/' :: rest => readHierarchy scheme rest
      | '/' :: rest =>
        .ok (ofParts scheme none (fun path => .segments (readSegments scheme path)) rest)
      | rest =>
        .ok (ofParts scheme none (fun path => .plain (Percent.encode Percent.keepsPlain path)) rest)

end FlightQuery.Url
