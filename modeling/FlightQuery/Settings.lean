import FlightQuery.Error
import FlightQuery.Text.Blank

/-! Settings: who asks, and which server is asked. -/

namespace FlightQuery

/-- The settings, each of which may be left open. -/
structure Settings where
  username : Option String := none
  password : Option String := none
  /-- The name of a known server. -/
  server : Option String := none
  /-- The address of a server, which goes before a name. -/
  serverUrl : Option String := none
  /-- How often a login is tried. -/
  maxTrials : Option UInt32 := none
  deriving DecidableEq, Repr, Inhabited

namespace Settings

/-- The known servers: their names and the addresses of their interfaces. -/
def servers : List (String × String) := [
  ("prod", "https://ems.efoqa.com/api"),
  ("cluster", "https://ceod.efoqa.com/api"),
  ("stable", "https://emsapi.ausdig.com/api"),
  ("beta", "https://emsapibeta.ausdig.com/api"),
  ("nightly", "https://emsapitest.ausdig.com/api")]

/-- Whether a user and a password are set. -/
def hasCredentials (settings : Settings) : Bool :=
  settings.username.isSome && settings.password.isSome

/-- The user, who has to be set. -/
def requireUsername (settings : Settings) : Outcome String :=
  match settings.username with
  | some username => .ok username
  | none => .error (.settings .noUsername)

/-- The password, which has to be set. -/
def requirePassword (settings : Settings) : Outcome String :=
  match settings.password with
  | some password => .ok password
  | none => .error (.settings .noPassword)

/-- The number of trials when none is set. -/
def defaultTrials : UInt32 := 3

/-- How often a login is tried, which is at least once. -/
def trials (settings : Settings) : Nat := max (settings.maxTrials.getD defaultTrials).toNat 1

/-- The end of the address of an interface. -/
def rootEnd : List Char := ['/', 'a', 'p', 'i']

/-- The address of the interface of a server, whose own address may end in slashes. -/
def rootOfUrl (url : String) : String :=
  let url := url.toList
  if rootEnd.isSuffixOf url then String.ofList url
  else String.ofList (Text.dropEndWhile (· == '/') url ++ rootEnd)

/-- The address of the interface that requests are sent to. -/
def root (settings : Settings) : Outcome String :=
  match settings.serverUrl with
  | some url => .ok (rootOfUrl url)
  | none =>
    let name := settings.server.getD "prod"
    match servers.lookup name with
    | some url => .ok url
    | none => .error (.settings (.unknownServer name))

end Settings
end FlightQuery
