import FlightQuery.Json.Decoder
import FlightQuery.Json.Printer
import FlightQuery.Server
import FlightQuery.Settings
import FlightQuery.Time.Instant
import FlightQuery.Url.Reader

/-! Sessions with a server: logins, and requests made with the token of a login. -/

namespace FlightQuery

/-- A token that a login has been answered with. -/
structure Token where
  text : String
  kind : String
  /-- When it stops to be valid, in milliseconds. -/
  expiry : Int
  deriving DecidableEq, Repr

namespace Token

/-- How the header of a request shows a token. -/
def authorization (token : Token) : String := token.kind ++ " " ++ token.text

/-- Whether a token is valid for more than another minute. -/
def isFresh (now : Int) (token : Token) : Bool := now + 60000 < token.expiry

/-- The greatest number of seconds that a lifetime can have. -/
def greatestLifetime : Nat := 9223372036854775

/-- Whether a point in time lies in the calendar. -/
def isInCalendar (time : Int) : Bool := Moment.isInCalendar (time / 86400000)

/-- When a token expires that is received now and lives for some seconds, the upper half of the
seconds counting as negative. There is no such time outside the calendar. -/
def expiry? (now : Int) (seconds : UInt64) : Option Int :=
  let seconds : Int := (seconds.toNat : Int).bmod UInt64.size
  let time := now + 1000 * seconds
  if seconds.natAbs ≤ greatestLifetime ∧ isInCalendar time then some time else none

end Token

/-- What a login is answered with. -/
structure TokenReply where
  text : String
  kind : String
  /-- For how many seconds the token is valid. -/
  lifetime : UInt64
  deriving DecidableEq, Repr

/-- Decode the answer to a login. -/
def TokenReply.decode : Decoder TokenReply := fun scope document => do
  let parts ← Decoder.parts ["access_token", "token_type", "expires_in"] scope document
  let text ← parts.required "access_token" Decoder.text
  let kind ← parts.defaulted "token_type" "bearer" Decoder.text
  let lifetime ← parts.defaulted "expires_in" 3600 Decoder.uint64
  return { text, kind, lifetime }

/-- The headers of a reply that is a success, and the value that its body holds. -/
structure Answer where
  headers : List (String × String)
  content : Json

/-- A session. -/
structure Session where
  settings : Settings
  /-- The address that all requests go below. -/
  root : String
  token : Option Token := none
  server : Server := .unreachable
  /-- What has been sent so far. -/
  exchanges : List Exchange := []
  /-- The time in milliseconds. -/
  now : Int := 0
  deriving Repr

/-- A call to the server, which can change the session even if it fails. -/
abbrev Call (α : Type) := ExceptT Error (StateM Session) α

namespace Session

/-- A new session. The address of the server has to be a URL. -/
def start (settings : Settings) (server : Server) (now : Int) : Outcome Session := do
  let root ← settings.root
  match Url.read root with
  | .ok _ => return { settings, root, server, now }
  | .error fault => throw (.url fault)

/-- The address below the root that segments and pairs lead to. -/
def address (session : Session) (path : List String) (query : List (String × String)) :
    Outcome Url :=
  match Url.read session.root with
  | .error fault => .error (.url fault)
  | .ok root =>
    match root.extend? path with
    | some url => .ok (url.addQuery query)
    | none => .error (.settings (.rootWithoutPath session.root))

/-- Let time pass. -/
def wait (milliseconds : Nat) (session : Session) : Session :=
  { session with now := session.now + milliseconds }

/-- Send a request. There is no reply if it cannot be sent or does not reach a server. -/
def send (request : Request) (session : Session) : Option Reply × Session :=
  if request.isSendable then
    match session.server with
    | [] => (none, session)
    | event :: server =>
      let time := session.now + event.delay
      (event.reply, { session with
        server
        exchanges := session.exchanges ++ [{ request, reply := event.reply, time }]
        now := time })
  else (none, session)

end Session

namespace Call

/-- What comes of an outcome. -/
def ofOutcome {α : Type} (outcome : Outcome α) : Call α := ExceptT.mk (pure outcome)

/-- Send a request, to which there may be no reply. -/
def send (request : Request) : Call (Option Reply) := modifyGet (Session.send request)

/-- Send a request, which has to be replied to. -/
def exchange (request : Request) : Call Reply := do
  match ← send request with
  | some reply => return reply
  | none => throw .transport

/-- Keep the token of an answer to a login. -/
def keepToken (answer : TokenReply) : Call Token := do
  match Token.expiry? (← get).now answer.lifetime with
  | none => throw .lifetime
  | some expiry =>
    let token := { text := answer.text, kind := answer.kind, expiry }
    modify fun session => { session with token := some token }
    return token

/-- Take the reply to a login. -/
def acceptLogin (reply : Reply) : Call Token := do
  if reply.status = unauthorized ∨ reply.status = badRequest then throw .authentication
  else if isFailure reply.status then throw .transport
  else
    match Decoder.fromText TokenReply.decode reply.body with
    | some answer => keepToken answer
    | none => throw .transport

/-- The request of a login. -/
def loginRequest (url : Url) (username password : String) : Request where
  method := "POST"
  url
  contentType := some "application/x-www-form-urlencoded"
  body := String.ofList (Percent.writeForm
    [("grant_type", "password"), ("username", username), ("password", password)])

/-- Try a login some more times. Every further trial waits longer. -/
def tryLogin (request : Request) (trial : Nat) : (left : Nat) → Call Token
  | 0 => throw .transport
  | left + 1 => do
    if 1 < trial then modify (Session.wait (500 * trial))
    match ← send request with
    | some reply => acceptLogin reply
    | none => tryLogin request (trial + 1) left

/-- Log in. -/
def login : Call Token := do
  let session ← get
  let username ← ofOutcome session.settings.requireUsername
  let password ← ofOutcome session.settings.requirePassword
  let url ← ofOutcome (session.address ["token"] [])
  tryLogin (loginRequest url username password) 1 session.settings.trials

/-- A token that is fresh, for which a login is made if there is none. -/
def authenticate : Call Token := do
  let session ← get
  match session.token.filter (Token.isFresh session.now) with
  | some token => return token
  | none => login

/-- Forget the token. -/
def dropToken : Call Unit := modify fun session => { session with token := none }

/-- Log in now, and not with the first request. -/
def connect : Call Unit := do
  dropToken
  let _ ← authenticate
  return ()

/-- The answer in a reply, which has to be a success. -/
def answerOf (url : Url) (reply : Reply) : Outcome Answer :=
  if isSuccess reply.status then
    match Json.read? reply.body with
    | some content => .ok { headers := reply.headers, content }
    | none => .error .transport
  else .error (.rejected (statusText reply.status) url.text reply.body)

/-- A request with a token. -/
def withToken (method : String) (url : Url) (body : Option Json) (token : Token) : Request where
  method
  url
  authorization := some token.authorization
  contentType := body.map fun _ => "application/json"
  body := match body with
    | some content => content.sorted.compact
    | none => ""

/-- Make a request and take the answer to it. If the token is rejected, the request is made once
more with a new one. -/
def request (method : String) (path : List String) (query : List (String × String))
    (body : Option Json) : Call Answer := do
  let url ← ofOutcome ((← get).address path query)
  let reply ← exchange (withToken method url body (← authenticate))
  if reply.status = unauthorized then
    dropToken
    let reply ← exchange (withToken method url body (← authenticate))
    ofOutcome (answerOf url reply)
  else ofOutcome (answerOf url reply)

/-- Get a value. -/
def fetch {α : Type} (decode : Decoder α) (path : List String)
    (query : List (String × String)) : Call α := do
  match Decoder.fromJson decode (← request "GET" path query none).content with
  | some value => return value
  | none => throw .document

end Call
end FlightQuery
