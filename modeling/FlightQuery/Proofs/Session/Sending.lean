import FlightQuery.Proofs.Outcome
import FlightQuery.Session

/-! What a session has sent stays, and what it sends is replied to as the server has it. -/

namespace FlightQuery

open Stateful

namespace Exchange

/-- Whether a login was sent, which is made without a token. -/
def isLogin (exchange : Exchange) : Bool := exchange.request.authorization.isNone

/-- Whether a token was sent, and rejected. -/
def isRejected (exchange : Exchange) : Bool :=
  !exchange.isLogin && exchange.reply.any fun reply => reply.status == unauthorized

end Exchange

namespace Session

/-- A session starts at a root that is a URL, without a token and with nothing sent. -/
theorem start_eq_ok_iff {settings : Settings} {server : Server} {now : Int} {session : Session} :
    start settings server now = .ok session ↔ ∃ root url, settings.root = .ok root ∧
      Url.read root = .ok url ∧ session = { settings, root, server, now } := by
  unfold start
  rw [Outcome.bind_eq_ok_iff]
  -- A session starts when its root is known and can be read as a url.
  refine exists_congr fun root => ?_
  cases Url.read root <;> simp [pure, Except.pure, throw, throwThe, MonadExceptOf.throw, eq_comm]

/-- A session starts at any root that is a URL. -/
theorem start_of_isOk {settings : Settings} {root : String} (root_eq : settings.root = .ok root)
    (readable : (Url.read root).isOk = true) (server : Server) (now : Int) :
    start settings server now = .ok { settings, root, server, now } := by
  cases read : Url.read root with
  | error fault => simp [read, Except.isOk, Except.toBool] at readable
  | ok url => exact start_eq_ok_iff.2 ⟨root, url, root_eq, read, rfl⟩

/-- A session goes on to another one by exchanges, which the server replies to in its order. -/
structure Continues (before : Session) (sent : List Exchange) (after : Session) : Prop where
  settings_eq : after.settings = before.settings
  root_eq : after.root = before.root
  exchanges_eq : after.exchanges = before.exchanges ++ sent
  served : ∃ events, before.server = events ++ after.server ∧
    sent.map Exchange.reply = events.map Event.reply

namespace Continues

variable {before middle after : Session} {sent later : List Exchange}

/-- Without a request the session stays. -/
theorem refl (session : Session) : session.Continues [] session where
  settings_eq := rfl
  root_eq := rfl
  exchanges_eq := (List.append_nil _).symm
  served := ⟨[], rfl, rfl⟩

/-- Exchanges follow one another. -/
theorem trans (first : before.Continues sent middle) (second : middle.Continues later after) :
    before.Continues (sent ++ later) after where
  settings_eq := second.settings_eq.trans first.settings_eq
  root_eq := second.root_eq.trans first.root_eq
  exchanges_eq := by rw [second.exchanges_eq, first.exchanges_eq, List.append_assoc]
  -- The events that are served are those of both parts, one after the other.
  served := by
    obtain ⟨events, server_eq, replies_eq⟩ := first.served
    obtain ⟨events', server_eq', replies_eq'⟩ := second.served
    refine ⟨events ++ events', ?_, ?_⟩
    · rw [server_eq, server_eq', List.append_assoc]
    · rw [List.map_append, List.map_append, replies_eq, replies_eq']

/-- The token and the time of a session do not matter to what it sends. -/
theorem retimed (continues : before.Continues sent after) (token : Option Token) (now : Int) :
    before.Continues sent { after with token, now } where
  settings_eq := continues.settings_eq
  root_eq := continues.root_eq
  exchanges_eq := continues.exchanges_eq
  served := continues.served

/-- Every exchange uses up one thing that the server does. -/
theorem length_server (continues : before.Continues sent after) :
    before.server.length = sent.length + after.server.length := by
  obtain ⟨events, server_eq, replies_eq⟩ := continues.served
  -- Each exchange used up one event of the server.
  have same : sent.length = events.length := by
    simpa only [List.length_map] using congrArg List.length replies_eq
  rw [server_eq, List.length_append, same]

/-- The addresses below the root stay. -/
theorem address_eq (continues : before.Continues sent after) (path : List String)
    (query : List (String × String)) : after.address path query = before.address path query := by
  simp only [address, continues.root_eq]

/-- What holds of all that the server does holds of what it does afterwards. -/
theorem forall_server {property : Event → Prop} (continues : before.Continues sent after)
    (all : ∀ event ∈ before.server, property event) : ∀ event ∈ after.server, property event := by
  -- What the server still holds is the end of what it held before.
  obtain ⟨events, server_eq, _⟩ := continues.served
  intro event listed
  exact all event (server_eq ▸ List.mem_append_right events listed)

/-- Every reply is one of the server. -/
theorem exists_event (continues : before.Continues sent after) {exchange : Exchange}
    (listed : exchange ∈ sent) : ∃ event ∈ before.server, event.reply = exchange.reply := by
  obtain ⟨events, server_eq, replies_eq⟩ := continues.served
  -- The replies that came are those of the events used up, in their order.
  have replied : exchange.reply ∈ events.map Event.reply :=
    replies_eq ▸ List.mem_map_of_mem listed
  obtain ⟨event, found, same⟩ := List.mem_map.1 replied
  exact ⟨event, server_eq ▸ List.mem_append_left _ found, same⟩

end Continues

/-- A request is lost without a trace, or it makes for one exchange. -/
theorem send_cases (request : Request) (session : Session) :
    (session.send request = (none, session) ∧
      (request.isSendable = true → session.server = [])) ∨
    ∃ exchange after, session.send request = (exchange.reply, after) ∧
      exchange.request = request ∧ exchange.time = after.now ∧ request.isSendable = true ∧
      session.Continues [exchange] after ∧ after.token = session.token := by
  -- Only what can be sent reaches the server, and only if it has an event left.
  unfold send
  by_cases sendable : request.isSendable = true
  · rw [if_pos sendable]
    cases reached : session.server with
    | nil => exact .inl ⟨rfl, fun _ => rfl⟩
    | cons event server =>
      right
      let exchange : Exchange :=
        { request, reply := event.reply, time := session.now + event.delay }
      exact ⟨exchange, _, rfl, rfl, rfl, sendable,
        { settings_eq := rfl, root_eq := rfl, exchanges_eq := rfl
          served := ⟨[event], reached, rfl⟩ }, rfl⟩
  · rw [if_neg sendable]
    exact .inl ⟨rfl, fun able => absurd able sendable⟩

end Session

namespace Call

/-- A request is sent by the session. -/
@[simp] theorem applyTo_send (session : Session) (request : Request) :
    applyTo session (send request) =
      (.ok (session.send request).1, (session.send request).2) := rfl

/-- The outcome of something else leaves the session as it is. -/
@[simp] theorem applyTo_ofOutcome {α : Type} (session : Session) (outcome : Outcome α) :
    applyTo session (ofOutcome outcome) = (outcome, session) := rfl

/-- The token can always be forgotten. -/
@[simp] theorem applyTo_dropToken (session : Session) :
    applyTo session dropToken = (.ok (), { session with token := none }) := rfl

end Call

/-! ### Samples -/

/-- An object whose members are texts. -/
def Json.ofTexts (members : List (String × String)) : Json :=
  .object (members.map fun (key, value) => (key, .text value))

/-- A server that replies with some content. -/
def Event.replying (status : Nat) (content : Json) : Event where
  reply := some { status, body := content.compact }

/-- A server that answers a login with a token. -/
def Event.granting (token : String) : Event := replying 200 (.ofTexts [("access_token", token)])

/-- A session that holds a token, and a server to send it to. -/
def Session.sample (server : Server) : Session where
  settings := {}
  root := "http://[::1]/api"
  token := some { text := "token", kind := "bearer", expiry := 100000 }
  server

end FlightQuery
