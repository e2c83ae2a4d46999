import FlightQuery.Proofs.Outcome
import FlightQuery.Proofs.Session.Login

/-! Requests: what is sent for one, and in which order. -/

namespace FlightQuery

open Stateful

/-- The answer to a request with a token, if the reply is a success. -/
def Exchange.answer? (exchange : Exchange) : Option Answer :=
  if exchange.isLogin then none
  else exchange.reply.bind fun reply =>
    if isSuccess reply.status then
      (Json.read? reply.body).map fun content => { headers := reply.headers, content }
    else none

namespace Call

/-- What comes of an authentication: a token that is held is used, and otherwise there is a
login. -/
inductive Authenticates (session : Session) : Outcome Token → List Exchange → Session → Prop
  | held {token : Token} (held : session.Holds token) : Authenticates session (.ok token) [] session
  | login {request : Request} {outcome : Outcome Token} {sent : List Exchange} {after : Session}
      (stale : ∀ token, ¬ session.Holds token) (made : session.loginRequest = .ok request)
      (logs : LogsIn request session.settings.trials session outcome sent after) :
      Authenticates session outcome sent after
  | unprepared {error : Error} (stale : ∀ token, ¬ session.Holds token)
      (missing : session.loginRequest = .error error) :
      Authenticates session (.error error) [] session

/-- A login starts with the request for it. -/
theorem applyTo_login (session : Session) :
    applyTo session login = match session.loginRequest with
      | .ok request => applyTo session (tryLogin request 1 session.settings.trials)
      | .error error => (.error error, session) := by
  -- Settings and address are looked at in the order of the code, and each may fail.
  simp only [login, Session.loginRequest, applyTo_bind, applyTo_get, applyTo_ofOutcome]
  cases session.settings.requireUsername with
  | error error => rfl
  | ok username =>
    cases session.settings.requirePassword with
    | error error => rfl
    | ok password => cases session.address ["token"] [] <;> rfl

/-- A token comes from the session or from a login. -/
theorem exists_authenticates (session : Session) :
    ∃ sent, Authenticates session (applyTo session authenticate).1 sent
      (applyTo session authenticate).2 := by
  -- What the session holds is used only if it is fresh.
  simp only [authenticate, applyTo_bind, applyTo_get]
  cases fresh : session.token.filter (Token.isFresh session.now) with
  | some token =>
    obtain ⟨present, usable⟩ := Option.filter_eq_some_iff.1 fresh
    exact ⟨[], .held ⟨present, of_decide_eq_true usable⟩⟩
  | none =>
    -- A token that is held but not fresh is not used.
    have stale : ∀ token, ¬ session.Holds token := by
      rintro token ⟨present, usable⟩
      have found : session.token.filter (Token.isFresh session.now) = some token :=
        Option.filter_eq_some_iff.2 ⟨present, decide_eq_true usable⟩
      exact nomatch fresh.symm.trans found
    simp only [applyTo_login]
    cases made : session.loginRequest with
    | error error => exact ⟨[], .unprepared stale made⟩
    | ok request =>
      obtain ⟨sent, logs⟩ := tryLogin_logsIn request session 1 session.settings.trials
      exact ⟨sent, .login stale made logs⟩

/-- Authenticate, and make a request with the token. -/
def attempt (make : Token → Request) : Call Reply := do exchange (make (← authenticate))

/-- What an exchange comes to. -/
def outcomeOf (exchange : Exchange) : Outcome Reply :=
  match exchange.reply with
  | some reply => .ok reply
  | none => .error .transport

/-- An exchange comes to its reply. -/
theorem outcomeOf_eq_ok_iff {exchange : Exchange} {reply : Reply} :
    outcomeOf exchange = .ok reply ↔ exchange.reply = some reply := by
  unfold outcomeOf
  cases exchange.reply <;> simp

/-- What comes of an attempt: the request is sent behind the logins, if there is a token for it and
a server to send it to. -/
inductive Attempts (make : Token → Request) (session : Session) :
    Outcome Reply → List Exchange → Session → Prop
  | unauthenticated {error : Error} {logins : List Exchange} {after : Session}
      (refused : Authenticates session (.error error) logins after) :
      Attempts make session (.error error) logins after
  | lost {token : Token} {logins : List Exchange} {after : Session}
      (granted : Authenticates session (.ok token) logins after)
      (unreached : (make token).isSendable = true → after.server = []) :
      Attempts make session (.error .transport) logins after
  | sent {token : Token} {logins : List Exchange} {middle : Session} {exchange : Exchange}
      {after : Session}
      (granted : Authenticates session (.ok token) logins middle)
      (asked : exchange.request = make token)
      (sendable : (make token).isSendable = true)
      (continues : middle.Continues [exchange] after)
      (kept : after.token = middle.token) :
      Attempts make session (outcomeOf exchange) (logins ++ [exchange]) after

/-- An attempt is an authentication, which a request may follow. -/
theorem exists_attempts (make : Token → Request) (session : Session) :
    ∃ sent, Attempts make session (applyTo session (attempt make)).1 sent
      (applyTo session (attempt make)).2 := by
  -- The authentication comes first, and its failure is that of the attempt.
  obtain ⟨logins, authenticated⟩ := exists_authenticates session
  simp only [attempt, applyTo_bind]
  cases found : applyTo session authenticate with
  | mk outcome middle =>
    rw [found] at authenticated
    cases outcome with
    | error error => exact ⟨logins, .unauthenticated authenticated⟩
    | ok token =>
      -- With a token, the request is lost or it makes for one exchange behind the logins.
      simp only [exchange, applyTo_bind, applyTo_send]
      rcases Session.send_cases (make token) middle with
        ⟨lost, unreached⟩ | ⟨exchange, after, answered, asked, _, sendable, continues, kept⟩
      · rw [lost]
        exact ⟨logins, .lost authenticated unreached⟩
      · have sent := Attempts.sent authenticated asked sendable continues kept
        refine ⟨logins ++ [exchange], ?_⟩
        rw [answered]
        unfold outcomeOf at sent
        cases replied : exchange.reply <;> rw [replied] at sent <;> exact sent

/-- What comes of a request to an address: one attempt, or a second one when the token of the first
one is rejected. -/
inductive Requests (url : Url) (make : Token → Request) (session : Session) :
    Outcome Answer → List Exchange → Session → Prop
  | once {outcome : Outcome Reply} {sent : List Exchange} {after : Session}
      (first : Attempts make session outcome sent after)
      (accepted : ∀ reply, outcome = .ok reply → reply.status ≠ unauthorized) :
      Requests url make session (outcome >>= answerOf url) sent after
  | again {reply : Reply} {sent sent' : List Exchange} {middle after : Session}
      {outcome : Outcome Reply}
      (first : Attempts make session (.ok reply) sent middle)
      (rejected : reply.status = unauthorized)
      (second : Attempts make { middle with token := none } outcome sent' after) :
      Requests url make session (outcome >>= answerOf url) (sent ++ sent') after

/-- What comes of a request is the answer to it. -/
theorem bind_answerOf_eq_ok_iff {url : Url} {outcome : Outcome Reply} {request : Option Exchange}
    (asks : ∀ exchange ∈ request, exchange.isLogin = false)
    (replied_iff : ∀ reply, outcome = .ok reply ↔ ∃ exchange ∈ request, exchange.reply = some reply)
    {answer : Answer} :
    (outcome >>= answerOf url) = .ok answer ↔
      ∃ exchange ∈ request, exchange.answer? = some answer := by
  -- The reply has to succeed and to have a document as its body.
  have answer_iff (reply : Reply) : answerOf url reply = .ok answer ↔
      (if isSuccess reply.status then
        (Json.read? reply.body).map fun content => { headers := reply.headers, content }
      else none) = some answer := by
    unfold answerOf
    by_cases success : isSuccess reply.status = true
    · rw [if_pos success, if_pos success]
      cases Json.read? reply.body <;> simp
    · rw [if_neg success, if_neg success]
      simp
  rw [Outcome.bind_eq_ok_iff]
  simp only [replied_iff, answer_iff]
  -- The answer of an exchange is the answer to its reply, for the exchange is no login.
  constructor
  · rintro ⟨reply, ⟨exchange, listed, replied⟩, read⟩
    refine ⟨exchange, listed, ?_⟩
    rw [Exchange.answer?, asks exchange listed, if_neg Bool.false_ne_true, replied]
    exact read
  · rintro ⟨exchange, listed, found⟩
    rw [Exchange.answer?, asks exchange listed, if_neg Bool.false_ne_true] at found
    obtain ⟨reply, replied, read⟩ := Option.bind_eq_some_iff.1 found
    exact ⟨reply, ⟨exchange, listed, replied⟩, read⟩

/-- Attempt a request, and once more if its token is rejected. -/
def requestAt (url : Url) (make : Token → Request) : Call Answer := do
  let reply ← attempt make
  if reply.status = unauthorized then
    dropToken
    ofOutcome (answerOf url (← attempt make))
  else ofOutcome (answerOf url reply)

/-- A request is made to its address. -/
theorem request_eq (method : String) (path : List String) (query : List (String × String))
    (body : Option Json) :
    request method path query body = (do
      let url ← ofOutcome ((← get).address path query)
      requestAt url (withToken method url body)) := by
  simp only [request, requestAt, attempt, bind_assoc]

/-- A request to an address is made in one or two attempts. -/
theorem exists_requests (url : Url) (make : Token → Request) (session : Session) :
    ∃ sent, Requests url make session (applyTo session (requestAt url make)).1 sent
      (applyTo session (requestAt url make)).2 := by
  obtain ⟨sent, first⟩ := exists_attempts make session
  rw [requestAt, applyTo_bind]
  cases tried : applyTo session (attempt make) with
  | mk outcome middle =>
    rw [tried] at first
    cases outcome with
    | error error => exact ⟨sent, .once first nofun⟩
    | ok reply =>
      -- Only a reply that rejects the token leads to a second attempt.
      by_cases rejected : reply.status = unauthorized
      · obtain ⟨sent', second⟩ := exists_attempts make { middle with token := none }
        refine ⟨sent ++ sent', ?_⟩
        simp only [if_pos rejected, applyTo_bind, applyTo_dropToken, applyTo_ofOutcome]
        cases tried' : applyTo { middle with token := none } (attempt make) with
        | mk outcome' after =>
          rw [tried'] at second
          have both : Requests url make session _ _ _ := .again first rejected second
          cases outcome' <;> exact both
      · -- Any other reply is the one that the request ends with.
        simp only [if_neg rejected, applyTo_ofOutcome]
        refine ⟨sent, .once first ?_⟩
        rintro _ ⟨⟩
        exact rejected

/-- A request fails without an address, and is made to the address if there is one. -/
theorem request_cases (session : Session) (method : String) (path : List String)
    (query : List (String × String)) (body : Option Json) :
    (∃ error, session.address path query = .error error ∧
      applyTo session (request method path query body) = (.error error, session)) ∨
    ∃ url sent, session.address path query = .ok url ∧
      Requests url (withToken method url body) session
        (applyTo session (request method path query body)).1 sent
        (applyTo session (request method path query body)).2 := by
  -- The address comes first, and only with an address the session is touched.
  rw [request_eq]
  simp only [applyTo_bind, applyTo_get, applyTo_ofOutcome]
  cases session.address path query with
  | error error => exact .inl ⟨error, rfl, rfl⟩
  | ok url =>
    obtain ⟨sent, requests⟩ := exists_requests url (withToken method url body) session
    exact .inr ⟨url, sent, rfl, requests⟩

end Call
end FlightQuery
