import FlightQuery.Proofs.Session.Fetching
import FlightQuery.Proofs.Session.Protocol

/-! Rejected tokens: a token is given up when it is rejected, unless a request was repeated with
it. -/

namespace FlightQuery

open Stateful

/-! ### Tokens that are sent again -/

namespace Exchange

/-- The token that a login was answered with. -/
def granted? (exchange : Exchange) : Option Token := do
  let reply ← exchange.reply.filter fun reply => exchange.isLogin && !isFailure reply.status
  let answer ← Decoder.fromText TokenReply.decode reply.body
  let expiry ← Token.expiry? exchange.time answer.lifetime
  return { text := answer.text, kind := answer.kind, expiry }

/-- Which token a login grants can be computed. -/
theorem granted?_eq_some_iff {exchange : Exchange} {token : Token} :
    exchange.granted? = some token ↔ exchange.Grants token := by
  -- Both sides ask for the same parts, in another order.
  simp only [granted?, Option.bind_eq_bind, Option.bind_eq_some_iff, Option.filter_eq_some_iff,
    Option.pure_def, Option.some.injEq, Bool.and_eq_true, Bool.not_eq_true']
  constructor
  · rintro ⟨reply, ⟨replied, login, sound⟩, answer, read, expiry, expires, rfl⟩
    exact ⟨login, reply, replied, sound, answer.lifetime, read, expires⟩
  · rintro ⟨login, reply, replied, sound, lifetime, read, expires⟩
    exact ⟨reply, ⟨replied, login, sound⟩, _, read, token.expiry, expires, rfl⟩

/-- A request carries the token that a login was answered with. Some exchanges lie in between, none
of which grants another token. -/
structure CarriesTokenOf (request login : Exchange) (between : List Exchange) : Prop where
  isLogin_eq : request.isLogin = false
  carries : ∃ token, login.Grants token ∧
    request.request.authorization = some token.authorization
  last : ∀ exchange ∈ between, ∀ other, ¬ exchange.Grants other

/-- A request is one that was rejected, made once more behind the login for another token. What
came before this login ends with the request that was rejected and logins in vain. -/
def Repeats (request : Exchange) (front : List Exchange) : Prop :=
  ∃ front' first lost, front = front' ++ first :: lost ∧ first.isRejected = true ∧
    (∀ exchange ∈ lost, exchange.isLogin = true) ∧
    request.request = { first.request with authorization := request.request.authorization }

/-- A login is not rejected as a request is. -/
theorem isRejected_of_isLogin {exchange : Exchange} (login : exchange.isLogin = true) :
    exchange.isRejected = false := by
  simp [isRejected, login]

end Exchange

/-- A token that is sent again after it was rejected. -/
structure Reuse (exchanges : List Exchange) where
  front : List Exchange
  /-- The login that granted the token. -/
  login : Exchange
  between : List Exchange
  /-- The request that was rejected with the token. -/
  rejected : Exchange
  later : List Exchange
  /-- The request that carries the token again. -/
  again : Exchange
  rest : List Exchange
  exchanges_eq : exchanges =
    front ++ login :: (between ++ rejected :: (later ++ again :: rest))
  sent : rejected.CarriesTokenOf login between
  isRejected : rejected.isRejected = true
  resent : again.CarriesTokenOf login (between ++ rejected :: later)

/-! ### Tokens that may be sent -/

/-- The last token that was granted has not been rejected, unless a request was repeated with it
right behind its login. -/
def Usable (exchanges : List Exchange) (token : Token) : Prop :=
  ∃ front login back, exchanges = front ++ login :: back ∧ login.Grants token ∧
    (∀ exchange ∈ back, ∀ other, ¬ exchange.Grants other) ∧
    (∀ exchange ∈ back.head?, exchange.isRejected = true → exchange.Repeats front) ∧
    ∀ exchange ∈ back.tail, exchange.isRejected = false

/-- Every request carries a token that may be sent. -/
def Sparing (exchanges : List Exchange) : Prop :=
  ∀ front request back, exchanges = front ++ request :: back → request.isLogin = false →
    ∃ token, Usable front token ∧ request.request.authorization = some token.authorization

namespace Usable

variable {exchanges sent : List Exchange} {token : Token}

/-- A token that may be sent is the last one. -/
theorem lastGranted (usable : Usable exchanges token) : LastGranted exchanges token := by
  obtain ⟨front, login, back, split, grants, none, _⟩ := usable
  exact ⟨front, login, back, split, grants, none⟩

/-- A token that was just granted may be sent. -/
theorem of_grants {login : Exchange} (grants : login.Grants token) :
    Usable (exchanges ++ [login]) token :=
  ⟨exchanges, login, [], rfl, grants, by simp, by simp, by simp⟩

/-- A token may still be sent after exchanges that neither grant another one nor reject it. -/
theorem append (usable : Usable exchanges token)
    (vain : ∀ exchange ∈ sent, ∀ other, ¬ exchange.Grants other)
    (accepted : ∀ exchange ∈ sent, exchange.isRejected = false) :
    Usable (exchanges ++ sent) token := by
  -- Only the first exchange behind the login may have been rejected, as a repetition.
  obtain ⟨front, login, back, rfl, grants, none, repeated, kept⟩ := usable
  refine ⟨front, login, back ++ sent, by simp, grants, List.forall_mem_append.2 ⟨none, vain⟩, ?_⟩
  -- If nothing stands behind the login, the first of the new exchanges is the one in its place.
  cases back with
  | nil =>
    refine ⟨fun exchange listed rejected => ?_, fun exchange listed => ?_⟩
    · rw [accepted exchange (List.mem_of_mem_head? listed)] at rejected
      cases rejected
    · exact accepted exchange (List.mem_of_mem_tail listed)
  | cons first back => exact ⟨repeated, List.forall_mem_append.2 ⟨kept, accepted⟩⟩

/-- A token with which a rejected request was repeated may be sent, whatever the reply. -/
theorem of_repeats {front : List Exchange} {login request : Exchange} (grants : login.Grants token)
    (asks : request.isLogin = false) (repeats : request.Repeats front) :
    Usable (front ++ [login] ++ [request]) token := by
  refine ⟨front, login, [request], by simp, grants, ?_, by simpa using fun _ => repeats, by simp⟩
  simp only [List.mem_singleton, forall_eq]
  -- The only exchange behind the login is the request, and that grants no token.
  intro other granted
  cases asks.symm.trans granted.1

end Usable

namespace Sparing

variable {exchanges sent : List Exchange}

/-- Requests may be followed by others that carry a token which may be sent by then. -/
theorem append (sparing : Sparing exchanges)
    (next : ∀ front request back, sent = front ++ request :: back → request.isLogin = false →
      ∃ token, Usable (exchanges ++ front) token ∧
        request.request.authorization = some token.authorization) :
    Sparing (exchanges ++ sent) := by
  intro front request back split asks
  -- The request is one of those before, or one of those that follow.
  rcases List.append_eq_append_iff.1 split with ⟨front', rfl, split'⟩ | ⟨rest, split', split''⟩
  · exact next front' request back split' asks
  · cases rest with
    | nil =>
      obtain rfl : exchanges = front := by simpa using split'
      simpa using next [] request back (by simpa using split''.symm) asks
    | cons exchange rest =>
      obtain ⟨rfl, rfl⟩ := List.cons_eq_cons.1 split''
      exact sparing front request rest split' asks

/-- Logins may follow at any time. -/
theorem append_logins (sparing : Sparing exchanges)
    (logins : ∀ exchange ∈ sent, exchange.isLogin = true) : Sparing (exchanges ++ sent) := by
  refine sparing.append fun front request back split asks => ?_
  cases asks.symm.trans (logins request (split ▸ by simp))

/-- A request may follow with a token that may be sent. -/
theorem append_request {request : Exchange} {token : Token} (sparing : Sparing exchanges)
    (usable : Usable exchanges token)
    (carries : request.request.authorization = some token.authorization) :
    Sparing (exchanges ++ [request]) := by
  refine sparing.append fun front request' back split _ => ?_
  -- The new exchange is the only one to be looked at, for all others are old.
  obtain ⟨rfl, rfl, rfl⟩ : front = [] ∧ request' = request ∧ back = [] := by
    cases front <;> simp_all
  exact ⟨token, by simpa using usable, carries⟩

/-- Requests that carry tokens which may be sent are authorized. -/
theorem authorized (sparing : Sparing exchanges) : Authorized exchanges := by
  intro front request back split asks
  obtain ⟨token, usable, carries⟩ := sparing front request back split asks
  exact ⟨token, usable.lastGranted, carries⟩

end Sparing

/-! ### Runs -/

/-- A session that holds and sends no tokens but those that may be sent. -/
structure Session.IsSparing (session : Session) : Prop where
  held : ∀ token, session.token = some token → Usable session.exchanges token
  sent : Sparing session.exchanges

namespace Call

variable {make : Token → Request} {before after : Session} {sent : List Exchange}

/-- An authentication leaves no token but one that may be sent, and comes to such a one. -/
theorem Authenticates.isSparing {outcome : Outcome Token}
    (authenticates : Authenticates before outcome sent after) (sparing : before.IsSparing) :
    after.IsSparing ∧ ∀ token, outcome = .ok token → after.token = some token := by
  obtain ⟨continues, asks⟩ := authenticates.sends
  -- An authentication sends logins only, and logins carry no token.
  have logins (exchange : Exchange) (listed : exchange ∈ sent) : exchange.isLogin = true :=
    Session.isLogin_of_loginRequest (asks exchange listed)
  cases authenticates with
  | held held => exact ⟨sparing, by rintro _ ⟨⟩; exact held.1⟩
  | unprepared => exact ⟨sparing, nofun⟩
  -- A login that grants a token makes it the last one, and one that does not leaves the token.
  | login _ _ logs =>
    have sent_sparing : Sparing after.exchanges :=
      continues.exchanges_eq ▸ sparing.sent.append_logins logins
    cases logs with
    | @granted token lost last _ _ _ grants _ kept =>
      have granted : last.Grants token := ⟨logins last (by simp), grants⟩
      refine ⟨⟨fun token' held => ?_, sent_sparing⟩, by rintro _ ⟨⟩; exact kept⟩
      cases kept.symm.trans held
      rw [continues.exchanges_eq, ← List.append_assoc]
      exact .of_grants granted
    | refused _ vain _ kept =>
      refine ⟨⟨fun token held => ?_, sent_sparing⟩, nofun⟩
      rw [continues.exchanges_eq]
      exact (sparing.held token (kept ▸ held)).append vain
        fun exchange listed => Exchange.isRejected_of_isLogin (logins exchange listed)

/-- Without a token, an authentication comes to one that the last of some logins has granted. -/
theorem Authenticates.exists_login {token : Token}
    (authenticates : Authenticates before (.ok token) sent after) (dropped : before.token = none) :
    ∃ lost login, sent = lost ++ [login] ∧ (∀ exchange ∈ lost, exchange.isLogin = true) ∧
      login.Grants token := by
  obtain ⟨_, asks⟩ := authenticates.sends
  -- All that is sent are logins, so that the last one is told by how the trials end.
  have logins (exchange : Exchange) (listed : exchange ∈ sent) : exchange.isLogin = true :=
    Session.isLogin_of_loginRequest (asks exchange listed)
  cases authenticates with
  -- A token cannot be held, since it has been dropped.
  | held held => cases dropped.symm.trans held.1
  | login _ _ logs =>
    cases logs with
    | @granted _ lost last _ _ _ grants =>
      exact ⟨lost, last, rfl, fun exchange listed => logins exchange (by simp [listed]),
        logins last (by simp), grants⟩

/-- A request is the same with all tokens but for its header. -/
def IsMadeWith (make : Token → Request) : Prop :=
  ∀ token token', make token = { make token' with authorization := some token.authorization }

/-- The header of a request shows its token. -/
theorem IsMadeWith.authorization_eq (made : IsMadeWith make) (token : Token) :
    (make token).authorization = some token.authorization :=
  congrArg Request.authorization (made token token)

/-- What was made with a token is no login. -/
theorem IsMadeWith.isLogin_eq_false (made : IsMadeWith make) {request : Exchange} {token : Token}
    (asked : request.request = make token) : request.isLogin = false := by
  rw [Exchange.isLogin, asked, made.authorization_eq]
  rfl

/-- An attempt sends no token but one that may be sent, and holds no other one unless the token is
rejected. -/
theorem Attempts.isSparing {outcome : Outcome Reply}
    (attempts : Attempts make before outcome sent after) (sparing : before.IsSparing)
    (made : IsMadeWith make) :
    Sparing after.exchanges ∧
      ((∀ reply, outcome = .ok reply → reply.status ≠ unauthorized) → after.IsSparing) := by
  -- Without a token no request is sent, and with one it is lost without a trace or sent once.
  cases attempts with
  | unauthenticated refused =>
    have sparing' := (refused.isSparing sparing).1
    exact ⟨sparing'.sent, fun _ => sparing'⟩
  | lost granted =>
    have sparing' := (granted.isSparing sparing).1
    exact ⟨sparing'.sent, fun _ => sparing'⟩
  | @sent token _ middle exchange _ granted asked _ continues kept =>
    obtain ⟨sparing', token_eq⟩ := granted.isSparing sparing
    have usable := sparing'.held token (token_eq token rfl)
    have carries : exchange.request.authorization = some token.authorization :=
      asked ▸ made.authorization_eq token
    have sent_sparing : Sparing after.exchanges :=
      continues.exchanges_eq ▸ sparing'.sent.append_request usable carries
    refine ⟨sent_sparing, fun accepted => ⟨fun token' held => ?_, sent_sparing⟩⟩
    -- The request grants nothing, so that a token is unusable only if it is rejected.
    rw [continues.exchanges_eq]
    refine (sparing'.held token' (kept ▸ held)).append ?_ ?_
    · simp only [List.mem_singleton, forall_eq]
      intro other grants
      cases (made.isLogin_eq_false asked).symm.trans grants.1
    · simp only [List.mem_singleton, forall_eq, Exchange.isRejected, Bool.and_eq_false_iff]
      refine .inr ?_
      rw [Option.any_eq_false]
      intro reply replied
      simpa using accepted reply (outcomeOf_eq_ok_iff.2 replied)

/-- An attempt right behind a request that was rejected repeats this request. -/
theorem Attempts.isSparing_repeated {outcome : Outcome Reply} {front : List Exchange}
    {first : Exchange} {token : Token} (attempts : Attempts make before outcome sent after)
    (sparing : before.IsSparing) (made : IsMadeWith make) (dropped : before.token = none)
    (exchanges_eq : before.exchanges = front ++ [first]) (rejected : first.isRejected = true)
    (asked : first.request = make token) : after.IsSparing := by
  -- What has been sent is sparing in any case, and only the token that is held is in question.
  have sent_sparing := (attempts.isSparing sparing made).1
  cases attempts with
  | unauthenticated refused => exact (refused.isSparing sparing).1
  | lost granted => exact (granted.isSparing sparing).1
  | @sent token' _ middle exchange _ granted asked' _ continues kept =>
    refine ⟨fun other held => ?_, sent_sparing⟩
    cases (granted.isSparing sparing).2 token' rfl ▸ kept.symm.trans held
    -- The token comes from the login between the two requests, so that the second repeats the
    -- first.
    obtain ⟨lost, login, rfl, logins, grants⟩ := granted.exists_login dropped
    have repeats : exchange.Repeats (before.exchanges ++ lost) := by
      refine ⟨front, first, lost, by simp [exchanges_eq], rejected, logins, ?_⟩
      rw [asked', asked, made token' token]
    have usable := Usable.of_repeats grants (made.isLogin_eq_false asked') repeats
    rw [continues.exchanges_eq, granted.sends.1.exchanges_eq]
    simpa using usable

/-- A request leaves no token but one that may be sent. -/
theorem Requests.isSparing {url : Url} {outcome : Outcome Answer}
    (requests : Requests url make before outcome sent after) (sparing : before.IsSparing)
    (made : IsMadeWith make) : after.IsSparing := by
  -- A rejection of the first attempt drops the token, and the second one repeats the request.
  cases requests with
  | once first accepted => exact (first.isSparing sparing made).2 accepted
  | @again reply _ _ middle _ _ first rejected second =>
    have dropped : ({ middle with token := none } : Session).IsSparing :=
      ⟨by simp, (first.isSparing sparing made).1⟩
    -- The outcome of the first attempt is a reply, which rules out all ways but one.
    generalize answered : Except.ok reply = outcome at first
    cases first with
    | unauthenticated => cases answered
    | lost => cases answered
    | @sent token _ _ exchange _ granted asked _ continues =>
      refine second.isSparing_repeated dropped made rfl continues.exchanges_eq ?_ asked
      have replied := outcomeOf_eq_ok_iff.1 answered.symm
      simp [Exchange.isRejected, made.isLogin_eq_false asked, replied, rejected]

end Call

namespace Session.IsSparing

variable {before : Session}

/-- A session starts without a token. -/
theorem of_start {settings : Settings} {server : Server} {now : Int} {session : Session}
    (started : start settings server now = .ok session) : session.IsSparing := by
  obtain ⟨root, url, _, _, rfl⟩ := start_eq_ok_iff.1 started
  exact ⟨by simp, by simp [Sparing]⟩

/-- A session stays sparing whatever is done with it. -/
theorem perform (sparing : before.IsSparing) (action : Action) :
    (applyTo before action.perform).2.IsSparing := by
  -- A token is dropped before a connection, and changing the clock sends nothing.
  cases action with
  | connect =>
    have dropped : ({ before with token := none } : Session).IsSparing := ⟨by simp, sparing.sent⟩
    obtain ⟨_, authenticates⟩ := Call.exists_authenticates { before with token := none }
    rw [Action.perform, Call.connect, applyTo_bind, Call.applyTo_dropToken, snd_applyTo_bind_pure]
    exact (authenticates.isSparing dropped).1
  | request method path query body =>
    rw [Action.perform, snd_applyTo_bind_pure]
    rcases Call.request_cases before method path query body with
      ⟨error, _, request_eq⟩ | ⟨url, _, _, requests⟩
    · rw [request_eq]
      exact sparing
    · exact requests.isSparing sparing fun _ _ => rfl
  | clock now => exact ⟨sparing.held, sparing.sent⟩

/-- A session stays sparing in every run. -/
theorem run (sparing : before.IsSparing) (actions : List Action) :
    (before.after actions).IsSparing := by
  -- One action keeps the session sparing, and a run is actions in a row.
  induction actions generalizing before with
  | nil => exact sparing
  | cons action actions ih => exact ih (sparing.perform action)

end Session.IsSparing

/-! ### What is sent again -/

/-- Only one exchange granted the last token. -/
theorem eq_of_last_login {front back front' back' : List Exchange} {login login' : Exchange}
    {token token' : Token} (same : front ++ login :: back = front' ++ login' :: back')
    (grants : login.Grants token) (grants' : login'.Grants token')
    (vain : ∀ exchange ∈ back, ∀ other, ¬ exchange.Grants other)
    (vain' : ∀ exchange ∈ back', ∀ other, ¬ exchange.Grants other) :
    front = front' ∧ login = login' ∧ back = back' := by
  -- One of the two logins stands behind the other, or they are the same.
  rcases List.append_eq_append_iff.1 same with ⟨rest, rfl, split⟩ | ⟨rest, rfl, split⟩
  · cases rest with
    | nil => simpa using split
    | cons exchange rest =>
      obtain ⟨rfl, rfl⟩ := List.cons_eq_cons.1 split
      exact absurd grants' (vain login' (by simp) token')
  · cases rest with
    | nil => simpa [eq_comm] using split
    | cons exchange rest =>
      obtain ⟨rfl, rfl⟩ := List.cons_eq_cons.1 split
      exact absurd grants (vain' login (by simp) token)

/-- A token is sent again only if a request was repeated with it, and once more at most. -/
theorem Sparing.of_reuse {exchanges : List Exchange} (sparing : Sparing exchanges)
    (reuse : Reuse exchanges) :
    reuse.between = [] ∧ reuse.rejected.Repeats reuse.front ∧
      ∀ exchange ∈ reuse.later, exchange.isRejected = false := by
  -- What comes before the request that carries the token again ends with what the login has left.
  have split : exchanges = (reuse.front ++ reuse.login :: (reuse.between ++ reuse.rejected ::
      reuse.later)) ++ reuse.again :: reuse.rest :=
    reuse.exchanges_eq.trans (by simp)
  obtain ⟨token, ⟨front, login, back, same, grants, none, repeated, kept⟩, _⟩ :=
    sparing _ _ _ split reuse.resent.isLogin_eq
  obtain ⟨token', granted, _⟩ := reuse.resent.carries
  obtain ⟨rfl, rfl, rfl⟩ := eq_of_last_login same granted grants reuse.resent.last none
  cases split : reuse.between with
  | nil =>
    rw [split] at repeated kept
    exact ⟨rfl, repeated _ rfl reuse.isRejected, kept⟩
  | cons exchange between =>
    rw [split] at kept
    cases reuse.isRejected.symm.trans (kept reuse.rejected (by simp))

namespace Session

/--
In every run of a session, a token that was rejected is given up.

All requests carry the token that was granted last.
It is sent again behind its rejection only where a rejected request was repeated with it and was
rejected once more, and no longer than until the next rejection.
-/
theorem reuse_repeated {settings : Settings} {server : Server} {now : Int} {session : Session}
    (started : start settings server now = .ok session) (actions : List Action) :
    Authorized (session.after actions).exchanges ∧
    ∀ reuse : Reuse (session.after actions).exchanges,
      reuse.between = [] ∧ reuse.rejected.Repeats reuse.front ∧
        ∀ exchange ∈ reuse.later, exchange.isRejected = false := by
  -- The exchanges are sparing after every run, and what this says of a reuse is the theorem.
  have sparing := ((IsSparing.of_start started).run actions).sent
  exact ⟨sparing.authorized, sparing.of_reuse⟩

/-- A server that rejects the first two tokens which it grants. -/
def rejectingServer : Server :=
  [.granting "first", .replying 401 .null, .granting "second", .replying 401 .null,
    .replying 200 .null]

/-- Two requests, one after the other. -/
def twoRequests : List Action := [.request "GET" ["v2"] [] none, .request "GET" ["v3"] [] none]

/-- A request that is rejected twice leaves its second token to the next request. -/
theorem reuse_repeated_next :
    ∃ session, start sampleSettings rejectingServer 0 = .ok session ∧
      (session.after twoRequests).exchanges.map (·.request.authorization) =
        [none, some "bearer first", none, some "bearer second", some "bearer second"] ∧
      Authorized (session.after twoRequests).exchanges ∧
      ∀ reuse : Reuse (session.after twoRequests).exchanges,
        reuse.between = [] ∧ reuse.rejected.Repeats reuse.front ∧
          ∀ exchange ∈ reuse.later, exchange.isRejected = false := by
  -- The tokens that are sent are evaluated, and what is said of a reuse is the theorem.
  have started := start_sampleSettings rejectingServer
  exact ⟨_, started, by decide +kernel, reuse_repeated started twoRequests⟩

/-- The token that was rejected with a request that was repeated is sent again. -/
theorem exists_reuse :
    ∃ session, start sampleSettings rejectingServer 0 = .ok session ∧
      Nonempty (Reuse (session.after twoRequests).exchanges) := by
  refine ⟨_, start_sampleSettings rejectingServer, ?_⟩
  -- Of each exchange: the token that it grants, the one that it carries, whether it is rejected.
  have course : (Session.after { settings := sampleSettings, root := "http://[::1]/api"
                                 server := rejectingServer } twoRequests).exchanges.map
      (fun exchange => (exchange.granted?.map Token.authorization,
        exchange.request.authorization, exchange.isRejected)) =
      [(some "bearer first", none, false), (none, some "bearer first", true),
        (some "bearer second", none, false), (none, some "bearer second", true),
        (none, some "bearer second", false)] := by
    decide +kernel
  -- The exchanges are taken apart into the five of the run, with what is known of each.
  simp only [List.map_eq_cons_iff, List.map_eq_nil_iff, Prod.mk.injEq, Option.map_eq_some_iff,
    Option.map_eq_none_iff] at course
  obtain ⟨first, _, exchanges_eq, _, refused, _, rfl, _, login', _, rfl,
    ⟨⟨token, granted, shown⟩, _⟩, rejected, _, rfl, ⟨none, carried, is_rejected⟩, again, _, rfl,
    ⟨_, carried', _⟩, rfl⟩ := course
  have grants := Exchange.granted?_eq_some_iff.1 granted
  exact ⟨{
    front := [first, refused], login := login', between := [], rejected, later := [], again
    rest := []
    exchanges_eq
    isRejected := is_rejected
    sent := {
      isLogin_eq := by simp [Exchange.isLogin, carried]
      carries := ⟨token, grants, by rw [carried, shown]⟩
      last := by simp }
    resent := {
      isLogin_eq := by simp [Exchange.isLogin, carried']
      carries := ⟨token, grants, by rw [carried', shown]⟩
      last := by
        -- The request between grants nothing, so that the login before it stays the last one.
        simp only [List.nil_append, List.mem_singleton, forall_eq]
        intro other granted'
        cases none.symm.trans (Exchange.granted?_eq_some_iff.2 granted') } }⟩

end Session
end FlightQuery
