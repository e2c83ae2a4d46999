import FlightQuery.Proofs.Session.Requesting
import FlightQuery.Proofs.Session.Sendable

/-! Attempts at a request when a login is tried once: a login and the request, in this order. -/

namespace FlightQuery

open Stateful

namespace Session

/-- A server does something with one more request behind some others. -/
def Reaches (session : Session) (others : Nat) : Prop := others < session.server.length

/-- What a login that is tried once does: it is sent when no usable token is held, and it alone
changes the token. -/
structure Authenticated (session : Session) (login : Option Exchange) (outcome : Outcome Token)
    (after : Session) : Prop where
  continues : session.Continues login.toList after
  asks : ∀ exchange ∈ login, session.loginRequest = .ok exchange.request
  login_iff : login.isSome = true ↔
    (∀ token, ¬ session.Holds token) ∧ session.IsOnWeb ∧ session.Reaches 0
  granted_iff : ∀ token, outcome = .ok token ↔
    session.Holds token ∨ ∃ exchange ∈ login, exchange.Grants token
  token_iff : ∀ token, after.token = some token ↔
    (∃ exchange ∈ login, exchange.Grants token) ∨
      (∀ exchange ∈ login, exchange.Refuses) ∧ session.token = some token

namespace Authenticated

variable {session after : Session}

/-- A token that is held is used. -/
theorem ofHeld {token : Token} (held : session.Holds token) :
    session.Authenticated none (.ok token) session where
  -- Neither a login is sent nor the token changed, and no other token is held.
  continues := .refl session
  asks := by simp
  login_iff := by simpa using fun stale => absurd held (stale token)
  granted_iff other := by
    have unique : token = other ↔ session.Holds other :=
      ⟨fun same => same ▸ held, fun holds => Option.some.inj (held.1.symm.trans holds.1)⟩
    simpa using unique
  token_iff := by simp

/-- Without a request for it, no login is sent. -/
theorem ofUnsent {error : Error} (stale : ∀ token, ¬ session.Holds token)
    (continues : session.Continues [] after) (kept : after.token = session.token)
    (unreached : session.IsOnWeb → session.server = []) :
    session.Authenticated none (.error error) after where
  -- On the web a login is left out only where the server has nothing left to reply.
  continues := continues
  asks := by simp
  login_iff := by
    simp only [Option.isSome_none, Bool.false_eq_true, false_iff, not_and]
    intro _ web reaches
    rw [Reaches, unreached web] at reaches
    exact Nat.not_lt_zero 0 reaches
  granted_iff := by simpa using stale
  token_iff := by simp [kept]

/-- A login that is sent decides about the token. -/
theorem ofSent {outcome : Outcome Token} {login : Exchange} (stale : ∀ token, ¬ session.Holds token)
    (web : session.IsOnWeb) (continues : session.Continues [login] after)
    (asks : session.loginRequest = .ok login.request)
    (granted_iff : ∀ token, outcome = .ok token ↔ login.Grants token)
    (token_iff : ∀ token, after.token = some token ↔
      login.Grants token ∨ login.Refuses ∧ session.token = some token) :
    session.Authenticated (some login) outcome after where
  -- The login is the one exchange, and it was sent because no token is held.
  continues := continues
  asks := by simpa using asks
  login_iff := by
    have reaches : session.Reaches 0 := by
      rw [Reaches, continues.length_server, List.length_singleton]
      omega
    simpa using ⟨stale, web, reaches⟩
  granted_iff token := by simpa [stale token] using granted_iff token
  token_iff token := by simpa using token_iff token

end Authenticated

/-- An authentication sends one login at most when a login is tried once. -/
theorem exists_authenticated {session after : Session} {outcome : Outcome Token}
    {sent : List Exchange} (single : session.settings.trials = 1)
    (credentials : session.settings.hasCredentials = true)
    (authenticates : Call.Authenticates session outcome sent after) :
    ∃ login : Option Exchange, sent = login.toList ∧
      session.Authenticated login outcome after := by
  -- A login is sent only where no token is held and the request for it can be made.
  cases authenticates with
  | held held => exact ⟨none, rfl, .ofHeld held⟩
  | unprepared stale missing =>
    refine ⟨none, rfl, .ofUnsent stale (.refl session) rfl fun web => ?_⟩
    obtain ⟨made, made_eq, _⟩ := (isOnWeb_iff_loginRequest credentials).1 web
    exact nomatch missing.symm.trans made_eq
  | @login request _ _ _ stale made logs =>
    rw [single] at logs
    have web (able : request.isSendable = true) : session.IsOnWeb :=
      (isOnWeb_iff_loginRequest credentials).2 ⟨request, made, able⟩
    have asked {exchange : Exchange} (request_eq : exchange.request = request) :
        session.loginRequest = .ok exchange.request :=
      made.trans (congrArg Except.ok request_eq.symm)
    cases logs with
    | @granted token lost last _ requests vain grants continues kept few sendable =>
      -- The only trial is the last one.
      obtain rfl : lost = [] := by
        simp only [List.length_append, List.length_singleton] at few
        exact List.eq_nil_of_length_eq_zero (by omega)
      have asks := asked (requests last (by simp))
      have granted : last.Grants token := ⟨isLogin_of_loginRequest asks, grants⟩
      have unique (other : Token) : token = other ↔ last.Grants other :=
        ⟨fun same => same ▸ granted, granted.unique⟩
      refine ⟨some last, rfl, .ofSent stale (web sendable) continues asks ?_ ?_⟩
      · intro other
        rw [Except.ok.injEq, unique]
      · intro other
        rw [kept, Option.some.injEq, unique]
        exact ⟨.inl, fun either => either.resolve_right fun refuses => refuses.1.2 token granted⟩
    -- The only trial may have been lost without a trace, or it was sent and refused.
    | @refused error _ _ requests vain continues kept few sendable unreached =>
      rcases sent with _ | ⟨login, _ | ⟨other, rest⟩⟩
      · refine ⟨none, rfl, .ofUnsent stale continues kept fun web => ?_⟩
        obtain ⟨made', made_eq, able⟩ := (isOnWeb_iff_loginRequest credentials).1 web
        cases made.symm.trans made_eq
        exact unreached rfl able Nat.one_pos
      · have asks := asked (requests login (by simp))
        have refuses : login.Refuses :=
          ⟨isLogin_of_loginRequest asks, vain login (List.mem_singleton_self login)⟩
        refine ⟨some login, rfl, .ofSent stale (web (sendable (by simp))) continues asks ?_ ?_⟩
        · intro token
          simpa using refuses.2 token
        · intro token
          rw [kept]
          exact ⟨fun held => .inr ⟨refuses, held⟩,
            fun either => (either.resolve_left (refuses.2 token)).2⟩
      · simp at few

/-- A session in which a login is tried once, with credentials, and all tokens are legal. -/
structure IsPrepared (session : Session) : Prop where
  single : session.settings.trials = 1
  credentials : session.settings.hasCredentials = true
  held : ∀ token, session.token = some token → token.IsLegal
  served : ∀ event ∈ session.server, event.IsLegal

namespace IsPrepared

variable {session after : Session}

/-- The tokens that a login is answered with are legal. -/
theorem isLegal_of_grants (prepared : session.IsPrepared) {sent : List Exchange}
    (continues : session.Continues sent after) {exchange : Exchange} (listed : exchange ∈ sent)
    {token : Token} (grants : exchange.Grants token) : token.IsLegal := by
  -- The reply came from the server, and every token the server grants is legal.
  obtain ⟨event, served, reply_eq⟩ := continues.exists_event listed
  obtain ⟨_, reply, replied, granted⟩ := grants
  exact prepared.served event served reply (reply_eq.trans replied) exchange.time token granted

/-- A session stays prepared when it only takes legal tokens. -/
theorem continued (prepared : session.IsPrepared) {sent : List Exchange}
    (continues : session.Continues sent after)
    (held : ∀ token, after.token = some token → token.IsLegal) : after.IsPrepared where
  single := by rw [continues.settings_eq, prepared.single]
  credentials := by rw [continues.settings_eq, prepared.credentials]
  held := held
  served := continues.forall_server prepared.served

end IsPrepared

/-- What an attempt at a request does when a login is tried once: with a token, the request is sent
behind the login. -/
structure Attempted (make : Token → Request) (session : Session) (login request : Option Exchange)
    (outcome : Outcome Reply) (after : Session) : Prop where
  continues : session.Continues (login.toList ++ request.toList) after
  asks_login : ∀ exchange ∈ login, session.loginRequest = .ok exchange.request
  login_iff : login.isSome = true ↔
    (∀ token, ¬ session.Holds token) ∧ session.IsOnWeb ∧ session.Reaches 0
  asks : ∀ exchange ∈ request, ∃ token, exchange.request = make token ∧
    (session.Holds token ∨ ∃ exchange ∈ login, exchange.Grants token)
  request_iff : request.isSome = true ↔
    (∃ token, session.Holds token ∨ ∃ exchange ∈ login, exchange.Grants token) ∧
      session.IsOnWeb ∧ session.Reaches login.toList.length
  replied_iff : ∀ reply, outcome = .ok reply ↔ ∃ exchange ∈ request, exchange.reply = some reply
  token_iff : ∀ token, after.token = some token ↔
    (∃ exchange ∈ login, exchange.Grants token) ∨
      (∀ exchange ∈ login, exchange.Refuses) ∧ session.token = some token

/-- An attempt sends one login and one request at most when a login is tried once. -/
theorem exists_attempted {make : Token → Request} {session after : Session}
    {outcome : Outcome Reply} {sent : List Exchange} (prepared : session.IsPrepared)
    (sendable_iff : ∀ token : Token, token.IsLegal →
      ((make token).isSendable = true ↔ session.IsOnWeb))
    (attempts : Call.Attempts make session outcome sent after) :
    ∃ login request : Option Exchange, sent = login.toList ++ request.toList ∧
      session.Attempted make login request outcome after := by
  -- The login of the attempt comes first.
  have authenticated {middle : Session} {logins : List Exchange} {token : Outcome Token}
      (authenticates : Call.Authenticates session token logins middle) :=
    exists_authenticated prepared.single prepared.credentials authenticates
  have sendable {middle : Session} {login : Option Exchange} {token : Token}
      (authenticated : session.Authenticated login (.ok token) middle) :
      (make token).isSendable = true ↔ session.IsOnWeb := by
    refine sendable_iff token ?_
    rcases (authenticated.granted_iff token).1 rfl with holds | ⟨exchange, listed, grants⟩
    · exact prepared.held token holds.1
    · exact prepared.isLegal_of_grants authenticated.continues
        (Option.mem_toList.2 listed) grants
  cases attempts with
  -- No token was granted, so that there is no request to be made.
  | @unauthenticated error _ _ refused =>
    obtain ⟨login, rfl, auth⟩ := authenticated refused
    refine ⟨login, none, by simp, ?_, auth.asks, auth.login_iff, by simp, ?_, by simp,
      auth.token_iff⟩
    · simpa using auth.continues
    · have none_granted (token : Token) :=
        (not_congr (auth.granted_iff token)).1 (by simp)
      simp only [Option.isSome_none, Bool.false_eq_true, false_iff, not_and]
      exact fun ⟨token, granted⟩ => absurd granted (none_granted token)
  -- The request was lost, so that the server has nothing left behind the login.
  | @lost token _ _ granted unreached =>
    obtain ⟨login, rfl, auth⟩ := authenticated granted
    refine ⟨login, none, by simp, ?_, auth.asks, auth.login_iff, by simp, ?_, by simp,
      auth.token_iff⟩
    · simpa using auth.continues
    · simp only [Option.isSome_none, Bool.false_eq_true, false_iff, not_and]
      intro _ web reaches
      rw [Reaches, auth.continues.length_server, unreached ((sendable auth).2 web)] at reaches
      simp at reaches
  -- The request was sent with the token that is granted, right behind the login.
  | @sent token _ middle exchange _ granted asked able continues kept =>
    obtain ⟨login, rfl, auth⟩ := authenticated granted
    have token_granted := (auth.granted_iff token).1 rfl
    refine ⟨login, some exchange, rfl, auth.continues.trans continues, auth.asks, auth.login_iff,
      ?_, ?_, ?_, ?_⟩
    · simpa using ⟨token, asked, token_granted⟩
    · have reaches : session.Reaches login.toList.length := by
        rw [Reaches, (auth.continues.trans continues).length_server]
        simp only [List.length_append, List.length_singleton]
        omega
      simp only [Option.isSome_some, true_iff]
      exact ⟨⟨token, token_granted⟩, (sendable auth).1 able, reaches⟩
    · intro reply
      simpa using Call.outcomeOf_eq_ok_iff
    · intro token
      rw [kept]
      exact auth.token_iff token

end Session
end FlightQuery
