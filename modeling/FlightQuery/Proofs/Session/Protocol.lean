import FlightQuery.Proofs.Session.Course

/-! The token protocol holds in every run: requests carry the token that was granted last. -/

namespace FlightQuery

open Stateful

/-! ### What was granted -/

/-- The token that was granted last. -/
def LastGranted (exchanges : List Exchange) (token : Token) : Prop :=
  ∃ front login back, exchanges = front ++ login :: back ∧ login.Grants token ∧
    ∀ exchange ∈ back, ∀ other, ¬ exchange.Grants other

/-- Every request carries the token that was granted last before it. -/
def Authorized (exchanges : List Exchange) : Prop :=
  ∀ front exchange back, exchanges = front ++ exchange :: back → exchange.isLogin = false →
    ∃ token, LastGranted front token ∧
      exchange.request.authorization = some token.authorization

/-- A token stays the last one until another one is granted. -/
theorem LastGranted.append {exchanges : List Exchange} {token : Token} {next : Option Exchange}
    (last : LastGranted exchanges token)
    (vain : ∀ exchange ∈ next, ∀ other, ¬ exchange.Grants other) :
    LastGranted (exchanges ++ next.toList) token := by
  obtain ⟨front, login, back, rfl, grants, none⟩ := last
  -- The exchange that follows grants nothing, so that the same login stays the last to grant one.
  refine ⟨front, login, back ++ next.toList, by simp, grants, ?_⟩
  exact List.forall_mem_append.2
    ⟨none, fun exchange listed => vain exchange (Option.mem_toList.1 listed)⟩

/-- A token that is granted is the last one. -/
theorem LastGranted.of_grants {exchanges : List Exchange} {token : Token} {login : Option Exchange}
    (granted : ∃ exchange ∈ login, exchange.Grants token) :
    LastGranted (exchanges ++ login.toList) token := by
  -- The login stands last, so no later exchange can have granted another token.
  obtain ⟨exchange, listed, grants⟩ := granted
  cases listed
  exact ⟨exchanges, exchange, [], rfl, grants, by simp⟩

/-- Requests are authorized one after the other. -/
theorem Authorized.append {exchanges : List Exchange} {next : Option Exchange}
    (authorized : Authorized exchanges)
    (carries : ∀ exchange ∈ next, exchange.isLogin = false → ∃ token,
      LastGranted exchanges token ∧ exchange.request.authorization = some token.authorization) :
    Authorized (exchanges ++ next.toList) := by
  intro front exchange back split request
  -- The request in question is the next one, or one of those before.
  rcases List.eq_nil_or_concat back with rfl | ⟨back', last, rfl⟩
  · cases next with
    | none => exact authorized front exchange [] (by simpa using split) request
    | some exchange' =>
      obtain ⟨rfl, same⟩ := List.append_inj' split rfl
      obtain rfl : exchange' = exchange := by simpa using same
      exact carries exchange' rfl request
  · -- The last exchange is split off from what is behind the one in question.
    cases next with
    | none => exact authorized front exchange (back' ++ [last]) (by simpa using split) request
    | some exchange' =>
      have split' : exchanges ++ [exchange'] = (front ++ exchange :: back') ++ [last] := by
        simpa using split
      obtain ⟨before_eq, _⟩ := List.append_inj' split' rfl
      exact authorized front exchange back' before_eq request

/-! ### Runs -/

/-- What can be done with a session. -/
inductive Session.Action where
  | connect
  | request (method : String) (path : List String) (query : List (String × String))
    (body : Option Json)
  /-- Between two calls the clock comes to show another time. -/
  | clock (now : Int)

/-- Perform an action. -/
def Session.Action.perform : Session.Action → Call Unit
  | .connect => Call.connect
  | .request method path query body => do
    let _ ← Call.request method path query body
    return ()
  | .clock now => modify fun session => { session with now }

/-- A token that is held after a request was granted in it, or was held before and stays. -/
theorem Course.Obeys.token_cases {course : Course} {method : String} {path : List String}
    {query : List (String × String)} {body : Option Json} {before after : Session}
    {outcome : Outcome Answer} {token : Token}
    (obeys : course.Obeys method path query body before outcome after)
    (held : after.token = some token) :
    (∃ exchange ∈ course.relogin, exchange.Grants token) ∨
      (course.relogin = none ∧ course.second = none ∧
        ((∃ exchange ∈ course.login, exchange.Grants token) ∨
          (∀ exchange ∈ course.login, exchange.Refuses) ∧ before.token = some token)) := by
  -- Only a rejection drops the token, and then the second login decides.
  by_cases rejected : course.IsRejected
  · exact .inl ((obeys.dropped rejected token).1 held)
  · refine .inr ⟨?_, ?_, (obeys.kept rejected token).1 held⟩
    · rw [← Option.not_isSome_iff_eq_none, obeys.relogin_iff]
      exact fun sent => rejected sent.1
    · rw [← Option.not_isSome_iff_eq_none, obeys.second_iff]
      exact fun sent => rejected sent.1

namespace Session

/-- The session after some actions. -/
def after (session : Session) (actions : List Action) : Session :=
  actions.foldl (fun session action => (applyTo session action.perform).2) session

/-- What connecting does: the token is dropped, and a login is sent for another one. -/
structure Connects (login : Option Exchange) (before : Session) (outcome : Outcome Unit)
    (after : Session) : Prop where
  continues : before.Continues login.toList after
  logins : ∀ exchange ∈ login,
    exchange.isLogin = true ∧ before.loginRequest = .ok exchange.request
  login_iff : login.isSome = true ↔ before.IsOnWeb ∧ before.Reaches 0
  success_iff : outcome = .ok () ↔ ∃ token, ∃ exchange ∈ login, exchange.Grants token
  token_iff : ∀ token, after.token = some token ↔ ∃ exchange ∈ login, exchange.Grants token

/-- Connecting sends one login at most. -/
theorem exists_connects {before : Session} (prepared : before.IsPrepared) :
    ∃ login, Connects login before (applyTo before Call.connect).1
      (applyTo before Call.connect).2 := by
  -- To connect is to authenticate in a session without a token.
  have dropped : before.Continues [] { before with token := none } :=
    (Continues.refl before).retimed none before.now
  have prepared' := prepared.continued dropped (by simp)
  -- The token has been dropped, so that none is held and a login must be sent.
  have stale (token : Token) : ¬ ({ before with token := none } : Session).Holds token := by
    rintro ⟨held, _⟩
    cases held
  obtain ⟨sent, authenticates⟩ := Call.exists_authenticates { before with token := none }
  obtain ⟨login, _, authenticated⟩ :=
    exists_authenticated prepared'.single prepared'.credentials authenticates
  simp only [Call.connect, applyTo_bind, Call.applyTo_dropToken]
  cases tried : applyTo { before with token := none } Call.authenticate with
  | mk outcome after =>
    rw [tried] at authenticated
    have granted_iff (token : Token) : outcome = .ok token ↔
        ∃ exchange ∈ login, exchange.Grants token :=
      (authenticated.granted_iff token).trans (or_iff_right (stale token))
    have connects : Connects login before (outcome.map fun _ => ()) after := {
      continues := dropped.trans authenticated.continues
      logins := fun exchange listed =>
        have made := dropped.loginRequest_eq ▸ authenticated.asks exchange listed
        ⟨isLogin_of_loginRequest made, made⟩
      login_iff := by
        rw [authenticated.login_iff, dropped.isOnWeb_iff]
        exact and_iff_right stale
      success_iff := by
        simp only [← granted_iff]
        cases outcome <;> simp [Except.map]
      token_iff := by
        intro token
        rw [authenticated.token_iff]
        refine or_iff_left ?_
        rintro ⟨_, held⟩
        cases held }
    -- The answer to connecting tells nothing but whether a token was granted.
    refine ⟨login, ?_⟩
    cases outcome <;> exact connects

/-- A session in which tokens are held and sent as they were granted. -/
structure IsFaithful (session : Session) : Prop where
  prepared : session.IsPrepared
  held : ∀ token, session.token = some token → LastGranted session.exchanges token
  authorized : Authorized session.exchanges

namespace IsFaithful

variable {before after : Session}

/-- A session starts without a token. -/
theorem of_start {settings : Settings} {server : Server} {now : Int} {session : Session}
    (started : start settings server now = .ok session)
    (credentials : settings.hasCredentials = true) (single : settings.trials = 1)
    (legal : ∀ event ∈ server, event.IsLegal) : session.IsFaithful := by
  -- At the start nothing is held and nothing has been sent.
  obtain ⟨root, url, _, _, rfl⟩ := start_eq_ok_iff.1 started
  exact {
    prepared := { single, credentials, held := by simp, served := legal }
    held := by simp
    authorized := by simp [Authorized] }

/-- Connecting leaves no token but the one that is granted. -/
theorem connect {login : Option Exchange} {outcome : Outcome Unit} (faithful : before.IsFaithful)
    (connects : Connects login before outcome after) : after.IsFaithful where
  prepared := by
    -- The only token is that of the login, which the server has granted.
    refine faithful.prepared.continued connects.continues fun token held => ?_
    obtain ⟨exchange, listed, grants⟩ := (connects.token_iff token).1 held
    exact faithful.prepared.isLegal_of_grants connects.continues (Option.mem_toList.2 listed) grants
  held token held := by
    rw [connects.continues.exchanges_eq]
    exact .of_grants ((connects.token_iff token).1 held)
  authorized := by
    rw [connects.continues.exchanges_eq]
    -- A connection sends logins only, and no token with them.
    refine faithful.authorized.append fun exchange listed request => ?_
    cases request.symm.trans (connects.logins exchange listed).1

/-- A request carries the token that was granted last, and leaves it or a later one. -/
theorem request {course : Course} {method : String} {path : List String}
    {query : List (String × String)} {body : Option Json} {outcome : Outcome Answer}
    (faithful : before.IsFaithful)
    (obeys : course.Obeys method path query body before outcome after) : after.IsFaithful := by
  have exchanges_eq : after.exchanges =
      before.exchanges ++ course.login.toList ++ course.first.toList ++
        course.relogin.toList ++ course.second.toList := by
    rw [obeys.continues.exchanges_eq, Course.exchanges]
    simp only [List.append_assoc]
  -- Requests are no logins, so that they grant nothing.
  have requests_vain {exchange : Exchange}
      (listed : exchange ∈ course.first ∨ exchange ∈ course.second) (token : Token) :
      ¬ exchange.Grants token := by
    intro grants
    cases grants.1.symm.trans (obeys.requests exchange listed).1
  -- A token that is usable for the first request is the last one behind the first login.
  have usable (token : Token)
      (either : before.Holds token ∨ ∃ exchange ∈ course.login, exchange.Grants token) :
      LastGranted (before.exchanges ++ course.login.toList) token := by
    rcases either with holds | granted
    · have unsent : course.login = none := by
        rw [← Option.not_isSome_iff_eq_none, obeys.login_iff]
        exact fun sent => sent.1 token holds
      simpa [unsent] using faithful.held token holds.1
    · exact .of_grants granted
  refine ⟨?_, fun token held => ?_, ?_⟩
  · -- A token that is held at the end was granted in the course, or it was held before.
    refine faithful.prepared.continued obeys.continues fun token held => ?_
    rcases obeys.token_cases held with
      ⟨exchange, listed, grants⟩ | ⟨_, _, ⟨exchange, listed, grants⟩ | ⟨_, kept⟩⟩
    · refine faithful.prepared.isLegal_of_grants obeys.continues ?_ grants
      simp [Course.exchanges, Option.mem_def.1 listed]
    · refine faithful.prepared.isLegal_of_grants obeys.continues ?_ grants
      simp [Course.exchanges, Option.mem_def.1 listed]
    · exact faithful.prepared.held token kept
  · -- The exchanges behind the granting login grant nothing, so that it stays the last one.
    rw [exchanges_eq]
    rcases obeys.token_cases held with granted | ⟨unsent, unsent', granted | ⟨refuses, kept⟩⟩
    · exact (LastGranted.of_grants granted).append
        fun exchange listed => requests_vain (.inr listed)
    · rw [unsent, unsent']
      simpa using (LastGranted.of_grants granted).append
        fun exchange listed => requests_vain (.inl listed)
    · rw [unsent, unsent']
      simpa using ((faithful.held token kept).append
        fun exchange listed => (refuses exchange listed).2).append
          fun exchange listed => requests_vain (.inl listed)
  · rw [exchanges_eq]
    -- The exchanges are appended one by one, and the two requests are the ones with a token.
    refine Authorized.append (.append (.append (.append faithful.authorized ?_) ?_) ?_) ?_
    · intro exchange listed request
      cases request.symm.trans (obeys.logins exchange (.inl listed)).1
    · intro exchange listed _
      obtain ⟨token, carried, either⟩ := obeys.first_token exchange listed
      exact ⟨token, usable token either, carried⟩
    · intro exchange listed request
      cases request.symm.trans (obeys.logins exchange (.inr listed)).1
    · intro exchange listed _
      obtain ⟨token, carried, granted⟩ := obeys.second_token exchange listed
      exact ⟨token, .of_grants granted, carried⟩

/-- A session stays faithful whatever is done with it. -/
theorem perform (faithful : before.IsFaithful) (action : Action) :
    (applyTo before action.perform).2.IsFaithful := by
  -- Connecting and requesting have their courses, and the clock touches neither token nor
  -- exchanges.
  cases action with
  | connect =>
    obtain ⟨login, connects⟩ := exists_connects faithful.prepared
    exact faithful.connect connects
  | request method path query body =>
    obtain ⟨course, obeys⟩ := exists_course faithful.prepared method path query body
    rw [Action.perform, snd_applyTo_bind_pure]
    exact faithful.request obeys
  | clock now =>
    exact {
      prepared := { faithful.prepared with }
      held := faithful.held
      authorized := faithful.authorized }

/-- A session stays faithful in every run. -/
theorem run (faithful : before.IsFaithful) (actions : List Action) :
    (before.after actions).IsFaithful := by
  -- One action keeps the session faithful, and a run is actions in a row.
  induction actions generalizing before with
  | nil => exact faithful
  | cons action actions ih => exact ih (faithful.perform action)

end IsFaithful

/--
Every run of a session obeys the token protocol, when a login is tried once.

All requests carry the token that was granted last.
A further request takes its course, in which at most two requests are sent that differ in the token
only, and connecting sends one login at most.
-/
theorem token_protocol {settings : Settings} {server : Server} {now : Int} {session : Session}
    (started : start settings server now = .ok session)
    (credentials : settings.hasCredentials = true) (single : settings.trials = 1)
    (legal : ∀ event ∈ server, event.IsLegal) (actions : List Action) :
    Authorized (session.after actions).exchanges ∧
    (∀ method path query body, ∃ course : Course,
      course.Obeys method path query body (session.after actions)
        (applyTo (session.after actions) (Call.request method path query body)).1
        (applyTo (session.after actions) (Call.request method path query body)).2) ∧
    ∃ login, Connects login (session.after actions)
      (applyTo (session.after actions) Call.connect).1
      (applyTo (session.after actions) Call.connect).2 := by
  -- A session is faithful from its start on, and every part of the protocol follows from this.
  have faithful := (IsFaithful.of_start started credentials single legal).run actions
  exact ⟨faithful.authorized, exists_course faithful.prepared, exists_connects faithful.prepared⟩

/-- Settings with which a login is tried once. -/
def sampleSettings : Settings where
  username := some "pilot"
  password := some "secret"
  serverUrl := some "http://[::1]"
  maxTrials := some 1

/-- A session starts with the settings, whatever the server does. -/
theorem start_sampleSettings (server : Server) : start sampleSettings server 0 =
    .ok { settings := sampleSettings, root := "http://[::1]/api", server } :=
  start_of_isOk rfl (by decide +kernel) server 0

/-- A request that is rejected is sent once more, with the token of a second login. -/
theorem token_protocol_rejected :
    let server : Server := [.granting "first", .replying 401 .null, .granting "second",
      .replying 200 .null]
    ∃ session, start sampleSettings server 0 = .ok session ∧
      sampleSettings.hasCredentials = true ∧ sampleSettings.trials = 1 ∧
      (∀ event ∈ server, event.IsLegal) ∧
      (session.after [.request "GET" ["v2"] [] none]).exchanges.map (·.request.authorization) =
        [none, some "bearer first", none, some "bearer second"] ∧
      Authorized (session.after [.request "GET" ["v2"] [] none]).exchanges := by
  intro server
  have legal : ∀ event ∈ server, event.IsLegal := by
    -- Whether the tokens are legal is told by the bodies of the replies.
    have all : (server.all fun event => event.reply.all fun reply =>
        (Decoder.fromText TokenReply.decode reply.body).all fun answer =>
          (answer.kind.toList ++ answer.text.toList).all Request.isHeaderChar) = true := by
      decide +kernel
    exact fun event listed => Event.isLegal_of_all (List.all_eq_true.1 all event listed)
  have started := start_sampleSettings server
  refine ⟨_, started, by decide, by decide, legal, by decide +kernel, ?_⟩
  exact (token_protocol started (by decide) (by decide) legal _).1

end Session
end FlightQuery
