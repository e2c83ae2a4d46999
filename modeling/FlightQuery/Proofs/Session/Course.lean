import FlightQuery.Proofs.Session.Attempt

/-! The course of a request when a login is tried once: a login, the request, and both once more. -/

namespace FlightQuery

open Stateful

/-- What a request sends, in this order. Each part may be missing. -/
structure Course where
  login : Option Exchange
  first : Option Exchange
  relogin : Option Exchange
  second : Option Exchange

namespace Course

/-- All that is sent. -/
def exchanges (course : Course) : List Exchange :=
  course.login.toList ++ course.first.toList ++ (course.relogin.toList ++ course.second.toList)

/-- The token of the first request is rejected. -/
def IsRejected (course : Course) : Prop := ∃ exchange ∈ course.first, exchange.isRejected = true

/-- A course obeys the token protocol: what is sent, when it is sent, and what comes of it. -/
structure Obeys (course : Course) (method : String) (path : List String)
    (query : List (String × String)) (body : Option Json) (before : Session)
    (outcome : Outcome Answer) (after : Session) : Prop where
  continues : before.Continues course.exchanges after
  /-- Logins are all the same. -/
  logins : ∀ exchange, exchange ∈ course.login ∨ exchange ∈ course.relogin →
    exchange.isLogin = true ∧ before.loginRequest = .ok exchange.request
  /-- Requests are the same but for the token. -/
  requests : ∀ exchange, exchange ∈ course.first ∨ exchange ∈ course.second →
    exchange.isLogin = false ∧ ∃ url token, before.address path query = .ok url ∧
      exchange.request = Call.withToken method url body token
  /-- A login comes first when no usable token is held. -/
  login_iff : course.login.isSome = true ↔
    (∀ token, ¬ before.Holds token) ∧ before.IsOnWeb ∧ before.Reaches 0
  /-- The request is sent with a token. -/
  first_iff : course.first.isSome = true ↔
    (∃ token, before.Holds token ∨ ∃ exchange ∈ course.login, exchange.Grants token) ∧
      before.IsOnWeb ∧ before.Reaches course.login.toList.length
  /-- There is another login when the token is rejected. -/
  relogin_iff : course.relogin.isSome = true ↔
    course.IsRejected ∧ before.Reaches (course.login.toList.length + 1)
  /-- The request is sent again when the token is rejected and another one is granted. -/
  second_iff : course.second.isSome = true ↔
    course.IsRejected ∧ (∃ token, ∃ exchange ∈ course.relogin, exchange.Grants token) ∧
      before.Reaches (course.login.toList.length + 2)
  /-- The first request carries the token that is held or granted. -/
  first_token : ∀ exchange ∈ course.first, ∃ token,
    exchange.request.authorization = some token.authorization ∧
      (before.Holds token ∨ ∃ exchange ∈ course.login, exchange.Grants token)
  /-- The second request carries the token that is granted in between. -/
  second_token : ∀ exchange ∈ course.second, ∃ token,
    exchange.request.authorization = some token.authorization ∧
      ∃ exchange ∈ course.relogin, exchange.Grants token
  /-- A login that fails is the end. -/
  login_refused : (∃ exchange ∈ course.login, exchange.Refuses) →
    course.first = none ∧ course.relogin = none ∧ course.second = none ∧
      ∃ error, outcome = .error error
  /-- A second login that fails is the end. -/
  relogin_refused : (∃ exchange ∈ course.relogin, exchange.Refuses) →
    course.second = none ∧ ∃ error, outcome = .error error
  /-- The answer is that to one of the requests. -/
  answer_iff : ∀ answer, outcome = .ok answer ↔
    ∃ exchange, (exchange ∈ course.first ∨ exchange ∈ course.second) ∧
      exchange.answer? = some answer
  /-- A token that is not rejected is held until another one is granted. -/
  kept : ¬ course.IsRejected → ∀ token, after.token = some token ↔
    (∃ exchange ∈ course.login, exchange.Grants token) ∨
      (∀ exchange ∈ course.login, exchange.Refuses) ∧ before.token = some token
  /-- A token that is rejected is dropped. -/
  dropped : course.IsRejected → ∀ token, after.token = some token ↔
    ∃ exchange ∈ course.relogin, exchange.Grants token

end Course

namespace Session

/-- A login that fails leaves no request to be sent. -/
theorem Attempted.of_refused {make : Token → Request} {session after : Session}
    {login request : Option Exchange} {outcome : Outcome Reply}
    (attempted : session.Attempted make login request outcome after)
    (refused : ∃ exchange ∈ login, exchange.Refuses) :
    request = none ∧ ∃ error, outcome = .error error := by
  obtain ⟨exchange, listed, refuses⟩ := refused
  have stale := (attempted.login_iff.1 (Option.isSome_of_mem listed)).1
  -- Neither is a token held, nor is one granted.
  have unsent : request = none := by
    rw [← Option.not_isSome_iff_eq_none, attempted.request_iff]
    rintro ⟨⟨token, holds | ⟨exchange', listed', grants⟩⟩, _⟩
    · exact stale token holds
    · cases Option.mem_unique listed listed'
      exact refuses.2 token grants
  refine ⟨unsent, ?_⟩
  -- A reply would belong to a request that was sent.
  cases outcome with
  | error error => exact ⟨error, rfl⟩
  | ok reply =>
    obtain ⟨_, sent, _⟩ := (attempted.replied_iff reply).1 rfl
    rw [unsent] at sent
    cases sent

/-- What an attempt at a request does when the token was dropped behind some exchanges: nothing but
a token that its own login is answered with is used. -/
structure Reattempted (make : Token → Request) (before : Session) (sent : Nat)
    (login request : Option Exchange) (after : Session) : Prop where
  asks_login : ∀ exchange ∈ login, before.loginRequest = .ok exchange.request
  login_iff : login.isSome = true ↔ before.Reaches sent
  asks : ∀ exchange ∈ request, ∃ token, exchange.request = make token ∧
    ∃ exchange ∈ login, exchange.Grants token
  request_iff : request.isSome = true ↔
    (∃ token, ∃ exchange ∈ login, exchange.Grants token) ∧ before.Reaches (sent + 1)
  token_iff : ∀ token, after.token = some token ↔ ∃ exchange ∈ login, exchange.Grants token

/-- An attempt behind others does what the session before all of them allows. -/
theorem Attempted.reattempted {make : Token → Request} {before middle after : Session}
    {sent : List Exchange} {login request : Option Exchange} {outcome : Outcome Reply}
    (between : before.Continues sent { middle with token := none }) (web : before.IsOnWeb)
    (attempted : ({ middle with token := none } : Session).Attempted make login request outcome
      after) :
    Reattempted make before sent.length login request after := by
  have stale (token : Token) : ¬ ({ middle with token := none } : Session).Holds token := by
    rintro ⟨held, _⟩
    cases held
  have granted_iff (token : Token) : (({ middle with token := none } : Session).Holds token ∨
      ∃ exchange ∈ login, exchange.Grants token) ↔ ∃ exchange ∈ login, exchange.Grants token :=
    or_iff_right (stale token)
  have web' : ({ middle with token := none } : Session).IsOnWeb := between.isOnWeb_iff.2 web
  -- What the server does with the exchanges before is used up.
  have reaches (others : Nat) : ({ middle with token := none } : Session).Reaches others ↔
      before.Reaches (sent.length + others) := by
    rw [Reaches, Reaches, between.length_server]
    omega
  exact {
    asks_login := fun exchange listed =>
      between.loginRequest_eq ▸ attempted.asks_login exchange listed
    login_iff := by
      rw [attempted.login_iff, reaches, Nat.add_zero]
      constructor
      · rintro ⟨_, _, able⟩
        exact able
      · exact fun able => ⟨stale, web', able⟩
    asks := by
      intro exchange listed
      obtain ⟨token, asked, granted⟩ := attempted.asks exchange listed
      exact ⟨token, asked, (granted_iff token).1 granted⟩
    request_iff := by
      rw [attempted.request_iff, reaches]
      simp only [granted_iff]
      -- A token can be granted by nothing but the login, which is one exchange.
      constructor
      · rintro ⟨⟨token, exchange, listed, grants⟩, _, able⟩
        cases listed
        exact ⟨⟨token, exchange, rfl, grants⟩, able⟩
      · rintro ⟨⟨token, exchange, listed, grants⟩, able⟩
        cases listed
        exact ⟨⟨token, exchange, rfl, grants⟩, web', able⟩
    token_iff := by
      intro token
      rw [attempted.token_iff]
      refine or_iff_left ?_
      rintro ⟨_, held⟩
      cases held }

variable {method : String} {path : List String} {query : List (String × String)}
  {body : Option Json} {url : Url} {before after : Session}

/-- A request with a token is no login. -/
theorem Attempted.isLogin_eq_false {login request : Option Exchange} {outcome : Outcome Reply}
    (attempted : before.Attempted (Call.withToken method url body) login request outcome after) :
    ∀ exchange ∈ request, exchange.isLogin = false := by
  intro exchange listed
  -- The request carries a token, and a login carries none.
  obtain ⟨token, asked, _⟩ := attempted.asks exchange listed
  rw [Exchange.isLogin, asked]
  rfl

/-- A course of one attempt, whose token is not rejected. -/
theorem Attempted.obeys_once {login request : Option Exchange} {outcome : Outcome Reply}
    (reached : before.address path query = .ok url)
    (attempted : before.Attempted (Call.withToken method url body) login request outcome after)
    (accepted : ∀ reply, outcome = .ok reply → reply.status ≠ unauthorized) :
    Course.Obeys ⟨login, request, none, none⟩ method path query body before
      (outcome >>= Call.answerOf url) after := by
  -- The exchange behind the login is no login itself, so that its status may be a rejection.
  have requests := attempted.isLogin_eq_false
  have unrejected : ¬ Course.IsRejected ⟨login, request, none, none⟩ := by
    rintro ⟨exchange, listed, rejected⟩
    rw [Exchange.isRejected, requests exchange listed, Bool.not_false, Bool.true_and,
      Option.any_eq_true] at rejected
    obtain ⟨reply, replied, status⟩ := rejected
    exact accepted reply ((attempted.replied_iff reply).2 ⟨exchange, listed, replied⟩)
      (by simpa using status)
  -- Without a rejection there is no second attempt, and its clauses have nothing to tell.
  exact {
    continues := by simpa [Course.exchanges] using attempted.continues
    logins := by
      simp only [Option.not_mem_none, or_false]
      exact fun exchange listed =>
        have made := attempted.asks_login exchange listed
        ⟨isLogin_of_loginRequest made, made⟩
    requests := by
      simp only [Option.not_mem_none, or_false]
      intro exchange listed
      obtain ⟨token, asked, _⟩ := attempted.asks exchange listed
      exact ⟨requests exchange listed, url, token, reached, asked⟩
    login_iff := attempted.login_iff
    first_iff := attempted.request_iff
    relogin_iff := by simpa using fun rejected => absurd rejected unrejected
    second_iff := by simp
    first_token := by
      intro exchange listed
      obtain ⟨token, asked, granted⟩ := attempted.asks exchange listed
      exact ⟨token, by rw [asked]; rfl, granted⟩
    second_token := by simp
    login_refused := by
      intro refused
      obtain ⟨unsent, error, rfl⟩ := attempted.of_refused refused
      exact ⟨unsent, rfl, rfl, error, rfl⟩
    relogin_refused := by simp
    answer_iff := by
      simp only [Option.not_mem_none, or_false]
      exact fun answer => Call.bind_answerOf_eq_ok_iff requests attempted.replied_iff
    kept := fun _ => attempted.token_iff
    dropped := fun rejected => absurd rejected unrejected }

/-- A course of two attempts, of which the first one was made with a token that is rejected. -/
theorem Attempted.obeys_again {login relogin second : Option Exchange} {first : Exchange}
    {reply : Reply} {middle : Session} {outcome : Outcome Reply}
    (reached : before.address path query = .ok url)
    (attempted : before.Attempted (Call.withToken method url body) login (some first)
      (.ok reply) middle)
    (status : reply.status = unauthorized)
    (again : ({ middle with token := none } : Session).Attempted (Call.withToken method url body)
      relogin second outcome after) :
    Course.Obeys ⟨login, some first, relogin, second⟩ method path query body before
      (outcome >>= Call.answerOf url) after := by
  -- The first request was rejected, so that it answers nothing.
  have first_request := attempted.isLogin_eq_false first rfl
  have second_request := again.isLogin_eq_false
  have replied : first.reply = some reply := by
    obtain ⟨exchange, ⟨⟩, replied⟩ := (attempted.replied_iff reply).1 rfl
    exact replied
  have rejected : Course.IsRejected ⟨login, some first, relogin, second⟩ :=
    ⟨first, rfl, by simp [Exchange.isRejected, first_request, replied, status]⟩
  have unanswered : first.answer? = none := by
    simp [Exchange.answer?, first_request, replied, status, isSuccess, unauthorized]
  -- The second attempt starts without a token, where the first one has ended.
  have between := attempted.continues.retimed none middle.now
  have afresh := again.reattempted between (attempted.request_iff.1 rfl).2.1
  rw [List.length_append, Option.toList_some, List.length_singleton] at afresh
  -- The clauses of the first attempt are told as before, those of the second one from its own
  -- start.
  exact {
    continues := between.trans again.continues
    logins := by
      intro exchange listed
      have made : before.loginRequest = .ok exchange.request :=
        listed.elim (attempted.asks_login exchange) (afresh.asks_login exchange)
      exact ⟨isLogin_of_loginRequest made, made⟩
    requests := by
      rintro exchange (⟨⟨⟩⟩ | listed)
      · obtain ⟨token, asked, _⟩ := attempted.asks first rfl
        exact ⟨first_request, url, token, reached, asked⟩
      · obtain ⟨token, asked, _⟩ := afresh.asks exchange listed
        exact ⟨second_request exchange listed, url, token, reached, asked⟩
    login_iff := attempted.login_iff
    first_iff := attempted.request_iff
    relogin_iff := afresh.login_iff.trans (and_iff_right rejected).symm
    second_iff := afresh.request_iff.trans (and_iff_right rejected).symm
    first_token := by
      rintro exchange ⟨⟩
      obtain ⟨token, asked, granted⟩ := attempted.asks first rfl
      exact ⟨token, by rw [asked]; rfl, granted⟩
    second_token := by
      intro exchange listed
      obtain ⟨token, asked, granted⟩ := afresh.asks exchange listed
      exact ⟨token, by rw [asked]; rfl, granted⟩
    login_refused := by
      intro refused
      cases (attempted.of_refused refused).1
    relogin_refused := by
      intro refused
      obtain ⟨unsent, error, rfl⟩ := again.of_refused refused
      exact ⟨unsent, error, rfl⟩
    answer_iff := by
      intro answer
      rw [Call.bind_answerOf_eq_ok_iff second_request again.replied_iff]
      constructor
      · rintro ⟨exchange, listed, found⟩
        exact ⟨exchange, .inr listed, found⟩
      · rintro ⟨exchange, ⟨⟨⟩⟩ | listed, found⟩
        · cases unanswered.symm.trans found
        · exact ⟨exchange, listed, found⟩
    kept := fun unrejected => absurd rejected unrejected
    dropped := fun _ => afresh.token_iff }

/-- The course of a request without an address, which sends nothing. -/
theorem obeys_unaddressed {error : Error} (unreached : before.address path query = .error error) :
    Course.Obeys ⟨none, none, none, none⟩ method path query body before (.error error) before := by
  -- Whether a session is on the web depends on its root alone, and any address would show it.
  have offline : ¬ before.IsOnWeb := by
    rw [isOnWeb_iff before path query]
    rintro ⟨url, reached, _⟩
    exact nomatch unreached.symm.trans reached
  -- Without an exchange nothing is rejected.
  have unrejected : ¬ Course.IsRejected ⟨none, none, none, none⟩ := by simp [Course.IsRejected]
  exact {
    continues := .refl before
    logins := by simp
    requests := by simp
    login_iff := by simp [offline]
    first_iff := by simp [offline]
    relogin_iff := by simp [unrejected]
    second_iff := by simp
    first_token := by simp
    second_token := by simp
    login_refused := by simp
    relogin_refused := by simp
    answer_iff := by simp
    kept := by simp
    dropped := fun rejected => absurd rejected unrejected }

/-- A request takes a course by the token protocol. -/
theorem exists_course (prepared : before.IsPrepared) (method : String) (path : List String)
    (query : List (String × String)) (body : Option Json) :
    ∃ course : Course, course.Obeys method path query body before
      (applyTo before (Call.request method path query body)).1
      (applyTo before (Call.request method path query body)).2 := by
  rcases Call.request_cases before method path query body with
    ⟨error, unreached, request_eq⟩ | ⟨url, sent, reached, requests⟩
  · rw [request_eq]
    exact ⟨_, obeys_unaddressed unreached⟩
  · -- Whether a request can be sent depends on its address, not on the token.
    have sendable_iff (token : Token) (legal : token.IsLegal) :
        (Call.withToken method url body token).isSendable = true ↔ before.IsOnWeb := by
      rw [Call.isSendable_withToken legal, isOnWeb_iff before path query, reached]
      simp
    generalize (applyTo before (Call.request method path query body)).1 = outcome at requests ⊢
    generalize (applyTo before (Call.request method path query body)).2 = after at requests ⊢
    cases requests with
    | once first accepted =>
      obtain ⟨login, request, _, attempted⟩ := exists_attempted prepared sendable_iff first
      exact ⟨_, attempted.obeys_once reached accepted⟩
    | @again reply _ _ middle _ _ first rejected second =>
      obtain ⟨login, request, _, attempted⟩ := exists_attempted prepared sendable_iff first
      obtain ⟨exchange, listed, _⟩ := (attempted.replied_iff reply).1 rfl
      cases listed
      -- The second attempt is like the first one, but without a token.
      have between := attempted.continues.retimed none middle.now
      have prepared' := prepared.continued between (by simp)
      obtain ⟨relogin, second, _, attempted'⟩ := exists_attempted prepared'
        (fun token legal => (sendable_iff token legal).trans between.isOnWeb_iff.symm) second
      exact ⟨_, attempted.obeys_again reached rejected attempted'⟩

end Session
end FlightQuery
