import FlightQuery.Proofs.Session.Requesting
import FlightQuery.Proofs.Session.Sendable

/-! Values that are fetched: what is sent for one, and where it comes from. -/

namespace FlightQuery

open Stateful

namespace Exchange

/-- The value in the reply to a request. -/
def value? {α : Type} (decode : Decoder α) (exchange : Exchange) : Option α :=
  exchange.answer?.bind fun answer => Decoder.fromJson decode answer.content

/-- A login has no answer but a token. -/
theorem answer?_of_isLogin {exchange : Exchange} (login : exchange.isLogin = true) :
    exchange.answer? = none := if_pos login

end Exchange

/-- A session asks with an exchange: it logs in, or it makes the request with a token. -/
def Session.AsksWith (session : Session) (make : Token → Request) (exchange : Exchange) : Prop :=
  session.loginRequest = .ok exchange.request ∨ ∃ token, exchange.request = make token

namespace Call

variable {make : Token → Request} {session after : Session} {sent : List Exchange}

/-- An authentication sends nothing but logins. -/
theorem Authenticates.sends {outcome : Outcome Token}
    (authenticates : Authenticates session outcome sent after) :
    session.Continues sent after ∧ ∀ exchange ∈ sent,
      session.loginRequest = .ok exchange.request := by
  -- A login may take several trials, all of which send the same request.
  cases authenticates with
  | held => exact ⟨.refl session, by simp⟩
  | unprepared => exact ⟨.refl session, by simp⟩
  | login _ made logs =>
    cases logs with
    | granted requests _ _ continues =>
      exact ⟨continues, fun exchange listed => (requests exchange listed).symm ▸ made⟩
    | refused requests _ continues =>
      exact ⟨continues, fun exchange listed => (requests exchange listed).symm ▸ made⟩

/-- Logins have no answers but tokens. -/
theorem Authenticates.filterMap_answer? {outcome : Outcome Token}
    (authenticates : Authenticates session outcome sent after) :
    sent.filterMap Exchange.answer? = [] := by
  -- Everything sent to log in is a login request, and those answer no call.
  refine List.filterMap_eq_nil_iff.2 fun exchange listed => ?_
  exact Exchange.answer?_of_isLogin
    (Session.isLogin_of_loginRequest (authenticates.sends.2 exchange listed))

/-- An attempt sends logins, and the request with a token. -/
theorem Attempts.sends {outcome : Outcome Reply}
    (attempts : Attempts make session outcome sent after) :
    session.Continues sent after ∧ ∀ exchange ∈ sent, session.AsksWith make exchange := by
  -- The logins come from the authentication, and the request with the token follows them.
  have logins {outcome' : Outcome Token} {sent' : List Exchange} {after' : Session}
      (authenticates : Authenticates session outcome' sent' after') :
      ∀ exchange ∈ sent', session.AsksWith make exchange :=
    fun exchange listed => .inl (authenticates.sends.2 exchange listed)
  cases attempts with
  | unauthenticated refused => exact ⟨refused.sends.1, logins refused⟩
  | lost granted => exact ⟨granted.sends.1, logins granted⟩
  | @sent token _ _ exchange _ granted asked _ continues =>
    refine ⟨granted.sends.1.trans continues, List.forall_mem_append.2 ⟨logins granted, ?_⟩⟩
    simpa using .inr ⟨token, asked⟩

/-- The only answer to an attempt is that to the request. -/
theorem Attempts.filterMap_answer? (url : Url) {outcome : Outcome Reply}
    (carries : ∀ token, (make token).authorization.isSome = true)
    (attempts : Attempts make session outcome sent after) :
    sent.filterMap Exchange.answer? = (outcome >>= answerOf url).toOption.toList := by
  -- Logins have no answer, so that only the request with a token matters.
  cases attempts with
  | unauthenticated refused => exact refused.filterMap_answer?
  | lost granted => exact granted.filterMap_answer?
  | @sent token _ _ exchange _ granted asked =>
    have request : exchange.isLogin = false := by
      rw [Exchange.isLogin, asked, ← Option.not_isSome, carries token]
      rfl
    -- The request stands behind the logins, and it is the only one that has an answer.
    have answer_iff (answer : Answer) :
        (outcomeOf exchange >>= answerOf url) = .ok answer ↔
          exchange.answer? = some answer := by
      have asks : ∀ exchange' ∈ some exchange, exchange'.isLogin = false := by simpa using request
      simpa using bind_answerOf_eq_ok_iff asks fun reply => by simpa using outcomeOf_eq_ok_iff
    rw [List.filterMap_append, granted.filterMap_answer?, List.nil_append]
    cases answered : outcomeOf exchange >>= answerOf url with
    | error error =>
      have vain : exchange.answer? = none := by
        refine Option.eq_none_iff_forall_ne_some.2 fun answer found => ?_
        cases answered.symm.trans ((answer_iff answer).2 found)
      simp [vain, Except.toOption]
    | ok answer => simp [(answer_iff answer).1 answered, Except.toOption]

/-- A request sends logins, and the request with a token. -/
theorem Requests.sends {url : Url} {outcome : Outcome Answer}
    (requests : Requests url make session outcome sent after) :
    session.Continues sent after ∧ ∀ exchange ∈ sent, session.AsksWith make exchange := by
  -- A second attempt starts without a token, but it asks for the same login.
  cases requests with
  | once first => exact first.sends
  | @again _ _ _ middle _ _ first _ second =>
    obtain ⟨continues, asks⟩ := first.sends
    have dropped := continues.retimed none middle.now
    refine ⟨dropped.trans second.sends.1, List.forall_mem_append.2 ⟨asks, ?_⟩⟩
    exact fun exchange listed => (second.sends.2 exchange listed).imp_left
      fun made => dropped.loginRequest_eq ▸ made

/-- The only answer to a request is what comes of it. -/
theorem Requests.filterMap_answer? {url : Url} {outcome : Outcome Answer}
    (carries : ∀ token, (make token).authorization.isSome = true)
    (requests : Requests url make session outcome sent after) :
    sent.filterMap Exchange.answer? = outcome.toOption.toList := by
  cases requests with
  | once first => exact first.filterMap_answer? url carries
  | @again reply _ _ _ _ _ first rejected second =>
    -- The reply that rejects the token is no success.
    have rejection : answerOf url reply = .error _ := if_neg (by rw [rejected]; decide)
    rw [List.filterMap_append, first.filterMap_answer? url carries,
      second.filterMap_answer? url carries, Outcome.ok_bind, rejection]
    rfl

/-- What is fetched is asked for at one address, and it is the only value that is replied. -/
structure Fetches {α : Type} (decode : Decoder α) (path : List String)
    (query : List (String × String)) (before : Session) (outcome : Outcome α)
    (sent : List Exchange) (after : Session) : Prop where
  continues : before.Continues sent after
  asks : ∀ exchange ∈ sent, ∃ url, before.address path query = .ok url ∧
    before.AsksWith (withToken "GET" url none) exchange
  values_eq : sent.filterMap (Exchange.value? decode) = outcome.toOption.toList

/-- A value is fetched by a request. -/
theorem exists_fetches {α : Type} (decode : Decoder α) (path : List String)
    (query : List (String × String)) (session : Session) :
    ∃ sent, Fetches decode path query session (applyTo session (fetch decode path query)).1 sent
      (applyTo session (fetch decode path query)).2 := by
  simp only [fetch, applyTo_bind]
  -- Without an address nothing is sent and nothing is fetched.
  rcases request_cases session "GET" path query none with
    ⟨error, _, failed⟩ | ⟨url, sent, address_eq, requests⟩
  · rw [failed]
    exact ⟨[], .refl session, by simp, rfl⟩
  · have answers_eq := requests.filterMap_answer? fun _ => rfl
    obtain ⟨continues, asks⟩ := requests.sends
    have values_eq : sent.filterMap (Exchange.value? decode) =
        (sent.filterMap Exchange.answer?).filterMap fun answer =>
          Decoder.fromJson decode answer.content := by
      rw [List.filterMap_filterMap]
      rfl
    refine ⟨sent, ?_⟩
    cases made : applyTo session (request "GET" path query none) with
    | mk outcome after =>
      rw [made] at answers_eq continues
      -- The values are decoded from the answers, of which there is one at most.
      have fetches (fetched : Outcome α) (decoded :
          (outcome.toOption.toList.filterMap fun answer =>
            Decoder.fromJson decode answer.content) = fetched.toOption.toList) :
          Fetches decode path query session fetched sent after := {
        continues
        asks := fun exchange listed => ⟨url, address_eq, asks exchange listed⟩
        values_eq := by rw [values_eq, answers_eq, decoded] }
      cases outcome with
      | error error => exact fetches (.error error) rfl
      | ok answer =>
        cases read : Decoder.fromJson decode answer.content with
        | none =>
          simpa [read] using fetches (.error .document) (by simp [read, Except.toOption])
        | some value => simpa [read] using fetches (.ok value) (by simp [read, Except.toOption])

end Call
end FlightQuery
