import FlightQuery.Proofs.Session.Sending

/-! Logins: when one is made, how often it is sent, and which reply grants a token. -/

namespace FlightQuery

open Stateful

/-- A reply that comes at some time grants a token: it is no failure, it holds the text and the kind
of the token, and the lifetime in it leads to the time at which the token expires. -/
structure Reply.Grants (reply : Reply) (time : Int) (token : Token) : Prop where
  sound : isFailure reply.status = false
  answered : ∃ lifetime,
    Decoder.fromText TokenReply.decode reply.body =
      some { text := token.text, kind := token.kind, lifetime } ∧
    Token.expiry? time lifetime = some token.expiry

/-- A reply grants one token at most. -/
theorem Reply.Grants.unique {reply : Reply} {time : Int} {token token' : Token}
    (grants : reply.Grants time token) (grants' : reply.Grants time token') : token = token' := by
  -- The text of the reply tells the token, and the time of the reply its expiry.
  obtain ⟨lifetime, answered, expires⟩ := grants.answered
  obtain ⟨lifetime', answered', expires'⟩ := grants'.answered
  have same := answered.symm.trans answered'
  cases token
  cases token'
  simp only [Option.some.injEq, TokenReply.mk.injEq] at same
  obtain ⟨rfl, rfl, rfl⟩ := same
  cases expires.symm.trans expires'
  rfl

/-- A login that was answered with a token. -/
def Exchange.Grants (exchange : Exchange) (token : Token) : Prop :=
  exchange.isLogin = true ∧
    ∃ reply, exchange.reply = some reply ∧ reply.Grants exchange.time token

/-- A login is answered with one token at most. -/
theorem Exchange.Grants.unique {exchange : Exchange} {token token' : Token}
    (grants : exchange.Grants token) (grants' : exchange.Grants token') : token = token' := by
  obtain ⟨_, reply, replied, granted⟩ := grants
  obtain ⟨_, reply', replied', granted'⟩ := grants'
  -- Both tokens are read from one reply at one time.
  cases replied.symm.trans replied'
  exact Reply.Grants.unique granted granted'

/-- A login that was not answered with a token. -/
def Exchange.Refuses (exchange : Exchange) : Prop :=
  exchange.isLogin = true ∧ ∀ token, ¬ exchange.Grants token

namespace Session

/-- A session holds a token that is usable for more than another minute. -/
def Holds (session : Session) (token : Token) : Prop :=
  session.token = some token ∧ session.now + 60000 < token.expiry

/-- The request of a login, for which a user, a password and an address are needed. -/
def loginRequest (session : Session) : Outcome Request := do
  let username ← session.settings.requireUsername
  let password ← session.settings.requirePassword
  let url ← session.address ["token"] []
  return Call.loginRequest url username password

/-- The request of a login stays the same. -/
theorem Continues.loginRequest_eq {before after : Session} {sent : List Exchange}
    (continues : before.Continues sent after) : after.loginRequest = before.loginRequest := by
  simp only [loginRequest, continues.settings_eq, continues.address_eq]

end Session

namespace Call

/-- The token of a reply to a login is kept, if the reply grants one. -/
theorem acceptLogin_cases (session : Session) (reply : Reply) :
    (∃ token, reply.Grants session.now token ∧
      applyTo session (acceptLogin reply) = (.ok token, { session with token := some token })) ∨
    ∃ error, (∀ token, ¬ reply.Grants session.now token) ∧
      applyTo session (acceptLogin reply) = (.error error, session) := by
  unfold acceptLogin
  by_cases rejected : reply.status = unauthorized ∨ reply.status = badRequest
  · -- Both statuses are failures, so that nothing is granted.
    rw [if_pos rejected]
    refine .inr ⟨.authentication, fun token grants => ?_, rfl⟩
    have sound := grants.sound
    rcases rejected with status | status <;> rw [status] at sound <;> cases sound
  · -- Any other status is a failure, which grants nothing, or the token is in the body.
    rw [if_neg rejected]
    by_cases failure : isFailure reply.status = true
    · rw [if_pos failure]
      exact .inr ⟨.transport, fun token grants => by simp [grants.sound] at failure, rfl⟩
    · rw [if_neg failure]
      cases read : Decoder.fromText TokenReply.decode reply.body with
      | none =>
        refine .inr ⟨.transport, fun token grants => ?_, rfl⟩
        obtain ⟨lifetime, answered, _⟩ := grants.answered
        exact nomatch read.symm.trans answered
      | some answer =>
        -- Only the lifetime is left to fail.
        cases expires : Token.expiry? session.now answer.lifetime with
        | none =>
          refine .inr ⟨.lifetime, fun token grants => ?_, by simp [keepToken, expires]⟩
          obtain ⟨lifetime, answered, inCalendar⟩ := grants.answered
          cases read.symm.trans answered
          exact nomatch expires.symm.trans inCalendar
        | some expiry =>
          refine .inl ⟨{ text := answer.text, kind := answer.kind, expiry }, ?_, ?_⟩
          · exact { sound := by simpa using failure, answered := ⟨answer.lifetime, read, expires⟩ }
          · simp [keepToken, expires]

/-- What comes of a login that is tried some times: the trials before the last one are lost, and the
last one is the only one that may grant a token. -/
inductive LogsIn (request : Request) (trials : Nat) (session : Session) :
    Outcome Token → List Exchange → Session → Prop
  | granted {token : Token} {lost : List Exchange} {last : Exchange} {after : Session}
      (requests : ∀ exchange ∈ lost ++ [last], exchange.request = request)
      (vain : ∀ exchange ∈ lost, exchange.reply = none)
      (grants : ∃ reply, last.reply = some reply ∧ reply.Grants last.time token)
      (continues : session.Continues (lost ++ [last]) after)
      (kept : after.token = some token)
      (few : (lost ++ [last]).length ≤ trials)
      (sendable : request.isSendable = true) :
      LogsIn request trials session (.ok token) (lost ++ [last]) after
  | refused {error : Error} {sent : List Exchange} {after : Session}
      (requests : ∀ exchange ∈ sent, exchange.request = request)
      (vain : ∀ exchange ∈ sent, ∀ token, ¬ exchange.Grants token)
      (continues : session.Continues sent after)
      (kept : after.token = session.token)
      (few : sent.length ≤ trials)
      (sendable : sent ≠ [] → request.isSendable = true)
      (unreached : sent = [] → request.isSendable = true → 0 < trials → session.server = []) :
      LogsIn request trials session (.error error) sent after

/-- A login that has not got a reply is tried again. -/
theorem LogsIn.retry {request : Request} {trials : Nat} {session middle after : Session}
    {outcome : Outcome Token} {lost sent : List Exchange}
    (requests : ∀ exchange ∈ lost, exchange.request = request)
    (vain : ∀ exchange ∈ lost, exchange.reply = none) (few : lost.length ≤ 1)
    (sendable : lost ≠ [] → request.isSendable = true)
    (continues : session.Continues lost middle) (kept : middle.token = session.token)
    (unreached : lost = [] → request.isSendable = true → session.server = [])
    (logs : LogsIn request trials middle outcome sent after) :
    LogsIn request (trials + 1) session outcome (lost ++ sent) after := by
  -- What has been lost stands in front of what the further trials send.
  cases logs with
  | @granted token lost' last _ requests' vain' grants continues' kept' few' sendable' =>
    rw [← List.append_assoc]
    refine .granted ?_ ?_ grants ?_ kept' ?_ sendable'
    · rw [List.append_assoc]
      exact List.forall_mem_append.2 ⟨requests, requests'⟩
    · exact List.forall_mem_append.2 ⟨vain, vain'⟩
    · rw [List.append_assoc]
      exact continues.trans continues'
    · simp only [List.length_append] at few' ⊢
      omega
  | refused requests' vain' continues' kept' few' sendable' unreached' =>
    refine .refused (List.forall_mem_append.2 ⟨requests, requests'⟩) ?_
      (continues.trans continues') (kept'.trans kept) ?_ ?_ ?_
    · -- What was lost has no reply, and so it grants nothing.
      refine List.forall_mem_append.2 ⟨fun exchange listed token grants => ?_, vain'⟩
      obtain ⟨reply, replied, _⟩ := grants.2
      exact nomatch (vain exchange listed).symm.trans replied
    · rw [List.length_append]
      omega
    · -- Something was sent in the end, be it lost or not.
      intro some
      by_cases none : lost = []
      · exact sendable' fun none' => some (by rw [none, none', List.append_nil])
      · exact sendable none
    · intro none able _
      exact unreached (List.append_eq_nil_iff.1 none).1 able

/-- A trial may wait, which takes time only, and is followed by another one if it gets no reply. -/
theorem exists_applyTo_tryLogin (request : Request) (session : Session) (trial left : Nat) :
    ∃ now, applyTo session (tryLogin request trial (left + 1)) =
      match ({ session with now } : Session).send request with
      | (some reply, after) => applyTo after (acceptLogin reply)
      | (none, after) => applyTo after (tryLogin request (trial + 1) left) := by
  rw [tryLogin]
  -- Only later trials wait, and waiting changes nothing but the time.
  by_cases later : 1 < trial
  · refine ⟨session.now + (500 * trial : Nat), ?_⟩
    rw [if_pos later]
    simp only [applyTo_bind, applyTo_modify, applyTo_send, Session.wait]
    rcases Session.send request _ with ⟨_ | _, _⟩ <;> rfl
  · refine ⟨session.now, ?_⟩
    rw [if_neg later]
    simp only [applyTo_bind, applyTo_send]
    rcases Session.send request session with ⟨_ | _, _⟩ <;> rfl

/-- A login is tried until there is a reply, and no further. -/
theorem tryLogin_logsIn (request : Request) (session : Session) (trial left : Nat) :
    ∃ sent, LogsIn request left session (applyTo session (tryLogin request trial left)).1 sent
      (applyTo session (tryLogin request trial left)).2 := by
  -- The induction is on the trials that are left, each of which ends in one of three ways: the
  -- request is not sent, it is sent without a reply, or the reply decides.
  induction left generalizing session trial with
  | zero =>
    exact ⟨[], .refused (by simp) (by simp) (.refl session) rfl (Nat.le_refl 0) (by simp)
      (by simp)⟩
  | succ left ih =>
    obtain ⟨now, tried⟩ := exists_applyTo_tryLogin request session trial left
    have paused : session.Continues [] { session with now } :=
      (Session.Continues.refl session).retimed session.token now
    rw [tried]
    rcases Session.send_cases request { session with now } with
      ⟨lost, unreached⟩ | ⟨exchange, after, answered, asked, timed, sendable, continues, kept⟩
    · -- The request was not sent, so that this trial adds no exchange.
      rw [lost]
      obtain ⟨sent, logs⟩ := ih { session with now } (trial + 1)
      exact ⟨[] ++ sent, .retry (by simp) (by simp) (Nat.zero_le 1) (by simp) paused rfl
        (fun _ => unreached) logs⟩
    · rw [answered]
      have went : session.Continues [exchange] after := paused.trans continues
      -- Without a reply there is another trial, and with one the login ends.
      cases replied : exchange.reply with
      | none =>
        obtain ⟨sent, logs⟩ := ih after (trial + 1)
        exact ⟨[exchange] ++ sent, .retry (by simpa using asked) (by simpa using replied)
          (Nat.le_refl 1) (fun _ => sendable) went kept nofun logs⟩
      | some reply =>
        rcases acceptLogin_cases after reply with
          ⟨token, grants, accepted⟩ | ⟨error, none, accepted⟩
        · refine ⟨[] ++ [exchange], ?_⟩
          simp only [accepted]
          exact .granted (by simpa using asked) (by simp) ⟨reply, replied, timed ▸ grants⟩
            (went.retimed (some token) after.now) rfl (by simp) sendable
        · refine ⟨[exchange], ?_⟩
          simp only [accepted]
          refine .refused (by simpa using asked) ?_ went kept (by simp) (fun _ => sendable) nofun
          simp only [List.mem_singleton, forall_eq]
          intro token grants
          obtain ⟨reply', replied', granted⟩ := grants.2
          cases replied.symm.trans replied'
          exact none token (timed ▸ granted)

end Call
end FlightQuery
