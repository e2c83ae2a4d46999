import FlightQuery.Proofs.Outcome
import FlightQuery.Proofs.Session.Login

/-! Which requests of a session can be sent: those to the web, with a token that a header holds. -/

namespace FlightQuery

/-- Whether requests can be sent to a URL. -/
def Url.isWeb (url : Url) : Bool := ["http".toList, "https".toList].contains url.scheme

/-- Further segments and pairs keep the scheme. -/
theorem Url.isWeb_below {url below : Url} {path : List String} {query : List (String × String)}
    (extended : url.extend? path = some below) : (below.addQuery query).isWeb = url.isWeb := by
  -- Neither segments nor pairs change the scheme, which alone tells whether a URL is on the web.
  have scheme_eq : below.scheme = url.scheme := by
    unfold extend? at extended
    split at extended
    · cases extended
    · cases extended
      rfl
  have kept : (below.addQuery query).scheme = below.scheme := by
    unfold addQuery
    split
    · rfl
    · split <;> rfl
  rw [isWeb, kept, scheme_eq, isWeb]

namespace Session

/-- The root of a session is on the web, and there are addresses below it. -/
def IsOnWeb (session : Session) : Prop :=
  ∃ root segments, Url.read session.root = .ok root ∧ root.isWeb = true ∧
    root.path = .segments segments

/-- A session stays on the web. -/
theorem Continues.isOnWeb_iff {before after : Session} {sent : List Exchange}
    (continues : before.Continues sent after) : after.IsOnWeb ↔ before.IsOnWeb := by
  rw [IsOnWeb, IsOnWeb, continues.root_eq]

/-- The addresses of a session are all on the web, or none of them is. -/
theorem isOnWeb_iff (session : Session) (path : List String) (query : List (String × String)) :
    session.IsOnWeb ↔ ∃ url, session.address path query = .ok url ∧ url.isWeb = true := by
  -- The address extends the root, and a root that can be extended has the same scheme.
  unfold IsOnWeb address
  cases read : Url.read session.root with
  | error fault => simp
  | ok root =>
    cases path_eq : root.path with
    | plain text => simp [Url.extend?, path_eq]
    | segments segments =>
      obtain ⟨below, extended⟩ : ∃ below, root.extend? path = some below :=
        ⟨_, by rw [Url.extend?, path_eq]⟩
      simp [extended, Url.isWeb_below extended, path_eq]

end Session

/-- A token is legal in the header of a request. -/
def Token.IsLegal (token : Token) : Prop :=
  (token.kind.toList ++ token.text.toList).all Request.isHeaderChar = true

/-- All tokens that a reply grants are legal. -/
def Event.IsLegal (event : Event) : Prop :=
  ∀ reply, event.reply = some reply → ∀ time token, reply.Grants time token → token.IsLegal

/-- A reply is legal at all times if the token in its body is, should there be one. -/
theorem Event.isLegal_of_all {event : Event}
    (all : (event.reply.all fun reply =>
      (Decoder.fromText TokenReply.decode reply.body).all fun answer =>
        (answer.kind.toList ++ answer.text.toList).all Request.isHeaderChar) = true) :
    event.IsLegal := by
  -- Only a token that the reply grants matters, and it is the one in the body.
  intro reply replied time token grants
  obtain ⟨lifetime, answered, _⟩ := grants.answered
  simpa only [replied, answered, Option.all_some, Token.IsLegal] using all

/-- A request with a legal token can be sent on the web. -/
theorem Call.isSendable_withToken {token : Token} (legal : token.IsLegal) (method : String)
    (url : Url) (body : Option Json) :
    (withToken method url body token).isSendable = url.isWeb := by
  -- The header is made of the kind and the text, with a blank between them.
  have header : token.authorization.toList.all Request.isHeaderChar = true := by
    unfold Token.IsLegal at legal
    rw [List.all_append, Bool.and_eq_true] at legal
    simp only [Token.authorization, String.toList_append, List.all_append, legal.1, legal.2,
      Bool.true_and, Bool.and_true]
    rfl
  simp only [Request.isSendable, withToken, Option.getD_some, header, Bool.and_true, Url.isWeb]

namespace Session

variable {session : Session}

/-- A login has the name of a user and a password. -/
theorem loginRequest_eq_ok_iff {made : Request} :
    session.loginRequest = .ok made ↔ ∃ username password url,
      session.settings.username = some username ∧ session.settings.password = some password ∧
      session.address ["token"] [] = .ok url ∧ Call.loginRequest url username password = made := by
  -- User, password and address are needed one after the other, and each may be missing.
  simp only [loginRequest, Settings.requireUsername, Settings.requirePassword]
  cases session.settings.username with
  | none => simp
  | some username =>
    cases session.settings.password with
    | none => simp
    | some password =>
      cases session.address ["token"] [] with
      | error error => simp
      | ok url => simp

/-- A login is made without a token. -/
theorem isLogin_of_loginRequest {exchange : Exchange}
    (made : session.loginRequest = .ok exchange.request) : exchange.isLogin = true := by
  obtain ⟨username, password, url, _, _, _, request_eq⟩ := loginRequest_eq_ok_iff.1 made
  rw [Exchange.isLogin, ← request_eq]
  rfl

/-- With credentials, a login can be sent exactly on the web. -/
theorem isOnWeb_iff_loginRequest (credentials : session.settings.hasCredentials = true) :
    session.IsOnWeb ↔ ∃ made, session.loginRequest = .ok made ∧ made.isSendable = true := by
  -- Name and password are there, so that only the address can keep a login from being made.
  obtain ⟨named, secret⟩ := Bool.and_eq_true_iff.1 credentials
  obtain ⟨username, username_eq⟩ := Option.isSome_iff_exists.1 named
  obtain ⟨password, password_eq⟩ := Option.isSome_iff_exists.1 secret
  have sendable (url : Url) : (Call.loginRequest url username password).isSendable = url.isWeb := by
    simp only [Request.isSendable, Call.loginRequest, Option.getD_none, Url.isWeb]
    exact Bool.and_true _
  -- All addresses below the root are on the web together, that of the login among them.
  rw [isOnWeb_iff session ["token"] []]
  constructor
  · rintro ⟨url, address_eq, web⟩
    exact ⟨_, loginRequest_eq_ok_iff.2
      ⟨username, password, url, username_eq, password_eq, address_eq, rfl⟩, by rw [sendable, web]⟩
  · rintro ⟨made, made_eq, able⟩
    obtain ⟨username', password', url, username_eq', password_eq', address_eq, rfl⟩ :=
      loginRequest_eq_ok_iff.1 made_eq
    cases username_eq.symm.trans username_eq'
    cases password_eq.symm.trans password_eq'
    exact ⟨url, address_eq, by rw [← sendable, able]⟩

end Session
end FlightQuery
