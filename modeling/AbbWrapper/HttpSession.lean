import AbbWrapper.Monitors
import AbbWrapper.Subscription

/-! # Cookies and credentials

`POCOClient::makeHTTPRequest` and `webSocketConnect` as programs that exchange requests with the robot
controller: an answer of 500 or more is followed by a second attempt without cookies, and an answer of
401 by one with credentials.  The cookies of the answers are kept and sent with the next request.

What the methods call of the Poco library is a parameter (`PocoNet`): the collection of the cookies, the
text of a cookie, and the credentials, which the library may add, not add, or refuse with an exception.
Where it matters how the library behaves, that is a hypothesis (`PocoNet.Documented`).

Of any list of calls, and whatever the controller answers: only cookies are sent that the controller
has set since the last answer to credentials and the last failure (`calls_cookies`), credentials only
answer a challenge (`calls_credentials`), and a challenge or a server error is not reported before the
further attempt was made (`makeHTTPRequest_outcome`).  What a method extracts from the text of a cookie
is its name and its value as they are written (`extractCookie_toString`). -/

namespace AbbWrapper

open Exchanges Runs

/-! ### Requests and answers -/

/-- Names with their values. -/
abbrev NameValueCollection := List (Text × Text)

/-- `HTTPCookie` as it is read from a header, where a name ends with the first `=` or `;`. -/
structure HTTPCookie where
  name : Text
  value : Text
  /-- Version 0 is that of Netscape. -/
  version : ℕ := 0
  name_equals : '=' ∉ name := by decide
  name_semicolon : ';' ∉ name := by decide
deriving DecidableEq, Repr

/-- The value as it stands in the text of the cookie: in quotes, but for version 0. -/
def HTTPCookie.written (cookie : HTTPCookie) : Text :=
  if cookie.version = 0 then cookie.value else '"' :: (cookie.value ++ ['"'])

/-- `HTTPResponse`: what is reported of it, and the cookies it sets. -/
structure HTTPReply extends ResponseInfo where
  cookies : List HTTPCookie := []
deriving DecidableEq, Repr

/-- `HTTPRequest`. -/
structure HTTPRequest where
  info : RequestInfo
  contentType : Option String := none
  /-- The cookies of the header, as long as it is not erased. -/
  cookies : Option NameValueCollection
  /-- The answer to whose challenge the credentials respond. -/
  authorization : Option HTTPReply := none
deriving DecidableEq, Repr

/-! ### The Poco library -/

/-- What the client uses of the library. -/
structure PocoNet where
  /-- Whether `NameValueCollection::find(name) != end()`. -/
  has : NameValueCollection → Text → Bool
  set : NameValueCollection → Text → Text → NameValueCollection
  add : NameValueCollection → Text → Text → NameValueCollection
  /-- `HTTPCookie::toString`. -/
  toString : HTTPCookie → Text
  /-- `HTTPCredentials::authenticate`: whether credentials are added to the request, or the exception
  that is thrown. -/
  authenticate : HTTPRequest → HTTPReply → Except Thrown Bool

/-- Names are compared without case. -/
def SameName (name name' : Text) : Prop := name.map Char.toLower = name'.map Char.toLower

/-- The documented behaviour of the library. -/
structure PocoNet.Documented (net : PocoNet) : Prop where
  /-- The value of the name is overwritten, or the pair is inserted. -/
  set : ∀ cookies name value, ∀ cookie ∈ net.set cookies name value,
    cookie ∈ cookies ∨ SameName cookie.1 name ∧ cookie.2 = value
  add : ∀ cookies name value, ∀ cookie ∈ net.add cookies name value,
    cookie ∈ cookies ∨ cookie = (name, value)
  /-- The attributes come last, each behind a semicolon. -/
  toString : ∀ cookie, ∃ attributes, (attributes = [] ∨ attributes.head? = some ';') ∧
    net.toString cookie = cookie.name ++ '=' :: (cookie.written ++ attributes)

namespace NameValueCollection

/-- Every value is one that the other collection has under the name. -/
def Within (cookies held : NameValueCollection) : Prop :=
  ∀ cookie ∈ cookies, ∃ cookie' ∈ held, SameName cookie'.1 cookie.1 ∧ cookie'.2 = cookie.2

theorem within_nil (held : NameValueCollection) : Within [] held := List.forall_mem_nil _

theorem Within.mono {cookies held held' : NameValueCollection} (h : Within cookies held)
    (hheld : held ⊆ held') : Within cookies held' := by
  intro cookie hmem
  obtain ⟨cookie', hmem', hname, hvalue⟩ := h cookie hmem
  exact ⟨cookie', hheld hmem', hname, hvalue⟩

variable {net : PocoNet} (hnet : net.Documented)
include hnet

theorem Within.set {cookies held : NameValueCollection} (h : Within cookies held) {name value : Text}
    (hmem : (name, value) ∈ held) : Within (net.set cookies name value) held := by
  intro cookie hcookie
  rcases hnet.set cookies name value cookie hcookie with hcookie | ⟨hname, hvalue⟩
  · exact h cookie hcookie
  · exact ⟨_, hmem, hname.symm, hvalue.symm⟩

theorem Within.add {cookies held : NameValueCollection} (h : Within cookies held) {name value : Text}
    (hmem : (name, value) ∈ held) : Within (net.add cookies name value) held := by
  intro cookie hcookie
  rcases hnet.add cookies name value cookie hcookie with hcookie | rfl
  · exact h cookie hcookie
  · exact ⟨_, hmem, rfl, rfl⟩

end NameValueCollection

/-! ### The HTTP session -/

/-- What a client asks of its HTTP session. -/
inductive SessionAction where
  /-- `sendRequest` and `receiveResponse`. -/
  | send (request : HTTPRequest)
  /-- The constructor of a `WebSocket`, which sends a request. -/
  | connect (request : HTTPRequest)
  /-- `reset`, which is not answered. -/
  | reset
deriving DecidableEq, Repr

abbrev SessionAnswer := Except Thrown HTTPReply

abbrev SessionProgram (β : Type) := Program SessionAction SessionAnswer β

namespace HTTPResponse

/-- `HTTP_UNAUTHORIZED`. -/
def unauthorized : ℕ := 401
/-- `HTTP_INTERNAL_SERVER_ERROR`. -/
def internalServerError : ℕ := 500

end HTTPResponse

/-! ### `POCOClient` -/

/-- Resets the session. -/
def resetSession : SessionProgram Unit := do
  let _ ← Program.request .reset
  pure ()

/-- The answer of the controller is added to the result, unless an exception is thrown before. -/
def sendAndReceive (result : POCOResult) (request : HTTPRequest) :
    SessionProgram (POCOResult × SessionAnswer) := do
  let answer ← Program.request (.send request)
  match answer with
  | .ok reply => pure ({ result with response := reply.toResponseInfo }, .ok reply)
  | .error e => pure (result, .error e)

/-- The name before the first `=`, and the value from there to the first `;`. -/
def extractCookie (cookieString : Text) : Option (Text × Text) :=
  match cookieString.findIdx? (· = '='), cookieString.findIdx? (· = ';') with
  | some position1, some position2 =>
      let rest := cookieString.drop (position1 + 1)
      -- the length is unsigned: if the `;` comes first, everything that is left is taken
      some (cookieString.take position1,
        if position1 < position2 then rest.take (position2 - (position1 + 1)) else rest)
  | _, _ => none

/-- The state of a request: its result, the cookies, and the exception that ended it. -/
abbrev Attempt := POCOResult × NameValueCollection × Option Thrown

section client
variable (net : PocoNet)

/-- The loop over the cookies of an answer. -/
def updateCookies (cookies : NameValueCollection) (updates : List HTTPCookie) :
    NameValueCollection :=
  updates.foldl (fun cookies cookie =>
    if net.has cookies cookie.name then net.set cookies cookie.name cookie.value
    else net.add cookies cookie.name cookie.value) cookies

def extractAndStoreCookie (cookies : NameValueCollection) (cookieString : Text) :
    NameValueCollection :=
  match extractCookie cookieString with
  | some (name, value) => net.add cookies name value
  | none => cookies

/-- Answers a challenge, with the cookies of the next answer in place of the old ones, which are
removed first.  Without credentials the same request is sent again. -/
def authenticate (result : POCOResult) (request : HTTPRequest) (challenge : HTTPReply) :
    SessionProgram Attempt :=
  match net.authenticate request challenge with
  | .error e => pure (result, [], some e)
  | .ok added => do
      let request := if added then { request with authorization := some challenge } else request
      let (result, answer) ← sendAndReceive result request
      match answer with
      | .ok reply =>
          pure (result, reply.cookies.foldl (fun cookies cookie =>
            extractAndStoreCookie net cookies (net.toString cookie)) [], none)
      | .error e => pure (result, [], some e)

/-- Adds credentials if the request was unauthorized. -/
def checkUnauthorized (result : POCOResult) (cookies : NameValueCollection) (request : HTTPRequest)
    (reply : HTTPReply) : SessionProgram Attempt :=
  if reply.status = HTTPResponse.unauthorized then authenticate net result request reply
  else pure (result, cookies, none)

/-- What `makeHTTPRequest` tries. -/
def attemptRequest (cookies : NameValueCollection) (request : HTTPRequest) :
    SessionProgram Attempt := do
  let (result, answer) ← sendAndReceive {} request
  match answer with
  | .error e => pure (result, cookies, some e)
  | .ok reply =>
      let cookies := updateCookies net cookies reply.cookies
      if HTTPResponse.internalServerError ≤ reply.status then
        -- another attempt with a clean sheet
        resetSession
        let request := { request with cookies := none }
        let (result, answer) ← sendAndReceive result request
        match answer with
        | .error e => pure (result, cookies, some e)
        | .ok reply => checkUnauthorized net result cookies request reply
      else checkUnauthorized net result cookies request reply

end client

/-- The handlers of `makeHTTPRequest`, where an exception of a WebSocket is one of the net. -/
def POCOResult.caughtHTTP (result : POCOResult) (e : Thrown) : Option POCOResult :=
  if e.exception = .websocket then result.caught { e with exception := .net } else result.caught e

def contentTypeOf (info : RequestInfo) : Option String :=
  if info.method = .put then some "text/plain;v=2.0"
  else if info.method = .post ∨ info.content ≠ [] then some "application/x-www-form-urlencoded;v=2.0"
  else none

/-- The result, unless an exception leaves the method, and the cookies that are kept. -/
def makeHTTPRequest (net : PocoNet) (cookies : NameValueCollection) (info : RequestInfo) :
    SessionProgram (Option POCOResult × NameValueCollection) := do
  let request : HTTPRequest :=
    { info := info, contentType := contentTypeOf info, cookies := some cookies }
  let (result, cookies, thrown) ← attemptRequest net cookies request
  match thrown with
  | none => pure (some { result with status := .ok }, cookies)
  | some e =>
      match result.caughtHTTP e with
      | none => pure (none, cookies)
      | some result =>
          resetSession
          pure (some result, [])

/-- The request for a WebSocket sends the cookies as well, and leaves them as they are. -/
def requestWebSocket (cookies : NameValueCollection) (uri : Text) :
    SessionProgram (Option POCOResult × NameValueCollection) := do
  let answer ← Program.request
    (.connect { info := { method := .get, uri := uri }, cookies := some cookies })
  match answer with
  | .ok reply => pure (some { status := .ok, response := reply.toResponseInfo }, cookies)
  | .error e =>
      match POCOResult.caught {} e with
      | none => pure (none, cookies)
      | some result =>
          resetSession
          pure (some result, cookies)

/-- A call of the client. -/
inductive SessionCall where
  | makeHTTPRequest (info : RequestInfo)
  | webSocketConnect (uri : Text)
deriving DecidableEq, Repr

/-- The cookies after a call. -/
def sessionCall (net : PocoNet) (cookies : NameValueCollection) :
    SessionCall → SessionProgram NameValueCollection
  | .makeHTTPRequest info => do
      let (_, cookies) ← makeHTTPRequest net cookies info
      pure cookies
  | .webSocketConnect uri => do
      let (_, cookies) ← requestWebSocket cookies uri
      pure cookies

/-! ### The text of a cookie -/

/-- The value as it stands in the text, up to a semicolon. -/
def HTTPCookie.carried (cookie : HTTPCookie) : Text := cookie.written.takeWhile (· ≠ ';')

theorem findIdx?_append_of_notMem {text rest : Text} {c : Char} (h : c ∉ text) :
    (text ++ rest).findIdx? (· = c) = (rest.findIdx? (· = c)).map (· + text.length) := by
  have hnone : text.findIdx? (· = c) = none := by
    rw [List.findIdx?_eq_none_iff]
    rintro c' hmem
    rw [decide_eq_false_iff_not]
    rintro rfl
    exact h hmem
  rw [List.findIdx?_append, hnone, Option.none_or]

theorem take_findIdx? {text : Text} {c : Char} {position : ℕ}
    (h : text.findIdx? (· = c) = some position) : text.take position = text.takeWhile (· ≠ c) := by
  obtain ⟨-, hposition⟩ := List.findIdx?_eq_some_iff_findIdx_eq.mp h
  rw [List.takeWhile_eq_take_findIdx_not, ← hposition]
  simp

theorem takeWhile_append_attributes (text : Text) {attributes : Text} {c : Char}
    (h : attributes = [] ∨ attributes.head? = some c) :
    (text ++ attributes).takeWhile (· ≠ c) = text.takeWhile (· ≠ c) := by
  have hnone : attributes.takeWhile (· ≠ c) = [] := by
    rcases h with rfl | h
    · rfl
    · obtain ⟨rest, rfl⟩ := List.head?_eq_some_iff.mp h
      simp
  rw [List.takeWhile_append, hnone, List.append_nil]
  split
  next hall => exact ((List.takeWhile_prefix _).eq_of_length hall).symm
  next => rfl

/-- **What is extracted from the text of a cookie** is its name, and its value as it is written there. -/
theorem extractCookie_toString {net : PocoNet} (hnet : net.Documented) (cookie : HTTPCookie) :
    ∀ extracted ∈ extractCookie (net.toString cookie), extracted = (cookie.name, cookie.carried) := by
  obtain ⟨attributes, hattributes, htext⟩ := hnet.toString cookie
  have hequals : (net.toString cookie).findIdx? (· = '=') = some cookie.name.length := by
    rw [htext, findIdx?_append_of_notMem cookie.name_equals, List.findIdx?_cons]
    simp
  have hsemicolon : (net.toString cookie).findIdx? (· = ';') =
      ((cookie.written ++ attributes).findIdx? (· = ';')).map (· + (cookie.name.length + 1)) := by
    have hassoc : net.toString cookie = (cookie.name ++ ['=']) ++ (cookie.written ++ attributes) := by
      rw [htext]
      simp
    rw [hassoc, findIdx?_append_of_notMem (by simp [cookie.name_semicolon])]
    simp
  intro extracted hextracted
  unfold extractCookie at hextracted
  rw [hequals, hsemicolon] at hextracted
  cases hfound : (cookie.written ++ attributes).findIdx? (· = ';') with
  | none =>
      rw [hfound] at hextracted
      cases hextracted
  | some position =>
      rw [hfound] at hextracted
      obtain rfl := Option.some.inj hextracted
      have hlater : cookie.name.length < position + (cookie.name.length + 1) := by omega
      have hname : (net.toString cookie).take cookie.name.length = cookie.name := by
        rw [htext, List.take_left]
      have hrest : (net.toString cookie).drop (cookie.name.length + 1) =
          cookie.written ++ attributes := by
        rw [htext, ← List.drop_drop, List.drop_left]
        rfl
      rw [hname, hrest, if_pos hlater, Nat.add_sub_cancel_right, take_findIdx? hfound,
        takeWhile_append_attributes _ hattributes]
      rfl

/-! ### Only cookies of the controller are sent -/

/-- What a client may keep of a cookie. -/
def HTTPCookie.received (cookie : HTTPCookie) : NameValueCollection :=
  [(cookie.name, cookie.value), (cookie.name, cookie.carried)]

/-- The cookies that a client may hold after an exchange: those that were received since the last answer
to credentials and the last failure that is handled. -/
def issue (held : NameValueCollection) : SessionAction × SessionAnswer → NameValueCollection
  | (.send request, .ok reply) =>
      if request.authorization.isSome then reply.cookies.map fun cookie => (cookie.name, cookie.carried)
      else held ++ reply.cookies.flatMap HTTPCookie.received
  | (.send request, .error e) =>
      if request.authorization.isSome || (POCOResult.caughtHTTP {} e).isSome then [] else held
  | (.connect _, _) => held
  | (.reset, _) => held

/-- The cookies of a request. -/
def SessionAction.cookies : SessionAction → Option NameValueCollection
  | .send request => request.cookies
  | .connect request => request.cookies
  | .reset => none

/-- Only such cookies are sent. -/
def SendsHeld (held : NameValueCollection) (e : SessionAction × SessionAnswer) : Prop :=
  ∀ cookies ∈ e.1.cookies, cookies.Within held

namespace NameValueCollection

variable {net : PocoNet} (hnet : net.Documented)
include hnet

theorem Within.updateCookies {cookies held : NameValueCollection} (h : cookies.Within held)
    {updates : List HTTPCookie} (hmem : ∀ cookie ∈ updates, (cookie.name, cookie.value) ∈ held) :
    (updateCookies net cookies updates).Within held := by
  induction updates generalizing cookies with
  | nil => exact h
  | cons cookie updates ih =>
      obtain ⟨hcookie, hupdates⟩ := List.forall_mem_cons.mp hmem
      refine ih ?_ hupdates
      simp only
      split
      · exact h.set hnet hcookie
      · exact h.add hnet hcookie

theorem Within.extractAndStore {cookies held : NameValueCollection} (h : cookies.Within held)
    {updates : List HTTPCookie}
    (hmem : ∀ cookie ∈ updates, (cookie.name, cookie.carried) ∈ held) :
    (updates.foldl (fun cookies cookie =>
      extractAndStoreCookie net cookies (net.toString cookie)) cookies).Within held := by
  induction updates generalizing cookies with
  | nil => exact h
  | cons cookie updates ih =>
      obtain ⟨hcookie, hupdates⟩ := List.forall_mem_cons.mp hmem
      refine ih ?_ hupdates
      simp only [extractAndStoreCookie]
      split
      next name value hextracted =>
        exact h.add hnet (extractCookie_toString hnet cookie _ hextracted ▸ hcookie)
      next => exact h

end NameValueCollection

theorem sendAndReceive_monitored {σ : Type} {step : σ → SessionAction × SessionAnswer → σ}
    {P : σ → SessionAction × SessionAnswer → Prop} {s : σ} {result : POCOResult}
    {request : HTTPRequest} {Q : POCOResult × SessionAnswer → σ → Prop}
    (hok : ∀ reply, P s (.send request, .ok reply) ∧
      Q ({ result with response := reply.toResponseInfo }, .ok reply) (step s (.send request, .ok reply)))
    (herror : ∀ e, P s (.send request, .error e) ∧
      Q (result, .error e) (step s (.send request, .error e))) :
    Monitored step P s (sendAndReceive result request) Q := by
  unfold sendAndReceive
  apply Monitored.request_bind
  intro answer
  cases answer with
  | ok reply => exact ⟨(hok reply).1, .pure (hok reply).2⟩
  | error e => exact ⟨(herror e).1, .pure (herror e).2⟩

theorem resetSession_monitored {σ : Type} {step : σ → SessionAction × SessionAnswer → σ}
    {P : σ → SessionAction × SessionAnswer → Prop} {s : σ} {Q : Unit → σ → Prop}
    (h : ∀ answer, P s (.reset, answer) ∧ Q () (step s (.reset, answer))) :
    Monitored step P s resetSession Q := by
  unfold resetSession
  apply Monitored.request_bind
  intro answer
  exact ⟨(h answer).1, .pure (h answer).2⟩

/-- What is left after an attempt: the cookies are held, unless they are cleared after the exception. -/
def LeavesHeld (attempt : Attempt) (held : NameValueCollection) : Prop :=
  (∀ e ∈ attempt.2.2, (POCOResult.caughtHTTP {} e).isSome = false) → attempt.2.1.Within held

theorem POCOResult.isSome_caughtHTTP (result : POCOResult) (e : Thrown) :
    (result.caughtHTTP e).isSome = (POCOResult.caughtHTTP {} e).isSome := by
  obtain ⟨exception, displayText⟩ := e
  cases exception <;> rfl

/-- After an exchange, which may have failed. -/
def Received (held : NameValueCollection) (request : HTTPRequest) (answer : SessionAnswer)
    (held' : NameValueCollection) : Prop :=
  match answer with
  | .ok reply =>
      (∀ cookie ∈ reply.cookies, (cookie.name, cookie.carried) ∈ held') ∧
        (request.authorization = none → held ⊆ held' ∧
          ∀ cookie ∈ reply.cookies, (cookie.name, cookie.value) ∈ held')
  | .error e => request.authorization = none → (POCOResult.caughtHTTP {} e).isSome = false →
      held' = held

theorem sendAndReceive_held {held : NameValueCollection} {result : POCOResult} {request : HTTPRequest}
    (hrequest : ∀ cookies ∈ request.cookies, cookies.Within held) :
    Monitored issue SendsHeld held (sendAndReceive result request)
      (fun r => Received held request r.2) := by
  apply sendAndReceive_monitored
  · intro reply
    refine ⟨hrequest, ?_, ?_⟩
    · intro cookie hmem
      rw [issue]
      split
      · exact List.mem_map.mpr ⟨cookie, hmem, rfl⟩
      · apply List.mem_append_right
        exact List.mem_flatMap.mpr ⟨cookie, hmem, by simp [HTTPCookie.received]⟩
    · intro hauthorization
      rw [issue, hauthorization, if_neg (by simp)]
      refine ⟨List.subset_append_left _ _, fun cookie hmem => ?_⟩
      apply List.mem_append_right
      exact List.mem_flatMap.mpr ⟨cookie, hmem, by simp [HTTPCookie.received]⟩
  · intro e
    refine ⟨hrequest, fun hauthorization hcaught => ?_⟩
    simp [issue, hauthorization, hcaught]

section documented
variable {net : PocoNet} (hnet : net.Documented)
include hnet

theorem authenticate_held {held : NameValueCollection} {result : POCOResult} {request : HTTPRequest}
    {challenge : HTTPReply} (hrequest : ∀ cookies ∈ request.cookies, cookies.Within held) :
    Monitored issue SendsHeld held (authenticate net result request challenge) LeavesHeld := by
  unfold authenticate
  cases net.authenticate request challenge with
  | error e => exact .pure fun _ => NameValueCollection.within_nil _
  | ok added =>
      have hrequest' : ∀ cookies ∈ (if added then
          { request with authorization := some challenge } else request).cookies,
            cookies.Within held := by
        cases added <;> exact hrequest
      simp only
      generalize (if added then { request with authorization := some challenge } else request) =
        request' at hrequest' ⊢
      refine Monitored.bind (sendAndReceive_held hrequest') ?_
      rintro ⟨result, answer⟩ held' hheld
      cases answer with
      | ok reply =>
          exact .pure fun _ => (NameValueCollection.within_nil _).extractAndStore hnet hheld.1
      | error e => exact .pure fun _ => NameValueCollection.within_nil _

theorem checkUnauthorized_held {held cookies : NameValueCollection} {result : POCOResult}
    {request : HTTPRequest} {reply : HTTPReply} (hcookies : cookies.Within held)
    (hrequest : ∀ cookies ∈ request.cookies, cookies.Within held) :
    Monitored issue SendsHeld held (checkUnauthorized net result cookies request reply)
      LeavesHeld := by
  unfold checkUnauthorized
  apply Monitored.ite
  · intro _
    exact authenticate_held hnet hrequest
  · intro _
    exact .pure fun _ => hcookies

theorem attemptRequest_held {held cookies : NameValueCollection} {request : HTTPRequest}
    (hcookies : cookies.Within held) (hrequest : ∀ cookies ∈ request.cookies, cookies.Within held)
    (hauthorization : request.authorization = none) :
    Monitored issue SendsHeld held (attemptRequest net cookies request) LeavesHeld := by
  unfold attemptRequest
  refine Monitored.bind (sendAndReceive_held hrequest) ?_
  rintro ⟨result, answer⟩ held' hheld
  cases answer with
  | error e =>
      apply Monitored.pure
      intro hcaught
      rw [hheld hauthorization (hcaught e rfl)]
      exact hcookies
  | ok reply =>
      obtain ⟨hsubset, hvalues⟩ := hheld.2 hauthorization
      have hupdated : (updateCookies net cookies reply.cookies).Within held' :=
        (hcookies.mono hsubset).updateCookies hnet hvalues
      have hrequest' : ∀ cookies ∈ request.cookies, cookies.Within held' :=
        fun cookies hmem => (hrequest cookies hmem).mono hsubset
      refine Monitored.ite ?_ fun _ => checkUnauthorized_held hnet hupdated hrequest'
      intro _
      refine Monitored.bind (Q := fun _ held'' => held'' = held') ?_ ?_
      · exact resetSession_monitored fun answer => ⟨nofun, rfl⟩
      rintro _ held'' rfl
      -- the second attempt sends no cookies
      refine Monitored.bind (sendAndReceive_held nofun) ?_
      rintro ⟨result, answer⟩ held₃ hheld₃
      cases answer with
      | error e =>
          apply Monitored.pure
          intro hcaught
          rw [hheld₃ hauthorization (hcaught e rfl)]
          exact hupdated
      | ok reply' =>
          obtain ⟨hsubset', -⟩ := hheld₃.2 hauthorization
          exact checkUnauthorized_held hnet (hupdated.mono hsubset') nofun

theorem makeHTTPRequest_held {held cookies : NameValueCollection} (hcookies : cookies.Within held)
    (info : RequestInfo) :
    Monitored issue SendsHeld held (makeHTTPRequest net cookies info) (fun r => r.2.Within) := by
  unfold makeHTTPRequest
  refine Monitored.bind (attemptRequest_held hnet hcookies ?_ rfl) ?_
  · rintro cookies' hmem
    cases hmem
    exact hcookies
  rintro ⟨result, cookies', thrown⟩ held' hleaves
  cases thrown with
  | none => exact .pure (hleaves nofun)
  | some e =>
      simp only
      have hcaught := result.isSome_caughtHTTP e
      cases hresult : result.caughtHTTP e with
      | none =>
          rw [hresult] at hcaught
          refine .pure (hleaves ?_)
          rintro e' hmem
          cases hmem
          exact hcaught.symm
      | some result' =>
          refine Monitored.bind (Q := fun _ _ => True) ?_ ?_
          · exact resetSession_monitored fun answer => ⟨nofun, trivial⟩
          · intro _ held'' _
            exact .pure (NameValueCollection.within_nil _)

end documented

theorem requestWebSocket_held {held cookies : NameValueCollection} (hcookies : cookies.Within held)
    (uri : Text) :
    Monitored issue SendsHeld held (requestWebSocket cookies uri) (fun r => r.2.Within) := by
  unfold requestWebSocket
  apply Monitored.request_bind
  intro answer
  constructor
  · rintro cookies' hmem
    cases hmem
    exact hcookies
  cases answer with
  | ok reply => exact .pure hcookies
  | error e =>
      simp only
      cases POCOResult.caught {} e with
      | none => exact .pure hcookies
      | some result =>
          refine Monitored.bind (Q := fun _ held' => held' = held) ?_ ?_
          · exact resetSession_monitored fun answer => ⟨nofun, rfl⟩
          · rintro _ _ rfl
            exact .pure hcookies

theorem sessionCall_held {net : PocoNet} (hnet : net.Documented) {held cookies : NameValueCollection}
    (hcookies : cookies.Within held) (call : SessionCall) :
    Monitored issue SendsHeld held (sessionCall net cookies call) NameValueCollection.Within := by
  cases call with
  | makeHTTPRequest info =>
      exact Monitored.bind (makeHTTPRequest_held hnet hcookies info) fun r held' h => .pure h
  | webSocketConnect uri =>
      exact Monitored.bind (requestWebSocket_held hcookies uri) fun r held' h => .pure h

/-- **Only cookies of the controller are sent**, and none from before credentials or a failure. -/
theorem calls_cookies {net : PocoNet} (hnet : net.Documented) (calls : List SessionCall) :
    Ensures (calls.foldlM (sessionCall net) []) fun _ exchanged =>
      ∀ before e after, exchanged = before ++ e :: after → SendsHeld (run issue [] before) e := by
  have hcalls := Monitored.foldlM (I := NameValueCollection.Within) calls
    (fun cookies call _ held h => sessionCall_held hnet h call) (NameValueCollection.within_nil [])
  exact Ensures.mono hcalls fun _ _ hresult => along_iff_positions.mp hresult.1

/-- A library for cookies of the path `/`, and a controller that asks for credentials. -/
def rootNet : PocoNet where
  has cookies name := cookies.any (·.1.map Char.toLower == name.map Char.toLower)
  set cookies name value :=
    if cookies.any (·.1.map Char.toLower == name.map Char.toLower) then
      cookies.map fun cookie =>
        if cookie.1.map Char.toLower = name.map Char.toLower then (cookie.1, value) else cookie
    else cookies ++ [(name, value)]
  add cookies name value := cookies ++ [(name, value)]
  toString cookie := cookie.name ++ '=' :: (cookie.written ++ "; path=/".toList)
  authenticate _ _ := .ok true

theorem rootNet_documented : rootNet.Documented where
  set := by
    intro cookies name value cookie hmem
    simp only [rootNet] at hmem
    split at hmem
    · obtain ⟨cookie', hmem', rfl⟩ := List.mem_map.mp hmem
      split
      next hname => exact .inr ⟨hname, rfl⟩
      next => exact .inl hmem'
    · rcases List.mem_append.mp hmem with hmem | hmem
      · exact .inl hmem
      · obtain rfl := List.mem_singleton.mp hmem
        exact .inr ⟨rfl, rfl⟩
  add := by
    intro cookies name value cookie hmem
    exact (List.mem_append.mp hmem).imp_right List.mem_singleton.mp
  toString := fun cookie => ⟨_, .inr rfl, rfl⟩

/-- The cookie is set in the answer to the credentials. -/
def askingController : Environment SessionAction SessionAnswer := fun _ action =>
  match action with
  | .send request =>
      if request.authorization.isSome then
        .ok { status := 200, cookies := [{ name := "session".toList, value := "1".toList }] }
      else .ok { status := if request.cookies = some [] then 401 else 200 }
  | _ => .ok {}

/-- Two requests, the first one with its credentials, and a connection: the cookie that is extracted from
the text is sent again. -/
theorem calls_cookies_session :
    let calls : List SessionCall := [.makeHTTPRequest { method := .get, uri := "/rw".toList },
      .makeHTTPRequest { method := .get, uri := "/rw/panel".toList }, .webSocketConnect "/poll".toList]
    let exchanged := (calls.foldlM (sessionCall rootNet) [] askingController []).2
    exchanged.map (·.1.cookies) = [some [], some [], some [("session".toList, "1".toList)],
        some [("session".toList, "1".toList)]] ∧
      ∀ before e after, exchanged = before ++ e :: after → SendsHeld (run issue [] before) e := by
  intro calls exchanged
  obtain ⟨exchanged', hexchanged, hheld⟩ := calls_cookies rootNet_documented calls askingController []
  have hsame : exchanged = exchanged' := hexchanged
  rw [hsame]
  refine ⟨?_, hheld⟩
  rw [← hsame]
  decide

/-! ### Credentials, and what is reported -/

abbrev SessionEvent := SessionAction × SessionAnswer

/-- The monitor that remembers everything, the latest first. -/
def remember (events : List SessionEvent) (e : SessionEvent) : List SessionEvent := e :: events

theorem run_remember (events exchanged : List SessionEvent) :
    run remember events exchanged = exchanged.reverse ++ events := by
  induction exchanged generalizing events with
  | nil => rfl
  | cons e exchanged ih => simp [ih, remember]

/-- Credentials are sent right after the request was answered with the challenge. -/
def AnswersChallenge (events : List SessionEvent) (e : SessionEvent) : Prop :=
  ∀ request challenge, e.1 = .send request → request.authorization = some challenge →
    challenge.status = HTTPResponse.unauthorized ∧
      events.head? = some (.send { request with authorization := none }, .ok challenge)

def SessionEvent.isSend (e : SessionEvent) : Bool := e.1 matches .send _

/-- How many requests were sent. -/
def sends (events : List SessionEvent) : ℕ := events.countP SessionEvent.isSend

theorem sends_send (request : HTTPRequest) (answer : SessionAnswer) (events : List SessionEvent) :
    sends ((.send request, answer) :: events) = sends events + 1 := List.countP_cons_of_pos rfl

theorem sends_reset (answer : SessionAnswer) (events : List SessionEvent) :
    sends ((.reset, answer) :: events) = sends events := List.countP_cons_of_neg Bool.false_ne_true

/-- The last request was sent again right after it had been answered with a challenge to which the
library adds no credentials. -/
def SentAgain (net : PocoNet) (request : HTTPRequest) (events : List SessionEvent) : Prop :=
  ∃ challenge, events.tail.head? = some (.send request, .ok challenge) ∧
    challenge.status = HTTPResponse.unauthorized ∧ net.authenticate request challenge = .ok false

/-- What an attempt that was not ended by an exception reports: the last answer, which is neither a
challenge nor a server error, or belongs to a further attempt. -/
def Reports (net : PocoNet) (response : ResponseInfo) (events : List SessionEvent) : Prop :=
  ∃ request reply, events.head? = some (.send request, .ok reply) ∧
    response = reply.toResponseInfo ∧
    (reply.status = HTTPResponse.unauthorized →
      request.authorization ≠ none ∨ SentAgain net request events) ∧
    (HTTPResponse.internalServerError ≤ reply.status →
      request.authorization ≠ none ∨ request.cookies = none ∨ SentAgain net request events)

section library
variable {net : PocoNet}

/-- The attempt reports the last answer, and was made with at most `n` requests. -/
structure Attempted (net : PocoNet) (n : ℕ) (before : List SessionEvent) (attempt : Attempt)
    (events : List SessionEvent) : Prop where
  reports : attempt.2.2 = none → Reports net attempt.1.response events
  sends : sends events ≤ sends before + n

theorem Attempted.mono {n m : ℕ} {before before' events : List SessionEvent} {attempt : Attempt}
    (h : Attempted net n before attempt events) (hsends : AbbWrapper.sends before + n ≤
      AbbWrapper.sends before' + m) : Attempted net m before' attempt events :=
  ⟨h.reports, h.sends.trans hsends⟩

theorem answersChallenge_of_none {events : List SessionEvent} {request : HTTPRequest}
    (hauthorization : request.authorization = none) (answer : SessionAnswer) :
    AnswersChallenge events (.send request, answer) := by
  rintro request' challenge hrequest hchallenge
  cases hrequest
  rw [hauthorization] at hchallenge
  cases hchallenge

/-- The events after one exchange. -/
theorem sendAndReceive_attempted {events : List SessionEvent} {result : POCOResult}
    {request : HTTPRequest} (hanswers : ∀ answer, AnswersChallenge events (.send request, answer)) :
    Monitored remember AnswersChallenge events (sendAndReceive result request) fun r events' =>
      events' = (.send request, r.2) :: events ∧
        ∀ reply, r.2 = .ok reply → r.1.response = reply.toResponseInfo := by
  apply sendAndReceive_monitored
  · intro reply
    refine ⟨hanswers _, rfl, ?_⟩
    rintro reply' hreply
    cases hreply
    rfl
  · intro e
    exact ⟨hanswers _, rfl, nofun⟩

section challenge
variable {events : List SessionEvent} {request : HTTPRequest} {challenge : HTTPReply} {added : Bool}
  (hstatus : challenge.status = HTTPResponse.unauthorized)
  (hevents : events.head? = some (.send request, .ok challenge))
  (hauthorization : request.authorization = none)
include hstatus hevents hauthorization

/-- The request after a challenge, with credentials or without. -/
theorem answersChallenge_authenticated {request' : HTTPRequest}
    (hrequest : request' =
      if added then { request with authorization := some challenge } else request)
    (answer : SessionAnswer) : AnswersChallenge events (.send request', answer) := by
  cases added with
  | false =>
      obtain rfl : request' = request := hrequest
      exact answersChallenge_of_none hauthorization answer
  | true =>
      obtain rfl : request' = { request with authorization := some challenge } := hrequest
      rintro request' challenge' hsent hchallenge
      cases hsent
      cases hchallenge
      refine ⟨hstatus, ?_⟩
      rw [hevents, ← hauthorization]

omit hauthorization in
theorem authorized_or_sentAgain (hadded : net.authenticate request challenge = .ok added)
    {request' : HTTPRequest}
    (hrequest : request' =
      if added then { request with authorization := some challenge } else request)
    (answer : SessionAnswer) :
    request'.authorization ≠ none ∨
      SentAgain net request' ((.send request', answer) :: events) := by
  cases added with
  | false =>
      obtain rfl : request' = request := hrequest
      exact .inr ⟨challenge, hevents, hstatus, hadded⟩
  | true =>
      obtain rfl : request' = { request with authorization := some challenge } := hrequest
      exact .inl nofun

theorem authenticate_attempted {result : POCOResult} :
    Monitored remember AnswersChallenge events (authenticate net result request challenge)
      (Attempted net 1 events) := by
  unfold authenticate
  cases hadded : net.authenticate request challenge with
  | error e => exact .pure ⟨nofun, Nat.le_succ _⟩
  | ok added =>
      simp only
      obtain ⟨request', hrequest⟩ : ∃ request', request' =
        if added then { request with authorization := some challenge } else request := ⟨_, rfl⟩
      have hanswers := answersChallenge_authenticated hstatus hevents hauthorization hrequest
      have hfurther := authorized_or_sentAgain hstatus hevents hadded hrequest
      rw [← hrequest]
      refine Monitored.bind (sendAndReceive_attempted hanswers) ?_
      rintro ⟨result, answer⟩ _ ⟨rfl, hresponse⟩
      have hsends : sends ((.send request', answer) :: events) ≤ sends events + 1 :=
        (sends_send request' answer events).le
      cases answer with
      | ok reply =>
          refine .pure ⟨fun _ => ⟨request', reply, rfl, hresponse reply rfl, fun _ => hfurther _,
            fun _ => ?_⟩, hsends⟩
          exact (hfurther _).imp_right .inr
      | error e => exact .pure ⟨nofun, hsends⟩

end challenge

theorem checkUnauthorized_attempted {events : List SessionEvent} {result : POCOResult}
    {cookies : NameValueCollection} {request : HTTPRequest} {reply : HTTPReply}
    (hevents : events.head? = some (.send request, .ok reply))
    (hauthorization : request.authorization = none) (hresponse : result.response = reply.toResponseInfo)
    (hserver : HTTPResponse.internalServerError ≤ reply.status → request.cookies = none) :
    Monitored remember AnswersChallenge events (checkUnauthorized net result cookies request reply)
      (Attempted net 1 events) := by
  unfold checkUnauthorized
  apply Monitored.ite
  · intro hstatus
    exact authenticate_attempted hstatus hevents hauthorization
  · intro hstatus
    exact .pure ⟨fun _ => ⟨request, reply, hevents, hresponse, fun h => absurd h hstatus,
      fun h => .inr (.inl (hserver h))⟩, Nat.le_succ _⟩

theorem attemptRequest_attempted {events : List SessionEvent} {cookies : NameValueCollection}
    {request : HTTPRequest} (hauthorization : request.authorization = none) :
    Monitored remember AnswersChallenge events (attemptRequest net cookies request)
      (Attempted net 3 events) := by
  unfold attemptRequest
  refine Monitored.bind (sendAndReceive_attempted (answersChallenge_of_none hauthorization)) ?_
  rintro ⟨result, answer⟩ _ ⟨rfl, hresponse⟩
  cases answer with
  | error e =>
      refine .pure ⟨nofun, ?_⟩
      rw [sends_send]
      omega
  | ok reply =>
      refine Monitored.ite ?_ ?_
      · intro _
        refine Monitored.bind (Q := fun _ events' => ∃ answer', events' =
          (.reset, answer') :: (.send request, .ok reply) :: events) ?_ ?_
        · exact resetSession_monitored fun answer' => ⟨nofun, answer', rfl⟩
        rintro _ _ ⟨answer', rfl⟩
        have hauthorization' : { request with cookies := none }.authorization = none :=
          hauthorization
        refine Monitored.bind (sendAndReceive_attempted (answersChallenge_of_none hauthorization')) ?_
        rintro ⟨result', answer⟩ _ ⟨rfl, hresponse'⟩
        cases answer with
        | error e =>
            refine .pure ⟨nofun, ?_⟩
            rw [sends_send, sends_reset, sends_send]
            omega
        | ok reply' =>
            refine (checkUnauthorized_attempted rfl hauthorization' (hresponse' reply' rfl)
              fun _ => rfl).mono fun attempt events' h => h.mono ?_
            rw [sends_send, sends_reset, sends_send]
      · intro hstatus
        refine (checkUnauthorized_attempted rfl hauthorization (hresponse reply rfl)
          fun h => absurd h hstatus).mono fun attempt events' h => h.mono ?_
        rw [sends_send]
        omega

/-- What a call of `makeHTTPRequest` leaves behind. -/
structure Ended (net : PocoNet) (before : List SessionEvent)
    (r : Option POCOResult × NameValueCollection) (events : List SessionEvent) : Prop where
  sends : sends events ≤ sends before + 3
  /-- Success: the last answer is reported. -/
  reports : ∀ result ∈ r.1, result.status = .ok → Reports net result.response events
  /-- A failure clears the cookies and resets the session. -/
  clears : ∀ result ∈ r.1, result.status ≠ .ok →
    r.2 = [] ∧ ∃ answer, events.head? = some (.reset, answer)

theorem POCOResult.caughtHTTP_status {result result' : POCOResult} {e : Thrown}
    (h : result.caughtHTTP e = some result') : result'.status ≠ .ok := by
  obtain ⟨exception, displayText⟩ := e
  cases exception <;> cases h <;> nofun

theorem makeHTTPRequest_ended {events : List SessionEvent} (cookies : NameValueCollection)
    (info : RequestInfo) :
    Monitored remember AnswersChallenge events (makeHTTPRequest net cookies info)
      (Ended net events) := by
  unfold makeHTTPRequest
  refine Monitored.bind (attemptRequest_attempted rfl) ?_
  rintro ⟨result, cookies', thrown⟩ events' ⟨hreports, hsends⟩
  cases thrown with
  | none =>
      apply Monitored.pure
      refine ⟨hsends, ?_, ?_⟩
      · rintro _ ⟨rfl⟩ _
        exact hreports rfl
      · rintro _ ⟨rfl⟩ hstatus
        exact absurd rfl hstatus
  | some e =>
      simp only
      cases hresult : result.caughtHTTP e with
      | none => exact .pure ⟨hsends, nofun, nofun⟩
      | some result' =>
          have hstatus := POCOResult.caughtHTTP_status hresult
          refine Monitored.bind (Q := fun _ events'' => ∃ answer, events'' = (.reset, answer) :: events')
            ?_ ?_
          · exact resetSession_monitored fun answer => ⟨nofun, answer, rfl⟩
          · rintro _ _ ⟨answer, rfl⟩
            refine .pure ⟨?_, ?_, ?_⟩
            · rwa [sends_reset]
            · rintro _ ⟨rfl⟩ h
              exact absurd h hstatus
            · rintro _ ⟨rfl⟩ _
              exact ⟨rfl, answer, rfl⟩

theorem requestWebSocket_challenge {events : List SessionEvent} (cookies : NameValueCollection)
    (uri : Text) : Monitored remember AnswersChallenge events (requestWebSocket cookies uri)
      fun _ _ => True := by
  unfold requestWebSocket
  apply Monitored.request_bind
  intro answer
  refine ⟨nofun, ?_⟩
  cases answer with
  | ok reply => exact .pure trivial
  | error e =>
      simp only
      cases POCOResult.caught {} e with
      | none => exact .pure trivial
      | some result =>
          refine Monitored.bind (Q := fun _ _ => True) ?_ fun _ _ _ => .pure trivial
          exact resetSession_monitored fun answer => ⟨nofun, trivial⟩

end library

/-- **Credentials only answer a challenge**: they are sent with the request that was answered with 401,
and right after that answer. -/
theorem calls_credentials (net : PocoNet) (cookies : NameValueCollection) (calls : List SessionCall) :
    Ensures (calls.foldlM (sessionCall net) cookies) fun _ exchanged =>
      ∀ before request challenge answer after,
        exchanged = before ++ (.send request, answer) :: after →
          request.authorization = some challenge →
            challenge.status = HTTPResponse.unauthorized ∧ before.getLast? =
              some (.send { request with authorization := none }, .ok challenge) := by
  have hcall (cookies : NameValueCollection) (call : SessionCall) (events : List SessionEvent)
      (_ : True) : Monitored remember AnswersChallenge events (sessionCall net cookies call)
        fun _ _ => True := by
    cases call with
    | makeHTTPRequest info =>
        exact Monitored.bind (makeHTTPRequest_ended cookies info) fun _ _ _ => .pure trivial
    | webSocketConnect uri =>
        exact Monitored.bind (requestWebSocket_challenge cookies uri) fun _ _ _ => .pure trivial
  have hcalls := Monitored.foldlM (t := cookies) (s := []) calls
    (fun cookies call _ => hcall cookies call) trivial
  refine Ensures.mono hcalls ?_
  rintro _ exchanged ⟨halong, -⟩ before request challenge answer after hexchanged hauthorization
  have hposition := along_iff_positions.mp halong before _ after hexchanged request challenge rfl
    hauthorization
  rwa [run_remember, List.append_nil, List.head?_reverse] at hposition

/-- **What a request reports.**  It takes three requests at most.  A challenge is reported only if
credentials were sent, or the library had none to add, and a server error only of a further attempt; a
failure leaves neither cookies nor a session. -/
theorem makeHTTPRequest_outcome (net : PocoNet) (cookies : NameValueCollection) (info : RequestInfo) :
    Ensures (makeHTTPRequest net cookies info) fun r exchanged =>
      sends exchanged ≤ 3 ∧
      (∀ result ∈ r.1, result.status = .ok → Reports net result.response exchanged.reverse) ∧
      (∀ result ∈ r.1, result.status ≠ .ok →
        r.2 = [] ∧ ∃ answer, exchanged.getLast? = some (.reset, answer)) := by
  refine Ensures.mono (@makeHTTPRequest_ended net [] cookies info) ?_
  rintro r exchanged ⟨-, hended⟩
  rw [run_remember, List.append_nil] at hended
  refine ⟨?_, hended.reports, ?_⟩
  · have hsends := hended.sends
    rwa [sends, List.countP_reverse] at hsends
  · intro result hresult hstatus
    obtain ⟨hcookies, answer, hanswer⟩ := hended.clears result hresult hstatus
    exact ⟨hcookies, answer, by rwa [List.head?_reverse] at hanswer⟩

end AbbWrapper
