import Mathlib.Data.List.Infix
import AbbWrapper.PocoClient
import AbbWrapper.Runs

/-! # Subscriptions

The subscription of `RWSClient`: a POST request creates a subscription group on the controller, its
name is read out of the headers of the answer, and a WebSocket is opened at it.  What the POCO library
does at each of these steps is given, its exceptions included.

* The groups of the controller are part of the state (`Subscription`), with what the client knows of them.
* `PostOutcome`, `DeleteOutcome`, `ConnectOutcome` and `Reception` are what may happen to a request, and
  what a WebSocket may receive; a call is given with what happens to its requests (`Call`).
* `NoOrphan` says that every group is the one that the client has a name of, and that
  `endSubscription` can delete it.
* `Kept` are the calls that orphan no group; `Locates`, `Connects` and `Closes` are the conditions it is
  made of.

None of the groups is orphaned exactly along the runs whose calls are all kept (`no_orphan_iff`); for one
call it is `keeps_iff`. -/

namespace AbbWrapper

/-! ### `POCOClient` -/

/-- An exception of the POCO library; `other` is of a class that is not caught. -/
inductive PocoException where
  | invalidArgument
  | timeout
  | websocket
  | net
  | other
deriving DecidableEq, Repr

/-- An exception with the text it displays. -/
structure Thrown where
  exception : PocoException
  displayText : Text
deriving DecidableEq, Repr

/-- The result after the handlers; `none` is an exception that leaves the method. -/
def POCOResult.caught (result : POCOResult) (e : Thrown) : Option POCOResult :=
  match e.exception with
  | .invalidArgument => some { result with
      status := .exceptionPocoInvalidArgument
      exceptionMessage := e.displayText }
  | .timeout => some { result with
      status := .exceptionPocoTimeout
      exceptionMessage := e.displayText }
  | .websocket => some { result with
      status := .exceptionPocoWebsocket
      exceptionMessage := e.displayText }
  | .net => some { result with
      status := .exceptionPocoNet
      exceptionMessage := e.displayText }
  | .other => none

/-- What happens to a request for a WebSocket. -/
inductive ConnectOutcome where
  | connected (status : ℕ) (headerInfo : Text)
  /-- The constructor of the WebSocket throws. -/
  | refused (e : Thrown)
  /-- `setReceiveTimeout` throws. -/
  | unlimited (e : Thrown)

/-- Whether a WebSocket is allocated, and the result. -/
def webSocketConnect : ConnectOutcome → Bool × Option POCOResult
  | .connected status headerInfo =>
      (true, some { status := .ok, response := { status := status, headerInfo := headerInfo } })
  | .refused e => (false, POCOResult.caught {} e)
  | .unlimited e => (true, POCOResult.caught {} e)

/-- What a WebSocket receives. -/
inductive Reception where
  /-- `receiveFrame` throws. -/
  | failed (e : Thrown)
  /-- A frame, what the answer to it throws (`sendFrame` or `shutdown`), and what is received next. -/
  | frame (info : WebSocketInfo) (answer : Option Thrown) (next : Reception)

namespace WebSocket

/-- `flags & FRAME_OP_BITMASK`. -/
def opcode (flags : ℕ) : ℕ := flags &&& 15

/-- `FRAME_OP_CLOSE`. -/
def opClose : ℕ := 8
/-- `FRAME_OP_PING`. -/
def opPing : ℕ := 9

end WebSocket

/-- The body of `webSocketRecieveFrame` for a socket: whether it stays, and the result. -/
def receiveFrames : Reception → Bool × Option POCOResult
  | .failed e => (true, POCOResult.caught {} e)
  | .frame info answer next =>
      if WebSocket.opcode info.flags = WebSocket.opPing then
        match answer with
        | some e => (true, POCOResult.caught {} e)
        | none => receiveFrames next
      else if WebSocket.opcode info.flags = WebSocket.opClose then
        match answer with
        | some e => (true, POCOResult.caught {} e)
        | none => (false, some { status := .ok, websocket := { info with frameContent := [] } })
      else (true, some { status := .ok, websocket := info })

def webSocketRecieveFrame (websocket : Bool) (reception : Reception) : Bool × Option POCOResult :=
  if websocket then receiveFrames reception
  else (false, some { status := .websocketNotAllocated })

namespace Text

/-- `find` of a text; `none` is `npos`. -/
def find (t pattern : Text) : Option ℕ := t.tails.findIdx? (pattern.isPrefixOf ·)

/-- `&quot;`. -/
def quot : Text := ['&', 'q', 'u', 'o', 't', ';']

theorem find_eq_some_iff {t pattern : Text} {position : ℕ} : find t pattern = some position ↔
    position ≤ t.length ∧ pattern <+: t.drop position ∧
      ∀ earlier < position, ¬pattern <+: t.drop earlier := by
  unfold find
  rw [List.findIdx?_eq_some_iff_getElem]
  simp only [List.length_tails, List.getElem_tails, List.isPrefixOf_iff_prefix, exists_prop]
  rw [Nat.lt_succ_iff]

/-- The loop that removes the quotes. -/
def removeQuot (t : Text) : Text :=
  match _h : find t quot with
  | some position => removeQuot (t.take position ++ t.drop (position + quot.length))
  | none => t
termination_by t.length
decreasing_by
  have hprefix := (find_eq_some_iff.mp _h).2.1.length_le
  rw [List.length_drop] at hprefix
  rw [List.length_append, List.length_take, List.length_drop]
  have hquot : quot.length = 6 := rfl
  omega

end Text

def findSubstringContent (wholeString substringStart substringEnd : Text) : Text :=
  Text.removeQuot <|
    match Text.find wholeString substringStart with
    | some startPosition =>
        let rest := wholeString.drop (startPosition + substringStart.length)
        match rest.findIdx? (· ∈ substringEnd) with
        | some length => rest.take length
        | none => []
    | none => []

/-! ### `RWSClient` -/

/-- What happens to the POST request: the group that the controller creates if it answers 201, and the
result, which tells of that answer only if there was one; `none` is an exception that is not caught. -/
structure PostOutcome where
  created : Option Text
  result : Option POCOResult
  answered : ∀ pocoResult ∈ result, pocoResult.Accepted HTTPResponse.created → created.isSome = true

/-- What happens to the DELETE request: whether the controller accepts it, and the result. -/
structure DeleteOutcome where
  accepted : Bool
  result : Option POCOResult

/-- The client, and the subscription groups that exist on the controller. -/
structure Subscription where
  /-- `webSocketExist()`. -/
  websocket : Bool := false
  subscriptionGroupId : Text := []
  groups : List Text := []
deriving DecidableEq, Repr

namespace Subscription

/-- `/poll/`. -/
def poll : Text := ['/', 'p', 'o', 'l', 'l', '/']

section calls
variable (xmlParse : Text → Option XMLNode)

/-- The call's result, unless an exception ends it, and what is left. -/
def startSubscription (s : Subscription) (post : PostOutcome) (connect : ConnectOutcome) :
    Option RWSResult × Subscription :=
  if s.websocket then (some {}, s)
  else
    let s := { s with groups := s.groups ++ post.created.toList }
    match post.result with
    | none => (none, s)
    | some pocoResult =>
        let result := evaluatePOCOResult xmlParse pocoResult
          { acceptedOutcomes := [HTTPResponse.created] }
        if result.success then
          let subscriptionGroupId :=
            findSubstringContent pocoResult.response.headerInfo poll ['\n']
          let (websocket, connectResult) := webSocketConnect connect
          match connectResult with
          | none => (none, { s with
              websocket := websocket
              subscriptionGroupId := subscriptionGroupId })
          | some connectResult =>
              let result := evaluatePOCOResult xmlParse connectResult
                { acceptedOutcomes := [HTTPResponse.switchingProtocols] }
              (some result, { s with
                websocket := websocket
                subscriptionGroupId := if result.success then subscriptionGroupId else [] })
        else (some result, s)

def waitForSubscriptionEvent (s : Subscription) (reception : Reception) :
    Option RWSResult × Subscription :=
  let (websocket, pocoResult) := webSocketRecieveFrame s.websocket reception
  (pocoResult.map fun pocoResult => evaluatePOCOResult xmlParse pocoResult
      { parseMessageIntoXml := true, acceptedOutcomes := [HTTPResponse.ok] },
    { s with websocket := websocket })

/-- An accepted DELETE removes the group that it names. -/
def endSubscription (s : Subscription) (delete : DeleteOutcome) : Option RWSResult × Subscription :=
  if s.websocket = true ∧ s.subscriptionGroupId ≠ [] then
    (delete.result.map fun pocoResult => evaluatePOCOResult xmlParse pocoResult
        { acceptedOutcomes := [HTTPResponse.ok] },
      if delete.accepted then
        { s with groups := s.groups.filter (· ≠ s.subscriptionGroupId) }
      else s)
  else (some {}, s)

/-- A call, and what happens to its requests. -/
inductive Call where
  | startSubscription (post : PostOutcome) (connect : ConnectOutcome)
  | waitForSubscriptionEvent (reception : Reception)
  | endSubscription (delete : DeleteOutcome)

def call (s : Subscription) : Call → Option RWSResult × Subscription
  | .startSubscription post connect => s.startSubscription xmlParse post connect
  | .waitForSubscriptionEvent reception => s.waitForSubscriptionEvent xmlParse reception
  | .endSubscription delete => s.endSubscription xmlParse delete

def step (s : Subscription) (c : Call) : Subscription := (s.call xmlParse c).2

/-- The call is a `startSubscription` that does not succeed. -/
def Fails (s : Subscription) (c : Call) : Prop :=
  (∃ post connect, c = .startSubscription post connect) ∧
    ∀ result ∈ (s.call xmlParse c).1, result.success = false

/-- Every group is the one named by the client, and `endSubscription` can still delete it. -/
def NoOrphan (s : Subscription) : Prop :=
  ∀ group ∈ s.groups, group = s.subscriptionGroupId ∧
    ∃ delete, group ∉ (s.endSubscription xmlParse delete).2.groups

end calls

/-- After the first `/poll/` of the headers there is a line with the name of the group, apart from
`&quot;`. -/
def Locates (headerInfo group : Text) : Prop :=
  ∃ before line after, headerInfo = before ++ (poll ++ (line ++ '\n' :: after)) ∧
    (∀ before' after', headerInfo = before' ++ (poll ++ after') → before.length ≤ before'.length) ∧
    '\n' ∉ line ∧ Text.removeQuot line = group

/-- Nothing is received but pings that are answered and then a closing frame, at which the socket is
shut down. -/
inductive Closes : Reception → Prop where
  | close (info : WebSocketInfo) (next : Reception)
      (hclose : WebSocket.opcode info.flags = WebSocket.opClose) : Closes (.frame info none next)
  | ping (info : WebSocketInfo) (next : Reception)
      (hping : WebSocket.opcode info.flags = WebSocket.opPing) (hnext : Closes next) :
      Closes (.frame info none next)

/-- The WebSocket is there, and the controller has switched protocols. -/
def Connects (connect : ConnectOutcome) : Prop :=
  ∃ headerInfo, connect = .connected HTTPResponse.switchingProtocols headerInfo

/-- The calls that orphan no group: a group that `startSubscription` creates is located by an answer
that arrives, and the WebSocket can be opened; the WebSocket is closed only where there is no group. -/
def Kept (s : Subscription) : Call → Prop
  | .startSubscription post connect => s.websocket = false → ∀ group ∈ post.created, group ≠ [] ∧
      (∃ pocoResult ∈ post.result, pocoResult.Accepted HTTPResponse.created ∧
        Locates pocoResult.response.headerInfo group) ∧ Connects connect
  | .waitForSubscriptionEvent reception => s.websocket = true → Closes reception → s.groups = []
  | .endSubscription _ => True

/-! ### The name of the group -/

theorem removeQuot_nil : Text.removeQuot [] = [] := by
  rw [Text.removeQuot]
  split
  · rename_i h
    cases h
  · rfl

/-- The first `/poll/` of a text. -/
theorem find_poll_of_first {headerInfo before rest : Text}
    (heq : headerInfo = before ++ (poll ++ rest))
    (hfirst : ∀ before' after', headerInfo = before' ++ (poll ++ after') →
      before.length ≤ before'.length) : Text.find headerInfo poll = some before.length := by
  rw [Text.find_eq_some_iff]
  refine ⟨?_, ?_, ?_⟩
  · rw [heq, List.length_append]
    omega
  · rw [heq, List.drop_left]
    exact List.prefix_append poll rest
  · intro earlier hearlier hprefix
    obtain ⟨after', hafter⟩ := hprefix
    have hle : earlier ≤ headerInfo.length := by
      rw [heq, List.length_append]
      omega
    have hsplit : headerInfo = headerInfo.take earlier ++ (poll ++ after') := by
      rw [hafter, List.take_append_drop]
    have h := hfirst _ _ hsplit
    rw [List.length_take_of_le hle] at h
    omega

theorem findSubstringContent_of_locates {headerInfo group : Text} (h : Locates headerInfo group) :
    findSubstringContent headerInfo poll ['\n'] = group := by
  obtain ⟨before, line, after, heq, hfirst, hline, rfl⟩ := h
  have hfind := find_poll_of_first heq hfirst
  have hrest : headerInfo.drop (before.length + poll.length) = line ++ '\n' :: after := by
    rw [heq, ← List.append_assoc, ← List.length_append, List.drop_left]
  have hend : (line ++ '\n' :: after).findIdx? (· ∈ ['\n']) = some line.length := by
    have hnone : line.findIdx? (· ∈ ['\n']) = none := by
      rw [List.findIdx?_eq_none_iff]
      intro character hmem
      rw [decide_eq_false_iff_not, List.mem_singleton]
      rintro rfl
      exact hline hmem
    rw [List.findIdx?_append, hnone, List.findIdx?_cons]
    simp
  unfold findSubstringContent
  simp only [hfind, hrest, hend]
  rw [List.take_left]

theorem locates_findSubstringContent {headerInfo : Text}
    (h : findSubstringContent headerInfo poll ['\n'] ≠ []) :
    Locates headerInfo (findSubstringContent headerInfo poll ['\n']) := by
  unfold findSubstringContent at h ⊢
  cases hfind : Text.find headerInfo poll with
  | none =>
      rw [hfind] at h
      exact absurd removeQuot_nil h
  | some position =>
      rw [hfind] at h
      simp only at h ⊢
      obtain ⟨hle, ⟨rest, hrest⟩, hearlier⟩ := Text.find_eq_some_iff.mp hfind
      have hdrop : headerInfo.drop (position + poll.length) = rest := by
        rw [← List.drop_drop, ← hrest, List.drop_left]
      rw [hdrop] at h ⊢
      cases hend : rest.findIdx? (· ∈ ['\n']) with
      | none =>
          rw [hend] at h
          exact absurd removeQuot_nil h
      | some length =>
          obtain ⟨hlt, hnewline, hbefore⟩ := List.findIdx?_eq_some_iff_getElem.mp hend
          rw [decide_eq_true_iff, List.mem_singleton] at hnewline
          refine ⟨headerInfo.take position, rest.take length, rest.drop (length + 1), ?_, ?_, ?_, rfl⟩
          · rw [← hnewline, List.getElem_cons_drop, List.take_append_drop, hrest,
              List.take_append_drop]
          · intro before' after' heq
            rw [List.length_take_of_le hle]
            by_contra hlt
            refine hearlier before'.length (by omega) ⟨after', ?_⟩
            rw [heq, List.drop_left]
          · intro hmem
            obtain ⟨i, hi, hget⟩ := List.mem_take_iff_getElem.mp hmem
            exact hbefore i (by omega) (by rw [hget]; decide)

/-! ### The calls -/

variable {xmlParse : Text → Option XMLNode} {s : Subscription}

theorem caught_not_accepted {e : Thrown} {pocoResult : POCOResult}
    (h : pocoResult ∈ POCOResult.caught {} e) (outcome : ℕ) : ¬pocoResult.Accepted outcome := by
  intro haccepted
  have hstatus := haccepted.1
  unfold POCOResult.caught at h
  cases hexception : e.exception <;> rw [hexception] at h
  case other => cases h
  all_goals
    obtain rfl := Option.some.inj h
    cases hstatus

/-- The request for a WebSocket is accepted exactly if it connects. -/
theorem webSocketConnect_accepted_iff (connect : ConnectOutcome) :
    (∃ pocoResult ∈ (webSocketConnect connect).2,
      pocoResult.Accepted HTTPResponse.switchingProtocols) ↔ Connects connect := by
  constructor
  · rintro ⟨pocoResult, hmem, haccepted⟩
    cases connect with
    | connected status headerInfo =>
        obtain rfl := Option.some.inj hmem
        obtain rfl : status = HTTPResponse.switchingProtocols := haccepted.2.2
        exact ⟨headerInfo, rfl⟩
    | refused e => exact absurd haccepted (caught_not_accepted hmem _)
    | unlimited e => exact absurd haccepted (caught_not_accepted hmem _)
  · rintro ⟨headerInfo, rfl⟩
    exact ⟨_, rfl, rfl, rfl, rfl⟩

/-- The group that an answered POST creates is there, however the call goes on. -/
theorem startSubscription_groups (xmlParse : Text → Option XMLNode) (hwebsocket : s.websocket = false)
    (post : PostOutcome) (connect : ConnectOutcome) :
    (s.startSubscription xmlParse post connect).2.groups = s.groups ++ post.created.toList := by
  unfold startSubscription
  rw [if_neg (by rw [hwebsocket]; exact Bool.false_ne_true)]
  cases post.result with
  | none => rfl
  | some pocoResult =>
      simp only
      split
      · cases (webSocketConnect connect).2 <;> rfl
      · rfl

theorem startSubscription_success (xmlParse : Text → Option XMLNode) {post : PostOutcome}
    {connect : ConnectOutcome} {pocoResult : POCOResult} (hwebsocket : s.websocket = false)
    (hresult : post.result = some pocoResult) (haccepted : pocoResult.Accepted HTTPResponse.created)
    (hconnects : Connects connect) :
    (∃ result ∈ (s.startSubscription xmlParse post connect).1, result.success = true) ∧
      (s.startSubscription xmlParse post connect).2.websocket = true ∧
      (s.startSubscription xmlParse post connect).2.subscriptionGroupId =
        findSubstringContent pocoResult.response.headerInfo poll ['\n'] := by
  obtain ⟨headerInfo, rfl⟩ := hconnects
  have hsuccess := (evaluatePOCOResult_success xmlParse pocoResult HTTPResponse.created).mpr haccepted
  have hconnected := (evaluatePOCOResult_success xmlParse
    { status := .ok, response := { status := HTTPResponse.switchingProtocols, headerInfo := headerInfo } }
    HTTPResponse.switchingProtocols).mpr ⟨rfl, rfl, rfl⟩
  unfold startSubscription
  rw [if_neg (by rw [hwebsocket]; exact Bool.false_ne_true), hresult]
  simp only [hsuccess, if_true, webSocketConnect, hconnected]
  exact ⟨⟨_, rfl, hconnected⟩, trivial, trivial⟩

theorem startSubscription_fails {post : PostOutcome} {connect : ConnectOutcome}
    (h : ¬((∃ pocoResult ∈ post.result, pocoResult.Accepted HTTPResponse.created) ∧
      Connects connect)) :
    ∀ result ∈ (s.startSubscription xmlParse post connect).1, result.success = false := by
  rw [← webSocketConnect_accepted_iff] at h
  intro result hmem
  by_contra hsuccess
  rw [Bool.not_eq_false] at hsuccess
  unfold startSubscription at hmem
  split at hmem
  · obtain rfl := Option.some.inj hmem
    cases hsuccess
  · cases hpost : post.result with
    | none =>
        rw [hpost] at hmem
        cases hmem
    | some pocoResult =>
        rw [hpost] at hmem h
        simp only at hmem
        split at hmem
        · rename_i haccepted
          rw [evaluatePOCOResult_success] at haccepted
          cases hconnect : (webSocketConnect connect).2 with
          | none =>
              rw [hconnect] at hmem
              cases hmem
          | some connectResult =>
              rw [hconnect] at hmem h
              obtain rfl := Option.some.inj hmem
              rw [evaluatePOCOResult_success] at hsuccess
              exact h ⟨⟨pocoResult, rfl, haccepted⟩, connectResult, rfl, hsuccess⟩
        · rename_i hnot
          obtain rfl := Option.some.inj hmem
          exact hnot hsuccess

theorem receiveFrames_iff (reception : Reception) :
    (receiveFrames reception).1 = false ↔ Closes reception := by
  induction reception with
  | failed e =>
      exact ⟨fun h => (by cases h), fun h => (by cases h)⟩
  | frame info answer next ih =>
      unfold receiveFrames
      have hne : WebSocket.opClose ≠ WebSocket.opPing := by decide
      by_cases hping : WebSocket.opcode info.flags = WebSocket.opPing
      · rw [if_pos hping]
        cases answer with
        | some e => exact ⟨fun h => (by cases h), fun h => (by cases h)⟩
        | none =>
            refine ih.trans ⟨.ping info next hping, ?_⟩
            intro h
            cases h with
            | close _ _ hclose => exact absurd (hclose.symm.trans hping) hne
            | ping _ _ _ hnext => exact hnext
      · rw [if_neg hping]
        by_cases hclose : WebSocket.opcode info.flags = WebSocket.opClose
        · rw [if_pos hclose]
          cases answer with
          | some e => exact ⟨fun h => (by cases h), fun h => (by cases h)⟩
          | none => exact ⟨fun _ => .close info next hclose, fun _ => rfl⟩
        · rw [if_neg hclose]
          refine ⟨fun h => (by cases h), ?_⟩
          intro h
          cases h with
          | close _ _ h => exact absurd h hclose
          | ping _ _ h => exact absurd h hping

/-! ### Orphans -/

/-- `endSubscription` deletes nothing without a socket or without a name. -/
theorem noOrphan_iff : NoOrphan xmlParse s ↔ ∀ group ∈ s.groups,
    group = s.subscriptionGroupId ∧ s.websocket = true ∧ s.subscriptionGroupId ≠ [] := by
  unfold NoOrphan
  refine forall₂_congr fun group hgroup => and_congr_right fun hname => ?_
  constructor
  · rintro ⟨delete, hdelete⟩
    by_contra hgate
    rw [endSubscription, if_neg hgate] at hdelete
    exact hdelete hgroup
  · intro hgate
    refine ⟨⟨true, none⟩, ?_⟩
    rw [endSubscription, if_pos hgate, hname]
    simp

theorem not_fails_iff {post : PostOutcome} {connect : ConnectOutcome} (hwebsocket : s.websocket = false) :
    ¬Fails xmlParse s (.startSubscription post connect) ↔
      (∃ pocoResult ∈ post.result, pocoResult.Accepted HTTPResponse.created) ∧ Connects connect := by
  constructor
  · intro hnot
    by_contra h
    exact hnot ⟨⟨post, connect, rfl⟩, startSubscription_fails h⟩
  · rintro ⟨⟨pocoResult, hresult, haccepted⟩, hconnects⟩ ⟨-, hfails⟩
    obtain ⟨⟨result, hmem, hsuccess⟩, -⟩ :=
      startSubscription_success xmlParse hwebsocket hresult haccepted hconnects
    rw [hfails result hmem] at hsuccess
    cases hsuccess

/-- No group exists without a socket. -/
theorem NoOrphan.groups_eq_nil (hs : NoOrphan xmlParse s) (hwebsocket : s.websocket = false) :
    s.groups = [] := by
  rw [List.eq_nil_iff_forall_not_mem]
  intro group hgroup
  have h := (noOrphan_iff.mp hs group hgroup).2.1
  rw [hwebsocket] at h
  cases h

/-- A `startSubscription` where no socket is there. -/
theorem startSubscription_keeps_iff (hs : NoOrphan xmlParse s) (hwebsocket : s.websocket = false)
    (post : PostOutcome) (connect : ConnectOutcome) :
    (NoOrphan xmlParse (s.step xmlParse (.startSubscription post connect)) ∧
      (Fails xmlParse s (.startSubscription post connect) →
        (s.step xmlParse (.startSubscription post connect)).groups ⊆ s.groups)) ↔
      Kept s (.startSubscription post connect) := by
  have hgroups : (s.step xmlParse (.startSubscription post connect)).groups = post.created.toList := by
    have h := startSubscription_groups xmlParse hwebsocket post connect
    rwa [hs.groups_eq_nil hwebsocket, List.nil_append] at h
  rw [noOrphan_iff, hgroups, hs.groups_eq_nil hwebsocket]
  cases hcreated : post.created with
  | none => simp [Kept, hcreated]
  | some group =>
      simp only [Option.toList_some, List.forall_mem_singleton, Kept, hwebsocket, hcreated,
        forall_true_left, Option.mem_def, Option.some.injEq, forall_eq']
      by_cases hsucceeds : (∃ pocoResult ∈ post.result, pocoResult.Accepted HTTPResponse.created) ∧
          Connects connect
      · obtain ⟨⟨pocoResult, hresult, haccepted⟩, hconnects⟩ := hsucceeds
        obtain ⟨-, hsocket, hname⟩ :=
          startSubscription_success xmlParse hwebsocket hresult haccepted hconnects
        have hfails : ¬Fails xmlParse s (.startSubscription post connect) :=
          (not_fails_iff hwebsocket).mpr ⟨⟨pocoResult, hresult, haccepted⟩, hconnects⟩
        change (s.step xmlParse (.startSubscription post connect)).websocket = true at hsocket
        change (s.step xmlParse (.startSubscription post connect)).subscriptionGroupId = _ at hname
        rw [hname]
        constructor
        · rintro ⟨⟨rfl, -, hne⟩, -⟩
          exact ⟨hne, ⟨pocoResult, hresult, haccepted, locates_findSubstringContent hne⟩, hconnects⟩
        · rintro ⟨hne, ⟨pocoResult', hresult', -, hlocates⟩, -⟩
          obtain rfl := Option.some.inj (hresult.symm.trans hresult')
          rw [findSubstringContent_of_locates hlocates]
          exact ⟨⟨rfl, hsocket, hne⟩, fun h => absurd h hfails⟩
      · have hfails : Fails xmlParse s (.startSubscription post connect) := by
          by_contra h
          exact hsucceeds ((not_fails_iff hwebsocket).mp h)
        constructor
        · rintro ⟨-, hsubset⟩
          exact absurd (hsubset hfails (List.mem_singleton_self group)) List.not_mem_nil
        · rintro ⟨-, ⟨pocoResult, hresult, haccepted, -⟩, hconnects⟩
          exact absurd ⟨⟨pocoResult, hresult, haccepted⟩, hconnects⟩ hsucceeds

theorem waitForSubscriptionEvent_noOrphan_iff (hs : NoOrphan xmlParse s) (reception : Reception) :
    NoOrphan xmlParse (s.step xmlParse (.waitForSubscriptionEvent reception)) ↔
      Kept s (.waitForSubscriptionEvent reception) := by
  rw [noOrphan_iff] at hs ⊢
  change (∀ group ∈ s.groups, group = s.subscriptionGroupId ∧
    (webSocketRecieveFrame s.websocket reception).1 = true ∧ s.subscriptionGroupId ≠ []) ↔ _
  constructor
  · intro h hwebsocket hcloses
    rw [List.eq_nil_iff_forall_not_mem]
    intro group hgroup
    have hsocket := (h group hgroup).2.1
    rw [webSocketRecieveFrame, if_pos hwebsocket, (receiveFrames_iff reception).mpr hcloses] at hsocket
    cases hsocket
  · intro h group hgroup
    obtain ⟨hname, hwebsocket, hne⟩ := hs group hgroup
    refine ⟨hname, ?_, hne⟩
    rw [webSocketRecieveFrame, if_pos hwebsocket]
    by_contra hsocket
    rw [Bool.not_eq_true, receiveFrames_iff] at hsocket
    rw [h hwebsocket hsocket] at hgroup
    exact List.not_mem_nil hgroup

/-- Groups are removed, and the client stays as it is. -/
theorem endSubscription_frame (xmlParse : Text → Option XMLNode) (s : Subscription)
    (delete : DeleteOutcome) :
    (s.endSubscription xmlParse delete).2.websocket = s.websocket ∧
      (s.endSubscription xmlParse delete).2.subscriptionGroupId = s.subscriptionGroupId ∧
      (s.endSubscription xmlParse delete).2.groups ⊆ s.groups := by
  unfold endSubscription
  split
  · dsimp only
    split
    · exact ⟨rfl, rfl, List.filter_subset_self _⟩
    · exact ⟨rfl, rfl, List.Subset.refl _⟩
  · exact ⟨rfl, rfl, List.Subset.refl _⟩

theorem endSubscription_noOrphan (hs : NoOrphan xmlParse s) (delete : DeleteOutcome) :
    NoOrphan xmlParse (s.step xmlParse (.endSubscription delete)) := by
  obtain ⟨hwebsocket, hname, hgroups⟩ := endSubscription_frame xmlParse s delete
  rw [noOrphan_iff] at hs ⊢
  intro group hgroup
  change group = (s.endSubscription xmlParse delete).2.subscriptionGroupId ∧
    (s.endSubscription xmlParse delete).2.websocket = true ∧
    (s.endSubscription xmlParse delete).2.subscriptionGroupId ≠ []
  rw [hname, hwebsocket]
  exact hs group (hgroups hgroup)

/-- A call orphans a group exactly if it is not kept. -/
theorem keeps_iff (hs : NoOrphan xmlParse s) (c : Call) :
    (NoOrphan xmlParse (s.step xmlParse c) ∧
      (Fails xmlParse s c → (s.step xmlParse c).groups ⊆ s.groups)) ↔ Kept s c := by
  cases c with
  | startSubscription post connect =>
      cases hwebsocket : s.websocket with
      | false => exact startSubscription_keeps_iff hs hwebsocket post connect
      | true =>
          have hstep : s.step xmlParse (.startSubscription post connect) = s := by
            rw [step, call, startSubscription, if_pos hwebsocket]
          rw [hstep]
          refine ⟨fun _ hnone => ?_, fun _ => ⟨hs, fun _ => List.Subset.refl _⟩⟩
          rw [hwebsocket] at hnone
          cases hnone
  | waitForSubscriptionEvent reception =>
      rw [waitForSubscriptionEvent_noOrphan_iff hs, and_iff_left]
      rintro ⟨⟨post, connect, h⟩, -⟩
      cases h
  | endSubscription delete =>
      refine ⟨fun _ => trivial, fun _ => ⟨endSubscription_noOrphan hs delete, ?_⟩⟩
      rintro ⟨⟨post, connect, h⟩, -⟩
      cases h

/-- **Along exactly the runs whose calls are all kept no group is orphaned**: after every call each group
is the one named by `subscriptionGroupId` and can still be deleted, and a `startSubscription` that fails
leaves no new group. -/
theorem no_orphan_iff (xmlParse : Text → Option XMLNode) (calls : List Call) :
    Runs.Along (step xmlParse) (fun s c => NoOrphan xmlParse (s.step xmlParse c) ∧
      (Fails xmlParse s c → (s.step xmlParse c).groups ⊆ s.groups)) {} calls ↔
      Runs.Along (step xmlParse) Kept {} calls := by
  refine Runs.along_iff (I := NoOrphan xmlParse) (fun s c hs => keeps_iff hs c) ?_
    (fun group hgroup => absurd hgroup List.not_mem_nil)
  intro s c hs hkept
  exact ((keeps_iff hs c).mpr hkept).1

/-- The controller answers the POST request with 201 and the name of the group, and then refuses the
WebSocket: the group exists, and the client no longer knows its name. -/
def refusedCall : Call :=
  .startSubscription
    { created := some ['1']
      result := some
        { status := .ok
          response :=
            { status := HTTPResponse.created
              headerInfo := ['L', 'o', 'c', 'a', 't', 'i', 'o', 'n', '=', '/', 'p', 'o', 'l', 'l', '/',
                '1', '\n'] } }
      answered := fun _ _ _ => rfl }
    (.refused ⟨.net, ['E', 'O', 'F']⟩)

theorem not_noOrphan_refused : Fails (fun _ => none) {} refusedCall ∧
    (step (fun _ => none) {} refusedCall).groups = [['1']] ∧
    (step (fun _ => none) {} refusedCall).subscriptionGroupId = [] ∧
    ¬NoOrphan (fun _ => none) (step (fun _ => none) {} refusedCall) := by
  have hgroups : (step (fun _ => none) {} refusedCall).groups = [['1']] := by decide
  refine ⟨⟨⟨_, _, rfl⟩, startSubscription_fails ?_⟩, hgroups, rfl, ?_⟩
  · rintro ⟨-, headerInfo, h⟩
    cases h
  · intro h
    rw [noOrphan_iff, hgroups, List.forall_mem_singleton] at h
    exact absurd h.2.1 (by decide)

end Subscription

end AbbWrapper
