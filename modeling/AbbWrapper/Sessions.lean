import AbbWrapper.SessionLeak

/-! # Sessions as they are seen from outside

A session begins with a message that is the first that can be parsed, or has the sequence number 0.  For
every interface and every run (`session_followed`): the replies of a session are numbered in the order of
its accepted messages; the configuration is the one that was set last before the session began; and the
header and the status that are reported are those of the last message that could be parsed, as long as it
was accepted.  So `isConnected` exactly if a message was accepted last before the wait, and a later one in it
(`isConnected_iff`).

* A `SessionWatch` is told what arrives, whether it was accepted and what is configured; it knows nothing
  else of the interface, and runs beside it (`WatchedInterface`).
* `Followed` is the invariant of the two: the interface has done what the watch has seen.
* `Received` says what the handling of one message makes of the parts that the watch sees.
* `isConnected` compares two readings of the headers with a wait between them, in which anything may
  happen. -/

namespace AbbWrapper

open Protobuf Runs

variable {α β κ μ υ : Type}

/-! ### `getStatus` and `isConnected` -/

/-- `WAIT_TIME_MS`. -/
def waitTimeMs : UInt32 := 100

namespace EGMInterface

def getStatus (s : EGMInterface κ μ α) : Status := s.sessionData.status

/-- The two states are those in which the headers are read. -/
def isConnected (s s' : EGMInterface κ μ α) : Bool :=
  let header₁ := s.sessionData.header
  let header₂ := s'.sessionData.header
  (header₁.sequenceNumber.has && header₁.timeStamp.has) &&
    (header₂.sequenceNumber.has && header₂.timeStamp.has) &&
    decide (header₁.sequenceNumber.get < header₂.sequenceNumber.get) &&
    decide (header₁.timeStamp.get < header₂.timeStamp.get) &&
    decide (header₂.timeStamp.get - header₁.timeStamp.get ≤ 2 * waitTimeMs)

end EGMInterface

/-! ### The watch -/

/-- What is reported of an accepted message. -/
def SessionData.of (m : EgmRobot α) : SessionData where
  header :=
    { sequenceNumber := .present m.header.get.seqno.get
      timeStamp := .present m.header.get.tm.get
      messageType := .present .data }
  status :=
    { egmConvergenceMet := .present m.mciConvergenceMet.get
      egmState := .present m.mciState.get.state.get
      motorState := .present m.motorState.get.state.get
      rapidExecutionState := .present m.rapidExecState.get.state.get }

/-- What has happened, without the interface: whether a message could be parsed yet, the configuration
that was set last and that of the session, how many messages the session has accepted after its first,
and what is reported. -/
structure SessionWatch (κ : Type) where
  begun : Bool
  configured : κ
  active : κ
  accepted : ℕ
  reported : SessionData

namespace SessionWatch

def init (configuration : κ) : SessionWatch κ := ⟨false, configuration, configuration, 0, ⟨{}, {}⟩⟩

/-- Whether a message that can be parsed begins a session. -/
def begins (w : SessionWatch κ) (m : EgmRobot α) : Bool := !w.begun || m.header.get.seqno.get == 0

/-- A message that can be parsed, and whether it is accepted. -/
def receive (w : SessionWatch κ) (m : EgmRobot α) (accepted : Bool) : SessionWatch κ where
  begun := true
  configured := w.configured
  active := if w.begins m then w.configured else w.active
  accepted :=
    if accepted then
      if w.begins m then 0 else w.accepted + 1
    else w.accepted
  reported := if accepted then .of m else ⟨{}, {}⟩

end SessionWatch

/-- The message of a datagram, if it can be parsed. -/
def parsedMessage (ParseFromArray : β → Bool × EgmRobot α) (data : Option β) : Option (EgmRobot α) :=
  data.bind fun bytes => if (ParseFromArray bytes).1 then some (ParseFromArray bytes).2 else none

/-- An interface beside the watch. -/
structure WatchedInterface (κ μ α : Type) where
  interface : EGMInterface κ μ α
  watch : SessionWatch κ

namespace WatchedInterface

variable [Field α] [LinearOrder α] [Cmath α] [FloorRing α] (h : Handler κ μ υ α)
  (ParseFromArray : β → Bool × EgmRobot α)

def watchNext (s : WatchedInterface κ μ α) : Event κ υ β → SessionWatch κ
  | .datagram data _ =>
      match parsedMessage ParseFromArray data with
      | none => s.watch
      | some m => s.watch.receive m (s.interface.accepts h ParseFromArray data)
  | .user _ => s.watch
  | .setConfiguration configuration => { s.watch with configured := configuration }

def step (s : WatchedInterface κ μ α) (e : Event κ υ β) : WatchedInterface κ μ α where
  interface := s.interface.step h ParseFromArray e
  watch := s.watchNext h ParseFromArray e

def start (configuration : κ) (motion : μ) : WatchedInterface κ μ α where
  interface := .init configuration motion
  watch := .init configuration

end WatchedInterface

/-- The interface has done what the watch has seen. -/
structure Followed (s : EGMInterface κ μ α) (w : SessionWatch κ) : Prop where
  firstCall : s.inputs.firstCall = !w.begun
  active : s.configuration.active = w.active
  update : s.configuration.update = w.configured
  pending : s.configuration.hasPendingUpdate = false → w.configured = w.active
  sequenceNumber : s.outputs.sequenceNumber = .ofNat w.accepted
  reply : ∀ reply ∈ s.outputs.reply, reply.header =
    .present ⟨.present (.ofNat w.accepted), .present 0, .present .correction⟩
  reported : s.sessionData = w.reported

/-! ### Parts of a callback -/

theorem parseFromArray_of_none {ParseFromArray : β → Bool × EgmRobot α} {i : InputContainer α}
    {data : Option β} (hparsed : parsedMessage ParseFromArray data = none) :
    (i.parseFromArray ParseFromArray data).1 = false ∧
      (i.parseFromArray ParseFromArray data).2.firstCall = i.firstCall := by
  unfold InputContainer.parseFromArray
  cases data with
  | none => exact ⟨rfl, rfl⟩
  | some bytes =>
      have hbytes : (ParseFromArray bytes).1 = false := by
        by_contra hok
        rw [Bool.not_eq_false] at hok
        rw [parsedMessage, Option.bind_some, if_pos hok] at hparsed
        cases hparsed
      simp only [hbytes, Bool.false_eq_true, if_false]
      exact ⟨trivial, trivial⟩

theorem parseFromArray_of_some {ParseFromArray : β → Bool × EgmRobot α} {i : InputContainer α}
    {data : Option β} {m : EgmRobot α} (hparsed : parsedMessage ParseFromArray data = some m) :
    i.parseFromArray ParseFromArray data = (true, { i with
      egmRobot := m
      hasNewData := true
      firstCall := false
      firstMessage := i.firstCall || m.header.get.seqno.get == 0 }) := by
  unfold InputContainer.parseFromArray
  cases data with
  | none => cases hparsed
  | some bytes =>
      rw [parsedMessage, Option.bind_some] at hparsed
      split at hparsed
      next hok =>
        have hm := Option.some.inj hparsed
        simp only [hok, if_true, hm]
      next => cases hparsed

/-- The header of a message that is accepted. -/
theorem EgmHeader.parse_eq {target : Header} {source : EgmHeader} (h : (source.parse target).1 = true) :
    (source.parse target).2 =
      ⟨.present source.seqno.get, .present source.tm.get, .present .data⟩ := by
  unfold EgmHeader.parse at h ⊢
  simp only at h ⊢
  split_ifs at h ⊢
  rfl

/-- The status of a message that is accepted. -/
theorem EgmRobot.parseStatus_eq {target : Status} {source : EgmRobot α}
    (h : (source.parseStatus target).1 = true) :
    (source.parseStatus target).2 = (SessionData.of source).status := by
  unfold EgmRobot.parseStatus at h ⊢
  split_ifs at h ⊢
  rfl

namespace InputContainer
variable [Field α] [LinearOrder α] [Cmath α]

/-- The header and the status of the inputs. -/
def sessionData (i : InputContainer α) : SessionData := ⟨i.current.header.get, i.current.status.get⟩

theorem parseParts_sessionData {i : InputContainer α} {axes : RobotAxes}
    (h : (i.parseParts axes).1 = true) :
    (⟨(i.parseParts axes).2.header.get, (i.parseParts axes).2.status.get⟩ : SessionData) =
      .of i.egmRobot := by
  unfold parseParts at h ⊢
  simp only at h ⊢
  split at h
  next hheader =>
    split at h
    next hfeedback =>
      split at h
      next hplanned =>
        rw [if_pos hheader, if_pos hfeedback, if_pos hplanned]
        have hheader' := EgmHeader.parse_eq hheader
        have hstatus := EgmRobot.parseStatus_eq h
        simp only [Optional.get_present] at hstatus ⊢
        rw [hheader', hstatus]
        rfl
      next => cases h
    next => cases h
  next => cases h

theorem estimateAllVelocities_sessionData (i : InputContainer α) :
    i.estimateAllVelocities.2.sessionData = i.sessionData := by
  unfold estimateAllVelocities
  simp only
  split <;> rfl

variable [FloorRing α]

theorem extractParsedInformation_sessionData {i : InputContainer α} {axes : RobotAxes}
    (h : (i.extractParsedInformation axes).1 = true) :
    (i.extractParsedInformation axes).2.sessionData = .of i.egmRobot := by
  unfold extractParsedInformation at h ⊢
  simp only at h ⊢
  split at h
  next hnew =>
    split at h
    next hparts =>
      rw [if_pos hnew, if_pos hparts]
      refine Eq.trans ?_ (parseParts_sessionData hparts)
      refine Eq.trans (estimateAllVelocities_sessionData _) ?_
      split <;> rfl
    next => cases h
  next => cases h

theorem extractParsedInformation_firstCall (i : InputContainer α) (axes : RobotAxes) :
    (i.extractParsedInformation axes).2.firstCall = i.firstCall := by
  unfold extractParsedInformation
  simp only
  split_ifs
  · exact (estimateAllVelocities_frame _).2.2.2
  · exact (estimateAllVelocities_frame _).2.2.2
  · rfl
  · rfl

end InputContainer

namespace OutputContainer
variable [Field α]

theorem prepareOutputs_frame (o : OutputContainer α) (inputs : InputContainer α) :
    (o.prepareOutputs inputs).sequenceNumber =
      (if inputs.firstMessage then 0 else o.sequenceNumber + 1) ∧
    (o.prepareOutputs inputs).reply = o.reply := by
  unfold prepareOutputs
  simp only
  split
  next hfirst => exact ⟨rfl, rfl⟩
  next hfirst => exact ⟨rfl, rfl⟩

/-- The bodies come after the header, and do not change it. -/
theorem constructReply_header (o : OutputContainer α) (configuration : BaseConfiguration α) :
    (o.constructReply configuration).egmSensor.header =
        .present ⟨.present o.sequenceNumber, .present 0, .present .correction⟩ ∧
      (o.constructReply configuration).sequenceNumber = o.sequenceNumber := by
  have hjoints (o : OutputContainer α) :
      (o.constructJointBody configuration).2.egmSensor.header = o.egmSensor.header ∧
        (o.constructJointBody configuration).2.sequenceNumber = o.sequenceNumber := by
    unfold constructJointBody
    dsimp only
    constructor
    · split_ifs <;> rfl
    · rfl
  have hcartesian (o : OutputContainer α) :
      (o.constructCartesianBody configuration).2.egmSensor.header = o.egmSensor.header ∧
        (o.constructCartesianBody configuration).2.sequenceNumber = o.sequenceNumber := by
    unfold constructCartesianBody
    dsimp only
    constructor
    · split_ifs <;> rfl
    · rfl
  obtain ⟨hheader, hnumber⟩ := hjoints o.constructHeader
  unfold constructReply
  simp only
  split_ifs
  · exact ⟨(hcartesian _).1.trans hheader, (hcartesian _).2.trans hnumber⟩
  · exact ⟨(hcartesian _).1.trans hheader, (hcartesian _).2.trans hnumber⟩
  · exact ⟨hheader, hnumber⟩

end OutputContainer

namespace EGMInterface
variable [Field α] [LinearOrder α] [Cmath α] [FloorRing α] {h : Handler κ μ υ α}
  {ParseFromArray : β → Bool × EgmRobot α}

/-- Before the reply of an accepted message only the motion and the outputs change. -/
theorem execute_kept (s : EGMInterface κ μ α) (mid : List υ) :
    (s.execute h mid).inputs = s.inputs ∧ (s.execute h mid).sessionData = s.sessionData ∧
      (s.execute h mid).configuration = s.configuration ∧
      (s.execute h mid).outputs.sequenceNumber = s.outputs.sequenceNumber := by
  unfold execute
  simp only
  split
  · exact ⟨rfl, rfl, rfl, rfl⟩
  · exact ⟨rfl, rfl, rfl, rfl⟩

omit [LinearOrder α] [Cmath α] [FloorRing α] in
/-- The reply that is left by an accepted message. -/
theorem finish_kept (s : EGMInterface κ μ α) :
    (s.finish h).inputs.firstCall = s.inputs.firstCall ∧ (s.finish h).sessionData = s.sessionData ∧
      (s.finish h).configuration = s.configuration ∧
      (s.finish h).outputs.sequenceNumber = s.outputs.sequenceNumber ∧
      ∀ reply ∈ (s.finish h).outputs.reply, reply.header =
        .present ⟨.present s.outputs.sequenceNumber, .present 0, .present .correction⟩ := by
  obtain ⟨hheader, hnumber⟩ :=
    s.outputs.constructReply_header (h.base s.configuration.active)
  refine ⟨rfl, rfl, rfl, hnumber, fun reply hreply => ?_⟩
  rw [OutputContainer.constructReply_reply hreply]
  exact hheader

/-- What the handling of a message makes of the parts that the watch sees. -/
structure Received (s : EGMInterface κ μ α) (m : EgmRobot α) (accepted : Bool)
    (s' : EGMInterface κ μ α) : Prop where
  firstCall : s'.inputs.firstCall = false
  configuration : s'.configuration =
    if (s.inputs.firstCall || m.header.get.seqno.get == 0) && s.configuration.hasPendingUpdate then
      ⟨s.configuration.update, s.configuration.update, false⟩
    else s.configuration
  sequenceNumber : s'.outputs.sequenceNumber =
    if accepted then
      if s.inputs.firstCall || m.header.get.seqno.get == 0 then 0 else s.outputs.sequenceNumber + 1
    else s.outputs.sequenceNumber
  sessionData : s'.sessionData = if accepted then .of m else ⟨{}, {}⟩

theorem initializeCallback_sessionData {s : EGMInterface κ μ α} {data : Option β} {m : EgmRobot α}
    (hparsed : parsedMessage ParseFromArray data = some m) :
    (s.initializeCallback h ParseFromArray data).2.sessionData =
      if s.accepts h ParseFromArray data then .of m else ⟨{}, {}⟩ := by
  have hparse := parseFromArray_of_some (i := s.inputs) hparsed
  have hone : (s.inputs.parseFromArray ParseFromArray data).1 = true := by rw [hparse]
  rw [accepts_eq, hone, Bool.true_and, initializeCallback_parsed h ParseFromArray hone]
  change ((s.parsed ParseFromArray data).extract h).2.sessionData = _
  obtain ⟨hinputs, -⟩ := (s.parsed ParseFromArray data).updateConfiguration_frame h
  unfold extract
  simp only [hinputs]
  split
  next haccepted =>
    refine (InputContainer.extractParsedInformation_sessionData haccepted).trans ?_
    change SessionData.of (s.inputs.parseFromArray ParseFromArray data).2.egmRobot = _
    rw [hparse]
  next => rfl

theorem initializeCallback_received {s : EGMInterface κ μ α} {data : Option β} {m : EgmRobot α}
    (hparsed : parsedMessage ParseFromArray data = some m) :
    s.Received m (s.accepts h ParseFromArray data)
      (s.initializeCallback h ParseFromArray data).2 := by
  have hparse := parseFromArray_of_some (i := s.inputs) hparsed
  have hone : (s.inputs.parseFromArray ParseFromArray data).1 = true := by rw [hparse]
  obtain ⟨haccepts, hinputs, houtputs⟩ :=
    initializeCallback_of_parsed h ParseFromArray hone rfl
  rw [hparse] at haccepts hinputs houtputs
  refine ⟨?_, ?_, ?_, ?_⟩
  · rw [hinputs, InputContainer.extractParsedInformation_firstCall]
  · rw [initializeCallback_configuration, switches, hparse, Bool.true_and]
  · rw [houtputs]
    split
    · rw [(OutputContainer.prepareOutputs_frame _ _).1,
        InputContainer.extractParsedInformation_firstMessage]
      rfl
    · rfl
  · exact initializeCallback_sessionData hparsed

theorem initializeCallback_unreceived {s : EGMInterface κ μ α} {data : Option β}
    (hparsed : parsedMessage ParseFromArray data = none) :
    s.accepts h ParseFromArray data = false ∧
      (s.initializeCallback h ParseFromArray data).2.inputs.firstCall = s.inputs.firstCall ∧
      (s.initializeCallback h ParseFromArray data).2.configuration = s.configuration ∧
      (s.initializeCallback h ParseFromArray data).2.outputs = s.outputs.clearReply ∧
      (s.initializeCallback h ParseFromArray data).2.sessionData = s.sessionData := by
  obtain ⟨hfailed, hfirst⟩ := parseFromArray_of_none (i := s.inputs) hparsed
  obtain ⟨hrejected, hinputs, houtputs⟩ := initializeCallback_of_unparsed h ParseFromArray hfailed
  refine ⟨hrejected, ?_, ?_, houtputs, ?_⟩
  · rw [hinputs]
    split
    · exact hfirst
    · rfl
  · rw [initializeCallback_configuration, switches, hfailed]
    rfl
  · unfold initializeCallback
    cases data with
    | none => rfl
    | some bytes => simp only [hfailed, Bool.false_eq_true, if_false]

end EGMInterface

/-! ### The watch is followed -/

theorem Followed.init [Field α] (configuration : κ) (motion : μ) :
    Followed (α := α) (.init configuration motion) (.init configuration) where
  firstCall := rfl
  active := rfl
  update := rfl
  pending _ := rfl
  sequenceNumber := rfl
  reply _ hreply := by cases hreply
  reported := rfl

/-- A new configuration waits for the next session. -/
theorem Followed.setConfiguration {s : EGMInterface κ μ α} {w : SessionWatch κ} (hs : Followed s w)
    (configuration : κ) :
    Followed (s.setConfiguration configuration) { w with configured := configuration } where
  firstCall := hs.firstCall
  active := hs.active
  update := rfl
  pending hpending := by cases hpending
  sequenceNumber := hs.sequenceNumber
  reply := hs.reply
  reported := hs.reported

/-- What a message that can be parsed makes of the interface. -/
theorem Followed.received {s s' : EGMInterface κ μ α} {w : SessionWatch κ} (hs : Followed s w)
    {m : EgmRobot α} {accepted : Bool} (h : s.Received m accepted s')
    (hreply : ∀ reply ∈ s'.outputs.reply, reply.header =
      .present ⟨.present s'.outputs.sequenceNumber, .present 0, .present .correction⟩) :
    Followed s' (w.receive m accepted) := by
  have hbegins : (s.inputs.firstCall || m.header.get.seqno.get == 0) = w.begins m := by
    rw [hs.firstCall, SessionWatch.begins]
  have hnumber : s'.outputs.sequenceNumber = .ofNat (w.receive m accepted).accepted := by
    rw [h.sequenceNumber, hbegins, hs.sequenceNumber, SessionWatch.receive]
    cases accepted with
    | false => rfl
    | true =>
        cases w.begins m with
        | false => exact (UInt32.ofNat_add _ _).symm
        | true => rfl
  refine ⟨h.firstCall, ?_, ?_, ?_, hnumber, ?_, ?_⟩
  · rw [h.configuration, hbegins, SessionWatch.receive]
    cases hb : w.begins m with
    | false => exact hs.active
    | true =>
        cases hp : s.configuration.hasPendingUpdate with
        | false => exact hs.active.trans (hs.pending hp).symm
        | true => exact hs.update
  · rw [h.configuration]
    split
    · exact hs.update
    · exact hs.update
  · rw [h.configuration, hbegins, SessionWatch.receive]
    intro hpending
    cases hb : w.begins m with
    | false =>
        rw [hb, Bool.false_and, if_neg Bool.false_ne_true] at hpending
        exact hs.pending hpending
    | true => rfl
  · rw [← hnumber]
    exact hreply
  · rw [h.sessionData, SessionWatch.receive]

section followed
variable [Field α] [LinearOrder α] [Cmath α] [FloorRing α] {h : Handler κ μ υ α}
  {ParseFromArray : β → Bool × EgmRobot α}

theorem WatchedInterface.watchNext_of_none {s : WatchedInterface κ μ α} {data : Option β}
    (hparsed : parsedMessage ParseFromArray data = none) (mid : List υ) :
    s.watchNext h ParseFromArray (.datagram data mid) = s.watch := by
  simp only [watchNext, hparsed]

theorem WatchedInterface.watchNext_of_some {s : WatchedInterface κ μ α} {data : Option β}
    {m : EgmRobot α} (hparsed : parsedMessage ParseFromArray data = some m) (mid : List υ) :
    s.watchNext h ParseFromArray (.datagram data mid) =
      s.watch.receive m (s.interface.accepts h ParseFromArray data) := by
  simp only [watchNext, hparsed]

theorem Followed.callback {s : WatchedInterface κ μ α} (hs : Followed s.interface s.watch)
    (data : Option β) (mid : List υ) :
    Followed (s.step h ParseFromArray (.datagram data mid)).interface
      (s.step h ParseFromArray (.datagram data mid)).watch := by
  change Followed (s.interface.callback h ParseFromArray data mid)
    (s.watchNext h ParseFromArray (.datagram data mid))
  cases hparsed : parsedMessage ParseFromArray data with
  | none =>
      rw [WatchedInterface.watchNext_of_none hparsed]
      obtain ⟨hrejected, hfirst, hconfiguration, houtputs, hreported⟩ :=
        EGMInterface.initializeCallback_unreceived (h := h) (s := s.interface) hparsed
      rw [EGMInterface.callback_of_rejected h ParseFromArray hrejected]
      refine ⟨hfirst.trans hs.firstCall, ?_, ?_, ?_, ?_, ?_, hreported.trans hs.reported⟩
      · rw [hconfiguration]
        exact hs.active
      · rw [hconfiguration]
        exact hs.update
      · rw [hconfiguration]
        exact hs.pending
      · rw [houtputs]
        exact hs.sequenceNumber
      · rw [houtputs]
        intro reply hreply
        cases hreply
  | some m =>
      rw [WatchedInterface.watchNext_of_some hparsed]
      have hreceived := EGMInterface.initializeCallback_received (h := h) (s := s.interface) hparsed
      cases haccepted : s.interface.accepts h ParseFromArray data with
      | false =>
          rw [EGMInterface.callback_of_rejected h ParseFromArray haccepted]
          rw [haccepted] at hreceived
          refine hs.received ⟨hreceived.firstCall, hreceived.configuration,
            hreceived.sequenceNumber, hreceived.sessionData⟩ ?_
          intro reply hreply
          rw [(EGMInterface.initializeCallback_outputs h ParseFromArray _ _).2] at hreply
          cases hreply
      | true =>
          rw [EGMInterface.callback_of_accepted h ParseFromArray haccepted]
          rw [haccepted] at hreceived
          obtain ⟨hinputs, hdata, hconfiguration, hnumber⟩ :=
            (s.interface.initializeCallback h ParseFromArray data).2.execute_kept (h := h) mid
          obtain ⟨hfirst, hdata', hconfiguration', hnumber', hreply⟩ := EGMInterface.finish_kept
            (h := h) ((s.interface.initializeCallback h ParseFromArray data).2.execute h mid)
          refine hs.received ⟨?_, ?_, ?_, ?_⟩ ?_
          · rw [hfirst, hinputs]
            exact hreceived.firstCall
          · rw [hconfiguration', hconfiguration]
            exact hreceived.configuration
          · rw [hnumber', hnumber]
            exact hreceived.sequenceNumber
          · rw [hdata', hdata]
            exact hreceived.sessionData
          · rw [hnumber']
            exact hreply

theorem Followed.step {s : WatchedInterface κ μ α} (hs : Followed s.interface s.watch)
    (e : Event κ υ β) : Followed (s.step h ParseFromArray e).interface
      (s.step h ParseFromArray e).watch := by
  cases e with
  | datagram data mid => exact hs.callback data mid
  | user call =>
      exact ⟨hs.firstCall, hs.active, hs.update, hs.pending, hs.sequenceNumber, hs.reply,
        hs.reported⟩
  | setConfiguration configuration => exact hs.setConfiguration configuration

theorem WatchedInterface.run_interface (s : WatchedInterface κ μ α) (es : List (Event κ υ β)) :
    (run (WatchedInterface.step h ParseFromArray) s es).interface =
      run (EGMInterface.step h ParseFromArray) s.interface es :=
  run_rel (R := fun (s : WatchedInterface κ μ α) s' => s.interface = s')
    (fun _ _ _ hs => by rw [← hs]; rfl) es rfl

/-- Whatever arrives and is called, the interface does what the watch sees. -/
theorem session_followed (configuration : κ) (motion : μ) (es : List (Event κ υ β)) :
    let s := run (EGMInterface.step h ParseFromArray) (.init configuration motion) es
    let w := (run (WatchedInterface.step h ParseFromArray) (.start configuration motion) es).watch
    Followed s w ∧ s.getStatus = w.reported.status := by
  intro s w
  have hfollowed := @run_inv _ _ (WatchedInterface.step h ParseFromArray)
    (fun s => Followed s.interface s.watch) (fun _ e hs => hs.step e)
    (.start configuration motion) es (.init configuration motion)
  rw [WatchedInterface.run_interface] at hfollowed
  exact ⟨hfollowed, congrArg SessionData.status hfollowed.reported⟩

end followed

/-! ### Connections -/

/-- Whether an event is a message that can be parsed. -/
def Event.parses (ParseFromArray : β → Bool × EgmRobot α) : Event κ υ β → Bool
  | .datagram data _ => (parsedMessage ParseFromArray data).isSome
  | .user _ => false
  | .setConfiguration _ => false

section connections
variable [Field α] [LinearOrder α] [Cmath α] [FloorRing α] (h : Handler κ μ υ α)
  (ParseFromArray : β → Bool × EgmRobot α)

/-- The last message of a run that could be parsed is `m`, and it was accepted. -/
def LastAccepted (s : EGMInterface κ μ α) (es : List (Event κ υ β)) (m : EgmRobot α) : Prop :=
  ∃ before data mid after, es = before ++ .datagram data mid :: after ∧
    parsedMessage ParseFromArray data = some m ∧
    (run (EGMInterface.step h ParseFromArray) s before).accepts h ParseFromArray data = true ∧
    ∀ e ∈ after, Event.parses ParseFromArray e = false

theorem EGMInterface.step_sessionData_of_unparsed (s : EGMInterface κ μ α) (e : Event κ υ β)
    (he : e.parses ParseFromArray = false) :
    (s.step h ParseFromArray e).sessionData = s.sessionData := by
  cases e with
  | datagram data mid =>
      have hparsed : parsedMessage ParseFromArray data = none :=
        Option.isNone_iff_eq_none.mp (Option.isSome_eq_false_iff.mp he)
      obtain ⟨hrejected, -, -, -, hreported⟩ :=
        EGMInterface.initializeCallback_unreceived (h := h) (s := s) hparsed
      change (s.callback h ParseFromArray data mid).sessionData = _
      rw [callback_of_rejected h ParseFromArray hrejected]
      exact hreported
  | user call => rfl
  | setConfiguration configuration => rfl

variable {h ParseFromArray}

theorem EGMInterface.callback_sessionData {s : EGMInterface κ μ α} {data : Option β}
    {m : EgmRobot α} (hparsed : parsedMessage ParseFromArray data = some m) (mid : List υ) :
    (s.callback h ParseFromArray data mid).sessionData =
      if s.accepts h ParseFromArray data then .of m else ⟨{}, {}⟩ := by
  rw [← initializeCallback_sessionData hparsed]
  cases haccepted : s.accepts h ParseFromArray data with
  | false => rw [callback_of_rejected h ParseFromArray haccepted]
  | true =>
      rw [callback_of_accepted h ParseFromArray haccepted]
      exact (finish_kept _).2.1.trans (execute_kept _ mid).2.1

theorem LastAccepted.sessionData {s : EGMInterface κ μ α} {es : List (Event κ υ β)}
    {m : EgmRobot α} (hes : LastAccepted h ParseFromArray s es m) :
    (run (EGMInterface.step h ParseFromArray) s es).sessionData = .of m := by
  obtain ⟨before, data, mid, after, rfl, hparsed, haccepted, hafter⟩ := hes
  rw [run_append, run_cons]
  have hkept (s' : EGMInterface κ μ α) :
      (run (EGMInterface.step h ParseFromArray) s' after).sessionData = s'.sessionData := by
    rcases run_last (f := EGMInterface.sessionData)
      (EGMInterface.step_sessionData_of_unparsed h ParseFromArray)
      s' after with ⟨-, hf⟩ | ⟨_, e, _, hes, he, -⟩
    · exact hf
    · rw [hafter e (by rw [hes]; exact List.mem_append_right _ List.mem_cons_self)] at he
      cases he
  rw [hkept]
  exact (EGMInterface.callback_sessionData hparsed mid).trans (if_pos haccepted)

variable (h ParseFromArray) in
/-- What is reported after a run: as before it, a message that was accepted, or nothing. -/
theorem EGMInterface.run_sessionData (s : EGMInterface κ μ α) (es : List (Event κ υ β)) :
    (run (EGMInterface.step h ParseFromArray) s es).sessionData = s.sessionData ∨
      (∃ m, LastAccepted h ParseFromArray s es m) ∨
      (run (EGMInterface.step h ParseFromArray) s es).sessionData = ⟨{}, {}⟩ := by
  rcases run_last (f := EGMInterface.sessionData)
    (EGMInterface.step_sessionData_of_unparsed h ParseFromArray)
    s es with ⟨-, hf⟩ | ⟨before, e, after, hes, he, hafter, hf⟩
  · exact .inl hf
  · right
    cases e with
    | datagram data mid =>
        obtain ⟨m, hparsed⟩ := Option.isSome_iff_exists.mp he
        have hdata := EGMInterface.callback_sessionData (h := h)
          (s := run (EGMInterface.step h ParseFromArray) s before) hparsed mid
        cases haccepted : (run (EGMInterface.step h ParseFromArray) s before).accepts h
            ParseFromArray data with
        | false =>
            right
            rw [haccepted] at hdata
            exact hf.trans hdata
        | true => exact .inl ⟨m, before, data, mid, after, hes, hparsed, haccepted, hafter⟩
    | user call => cases he
    | setConfiguration configuration => cases he

/-- The interface is connected if, before the wait and in it, a message was accepted last, with the
second one later, but not more than two waits later. -/
theorem isConnected_iff (configuration : κ) (motion : μ) (es es' : List (Event κ υ β)) :
    let s := run (EGMInterface.step h ParseFromArray) (.init configuration motion) es
    EGMInterface.isConnected s (run (EGMInterface.step h ParseFromArray) s es') = true ↔
      ∃ m m', LastAccepted h ParseFromArray (.init configuration motion) es m ∧
        LastAccepted h ParseFromArray s es' m' ∧
        m.header.get.seqno.get < m'.header.get.seqno.get ∧
        m.header.get.tm.get < m'.header.get.tm.get ∧
        m'.header.get.tm.get - m.header.get.tm.get ≤ 2 * waitTimeMs := by
  intro s
  constructor
  · intro hconnected
    simp only [EGMInterface.isConnected, Bool.and_eq_true, decide_eq_true_eq] at hconnected
    obtain ⟨⟨⟨⟨hfirst, hsecond⟩, hsequence⟩, htime⟩, hwait⟩ := hconnected
    obtain ⟨m, hm⟩ : ∃ m, LastAccepted h ParseFromArray (.init configuration motion) es m := by
      rcases EGMInterface.run_sessionData h ParseFromArray
        (.init configuration motion) es with hs | hm | hs
      · rw [hs] at hfirst
        cases hfirst.1
      · exact hm
      · rw [hs] at hfirst
        cases hfirst.1
    obtain ⟨m', hm'⟩ : ∃ m', LastAccepted h ParseFromArray s es' m' := by
      rcases EGMInterface.run_sessionData h ParseFromArray s es' with
        hs | hm | hs
      · rw [hs] at hsequence
        exact absurd hsequence (UInt32.lt_irrefl _)
      · exact hm
      · rw [hs] at hsecond
        cases hsecond.1
    have hdata : s.sessionData = .of m := hm.sessionData
    rw [hdata, hm'.sessionData] at hsequence htime hwait
    exact ⟨m, m', hm, hm', hsequence, htime, hwait⟩
  · rintro ⟨m, m', hm, hm', hsequence, htime, hwait⟩
    have hdata : s.sessionData = .of m := hm.sessionData
    simp only [EGMInterface.isConnected, hdata, hm'.sessionData, Bool.and_eq_true,
      decide_eq_true_eq]
    exact ⟨⟨⟨⟨⟨rfl, rfl⟩, rfl, rfl⟩, hsequence⟩, htime⟩, hwait⟩

end connections

end AbbWrapper
