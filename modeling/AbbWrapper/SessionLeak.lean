import AbbWrapper.SessionStart

/-! # Sessions of the controller interface

The outputs that the external control loop has written last outlive a session: if they carry
anything, the very first reply of the next session commands it.  If they change nothing there, the
replies of a session depend on the messages and the writes of that session alone.

* `Quiet` says that the stored outputs change nothing when they are copied, and `StartsClean` that
  nothing is left behind for the session that a datagram opens: no such outputs, and no velocity
  reference that would be sent again.
* `OpensSession` and `ContinuesSession` are the datagrams of a session without demo outputs.
* `SameSession` is the relation of two runs: they differ at most in the initial inputs and in stored
  outputs that change nothing.
* `AtRest` says that the robot is held where the first message has reported it.

A session starts the same way whatever has been before (`sameSession_opens`), and goes on so
(`SameSession.step`); until something is written, the robot is held (`AtRest.step`).
`session_isolated` is both, for every run. -/

namespace AbbWrapper

open Protobuf Runs

variable {α β κ μ υ : Type}

/-! ### Writes -/

def ControllerCall.isWrite : ControllerCall α → Bool
  | .read => false
  | .write _ => true

/-- The outputs that are stored after some calls. -/
def ControllerCall.lastWritten (calls : List (ControllerCall α)) (outputs : Output α) : Output α :=
  calls.foldl (fun outputs call => match call with
    | .read => outputs
    | .write written => written) outputs

open ControllerCall

theorem lastWritten_of_write {calls : List (ControllerCall α)} (h : calls.any isWrite = true)
    (outputs outputs' : Output α) : lastWritten calls outputs = lastWritten calls outputs' := by
  induction calls generalizing outputs outputs' with
  | nil => cases h
  | cons call calls ih =>
      cases call with
      | read => exact ih h outputs outputs'
      | write written => rfl

theorem lastWritten_of_not_write {calls : List (ControllerCall α)}
    (h : calls.any isWrite = false) (outputs : Output α) : lastWritten calls outputs = outputs := by
  induction calls generalizing outputs with
  | nil => rfl
  | cons call calls ih =>
      cases call with
      | read => exact ih h outputs
      | write written => cases h

section user
variable [Field α] [LinearOrder α] [Cmath α]

theorem foldl_user (calls : List (ControllerCall α)) (m : ControllerMotion α) :
    (calls.foldl controllerHandler.user m).outputs = lastWritten calls m.outputs := by
  induction calls generalizing m with
  | nil => rfl
  | cons call calls ih => cases call <;> exact ih _

end user

namespace EGMInterface

variable [Field α] [LinearOrder α] [Cmath α] [FloorRing α]

/-! ### The common code, once more -/

section common
variable (h : Handler κ μ υ α) (ParseFromArray : β → Bool × EgmRobot α)

theorem extract_frame (s : EGMInterface κ μ α) :
    (s.extract h).1 = (s.inputs.extractParsedInformation
        (h.base (s.updateConfiguration h).configuration.active).axes).1 ∧
      (s.extract h).2.inputs = (s.inputs.extractParsedInformation
        (h.base (s.updateConfiguration h).configuration.active).axes).2 ∧
      (s.extract h).2.configuration = (s.updateConfiguration h).configuration ∧
      (s.extract h).2.motion = (s.updateConfiguration h).motion := by
  obtain ⟨hinputs, -⟩ := s.updateConfiguration_frame h
  unfold extract
  simp only [hinputs]
  exact ⟨trivial, trivial, trivial, trivial⟩

theorem withoutTime_step {s : EGMInterface κ μ α} (hs : s.outputs.WithoutTime)
    (e : Event κ υ β) : (s.step h ParseFromArray e).outputs.WithoutTime := by
  cases e with
  | user call => exact hs
  | setConfiguration configuration => exact hs
  | datagram data mid =>
      have hstart : (s.initializeCallback h ParseFromArray data).2.outputs.WithoutTime := by
        unfold OutputContainer.WithoutTime
        rw [(initializeCallback_outputs h ParseFromArray s data).1]
        exact hs
      change (s.callback h ParseFromArray data mid).outputs.WithoutTime
      unfold callback
      simp only
      split
      next =>
        obtain ⟨-, hsensor⟩ := execute_frame h (s.initializeCallback h ParseFromArray data).2 mid
        unfold OutputContainer.WithoutTime at hstart ⊢
        change (OutputContainer.constructReply _ _).egmSensor.planned.get.time.has = false
        rw [OutputContainer.constructReply_time, hsensor]
        exact hstart
      next => exact hstart

/-- The time is never written. -/
theorem withoutTime_run (configuration : κ) (motion : μ) (es : List (Event κ υ β)) :
    (run (step h ParseFromArray) (init configuration motion) es).outputs.WithoutTime :=
  run_inv (I := fun s : EGMInterface κ μ α => s.outputs.WithoutTime)
    (fun _ e hs => withoutTime_step h ParseFromArray hs e) es rfl

theorem initializeCallback_of_unparsed {s : EGMInterface κ μ α} {data : Option β}
    (hparsed : (s.inputs.parseFromArray ParseFromArray data).1 = false) :
    s.accepts h ParseFromArray data = false ∧
      (s.initializeCallback h ParseFromArray data).2.inputs =
        (if data.isSome then (s.inputs.parseFromArray ParseFromArray data).2 else s.inputs) ∧
      (s.initializeCallback h ParseFromArray data).2.outputs = s.outputs.clearReply := by
  refine ⟨by rw [accepts_eq, hparsed]; rfl, ?_⟩
  unfold initializeCallback
  cases data with
  | none => exact ⟨rfl, rfl⟩
  | some bytes => simp [hparsed]

theorem initializeCallback_of_parsed {s : EGMInterface κ μ α} {data : Option β}
    (hparsed : (s.inputs.parseFromArray ParseFromArray data).1 = true) {axes : RobotAxes}
    (haxes : (h.base (s.initializeCallback h ParseFromArray data).2.configuration.active).axes =
      axes) :
    s.accepts h ParseFromArray data =
        ((s.inputs.parseFromArray ParseFromArray data).2.extractParsedInformation axes).1 ∧
      (s.initializeCallback h ParseFromArray data).2.inputs =
        ((s.inputs.parseFromArray ParseFromArray data).2.extractParsedInformation axes).2 ∧
      (s.initializeCallback h ParseFromArray data).2.outputs =
        if s.accepts h ParseFromArray data then s.outputs.clearReply.prepareOutputs
          ((s.inputs.parseFromArray ParseFromArray data).2.extractParsedInformation axes).2
        else s.outputs.clearReply := by
  obtain ⟨hfst, hinputs, hconfiguration, -⟩ := (s.parsed ParseFromArray data).extract_frame h
  rw [accepts_eq, hparsed, Bool.true_and, hfst]
  rw [initializeCallback_parsed h ParseFromArray hparsed] at haxes ⊢
  simp only [hconfiguration] at haxes
  simp only [hfst, hinputs, haxes]
  exact ⟨rfl, rfl, rfl⟩

/-- Unless a session is started, the outputs are kept. -/
theorem initializeCallback_later {s : EGMInterface κ μ α} (data : Option β)
    (hlater : s.accepts h ParseFromArray data = true →
      (s.inputs.parseFromArray ParseFromArray data).2.firstMessage = false) :
    (s.initializeCallback h ParseFromArray data).2.outputs.current = s.outputs.current := by
  cases hparsed : (s.inputs.parseFromArray ParseFromArray data).1 with
  | false =>
      rw [(initializeCallback_of_unparsed h ParseFromArray hparsed).2.2]
      rfl
  | true =>
      rw [(initializeCallback_of_parsed h ParseFromArray hparsed rfl).2.2]
      split
      next haccepted =>
        unfold OutputContainer.prepareOutputs
        simp only [InputContainer.extractParsedInformation_firstMessage, hlater haccepted,
          Bool.false_eq_true, if_false]
        rfl
      next => rfl

/-- A callback is what it executes, and the reply. -/
theorem callback_of_accepted {s : EGMInterface κ μ α} {data : Option β}
    (haccepted : s.accepts h ParseFromArray data = true) (mid : List υ) :
    s.callback h ParseFromArray data mid =
      ((s.initializeCallback h ParseFromArray data).2.execute h mid).finish h := by
  have hfst : (s.initializeCallback h ParseFromArray data).1 = true := haccepted
  unfold callback
  simp only [hfst, if_true]

theorem callback_of_rejected {s : EGMInterface κ μ α} {data : Option β}
    (hrejected : s.accepts h ParseFromArray data = false) (mid : List υ) :
    s.callback h ParseFromArray data mid =
      { (s.initializeCallback h ParseFromArray data).2 with
        motion := mid.foldl h.user (s.initializeCallback h ParseFromArray data).2.motion } := by
  have hfst : (s.initializeCallback h ParseFromArray data).1 = false := hrejected
  unfold callback
  simp only [hfst, Bool.false_eq_true, if_false]

end common

/-! ### The controller interface -/

variable (ParseFromArray : β → Bool × EgmRobot α)

/-- The outputs that are stored change nothing. -/
def Quiet (s : EGMInterface (BaseConfiguration α) (ControllerMotion α) α) : Prop :=
  s.outputs.current.copyPresent s.motion.outputs = s.outputs.current

/-- The states of a session differ at most in the initial inputs and in stored outputs that change
nothing. -/
structure SameSession (s s' : EGMInterface (BaseConfiguration α) (ControllerMotion α) α) :
    Prop where
  inputs : s'.inputs = { s.inputs with initial := s'.inputs.initial }
  outputs : s'.outputs = s.outputs
  configuration : s'.configuration = s.configuration
  written : s'.motion.outputs = s.motion.outputs ∨ (Quiet s ∧ Quiet s')

/-- The message is not the first of a session, and no demo outputs are used. -/
def ContinuesSession (s : EGMInterface (BaseConfiguration α) (ControllerMotion α) α) :
    Event (BaseConfiguration α) (ControllerCall α) β → Prop
  | .datagram data _ => s.accepts controllerHandler ParseFromArray data = true →
      (s.inputs.parseFromArray ParseFromArray data).2.firstMessage = false ∧
        (s.initializeCallback controllerHandler ParseFromArray
          data).2.configuration.active.useDemoOutputs = false
  | _ => True

omit [FloorRing α] in
theorem updateConfiguration_motion
    (s : EGMInterface (BaseConfiguration α) (ControllerMotion α) α) :
    (s.updateConfiguration controllerHandler).motion = s.motion := by
  unfold updateConfiguration
  split <;> rfl

theorem initializeCallback_motion
    (s : EGMInterface (BaseConfiguration α) (ControllerMotion α) α) (data : Option β) :
    (s.initializeCallback controllerHandler ParseFromArray data).2.motion = s.motion := by
  cases hparsed : (s.inputs.parseFromArray ParseFromArray data).1 with
  | false =>
      unfold initializeCallback
      cases data with
      | none => rfl
      | some bytes => simp [hparsed]
  | true =>
      rw [initializeCallback_parsed controllerHandler ParseFromArray hparsed]
      simp only
      rw [((s.parsed ParseFromArray data).extract_frame controllerHandler).2.2.2]
      exact updateConfiguration_motion _

/-- A callback between the preparation of the outputs and the reply. -/
theorem execute_controller {s : EGMInterface (BaseConfiguration α) (ControllerMotion α) α}
    (hdemo : s.configuration.active.useDemoOutputs = false) (mid : List (ControllerCall α)) :
    (s.execute controllerHandler mid).inputs = s.inputs ∧
      (s.execute controllerHandler mid).configuration = s.configuration ∧
      (s.execute controllerHandler mid).motion.outputs = lastWritten mid s.motion.outputs ∧
      (s.execute controllerHandler mid).outputs = { s.outputs with
        current := if s.inputs.firstMessage || s.inputs.statesOk then
            s.outputs.current.copyPresent (lastWritten mid s.motion.outputs)
          else s.outputs.current } := by
  have hstart (m : ControllerMotion α) (first : Bool) :
      (m.initializeMotion first).outputs = m.outputs := by
    unfold ControllerMotion.initializeMotion
    split <;> rfl
  have hfold := foldl_user mid
    ((s.motion.initializeMotion s.inputs.firstMessage).writeInputs s.inputs.current)
  have hfold := hfold.trans (congrArg (lastWritten mid) (hstart _ _))
  have hbase : (controllerHandler.base s.configuration.active).useDemoOutputs = false := hdemo
  unfold execute
  simp only [hbase, Bool.false_eq_true, if_false]
  refine ⟨trivial, trivial, ?_, ?_⟩
  · simp only [controllerHandler] at hfold ⊢
    split
    · exact hfold
    · exact hfold
  · simp only [controllerHandler] at hfold ⊢
    split
    · simp only [ControllerMotion.readOutputs, hfold]
    · rfl

/-- What is commanded does not depend on stored outputs that are overwritten or change nothing. -/
theorem execute_congr {s s' : EGMInterface (BaseConfiguration α) (ControllerMotion α) α}
    (hdemo : s.configuration.active.useDemoOutputs = false)
    (hconfiguration : s'.configuration = s.configuration)
    (hfirst : s'.inputs.firstMessage = s.inputs.firstMessage)
    (hstates : s'.inputs.current = s.inputs.current)
    (hcurrent : s'.outputs.current = s.outputs.current) (mid : List (ControllerCall α))
    (hwritten : mid.any isWrite = true ∨ s'.motion.outputs = s.motion.outputs ∨
      (Quiet s ∧ Quiet s')) :
    (s'.execute controllerHandler mid).outputs.current =
        (s.execute controllerHandler mid).outputs.current ∧
      ((s'.execute controllerHandler mid).motion.outputs =
          (s.execute controllerHandler mid).motion.outputs ∨
        (Quiet (s.execute controllerHandler mid) ∧ Quiet (s'.execute controllerHandler mid))) := by
  obtain ⟨-, -, hmotion, houtputs⟩ := execute_controller hdemo mid
  obtain ⟨-, -, hmotion', houtputs'⟩ :=
    execute_controller (s := s') (by rw [hconfiguration]; exact hdemo) mid
  have hok : s'.inputs.statesOk = s.inputs.statesOk := by
    simp only [InputContainer.statesOk, hstates]
  have hsame (h : lastWritten mid s'.motion.outputs = lastWritten mid s.motion.outputs) :
      (s'.execute controllerHandler mid).outputs.current =
        (s.execute controllerHandler mid).outputs.current ∧
      (s'.execute controllerHandler mid).motion.outputs =
          (s.execute controllerHandler mid).motion.outputs := by
    rw [houtputs, houtputs', hmotion, hmotion', h, hfirst, hok, hcurrent]
    exact ⟨rfl, rfl⟩
  rcases hwritten with hwrite | hequal | ⟨hquiet, hquiet'⟩
  · exact (hsame (lastWritten_of_write hwrite _ _)).imp_right .inl
  · exact (hsame (by rw [hequal])).imp_right .inl
  · cases hwrite : mid.any isWrite with
    | true => exact (hsame (lastWritten_of_write hwrite _ _)).imp_right .inl
    | false =>
        rw [lastWritten_of_not_write hwrite] at hmotion houtputs hmotion' houtputs'
        unfold Quiet at hquiet hquiet' ⊢
        rw [hquiet, ite_self] at houtputs
        rw [hquiet', ite_self] at houtputs'
        rw [houtputs, houtputs', hmotion, hmotion']
        exact ⟨hcurrent, .inr ⟨hquiet, hquiet'⟩⟩

/-! ### Within a session -/

omit [LinearOrder α] [Cmath α] [FloorRing α] [Field α] in
theorem parseFromArray_initial {i i' : InputContainer α}
    (hi : i' = { i with initial := i'.initial }) (data : Option β) :
    (i'.parseFromArray ParseFromArray data).1 = (i.parseFromArray ParseFromArray data).1 ∧
      (i'.parseFromArray ParseFromArray data).2 =
        { (i.parseFromArray ParseFromArray data).2 with initial := i'.initial } := by
  rw [hi]
  cases data with
  | none => exact ⟨rfl, rfl⟩
  | some bytes =>
      unfold InputContainer.parseFromArray
      simp only
      split <;> exact ⟨rfl, rfl⟩

omit [FloorRing α] in
theorem quiet_of_eq {s s' : EGMInterface (BaseConfiguration α) (ControllerMotion α) α}
    (hcurrent : s'.outputs.current = s.outputs.current)
    (hmotion : s'.motion.outputs = s.motion.outputs) (hs : Quiet s) : Quiet s' := by
  unfold Quiet at hs ⊢
  rw [hcurrent, hmotion]
  exact hs

omit [FloorRing α] in
/-- Once the same reply is constructed, the previous inputs are forgotten. -/
theorem sameSession_finish {s s' : EGMInterface (BaseConfiguration α) (ControllerMotion α) α}
    (hinputs : s'.inputs = { s.inputs with
      initial := s'.inputs.initial
      previous := s'.inputs.previous })
    (houtputs : s'.outputs.constructReply s.configuration.active =
      s.outputs.constructReply s.configuration.active)
    (hconfiguration : s'.configuration = s.configuration)
    (hwritten : s'.motion.outputs = s.motion.outputs ∨ (Quiet s ∧ Quiet s')) :
    SameSession (s.finish controllerHandler) (s'.finish controllerHandler) := by
  have hquiet (s : EGMInterface (BaseConfiguration α) (ControllerMotion α) α) (hs : Quiet s) :
      Quiet (s.finish controllerHandler) :=
    quiet_of_eq (s := s) (OutputContainer.constructReply_current _ _) rfl hs
  refine ⟨?_, ?_, hconfiguration, hwritten.imp id fun h => ⟨hquiet s h.1, hquiet s' h.2⟩⟩
  · unfold finish InputContainer.updatePrevious
    rw [hinputs]
  · unfold finish
    simp only [controllerHandler, hconfiguration, houtputs]

variable [IsStrictOrderedRing α]

theorem SameSession.initializeCallback
    {s s' : EGMInterface (BaseConfiguration α) (ControllerMotion α) α} (hs : SameSession s s')
    (data : Option β) (hlater : s.accepts controllerHandler ParseFromArray data = true →
      (s.inputs.parseFromArray ParseFromArray data).2.firstMessage = false) :
    s'.accepts controllerHandler ParseFromArray data =
        s.accepts controllerHandler ParseFromArray data ∧
      SameSession (s.initializeCallback controllerHandler ParseFromArray data).2
        (s'.initializeCallback controllerHandler ParseFromArray data).2 := by
  obtain ⟨hfst, hparse⟩ := parseFromArray_initial ParseFromArray hs.inputs data
  have hconfiguration :
      (s'.initializeCallback controllerHandler ParseFromArray data).2.configuration =
        (s.initializeCallback controllerHandler ParseFromArray data).2.configuration := by
    rw [initializeCallback_configuration, initializeCallback_configuration, switches, switches,
      hfst, hparse, hs.configuration]
  have hstarted : s'.accepts controllerHandler ParseFromArray data =
        s.accepts controllerHandler ParseFromArray data ∧
      (s'.initializeCallback controllerHandler ParseFromArray data).2.inputs =
        { (s.initializeCallback controllerHandler ParseFromArray data).2.inputs with
          initial := s'.inputs.initial } ∧
      (s'.initializeCallback controllerHandler ParseFromArray data).2.outputs =
        (s.initializeCallback controllerHandler ParseFromArray data).2.outputs := by
    cases hparsed : (s.inputs.parseFromArray ParseFromArray data).1 with
    | false =>
        obtain ⟨haccepted, hinputs, houtputs⟩ :=
          initializeCallback_of_unparsed controllerHandler ParseFromArray hparsed
        obtain ⟨haccepted', hinputs', houtputs'⟩ :=
          initializeCallback_of_unparsed controllerHandler ParseFromArray (hfst.trans hparsed)
        rw [haccepted, haccepted', hinputs, hinputs', houtputs, houtputs', hparse, hs.outputs]
        refine ⟨rfl, ?_, rfl⟩
        split
        · rfl
        · exact hs.inputs
    | true =>
        obtain ⟨haccepted, hinputs, houtputs⟩ :=
          initializeCallback_of_parsed controllerHandler ParseFromArray hparsed rfl
        obtain ⟨haccepted', hinputs', houtputs'⟩ := initializeCallback_of_parsed controllerHandler
          ParseFromArray (hfst.trans hparsed) (by rw [hconfiguration])
        obtain ⟨hfst', hsnd⟩ := InputContainer.extractParsedInformation_initial
          (s.inputs.parseFromArray ParseFromArray data).2
          (s'.inputs.parseFromArray ParseFromArray data).2 _ (by rw [hparse])
          (fun h => hlater (haccepted.trans h))
        have hsame := haccepted'.trans (hfst'.trans haccepted.symm)
        rw [hinputs, hinputs', houtputs, houtputs', hsame, hsnd, hparse, hs.outputs]
        exact ⟨rfl, rfl, rfl⟩
  obtain ⟨haccepted, hinputs, houtputs⟩ := hstarted
  have hmotion := initializeCallback_motion ParseFromArray s data
  have hmotion' := initializeCallback_motion ParseFromArray s' data
  have hcurrent := initializeCallback_later controllerHandler ParseFromArray data hlater
  refine ⟨haccepted, ⟨?_, houtputs, hconfiguration, ?_⟩⟩
  · rw [hinputs]
  · rw [hmotion, hmotion']
    refine hs.written.imp id fun h => ⟨?_, ?_⟩
    · exact quiet_of_eq (s := s) hcurrent (by rw [hmotion]) h.1
    · exact quiet_of_eq (s := s') (by rw [houtputs, hcurrent, hs.outputs]) (by rw [hmotion']) h.2

omit [FloorRing α] [IsStrictOrderedRing α] in
/-- Calls of the external control loop keep the states of a session together. -/
theorem SameSession.user {s s' : EGMInterface (BaseConfiguration α) (ControllerMotion α) α}
    (hs : SameSession s s') (calls : List (ControllerCall α)) :
    SameSession { s with motion := calls.foldl controllerHandler.user s.motion }
      { s' with motion := calls.foldl controllerHandler.user s'.motion } := by
  refine ⟨hs.inputs, hs.outputs, hs.configuration, ?_⟩
  simp only [foldl_user]
  cases hwrite : calls.any isWrite with
  | true => exact .inl (lastWritten_of_write hwrite _ _)
  | false =>
      unfold Quiet
      simp only [foldl_user, lastWritten_of_not_write hwrite]
      exact hs.written

omit [IsStrictOrderedRing α] in
theorem sameSession_answer {s s' : EGMInterface (BaseConfiguration α) (ControllerMotion α) α}
    (hdemo : s.configuration.active.useDemoOutputs = false)
    (hinputs : s'.inputs = { s.inputs with
      initial := s'.inputs.initial
      previous := s'.inputs.previous })
    (hconfiguration : s'.configuration = s.configuration)
    (hcurrent : s'.outputs.current = s.outputs.current) (mid : List (ControllerCall α))
    (hwritten : mid.any isWrite = true ∨ s'.motion.outputs = s.motion.outputs ∨
      (Quiet s ∧ Quiet s'))
    (hreply : { s'.outputs with
        current := (s.execute controllerHandler mid).outputs.current }.constructReply
          s.configuration.active =
      (s.execute controllerHandler mid).outputs.constructReply s.configuration.active) :
    SameSession ((s.execute controllerHandler mid).finish controllerHandler)
      ((s'.execute controllerHandler mid).finish controllerHandler) := by
  obtain ⟨hinputs₁, hconfiguration₁, -, -⟩ := execute_controller hdemo mid
  obtain ⟨hinputs₂, hconfiguration₂, -, houtputs₂⟩ :=
    execute_controller (s := s') (by rw [hconfiguration]; exact hdemo) mid
  obtain ⟨hexecuted, hwritten⟩ := execute_congr hdemo hconfiguration (by rw [hinputs])
    (by rw [hinputs]) hcurrent mid hwritten
  have houtputs : (s'.execute controllerHandler mid).outputs =
      { s'.outputs with current := (s.execute controllerHandler mid).outputs.current } := by
    rw [← hexecuted, houtputs₂]
  refine sameSession_finish ?_ ?_ ?_ hwritten
  · rw [hinputs₁, hinputs₂]
    exact hinputs
  · rw [houtputs, hconfiguration₁]
    exact hreply
  · rw [hconfiguration₁, hconfiguration₂, hconfiguration]

/-- **A session goes on the same way** in both states. -/
theorem SameSession.step {s s' : EGMInterface (BaseConfiguration α) (ControllerMotion α) α}
    (hs : SameSession s s') (e : Event (BaseConfiguration α) (ControllerCall α) β)
    (he : s.ContinuesSession ParseFromArray e) :
    SameSession (s.step controllerHandler ParseFromArray e)
        (s'.step controllerHandler ParseFromArray e) ∧
      s'.replies controllerHandler ParseFromArray e =
        s.replies controllerHandler ParseFromArray e := by
  cases e with
  | user call => exact ⟨hs.user [call], rfl⟩
  | setConfiguration configuration =>
      refine ⟨⟨hs.inputs, hs.outputs, ?_, hs.written⟩, rfl⟩
      exact congrArg (fun c => { c with update := configuration, hasPendingUpdate := true })
        hs.configuration
  | datagram data mid =>
      obtain ⟨haccepted, hstarted⟩ :=
        hs.initializeCallback ParseFromArray data fun h => (he h).1
      unfold EGMInterface.step replies
      simp only [haccepted]
      cases hacc : s.accepts controllerHandler ParseFromArray data with
      | false =>
          rw [callback_of_rejected controllerHandler ParseFromArray hacc,
            callback_of_rejected controllerHandler ParseFromArray (haccepted.trans hacc)]
          exact ⟨hstarted.user mid, rfl⟩
      | true =>
          rw [callback_of_accepted controllerHandler ParseFromArray hacc,
            callback_of_accepted controllerHandler ParseFromArray (haccepted.trans hacc)]
          have hdemo := (he hacc).2
          obtain ⟨-, -, -, houtputs⟩ := execute_controller hdemo mid
          have hnext := sameSession_answer hdemo (by rw [hstarted.inputs])
            hstarted.configuration (by rw [hstarted.outputs]) mid (.inr hstarted.written) (by rw [hstarted.outputs, houtputs])
          exact ⟨hnext, by rw [hnext.outputs]⟩

/-! ### The start of a session -/

/-- A datagram starts a session, without demo outputs. -/
structure OpensSession (s : EGMInterface (BaseConfiguration α) (ControllerMotion α) α)
    (data : Option β) : Prop where
  accepted : s.accepts controllerHandler ParseFromArray data = true
  first : (s.inputs.parseFromArray ParseFromArray data).2.firstMessage = true
  demo : (s.initializeCallback controllerHandler ParseFromArray
    data).2.configuration.active.useDemoOutputs = false

/-- Nothing is left behind for a session that is started: the stored outputs change nothing, or are
overwritten before they are read, and so is a velocity reference that has been sent. -/
structure StartsClean (s : EGMInterface (BaseConfiguration α) (ControllerMotion α) α)
    (data : Option β) (mid : List (ControllerCall α)) : Prop where
  quiet : mid.any isWrite = true ∨
    Quiet (s.initializeCallback controllerHandler ParseFromArray data).2
  speed : (s.initializeCallback controllerHandler ParseFromArray
    data).2.configuration.active.useVelocityOutputs = true ∨ s.outputs.egmSensor.speedRef.has = false

/-- The state in which the outputs of a session's first message are prepared. -/
structure Opened (s r : EGMInterface (BaseConfiguration α) (ControllerMotion α) α)
    (message : EgmFeedBack α) : Prop where
  outputs : r.outputs = { s.outputs.clearReply with
    sequenceNumber := 0
    current := s.outputs.current.prepare r.inputs.current.feedback.get
    previous := s.outputs.current.prepare r.inputs.current.feedback.get }
  shaped : r.outputs.current.Shaped r.configuration.active.axes.numberOfJoints
  holds : r.outputs.current.Holds message r.configuration.active.axes

theorem OpensSession.opened {s : EGMInterface (BaseConfiguration α) (ControllerMotion α) α}
    {bytes : β} (hs : s.OpensSession ParseFromArray (some bytes)) :
    Opened s (s.initializeCallback controllerHandler ParseFromArray (some bytes)).2
      (ParseFromArray bytes).2.feedBack.get := by
  have hparsed := parsed_of_accepts hs.accepted
  have hrobot : (s.inputs.parseFromArray ParseFromArray (some bytes)).2.egmRobot =
      (ParseFromArray bytes).2 := by
    unfold InputContainer.parseFromArray
    simp only
    split <;> rfl
  obtain ⟨haccepted, hinputs, houtputs⟩ :=
    initializeCallback_of_parsed controllerHandler ParseFromArray hparsed rfl
  rw [hs.accepted] at haccepted houtputs
  obtain ⟨hposition, hvelocity⟩ :=
    InputContainer.extractParsedInformation_size haccepted.symm hs.first
  obtain ⟨hfeedback, hvalues⟩ := InputContainer.extractParsedInformation_feedback haccepted.symm
  rw [hrobot] at hfeedback hvalues
  unfold OutputContainer.prepareOutputs at houtputs
  simp only [InputContainer.extractParsedInformation_firstMessage, hs.first, if_true] at houtputs
  rw [← hinputs] at hposition hvelocity hvalues houtputs
  refine ⟨houtputs, ?_, ?_⟩
  · rw [houtputs]
    exact Output.prepare_shaped _ (RobotAxes.numberOfJoints_ne_zero _) hposition hvelocity
  · rw [houtputs]
    exact Output.prepare_holds _ hfeedback hvalues

omit [LinearOrder α] [Cmath α] [FloorRing α] [Field α] [IsStrictOrderedRing α] in
theorem parseFromArray_first (i i' : InputContainer α) {bytes : β}
    (hparsed : (ParseFromArray bytes).1 = true)
    (hfirst : (i.parseFromArray ParseFromArray (some bytes)).2.firstMessage = true)
    (hfirst' : (i'.parseFromArray ParseFromArray (some bytes)).2.firstMessage = true) :
    (i'.parseFromArray ParseFromArray (some bytes)).2 =
      { (i.parseFromArray ParseFromArray (some bytes)).2 with
        initial := i'.initial
        current := i'.current
        previous := i'.previous
        estimatedSampleTime := i'.estimatedSampleTime } := by
  simp only [InputContainer.parseFromArray, hparsed, if_true] at hfirst hfirst' ⊢
  rw [hfirst, hfirst']

/-- **A session starts the same way** whatever has been before, if nothing is left behind. -/
theorem sameSession_opens {s s' : EGMInterface (BaseConfiguration α) (ControllerMotion α) α}
    (htime : s.outputs.WithoutTime) (htime' : s'.outputs.WithoutTime) {bytes : β}
    {mid : List (ControllerCall α)} (hopens : s.OpensSession ParseFromArray (some bytes))
    (hopens' : s'.OpensSession ParseFromArray (some bytes))
    (hclean : s.StartsClean ParseFromArray (some bytes) mid)
    (hclean' : s'.StartsClean ParseFromArray (some bytes) mid)
    (hconfiguration :
      (s'.initializeCallback controllerHandler ParseFromArray (some bytes)).2.configuration =
        (s.initializeCallback controllerHandler ParseFromArray (some bytes)).2.configuration) :
    SameSession (s.callback controllerHandler ParseFromArray (some bytes) mid)
      (s'.callback controllerHandler ParseFromArray (some bytes) mid) := by
  have hr := hopens.opened ParseFromArray
  have hr' := hopens'.opened ParseFromArray
  have hinputs : ∃ initial previous,
      (s'.initializeCallback controllerHandler ParseFromArray (some bytes)).2.inputs =
        { (s.initializeCallback controllerHandler ParseFromArray (some bytes)).2.inputs with
          initial := initial
          previous := previous } := by
    have hparsed := parsed_of_accepts hopens.accepted
    have hparsed' := parsed_of_accepts hopens'.accepted
    have hparse : (ParseFromArray bytes).1 = true := by
      cases hparse : (ParseFromArray bytes).1 with
      | false => simp [InputContainer.parseFromArray, hparse] at hparsed
      | true => rfl
    obtain ⟨hextracted, hinputs, -⟩ :=
      initializeCallback_of_parsed controllerHandler ParseFromArray hparsed rfl
    obtain ⟨-, hinputs', -⟩ := initializeCallback_of_parsed controllerHandler ParseFromArray
      hparsed' (by rw [hconfiguration])
    rw [hopens.accepted] at hextracted
    have hsame := parseFromArray_first ParseFromArray s.inputs s'.inputs hparse
      hopens.first hopens'.first
    obtain ⟨-, hopened⟩ := InputContainer.extractParsedInformation_opens _
      (s'.inputs.parseFromArray ParseFromArray (some bytes)).2 _ (by rw [hsame])
      hopens.first
    have hopened := hopened hextracted.symm
    rw [← hinputs, ← hinputs'] at hopened
    exact ⟨_, _, hopened⟩
  rw [callback_of_accepted controllerHandler ParseFromArray hopens.accepted,
    callback_of_accepted controllerHandler ParseFromArray hopens'.accepted]
  have hquiet := hclean.quiet
  have hquiet' := hclean'.quiet
  have hspeed := hclean.speed
  have hspeed' := hclean'.speed
  have hdemo := hopens.demo
  generalize (s.initializeCallback controllerHandler ParseFromArray (some bytes)).2 = r at *
  generalize (s'.initializeCallback controllerHandler ParseFromArray (some bytes)).2 = r' at *
  obtain ⟨initial, previous, hinputs⟩ := hinputs
  have hcurrent : r'.outputs.current = r.outputs.current := by
    rw [hr.outputs, hr'.outputs, hinputs]
    rfl
  obtain ⟨-, hexecuted, -, houtputs⟩ := execute_controller hdemo mid
  have hsensor : { r'.outputs with
      current := (r.execute controllerHandler mid).outputs.current } =
        { (r.execute controllerHandler mid).outputs with
          egmSensor := s'.outputs.egmSensor } := by
    rw [houtputs, hr'.outputs, hr.outputs, hinputs]
    rfl
  have hshaped := (execute_shaped controllerHandler controllerHandler_keepsShape mid hr.shaped
    (by rw [hr.outputs]; exact htime)).1
  rw [numberOfJoints, hexecuted] at hshaped
  have hkept : (r.execute controllerHandler mid).outputs.egmSensor = s.outputs.egmSensor := by
    rw [houtputs, hr.outputs]
    rfl
  refine sameSession_answer hdemo (by rw [hinputs]) hconfiguration hcurrent _ ?_ ?_
  · rcases hquiet with hwrite | hquiet
    · exact .inl hwrite
    · exact hquiet'.imp id fun hquiet' => .inr ⟨hquiet, hquiet'⟩
  · rw [hsensor]
    refine OutputContainer.constructReply_congr hshaped ?_ ?_
    · rw [hkept, Optional.eq_absent htime, Optional.eq_absent htime']
    · rcases hspeed with hon | hspeed
      · exact .inl hon
      · rw [hconfiguration] at hspeed'
        refine hspeed'.imp id fun hspeed' => ?_
        rw [hkept, Optional.eq_absent hspeed, Optional.eq_absent hspeed']

/-! ### Before anything is written -/

/-- The robot is held where a message has reported it. -/
structure AtRest (s : EGMInterface (BaseConfiguration α) (ControllerMotion α) α)
    (message : EgmFeedBack α) (axes : RobotAxes) : Prop where
  quiet : Quiet s
  shaped : s.outputs.current.Shaped axes.numberOfJoints
  holds : s.outputs.current.Holds message axes
  time : s.outputs.WithoutTime

/-- A reply carries what a message has reported; there is one unless the axes of the configuration
have changed. -/
def AnswersAtRest (message : EgmFeedBack α) (axes : RobotAxes)
    (s : EGMInterface (BaseConfiguration α) (ControllerMotion α) α) :
    Event (BaseConfiguration α) (ControllerCall α) β → Prop
  | .datagram data mid => s.accepts controllerHandler ParseFromArray data = true →
      ((s.callback controllerHandler ParseFromArray data mid).configuration.active.axes = axes →
        (s.callback controllerHandler ParseFromArray data mid).outputs.reply.isSome = true) ∧
      ∀ reply, (s.callback controllerHandler ParseFromArray data mid).outputs.reply = some reply →
        reply.Reports message
  | _ => True

omit [IsStrictOrderedRing α] in
theorem AtRest.answer {s : EGMInterface (BaseConfiguration α) (ControllerMotion α) α}
    {message : EgmFeedBack α} {axes : RobotAxes} (hs : AtRest s message axes)
    (hdemo : s.configuration.active.useDemoOutputs = false) {mid : List (ControllerCall α)}
    (hmid : mid.any isWrite = false) :
    AtRest ((s.execute controllerHandler mid).finish controllerHandler) message axes ∧
      ((s.configuration.active.axes = axes →
        ((s.execute controllerHandler mid).finish controllerHandler).outputs.reply.isSome = true) ∧
      ∀ reply, ((s.execute controllerHandler mid).finish controllerHandler).outputs.reply =
        some reply → reply.Reports message) := by
  obtain ⟨-, hconfiguration, hmotion, houtputs⟩ := execute_controller hdemo mid
  have hquiet := hs.quiet
  unfold Quiet at hquiet
  rw [lastWritten_of_not_write hmid] at hmotion houtputs
  rw [hquiet, ite_self] at houtputs
  have hreply : ((s.execute controllerHandler mid).finish controllerHandler).outputs =
      (s.outputs.constructReply s.configuration.active).updatePrevious := by
    unfold finish
    simp only [controllerHandler] at houtputs hconfiguration ⊢
    rw [houtputs, hconfiguration]
  have hcurrent := s.outputs.constructReply_current s.configuration.active
  refine ⟨⟨?_, ?_, ?_, ?_⟩, fun haxes => ?_, fun reply h => ?_⟩
  · refine quiet_of_eq (s := s) ?_ hmotion hs.quiet
    rw [hreply]
    exact hcurrent
  · rw [hreply]
    exact hcurrent ▸ hs.shaped
  · rw [hreply]
    exact hcurrent ▸ hs.holds
  · rw [hreply]
    exact (congrArg Optional.has (s.outputs.constructReply_time _)).trans hs.time
  · rw [hreply]
    obtain ⟨-, reply, hsome, -⟩ := OutputContainer.constructReply_shaped (o := s.outputs)
      (haxes ▸ hs.shaped) hs.time
    exact Option.isSome_iff_exists.mpr ⟨reply, hsome⟩
  · rw [hreply] at h
    exact hs.holds.reports h

/-- Whether the external control loop writes outputs. -/
def writes : Event (BaseConfiguration α) (ControllerCall α) β → Bool
  | .datagram _ mid => mid.any isWrite
  | .user call => call.isWrite
  | .setConfiguration _ => false

omit [FloorRing α] [IsStrictOrderedRing α] in
theorem AtRest.congr {s s' : EGMInterface (BaseConfiguration α) (ControllerMotion α) α}
    {message : EgmFeedBack α} {axes : RobotAxes} (hs : AtRest s message axes)
    (hcurrent : s'.outputs.current = s.outputs.current)
    (hmotion : s'.motion.outputs = s.motion.outputs)
    (hsensor : s'.outputs.egmSensor = s.outputs.egmSensor) : AtRest s' message axes := by
  refine ⟨quiet_of_eq hcurrent hmotion hs.quiet, ?_, ?_, ?_⟩
  · exact hcurrent ▸ hs.shaped
  · exact hcurrent ▸ hs.holds
  · unfold OutputContainer.WithoutTime
    rw [hsensor]
    exact hs.time

omit [IsStrictOrderedRing α] in
/-- **The robot is held at rest** until something is written. -/
theorem AtRest.step {s : EGMInterface (BaseConfiguration α) (ControllerMotion α) α}
    {message : EgmFeedBack α} {axes : RobotAxes} (hs : AtRest s message axes)
    (e : Event (BaseConfiguration α) (ControllerCall α) β)
    (he : s.ContinuesSession ParseFromArray e) (hsilent : writes e = false) :
    AtRest (s.step controllerHandler ParseFromArray e) message axes ∧
      s.AnswersAtRest ParseFromArray message axes e := by
  cases e with
  | setConfiguration configuration => exact ⟨hs.congr rfl rfl rfl, trivial⟩
  | user call =>
      cases call with
      | read => exact ⟨hs.congr rfl rfl rfl, trivial⟩
      | write written => cases hsilent
  | datagram data mid =>
      have hcurrent := initializeCallback_later controllerHandler ParseFromArray
        (s := s) data fun h => (he h).1
      have hmotion := initializeCallback_motion ParseFromArray s data
      have hsensor := (initializeCallback_outputs controllerHandler ParseFromArray s data).1
      cases haccepted : s.accepts controllerHandler ParseFromArray data with
      | false =>
          refine ⟨?_, fun h => absurd (h.symm.trans haccepted) (by simp)⟩
          change AtRest (s.callback controllerHandler ParseFromArray data mid) message axes
          rw [callback_of_rejected controllerHandler ParseFromArray haccepted]
          refine hs.congr hcurrent ?_ hsensor
          simp only [foldl_user, lastWritten_of_not_write hsilent, hmotion]
      | true =>
          have hrest : AtRest (s.initializeCallback controllerHandler ParseFromArray data).2 message
            axes := hs.congr hcurrent (by rw [hmotion]) hsensor
          obtain ⟨hnext, hanswer⟩ := hrest.answer (he haccepted).2 hsilent
          obtain ⟨-, hconfiguration, -⟩ := execute_controller (he haccepted).2 mid
          rw [← callback_of_accepted controllerHandler ParseFromArray haccepted] at hnext hanswer
          refine ⟨hnext, fun _ => ⟨fun haxes => hanswer.1 ?_, hanswer.2⟩⟩
          rw [callback_of_accepted controllerHandler ParseFromArray haccepted] at haxes
          exact (congrArg (fun c => c.active.axes) hconfiguration).symm.trans haxes

omit [IsStrictOrderedRing α] in
theorem AtRest.along {s : EGMInterface (BaseConfiguration α) (ControllerMotion α) α}
    {message : EgmFeedBack α} {axes : RobotAxes} (hs : AtRest s message axes)
    {es : List (Event (BaseConfiguration α) (ControllerCall α) β)}
    (hes : Along (EGMInterface.step controllerHandler ParseFromArray)
      (ContinuesSession ParseFromArray) s es) (hsilent : ∀ e ∈ es, writes e = false) :
    Along (EGMInterface.step controllerHandler ParseFromArray)
      (AnswersAtRest ParseFromArray message axes) s es := by
  induction es generalizing s with
  | nil => trivial
  | cons e es ih =>
      obtain ⟨hnext, hanswer⟩ := hs.step ParseFromArray e hes.1 (hsilent e List.mem_cons_self)
      exact ⟨hanswer, ih hnext hes.2 fun e' he' => hsilent e' (List.mem_cons_of_mem e he')⟩

/-- The first message of a session is answered with what it reports. -/
theorem AtRest.opens {s : EGMInterface (BaseConfiguration α) (ControllerMotion α) α} {bytes : β}
    {mid : List (ControllerCall α)} (htime : s.outputs.WithoutTime)
    (hopens : s.OpensSession ParseFromArray (some bytes))
    (hclean : s.StartsClean ParseFromArray (some bytes) mid) (hsilent : mid.any isWrite = false) :
    AtRest (s.callback controllerHandler ParseFromArray (some bytes) mid)
        (ParseFromArray bytes).2.feedBack.get (s.initializeCallback controllerHandler
          ParseFromArray (some bytes)).2.configuration.active.axes ∧
      s.AnswersAtRest ParseFromArray (ParseFromArray bytes).2.feedBack.get
        (s.initializeCallback controllerHandler ParseFromArray
          (some bytes)).2.configuration.active.axes (.datagram (some bytes) mid) := by
  obtain ⟨houtputs, hshaped, hholds⟩ := hopens.opened ParseFromArray
  have hquiet := hclean.quiet.resolve_left (by rw [hsilent]; simp)
  have hrest : AtRest (s.initializeCallback controllerHandler ParseFromArray (some bytes)).2 _ _ :=
    ⟨hquiet, hshaped, hholds, by rw [houtputs]; exact htime⟩
  obtain ⟨hnext, hanswer⟩ := hrest.answer hopens.demo hsilent
  rw [← callback_of_accepted controllerHandler ParseFromArray hopens.accepted] at hnext hanswer
  exact ⟨hnext, fun _ => ⟨fun _ => hanswer.1 rfl, hanswer.2⟩⟩

/-! ### Runs -/

/-- In the same session, the same replies are sent. -/
theorem SameSession.replies {s s' : EGMInterface (BaseConfiguration α) (ControllerMotion α) α}
    (hs : SameSession s s') {es : List (Event (BaseConfiguration α) (ControllerCall α) β)}
    (hes : Along (EGMInterface.step controllerHandler ParseFromArray)
      (ContinuesSession ParseFromArray) s es) :
    collect (EGMInterface.step controllerHandler ParseFromArray)
        (EGMInterface.replies controllerHandler ParseFromArray) s' es =
      collect (EGMInterface.step controllerHandler ParseFromArray)
        (EGMInterface.replies controllerHandler ParseFromArray) s es := by
  induction es generalizing s s' with
  | nil => rfl
  | cons e es ih =>
      obtain ⟨hnext, hreplies⟩ := hs.step ParseFromArray e hes.1
      rw [collect_cons, collect_cons, hreplies, ih hnext hes.2]

/-- The state of the controller interface after some events. -/
abbrev reach (configuration : BaseConfiguration α)
    (es : List (Event (BaseConfiguration α) (ControllerCall α) β)) :
    EGMInterface (BaseConfiguration α) (ControllerMotion α) α :=
  run (step controllerHandler ParseFromArray) (init configuration .init) es

/-- **No command leaks between sessions**, whatever has been received and written before, if nothing
is left behind for the session when it is started: until something is written in it, every reply
carries what its first message reports, and its replies are those of any other run in which the
same happens from the first message on, whatever has been received and written before there. -/
theorem session_isolated (configuration : BaseConfiguration α)
    (before after : List (Event (BaseConfiguration α) (ControllerCall α) β)) (bytes : β)
    (mid : List (ControllerCall α))
    (hopens : (reach ParseFromArray configuration before).OpensSession ParseFromArray (some bytes))
    (hcontinues : Along (step controllerHandler ParseFromArray) (ContinuesSession ParseFromArray)
      (reach ParseFromArray configuration (before ++ [.datagram (some bytes) mid])) after)
    (hclean : (reach ParseFromArray configuration before).StartsClean ParseFromArray
      (some bytes) mid) :
    (∀ silent rest, .datagram (some bytes) mid :: after = silent ++ rest →
      (∀ e ∈ silent, writes e = false) →
      Along (step controllerHandler ParseFromArray)
        (AnswersAtRest ParseFromArray (ParseFromArray bytes).2.feedBack.get
          ((reach ParseFromArray configuration before).initializeCallback controllerHandler
            ParseFromArray (some bytes)).2.configuration.active.axes)
        (reach ParseFromArray configuration before) silent) ∧
    ∀ configuration' before',
      (reach ParseFromArray configuration' before').OpensSession ParseFromArray (some bytes) →
      (reach ParseFromArray configuration' before').StartsClean ParseFromArray (some bytes) mid →
      ((reach ParseFromArray configuration' before').initializeCallback controllerHandler
          ParseFromArray (some bytes)).2.configuration =
        ((reach ParseFromArray configuration before).initializeCallback controllerHandler
          ParseFromArray (some bytes)).2.configuration →
      collect (step controllerHandler ParseFromArray) (replies controllerHandler ParseFromArray)
          (reach ParseFromArray configuration' before') (.datagram (some bytes) mid :: after) =
        collect (step controllerHandler ParseFromArray) (replies controllerHandler ParseFromArray)
          (reach ParseFromArray configuration before) (.datagram (some bytes) mid :: after) := by
  have htime (configuration : BaseConfiguration α)
      (es : List (Event (BaseConfiguration α) (ControllerCall α) β)) :
      (reach ParseFromArray configuration es).outputs.WithoutTime :=
    withoutTime_run controllerHandler ParseFromArray configuration .init es
  rw [reach, run_append] at hcontinues
  constructor
  · intro silent rest hsplit hsilent
    cases silent with
    | nil => trivial
    | cons e silent =>
        obtain ⟨rfl, rfl⟩ := List.cons_eq_cons.mp hsplit
        obtain ⟨hrest, hanswer⟩ := AtRest.opens ParseFromArray (htime configuration before) hopens
          hclean (hsilent _ List.mem_cons_self)
        exact ⟨hanswer, hrest.along ParseFromArray ((along_append _ _ _).mp hcontinues).1
          fun e he => hsilent e (List.mem_cons_of_mem _ he)⟩
  · intro configuration' before' hopens' hclean' hconfiguration
    have hsame := sameSession_opens ParseFromArray (htime configuration before)
      (htime configuration' before') hopens hopens' hclean hclean' hconfiguration
    rw [collect_cons, collect_cons]
    refine congrArg₂ (· ++ ·) ?_ (hsame.replies ParseFromArray hcontinues)
    unfold replies
    simp only [hopens.accepted, hopens'.accepted, if_true, hsame.outputs]

/-! ### Two sessions -/

instance (s : EGMInterface (BaseConfiguration ℚ) (ControllerMotion ℚ) ℚ)
    (data : Option (EgmRobot ℚ)) : Decidable (s.OpensSession Evaluation.parse data) :=
  decidable_of_iff (s.accepts controllerHandler Evaluation.parse data = true ∧
      (s.inputs.parseFromArray Evaluation.parse data).2.firstMessage = true ∧
      (s.initializeCallback controllerHandler Evaluation.parse
        data).2.configuration.active.useDemoOutputs = false)
    ⟨fun h => ⟨h.1, h.2.1, h.2.2⟩, fun h => ⟨h.accepted, h.first, h.demo⟩⟩

instance (s : EGMInterface (BaseConfiguration ℚ) (ControllerMotion ℚ) ℚ) : Decidable (Quiet s) :=
  inferInstanceAs (Decidable (_ = _))

instance (s : EGMInterface (BaseConfiguration ℚ) (ControllerMotion ℚ) ℚ)
    (data : Option (EgmRobot ℚ)) (mid : List (ControllerCall ℚ)) :
    Decidable (s.StartsClean Evaluation.parse data mid) :=
  decidable_of_iff ((mid.any isWrite = true ∨
        Quiet (s.initializeCallback controllerHandler Evaluation.parse data).2) ∧
      ((s.initializeCallback controllerHandler Evaluation.parse
        data).2.configuration.active.useVelocityOutputs = true ∨
          s.outputs.egmSensor.speedRef.has = false))
    ⟨fun h => ⟨h.1, h.2⟩, fun h => ⟨h.quiet, h.speed⟩⟩

instance (s : EGMInterface (BaseConfiguration ℚ) (ControllerMotion ℚ) ℚ) :
    ∀ e : Event (BaseConfiguration ℚ) (ControllerCall ℚ) (EgmRobot ℚ),
      Decidable (s.ContinuesSession Evaluation.parse e)
  | .datagram _ _ => inferInstanceAs (Decidable (_ → _ ∧ _))
  | .user _ => .isTrue trivial
  | .setConfiguration _ => .isTrue trivial

/-- All robot joints at one. -/
def raised : List ℚ := [1, 1, 1, 1, 1, 1]

/-- A running robot reports that it is at rest. -/
def arrives (seqno : UInt32) (joints : List ℚ) :
    Event (BaseConfiguration ℚ) (ControllerCall ℚ) (EgmRobot ℚ) :=
  .datagram (some (Evaluation.message seqno 0 joints true)) []

/-- The external control loop writes robot joints. -/
def commands (joints : List ℚ) : Event (BaseConfiguration ℚ) (ControllerCall ℚ) (EgmRobot ℚ) :=
  .user (.write
    { robot := .present { joints := .present { position := .present ⟨joints⟩ } } })

/-- The events of a session after its first message. -/
def lowered : List (Event (BaseConfiguration ℚ) (ControllerCall ℚ) (EgmRobot ℚ)) :=
  [arrives 1 raised, commands Evaluation.home, arrives 2 raised]

/-- Before the second session, it is written where the robot is found then. -/
theorem session_isolated_lowered :
    collect (step controllerHandler Evaluation.parse)
        (replies controllerHandler Evaluation.parse)
        (reach Evaluation.parse (configured true) [arrives 0 Evaluation.home, commands raised])
        (arrives 0 raised :: lowered) =
      collect (step controllerHandler Evaluation.parse)
        (replies controllerHandler Evaluation.parse)
        (reach Evaluation.parse (configured true) []) (arrives 0 raised :: lowered) := by
  have hopens : (reach Evaluation.parse (configured true) []).OpensSession Evaluation.parse
      (some (Evaluation.message 0 0 raised true)) := by decide +kernel
  have hcontinues : Along (step controllerHandler Evaluation.parse)
      (ContinuesSession Evaluation.parse) (reach Evaluation.parse (configured true)
        ([] ++ [.datagram (some (Evaluation.message 0 0 raised true)) []])) lowered := by
    decide +kernel
  have hclean : (reach Evaluation.parse (configured true) []).StartsClean Evaluation.parse
      (some (Evaluation.message 0 0 raised true)) [] := by decide +kernel
  have hopens' : (reach Evaluation.parse (configured true) [arrives 0 Evaluation.home,
      commands raised]).OpensSession Evaluation.parse
        (some (Evaluation.message 0 0 raised true)) := by decide +kernel
  have hclean' : (reach Evaluation.parse (configured true) [arrives 0 Evaluation.home,
      commands raised]).StartsClean Evaluation.parse
        (some (Evaluation.message 0 0 raised true)) [] := by decide +kernel
  exact (session_isolated Evaluation.parse (configured true) [] lowered _ [] hopens hcontinues
    hclean).2 (configured true) _ hopens' hclean' (by decide +kernel)

/-- What has been written in the first session is commanded by the first reply of the second,
although the robot is found elsewhere. -/
theorem outputs_of_earlier_session :
    (reach Evaluation.parse (configured true)
      [arrives 0 Evaluation.home, commands raised]).OpensSession Evaluation.parse
        (some (Evaluation.message 0 0 Evaluation.home true)) ∧
    (reach Evaluation.parse (configured true) [arrives 0 Evaluation.home, commands raised,
      arrives 0 Evaluation.home]).outputs.reply.map (fun reply => reply.planned.get.joints) =
        some (.present ⟨raised⟩) := by
  decide +kernel

end EGMInterface

end AbbWrapper
