import AbbWrapper.Runs
import AbbWrapper.TrajectoryMotion

/-! # The three EGM interfaces

`EGMBaseInterface`, `EGMControllerInterface` and `EGMTrajectoryInterface` share the handling of a
datagram and differ in what they put between the inputs and the outputs.  `EGMInterface κ μ α` is
their common state, with a configuration in `κ` and a motion component in `μ`, and a `Handler`
names the places where they differ; `υ` are the calls of the user that reach the motion component.

* `initializeCallback`, `execute` and `finish` are the three parts of `callback`: parsing and updating the
  session, the motion component with the demo outputs, and the reply.
* An `Event` is a datagram, a call of the user or a call of `setConfiguration`.  A call of the user may
  also arrive while a datagram is handled, after its inputs have been made available: these are the `mid`
  calls of a datagram.
* `step` is total, so that a run is a list of events; a datagram that is rejected is a step too.
* `baseHandler`, `controllerHandler` and `trajectoryHandler` are the three interfaces.

Locks are left out: every method of the source holds its lock from beginning to end, so that an
interleaving of threads is an order of events. -/

namespace AbbWrapper

open Protobuf

variable {α β κ μ υ : Type}

/-- `ConfigurationContainer`: the configuration that is active, and the one that was set last. -/
structure ConfigurationContainer (κ : Type) where
  active : κ
  update : κ
  hasPendingUpdate : Bool
deriving DecidableEq, Repr

/-- `SessionData`: what is reported of the message that was received last. -/
structure SessionData where
  header : Header
  status : Status
deriving DecidableEq, Repr

/-- The data of an interface; `motion` is the component that generates the outputs. -/
structure EGMInterface (κ μ α : Type) where
  inputs : InputContainer α
  outputs : OutputContainer α
  sessionData : SessionData
  configuration : ConfigurationContainer κ
  motion : μ
deriving DecidableEq, Repr

/-- What the classes that are derived from `EGMBaseInterface` add to a callback. -/
structure Handler (κ μ υ α : Type) where
  /-- The part of the configuration the common code reads. -/
  base : κ → BaseConfiguration α
  /-- Called when a pending configuration becomes active. -/
  updateConfigurations : μ → κ → μ
  /-- Called for every accepted message. -/
  initializeMotion : μ → InputContainer α → μ
  /-- Called after `initializeMotion` unless demo outputs are used. -/
  writeInputs : μ → InputContainer α → μ
  /-- Called last unless demo outputs are used. -/
  generateOutputs : μ → Output α → InputContainer α → μ × Output α
  /-- A call of the user. -/
  user : μ → υ → μ

/-- A datagram, with the calls that the user makes while it is handled, a call between two datagrams, or a
new configuration. -/
inductive Event (κ υ β : Type) where
  | datagram (data : Option β) (mid : List υ)
  | user (call : υ)
  | setConfiguration (configuration : κ)

namespace EGMInterface

def setConfiguration (s : EGMInterface κ μ α) (configuration : κ) : EGMInterface κ μ α :=
  { s with configuration := { s.configuration with
      update := configuration
      hasPendingUpdate := true } }

/-- The update of the configuration at a session's first message. -/
def updateConfiguration (h : Handler κ μ υ α) (s : EGMInterface κ μ α) : EGMInterface κ μ α :=
  if s.inputs.firstMessage && s.configuration.hasPendingUpdate then
    { s with
      configuration := ⟨s.configuration.update, s.configuration.update, false⟩
      motion := h.updateConfigurations s.motion s.configuration.update }
  else s

variable [Field α]

def init (configuration : κ) (motion : μ) : EGMInterface κ μ α :=
  ⟨.init, .init, ⟨{}, {}⟩, ⟨configuration, configuration, false⟩, motion⟩

variable [LinearOrder α] [Cmath α] [FloorRing α]

/-- The part of `initializeCallback` that comes after a successful parse. -/
def extract (h : Handler κ μ υ α) (s : EGMInterface κ μ α) : Bool × EGMInterface κ μ α :=
  let s := s.updateConfiguration h
  let r := s.inputs.extractParsedInformation (h.base s.configuration.active).axes
  let sessionData : SessionData :=
    if r.1 then ⟨r.2.current.header.get, r.2.current.status.get⟩ else ⟨{}, {}⟩
  (r.1, { s with inputs := r.2, sessionData := sessionData })

def initializeCallback (h : Handler κ μ υ α) (ParseFromArray : β → Bool × EgmRobot α)
    (s : EGMInterface κ μ α) (data : Option β) : Bool × EGMInterface κ μ α :=
  let r := match data with
    | none => (false, s)
    | some _ =>
        let parsed := s.inputs.parseFromArray ParseFromArray data
        let s := { s with inputs := parsed.2 }
        if parsed.1 then s.extract h else (false, s)
  let s := { r.2 with outputs := r.2.outputs.clearReply }
  (r.1, if r.1 then { s with outputs := s.outputs.prepareOutputs s.inputs } else s)

/-- Between the preparation of the outputs and the reply. -/
def execute (h : Handler κ μ υ α) (s : EGMInterface κ μ α) (mid : List υ) : EGMInterface κ μ α :=
  let motion := h.initializeMotion s.motion s.inputs
  if (h.base s.configuration.active).useDemoOutputs then
    { s with
      outputs := s.outputs.generateDemoOutputs s.inputs
      motion := mid.foldl h.user motion }
  else
    let motion := mid.foldl h.user (h.writeInputs motion s.inputs)
    let r := h.generateOutputs motion s.outputs.current s.inputs
    { s with outputs := { s.outputs with current := r.2 }, motion := r.1 }

/-- Construct the reply and prepare for the next callback. -/
def finish (h : Handler κ μ υ α) (s : EGMInterface κ μ α) : EGMInterface κ μ α :=
  let outputs := s.outputs.constructReply (h.base s.configuration.active)
  { s with inputs := s.inputs.updatePrevious, outputs := outputs.updatePrevious }

def callback (h : Handler κ μ υ α) (ParseFromArray : β → Bool × EgmRobot α)
    (s : EGMInterface κ μ α) (data : Option β) (mid : List υ) : EGMInterface κ μ α :=
  let r := s.initializeCallback h ParseFromArray data
  if r.1 then (r.2.execute h mid).finish h
  else { r.2 with motion := mid.foldl h.user r.2.motion }

def step (h : Handler κ μ υ α) (ParseFromArray : β → Bool × EgmRobot α)
    (s : EGMInterface κ μ α) : Event κ υ β → EGMInterface κ μ α
  | .datagram data mid => s.callback h ParseFromArray data mid
  | .user call => { s with motion := h.user s.motion call }
  | .setConfiguration configuration => s.setConfiguration configuration

/-- Whether `initializeCallback` accepts a datagram. -/
def accepts (h : Handler κ μ υ α) (ParseFromArray : β → Bool × EgmRobot α)
    (s : EGMInterface κ μ α) (data : Option β) : Bool :=
  (s.initializeCallback h ParseFromArray data).1

end EGMInterface

/-! ### `EGMBaseInterface` -/

def baseHandler : Handler (BaseConfiguration α) Unit Empty α where
  base configuration := configuration
  updateConfigurations motion _ := motion
  initializeMotion motion _ := motion
  writeInputs motion _ := motion
  generateOutputs motion outputs _ := (motion, outputs)
  user motion _ := motion

/-! ### `EGMControllerInterface` -/

/-- `ControllerMotion`: what the external control loop reads and writes. -/
structure ControllerMotion (α : Type) where
  readDataReady : Bool
  writeDataReady : Bool
  inputs : Input α
  outputs : Output α
deriving DecidableEq, Repr

/-- The calls of the external control loop. -/
inductive ControllerCall (α : Type) where
  | read
  | write (outputs : Output α)
deriving DecidableEq, Repr

namespace ControllerMotion

def init : ControllerMotion α := ⟨false, false, {}, {}⟩

def initializeMotion (m : ControllerMotion α) (firstMessage : Bool) : ControllerMotion α :=
  if firstMessage then { m with readDataReady := false, writeDataReady := false } else m

def writeInputs (m : ControllerMotion α) (inputs : Input α) : ControllerMotion α :=
  { m with inputs := inputs, readDataReady := true }

/-- The loop that waits for new outputs is disabled: whatever was written last is read. -/
def readOutputs [Field α] [LinearOrder α] [Cmath α] (m : ControllerMotion α) (outputs : Output α) :
    ControllerMotion α × Output α :=
  ({ m with writeDataReady := false }, outputs.copyPresent m.outputs)

def readInputs (m : ControllerMotion α) : ControllerMotion α × Input α :=
  ({ m with readDataReady := false }, m.inputs)

def writeOutputs (m : ControllerMotion α) (outputs : Output α) : ControllerMotion α :=
  { m with outputs := outputs, writeDataReady := true }

end ControllerMotion

section controller
variable [Field α] [LinearOrder α] [Cmath α]

def controllerHandler : Handler (BaseConfiguration α) (ControllerMotion α) (ControllerCall α) α where
  base configuration := configuration
  updateConfigurations motion _ := motion
  initializeMotion motion inputs := motion.initializeMotion inputs.firstMessage
  writeInputs motion inputs := motion.writeInputs inputs.current
  generateOutputs motion outputs inputs :=
    if inputs.firstMessage || inputs.statesOk then motion.readOutputs outputs
    else (motion, outputs)
  user motion
    | .read => motion.readInputs.1
    | .write outputs => motion.writeOutputs outputs

end controller

/-! ### `EGMTrajectoryInterface` -/

/-- The commands of the user. -/
inductive TrajectoryCall (α : Type) where
  | addTrajectory (trajectory : TrajectoryGoal α) (overrideTrajectories : Bool)
  | stopTrajectory (discardTrajectories : Bool)
  | resumeTrajectory
  | updateDurationFactor (factor : α)
  | startStaticGoal (discardTrajectories : Bool)
  | setStaticPositionGoal (positionGoal : StaticPositionGoal α) (fastTransition : Bool)
  | setStaticVelocityGoal (velocityGoal : StaticVelocityGoal α) (fastTransition : Bool)
  | finishStaticGoal (resume : Bool)
  | retrieveExecutionProgress
deriving DecidableEq, Repr

section trajectory
variable [Field α] [LinearOrder α] [Cmath α]

omit [Cmath α] in
/-- What a command returns, and the machine after it. -/
def TrajectoryMotion.call (t : TrajectoryMotion α) : TrajectoryCall α → Bool × TrajectoryMotion α
  | .addTrajectory trajectory override => t.addTrajectory trajectory override
  | .stopTrajectory discard => t.stopTrajectory discard
  | .resumeTrajectory => t.resumeTrajectory
  | .updateDurationFactor factor => t.updateDurationFactor factor
  | .startStaticGoal discard => t.startStaticGoal discard
  | .setStaticPositionGoal goal fast => t.setStaticPositionGoal goal fast
  | .setStaticVelocityGoal goal fast => t.setStaticVelocityGoal goal fast
  | .finishStaticGoal resume => t.finishStaticGoal resume
  | .retrieveExecutionProgress =>
      (t.retrieveExecutionProgress.1, t.retrieveExecutionProgress.2.2)

/-- The state in which a command is accepted. -/
def TrajectoryCall.acceptedIn : TrajectoryCall α → StateManager → Bool
  | .addTrajectory _ _, s => s.verifyState .normal .running
  | .stopTrajectory _, s => s.verifyState .normal .running
  | .resumeTrajectory, s => s.verifyState .rampDown .finished
  | .updateDurationFactor _, s => s.verifyState .normal .running
  | .startStaticGoal _, s => s.verifyState .normal .running
  | .setStaticPositionGoal _ _, s => s.verifyState .staticGoal .running
  | .setStaticVelocityGoal _ _, s => s.verifyState .staticGoal .running
  | .finishStaticGoal _, s => s.verifyState .staticGoal .running
  | .retrieveExecutionProgress, _ => false

def trajectoryHandler [FloorRing α] :
    Handler (TrajectoryConfiguration α) (TrajectoryMotion α) (TrajectoryCall α) α where
  base configuration := configuration.base
  updateConfigurations := TrajectoryMotion.updateConfigurations
  initializeMotion motion _ := motion
  writeInputs motion _ := motion
  generateOutputs motion outputs inputs := motion.generateOutputs outputs inputs
  user motion call := (motion.call call).2

/-- What happens to a trajectory motion: a callback's `generateOutputs`, a command, and the update
of the configurations at the start of a session. -/
inductive Action (α : Type) where
  | generateOutputs (outputs : Output α) (inputs : InputContainer α)
  | call (call : TrajectoryCall α)
  | updateConfigurations (configurations : TrajectoryConfiguration α)

def TrajectoryMotion.step [FloorRing α] (t : TrajectoryMotion α) : Action α → TrajectoryMotion α
  | .generateOutputs outputs inputs => (t.generateOutputs outputs inputs).1
  | .call call => (t.call call).2
  | .updateConfigurations configurations => t.updateConfigurations configurations

end trajectory

end AbbWrapper
