import AbbWrapper.MotionStep

/-! # Trajectory motion

`EGMTrajectoryInterface::TrajectoryMotion`: the state manager, the pending events that the user's
commands leave for the next callbacks, the trajectory queues, and `generateOutputs`, the part of
a callback that steps the machine.

* A command and `generateOutputs` each hold the mutex of the data from their first to their last access, so
  that a run is an interleaving of whole calls.
* `trace` is a history variable: it lists what the last `generateOutputs` did that its end state does not
  show (the points retrieved, the states requested, the static goals applied).  No function reads it.
* A pointer that may be null is an `Option` (`pCurrent`), and a `std::deque` a list with its front first.
* A command is its guard and what it writes to the pending events, if it is accepted; the writes are
  functions of `PendingEvents`, and the commands are applications of `command`.
* `generateOutputs` is split where the source has its functions: `prepare`, `process` with the three
  states, `executeGoal` and `updateExecutionProgress`. -/

namespace AbbWrapper

open Protobuf

variable {α : Type}

/-! ### The state manager -/

/-- `StateManager`: the state that is current, and one that is requested for the next callback. -/
structure StateManager where
  hasPendingState : Bool
  currentState : States
  currentSubState : SubStates
  pendingState : States
  pendingSubState : SubStates
deriving DecidableEq, Repr

namespace StateManager

def init : StateManager := ⟨false, .normal, .none, .normal, .none⟩

def activateStateManager (s : StateManager) : StateManager :=
  { s with currentState := .normal, currentSubState := .running }

/-- `resetStateManager`. -/
def reset : StateManager := init

def updateState (s : StateManager) : StateManager :=
  if s.hasPendingState then
    { s with
      currentState := s.pendingState
      currentSubState := s.pendingSubState
      hasPendingState := false }
  else s

def verifyState (s : StateManager) (state : States) (subState : SubStates) : Bool :=
  s.currentState = state ∧ s.currentSubState = subState

/-- The requests `setPendingState` accepts in each state. -/
def accepts (s : StateManager) (state : States) (subState : SubStates) : Bool :=
  match s.currentState, s.currentSubState with
  | .normal, .none => false
  | .normal, .running => state = .rampDown ∧ subState = .none
  | .normal, .finished => false
  | .rampDown, .none => state = .rampDown ∧ subState = .running
  | .rampDown, .running => state = .rampDown ∧ subState = .finished
  | .rampDown, .finished =>
      (state = .normal ∧ subState = .running) ∨ (state = .staticGoal ∧ subState = .none)
  | .staticGoal, .none => state = .staticGoal ∧ subState = .running
  | .staticGoal, .running =>
      (state = .staticGoal ∧ subState = .finished) ∨ (state = .rampDown ∧ subState = .none)
  | .staticGoal, .finished => state = .rampDown ∧ subState = .none

/-- A request that is not accepted is dropped. -/
def setPendingState (s : StateManager) (state : States) (subState : SubStates) : StateManager :=
  if s.accepts state subState then
    { s with pendingState := state, pendingSubState := subState, hasPendingState := true }
  else s

def mapState (s : StateManager) : ExecutionState :=
  match s.currentState with
  | .normal => .normal
  | .rampDown => .rampDown
  | .staticGoal => .staticGoal

def mapSubState (s : StateManager) : ExecutionSubState :=
  match s.currentSubState with
  | .none => .none
  | .running => .running
  | .finished => .finished

end StateManager

/-! ### Trajectories -/

/-- `Trajectory`: its points, the first one at the front. -/
structure Trajectory (α : Type) where
  points : List (PointGoal α)
deriving DecidableEq, Repr

namespace Trajectory

def addTrajectoryPointFront (t : Trajectory α) (point : PointGoal α) : Trajectory α :=
  ⟨point :: t.points⟩

def addTrajectoryPointBack (t : Trajectory α) (point : PointGoal α) : Trajectory α :=
  ⟨t.points ++ [point]⟩

/-- The constructor from a `TrajectoryGoal`. -/
def of (trajectory : TrajectoryGoal α) : Trajectory α :=
  trajectory.points.foldl addTrajectoryPointBack ⟨[]⟩

def copyTo (t : Trajectory α) (trajectory : TrajectoryGoal α) : TrajectoryGoal α :=
  ⟨trajectory.points ++ t.points⟩

theorem foldl_addTrajectoryPointBack (t : Trajectory α) (points : List (PointGoal α)) :
    (points.foldl addTrajectoryPointBack t).points = t.points ++ points := by
  induction points generalizing t with
  | nil => simp
  | cons p points ih => simp [ih, addTrajectoryPointBack]

@[simp] theorem of_points (trajectory : TrajectoryGoal α) :
    (of trajectory).points = trajectory.points := by
  simp [of, foldl_addTrajectoryPointBack]

end Trajectory

/-- `TrajectoryContainer`: the trajectory that is being executed, and those that wait. -/
structure TrajectoryContainer (α : Type) where
  primaryQueue : List (Trajectory α)
  temporaryQueue : List (Trajectory α)
  pCurrent : Option (Trajectory α)
deriving DecidableEq, Repr

/-! ### Decision data -/

/-- `PendingEvents`: what the commands have ordered and no callback has done yet. -/
structure PendingEvents (α : Type) where
  doStop : Bool
  doResume : Bool
  doDiscard : Bool
  doRampDown : Bool
  doStaticGoalStart : Bool
  doStaticGoalFastUpdate : Bool
  doStaticPositionGoalUpdate : Bool
  doStaticVelocityGoalUpdate : Bool
  doStaticGoalFinish : Bool
  staticPositionGoal : StaticPositionGoal α
  staticVelocityGoal : StaticVelocityGoal α
  doDurationFactorUpdate : Bool
  durationFactor : α
deriving DecidableEq, Repr

/-- `DecisionData`: the goal, the events and the report of the progress. -/
structure DecisionData (α : Type) where
  hasNewGoal : Bool
  hasActiveGoal : Bool
  pendingEvents : PendingEvents α
  hasUpdatedExecutionProgress : Bool
  executionProgress : ExecutionProgress α
deriving DecidableEq, Repr

/-- What `generateOutputs` does besides what its end state shows. -/
inductive Call (α : Type) where
  /-- A point taken from the front of `p_current`. -/
  | retrieved (point : PointGoal α)
  /-- A trajectory taken from the front of the primary queue. -/
  | taken (trajectory : Trajectory α)
  /-- A call of `setPendingState`. -/
  | requested (state : States) (subState : SubStates) (accepted : Bool)
  /-- A call of `prepareStaticGoal` with a position goal. -/
  | preparedPosition (goal : StaticPositionGoal α) (fastTransition : Bool)
  /-- A call of `prepareStaticGoal` with a velocity goal. -/
  | preparedVelocity (goal : StaticVelocityGoal α) (fastTransition : Bool)
  /-- A branch marked as never occurring. -/
  | shouldNeverOccur
deriving DecidableEq, Repr

/-- The point a call has retrieved. -/
def Call.point? : Call α → Option (PointGoal α)
  | .retrieved point => some point
  | _ => none

/-- The trajectory a call has taken from the primary queue. -/
def Call.trajectory? : Call α → Option (Trajectory α)
  | .taken trajectory => some trajectory
  | _ => none

/-- `TrajectoryMotion`: everything that the commands and the callbacks share. -/
structure TrajectoryMotion (α : Type) where
  configurations : TrajectoryConfiguration α
  data : DecisionData α
  trajectories : TrajectoryContainer α
  stateManager : StateManager
  motionStep : MotionStep α
  controller : Controller α
  trace : List (Call α)
deriving DecidableEq, Repr

variable [Field α]

def PendingEvents.init : PendingEvents α :=
  ⟨false, false, false, false, false, false, false, false, false, {}, {}, false, 1⟩

/-! ### What the accepted commands write to the events -/

namespace PendingEvents

section
omit [Field α]

/-- `addTrajectory` with `override_trajectories`. -/
def overrideTrajectories (e : PendingEvents α) : PendingEvents α :=
  { e with doRampDown := true, doStop := true, doDiscard := true, doResume := true }

def stopTrajectory (discardTrajectories : Bool) (e : PendingEvents α) : PendingEvents α :=
  { e with doRampDown := true, doStop := true, doDiscard := discardTrajectories }

def resumeTrajectory (e : PendingEvents α) : PendingEvents α := { e with doResume := true }

def startStaticGoal (discardTrajectories : Bool) (e : PendingEvents α) : PendingEvents α :=
  { e with
    doRampDown := true
    doStop := true
    doDiscard := discardTrajectories
    doResume := true
    doStaticGoalStart := true }

/-- `setStaticGoal` with a position goal. -/
def setStaticPositionGoal (positionGoal : StaticPositionGoal α) (fastTransition : Bool)
    (e : PendingEvents α) : PendingEvents α :=
  { e with
    doRampDown := !fastTransition
    doStop := !fastTransition
    doResume := true
    doStaticGoalFastUpdate := fastTransition
    doStaticPositionGoalUpdate := true
    doStaticVelocityGoalUpdate := false
    staticPositionGoal := positionGoal }

/-- `setStaticGoal` with a velocity goal. -/
def setStaticVelocityGoal (velocityGoal : StaticVelocityGoal α) (fastTransition : Bool)
    (e : PendingEvents α) : PendingEvents α :=
  { e with
    doRampDown := !fastTransition
    doStop := !fastTransition
    doResume := true
    doStaticGoalFastUpdate := fastTransition
    doStaticVelocityGoalUpdate := true
    doStaticPositionGoalUpdate := false
    staticVelocityGoal := velocityGoal }

def finishStaticGoal (resume : Bool) (e : PendingEvents α) : PendingEvents α :=
  { e with doStaticGoalFinish := true, doResume := resume }

end

/-- `DURATION_FACTOR_MIN`. -/
def durationFactorMin : α := 1
/-- `DURATION_FACTOR_MAX`. -/
def durationFactorMax : α := 5

def updateDurationFactor [LinearOrder α] (factor : α) (e : PendingEvents α) : PendingEvents α :=
  { e with
    doRampDown := true
    doDurationFactorUpdate := true
    durationFactor := saturate factor durationFactorMin durationFactorMax }

end PendingEvents

def DecisionData.init : DecisionData α := ⟨false, false, .init, false, {}⟩

namespace TrajectoryMotion

def init (configurations : TrajectoryConfiguration α) : TrajectoryMotion α where
  configurations := configurations
  data := .init
  trajectories := ⟨[], [], none⟩
  stateManager := .init
  motionStep := .init configurations
  controller := .init
  trace := []

omit [Field α] in
def updateConfigurations (t : TrajectoryMotion α) (configurations : TrajectoryConfiguration α) :
    TrajectoryMotion α :=
  { t with
    configurations := configurations
    motionStep := t.motionStep.updateConfigurations configurations }

/-! ### Writing single parts -/

section parts
omit [Field α]

def setEvents (t : TrajectoryMotion α) (events : PendingEvents α) : TrajectoryMotion α :=
  { t with data := { t.data with pendingEvents := events } }

/-- Both flags of the goal. -/
def setGoal (t : TrajectoryMotion α) (hasNewGoal hasActiveGoal : Bool) : TrajectoryMotion α :=
  { t with data := { t.data with hasNewGoal := hasNewGoal, hasActiveGoal := hasActiveGoal } }

def setCurrent (t : TrajectoryMotion α) (pCurrent : Option (Trajectory α)) : TrajectoryMotion α :=
  { t with trajectories := { t.trajectories with pCurrent := pCurrent } }

def log (t : TrajectoryMotion α) (calls : List (Call α)) : TrajectoryMotion α :=
  { t with trace := t.trace ++ calls }

/-- `state_manager_.setPendingState(state, subState)`. -/
def request (t : TrajectoryMotion α) (state : States) (subState : SubStates) :
    TrajectoryMotion α :=
  { t.log [.requested state subState (t.stateManager.accepts state subState)] with
    stateManager := t.stateManager.setPendingState state subState }

/-- The events `generateOutputs` and the commands write to. -/
def events (t : TrajectoryMotion α) : PendingEvents α := t.data.pendingEvents

end parts

/-! ### Normal goals -/

section normal
variable [LinearOrder α]

/-- The goal that is given up goes back to the front of its trajectory, with the time that is
left as its duration. -/
def storeNormalGoal (t : TrajectoryMotion α) : TrajectoryMotion α :=
  match t.trajectories.pCurrent with
  | none => t
  | some current =>
      let duration := max (Constants.lowestSampleTime α)
        (t.motionStep.internalGoal.duration.val - t.motionStep.data.timePassed)
      let goal := { t.motionStep.externalGoal with duration := .present duration }
      { t.setCurrent (some (current.addTrajectoryPointFront goal)) with
        motionStep := { t.motionStep with externalGoal := goal } }

omit [Field α] [LinearOrder α] in
/-- Put `p_current` back to the front of the primary queue. -/
def pushCurrentFront (t : TrajectoryMotion α) : TrajectoryMotion α :=
  match t.trajectories.pCurrent with
  | none => t
  | some current =>
      { t with
        trajectories := { t.trajectories with
          primaryQueue := current :: t.trajectories.primaryQueue
          pCurrent := none } }

variable [Cmath α]

/-- The `do`-`while` loop over the points of a trajectory from a point to be reached on: the
motion step, whether a goal was found, the points that are left and those retrieved. -/
def reachLoop (m : MotionStep α) (lastPoint : Bool) :
    List (PointGoal α) → MotionStep α × Bool × List (PointGoal α) × List (PointGoal α)
  | [] =>
      let m := m.prepareNormalGoal lastPoint
      (m, !m.conditionMet, [], [])
  | point :: points =>
      let m := m.prepareNormalGoal lastPoint
      if m.conditionMet then
        let r := reachLoop { m with externalGoal := point } lastPoint points
        (r.1, r.2.1, r.2.2.1, point :: r.2.2.2)
      else (m, true, point :: points, [])

/-- The next goal of the points of a trajectory: as `reachLoop`. -/
def nextGoal (m : MotionStep α) :
    List (PointGoal α) → MotionStep α × Bool × List (PointGoal α) × List (PointGoal α)
  | [] => (m, false, [], [])
  | point :: points =>
      let m := { m with externalGoal := point }
      -- computed once, before the loop
      let lastPoint := points.isEmpty
      if point.reach.get then
        let r := reachLoop m lastPoint points
        (r.1, r.2.1, r.2.2.1, point :: r.2.2.2)
      else (m.prepareNormalGoal lastPoint, true, points, [point])

def updateNormalGoal (t : TrajectoryMotion α) : TrajectoryMotion α :=
  match t.trajectories.pCurrent with
  | none => t.setGoal false false
  | some current =>
      let r := nextGoal t.motionStep current.points
      let pCurrent := if !r.2.1 && r.2.2.1.isEmpty then none else some ⟨r.2.2.1⟩
      (({ t with motionStep := r.1 }.setCurrent pCurrent).log
        (r.2.2.2.map .retrieved)).setGoal r.2.1 r.2.1

/-! ### The states -/

omit [Cmath α] in
def resetTrajectoryMotion (t : TrajectoryMotion α) : TrajectoryMotion α :=
  let t := t.storeNormalGoal.pushCurrentFront
  { t.setGoal false false with
    data := { (t.setGoal false false).data with
      executionProgress := {}
      hasUpdatedExecutionProgress := false } }

omit [Cmath α] in
/-- The three resets of a new session. -/
def resetComponents (t : TrajectoryMotion α) : TrajectoryMotion α :=
  let t := t.resetTrajectoryMotion
  { t with motionStep := t.motionStep.resetMotionStep, stateManager := .reset }

/-- The part of `prepare` that copies the inputs. -/
def receive [FloorRing α] (t : TrajectoryMotion α) (inputs : InputContainer α) :
    TrajectoryMotion α :=
  { t with
    motionStep := { t.motionStep with
      data := { t.motionStep.data with
        estimatedSampleTime := inputs.estimatedSampleTime
        feedback := inputs.current.feedback.get } } }

omit [Cmath α] in
/-- The part of `prepare` that starts a session whose states are ok, and ends one whose states
have become not ok. -/
def checkStates (t : TrajectoryMotion α) (statesOk : Bool) : TrajectoryMotion α :=
  if statesOk then
    if t.stateManager.verifyState .normal .none then
      { t with stateManager := t.stateManager.activateStateManager }
    else t
  else if !t.stateManager.verifyState .normal .none then
    let t := t.resetComponents
    { t with trajectories := { t.trajectories with primaryQueue := [], temporaryQueue := [] } }
  else t

def prepare [FloorRing α] (t : TrajectoryMotion α) (inputs : InputContainer α) :
    TrajectoryMotion α :=
  let t := t.receive inputs
  let t := if inputs.firstMessage then t.resetComponents else t
  let t := t.checkStates inputs.statesOk
  t.setGoal false t.data.hasActiveGoal

def processNormalState (t : TrajectoryMotion α) : TrajectoryMotion α :=
  match t.stateManager.currentSubState with
  | .none => t.log [.shouldNeverOccur]
  | .running =>
      if t.events.doRampDown then t.request .rampDown .none
      else
        match t.trajectories.pCurrent with
        | some _ =>
            if t.motionStep.interpolationDurationReached then
              if t.motionStep.internalGoal.reach.get then
                if t.motionStep.conditionMet then t.updateNormalGoal else t
              else t.updateNormalGoal
            else t
        | none =>
            match t.trajectories.primaryQueue with
            | [] => t
            | next :: queue =>
                let t := { t with
                  trajectories := { t.trajectories with
                    primaryQueue := queue
                    pCurrent := some next } }
                (t.log [.taken next]).updateNormalGoal
  | .finished => t.log [.shouldNeverOccur]

omit [Cmath α] in
/-- The events of a finished ramp down that do not depend on the order to stop. -/
def handleRampDownEvents (t : TrajectoryMotion α) : TrajectoryMotion α :=
  let t := if t.events.doDurationFactorUpdate then
      { t.setEvents { t.events with doDurationFactorUpdate := false } with
        motionStep := { t.motionStep with
          data := { t.motionStep.data with durationFactor := t.events.durationFactor } } }
    else t
  if t.events.doDiscard then
    { t.setEvents { t.events with doDiscard := false } with
      trajectories := ⟨t.trajectories.temporaryQueue, [], none⟩ }
  else t

def processRampDownState (t : TrajectoryMotion α) : TrajectoryMotion α :=
  match t.stateManager.currentSubState with
  | .none =>
      let t := { t with motionStep := t.motionStep.prepareRampDownGoal t.events.doStop }
      let t := if t.data.hasActiveGoal then t.storeNormalGoal else t
      (t.setGoal true true).request .rampDown .running
  | .running =>
      if t.motionStep.interpolationDurationReached then t.request .rampDown .finished else t
  | .finished =>
      let t := t.handleRampDownEvents
      if t.events.doStop then
        -- a complete stop waits for a resume order
        if t.events.doResume then
          let t := t.setEvents
            { t.events with doRampDown := false, doStop := false, doResume := false }
          if t.events.doStaticGoalStart then t.request .staticGoal .none
          else t.updateNormalGoal.request .normal .running
        else t
      else
        ((t.setEvents { t.events with doRampDown := false }).updateNormalGoal).request
          .normal .running

/-- Apply a pending static goal, unless a ramp down is ordered first. -/
def applyStaticGoal (t : TrajectoryMotion α) : TrajectoryMotion α :=
  let events := t.events
  if events.doStaticPositionGoalUpdate && !events.doRampDown then
    let m := t.motionStep.prepareStaticPositionGoal events.staticPositionGoal
      events.doStaticGoalFastUpdate
    let t := { t with motionStep := m }
    let t := t.log [.preparedPosition events.staticPositionGoal events.doStaticGoalFastUpdate]
    (t.setEvents { events with
      staticPositionGoal := {}
      doStaticPositionGoalUpdate := false }).setGoal true true
  else if events.doStaticVelocityGoalUpdate && !events.doRampDown then
    let m := t.motionStep.prepareStaticVelocityGoal events.staticVelocityGoal
      events.doStaticGoalFastUpdate
    let t := { t with motionStep := m }
    let t := t.log [.preparedVelocity events.staticVelocityGoal events.doStaticGoalFastUpdate]
    (t.setEvents { events with
      staticVelocityGoal := {}
      doStaticVelocityGoalUpdate := false }).setGoal true true
  else t

def processStaticGoalState (t : TrajectoryMotion α) : TrajectoryMotion α :=
  match t.stateManager.currentSubState with
  | .none =>
      let t := t.pushCurrentFront
      (t.setGoal t.data.hasNewGoal false).request .staticGoal .running
  | .running =>
      let t := t.applyStaticGoal
      if t.events.doStaticGoalFinish then t.request .staticGoal .finished
      else if t.events.doRampDown then t.request .rampDown .none
      else t
  | .finished =>
      (t.setEvents { t.events with
        doStaticGoalStart := false
        doStaticGoalFinish := false
        doStaticPositionGoalUpdate := false
        doStaticVelocityGoalUpdate := false
        doRampDown := true
        doStop := true }).request .rampDown .none

/-- `updateState`, and the processing of the state it leads to. -/
def process (t : TrajectoryMotion α) : TrajectoryMotion α :=
  let t := { t with stateManager := t.stateManager.updateState }
  match t.stateManager.currentState with
  | .normal => t.processNormalState
  | .rampDown => t.processRampDownState
  | .staticGoal => t.processStaticGoalState

/-- The numeric end of `generateOutputs`: start a new goal, evaluate an active one. -/
def executeGoal (t : TrajectoryMotion α) (outputs : Output α) : TrajectoryMotion α × Output α :=
  let t := if t.data.hasNewGoal then
      let motionStep := t.motionStep.updateInterpolator
      { t with
        motionStep := motionStep
        controller := t.controller.update t.stateManager.currentState motionStep
          t.configurations }
    else t
  if t.data.hasActiveGoal then
    let r := t.controller.calculate outputs t.motionStep.evaluateInterpolator
    ({ t with controller := r.1, motionStep := r.2.2 }, r.2.1)
  else (t, outputs)

omit [Field α] [LinearOrder α] [Cmath α] in
def updateExecutionProgress (t : TrajectoryMotion α) (outputs : Output α)
    (inputs : InputContainer α) : TrajectoryMotion α :=
  let active : TrajectoryGoal α := ⟨[t.motionStep.externalGoal]⟩
  let queue := match t.trajectories.temporaryQueue with
    | [] => t.trajectories.primaryQueue
    | queue => queue
  let progress := { t.data.executionProgress with
    state := .present t.stateManager.mapState
    subState := .present t.stateManager.mapSubState
    inputs := .present inputs.current
    outputs := .present outputs
    goalActive := .present t.data.hasActiveGoal
    goal := .present t.motionStep.internalGoal
    timePassed := .present t.motionStep.data.timePassed
    activeTrajectory := .present (t.trajectories.pCurrent.elim active (·.copyTo active))
    pendingTrajectories := .present (.ofNat queue.length) }
  { t with
    data := { t.data with executionProgress := progress, hasUpdatedExecutionProgress := true } }

def generateOutputs [FloorRing α] (t : TrajectoryMotion α) (outputs : Output α)
    (inputs : InputContainer α) : TrajectoryMotion α × Output α :=
  let t := { t with trace := [] }.prepare inputs
  let r := if inputs.statesOk then t.process.executeGoal outputs else (t, outputs)
  (r.1.updateExecutionProgress r.2 inputs, r.2)

end normal

/-! ### User interaction -/

omit [Field α] in
def addTrajectory (t : TrajectoryMotion α) (trajectory : TrajectoryGoal α)
    (overrideTrajectories : Bool) : Bool × TrajectoryMotion α :=
  let pTraj := Trajectory.of trajectory
  if t.stateManager.verifyState .normal .running then
    if overrideTrajectories then
      (true, { t.setEvents t.events.overrideTrajectories with
        trajectories := { t.trajectories with temporaryQueue := [pTraj] } })
    else if t.events.doDiscard then
      (true, { t with trajectories := { t.trajectories with
        temporaryQueue := t.trajectories.temporaryQueue ++ [pTraj] } })
    else
      (true, { t with trajectories := { t.trajectories with
        primaryQueue := t.trajectories.primaryQueue ++ [pTraj] } })
  else (false, t)

/-- A command that is accepted in one state and only writes to the pending events. -/
def command (t : TrajectoryMotion α) (state : States) (subState : SubStates)
    (f : PendingEvents α → PendingEvents α) : Bool × TrajectoryMotion α :=
  if t.stateManager.verifyState state subState then (true, t.setEvents (f t.events))
  else (false, t)

omit [Field α] in
def stopTrajectory (t : TrajectoryMotion α) (discardTrajectories : Bool) :
    Bool × TrajectoryMotion α :=
  t.command .normal .running (·.stopTrajectory discardTrajectories)

omit [Field α] in
def resumeTrajectory (t : TrajectoryMotion α) : Bool × TrajectoryMotion α :=
  t.command .rampDown .finished (·.resumeTrajectory)

def updateDurationFactor [LinearOrder α] (t : TrajectoryMotion α) (factor : α) :
    Bool × TrajectoryMotion α :=
  t.command .normal .running (·.updateDurationFactor factor)

omit [Field α] in
def startStaticGoal (t : TrajectoryMotion α) (discardTrajectories : Bool) :
    Bool × TrajectoryMotion α :=
  t.command .normal .running (·.startStaticGoal discardTrajectories)

omit [Field α] in
/-- `setStaticGoal` with a position goal. -/
def setStaticPositionGoal (t : TrajectoryMotion α) (positionGoal : StaticPositionGoal α)
    (fastTransition : Bool) : Bool × TrajectoryMotion α :=
  t.command .staticGoal .running (·.setStaticPositionGoal positionGoal fastTransition)

omit [Field α] in
/-- `setStaticGoal` with a velocity goal. -/
def setStaticVelocityGoal (t : TrajectoryMotion α) (velocityGoal : StaticVelocityGoal α)
    (fastTransition : Bool) : Bool × TrajectoryMotion α :=
  t.command .staticGoal .running (·.setStaticVelocityGoal velocityGoal fastTransition)

omit [Field α] in
def finishStaticGoal (t : TrajectoryMotion α) (resume : Bool) : Bool × TrajectoryMotion α :=
  t.command .staticGoal .running (·.finishStaticGoal resume)

omit [Field α] in
/-- The progress is reported once a callback has left its inputs in it. -/
def retrieveExecutionProgress (t : TrajectoryMotion α) :
    Bool × Option (ExecutionProgress α) × TrajectoryMotion α :=
  if t.data.executionProgress.inputs.has then
    (t.data.hasUpdatedExecutionProgress, some t.data.executionProgress,
      { t with data := { t.data with hasUpdatedExecutionProgress := false } })
  else (false, none, t)

end TrajectoryMotion

end AbbWrapper
