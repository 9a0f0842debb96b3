import AbbWrapper.Interfaces

/-! # The control part of a trajectory motion

What decides over states and queues, without the numbers: `TrajectoryMotion.control` forgets the
interpolation, the controller and the execution progress.

What a callback does to the control part is said once, and everything later is derived from it:

* `Control.prepare` is the function that `prepare` computes, for the two properties of the inputs that
  it depends on;
* `Turn` are the rules of one `process`, after `updateState`, one for each way through its branches;
* `NextGoal` are the rules of one `updateNormalGoal`.

Where the program decides on numbers (whether a goal is reached, whether a velocity is zero), several
rules apply to one state, so that the rules allow more runs than the program has.  `Refinement.lean`
proves that every step of the program is one of them, and `Decisions.lean` derives what the invariants
use. -/

namespace AbbWrapper

open Protobuf

variable {α : Type}

/-- What decides over states and queues: a trajectory motion without its numbers. -/
structure Control (α : Type) where
  manager : StateManager
  events : PendingEvents α
  hasNewGoal : Bool
  hasActiveGoal : Bool
  pCurrent : Option (Trajectory α)
  primaryQueue : List (Trajectory α)
  temporaryQueue : List (Trajectory α)
  externalGoal : PointGoal α
  trace : List (Call α)

def TrajectoryMotion.control (t : TrajectoryMotion α) : Control α where
  manager := t.stateManager
  events := t.data.pendingEvents
  hasNewGoal := t.data.hasNewGoal
  hasActiveGoal := t.data.hasActiveGoal
  pCurrent := t.trajectories.pCurrent
  primaryQueue := t.trajectories.primaryQueue
  temporaryQueue := t.trajectories.temporaryQueue
  externalGoal := t.motionStep.externalGoal
  trace := t.trace

namespace Control

/-! ### The operations of the control part -/

def setGoal (c : Control α) (hasNewGoal hasActiveGoal : Bool) : Control α :=
  { c with hasNewGoal := hasNewGoal, hasActiveGoal := hasActiveGoal }

def setEvents (c : Control α) (events : PendingEvents α) : Control α := { c with events := events }

def log (c : Control α) (calls : List (Call α)) : Control α := { c with trace := c.trace ++ calls }

def request (c : Control α) (state : States) (subState : SubStates) : Control α :=
  { c.log [.requested state subState (c.manager.accepts state subState)] with
    manager := c.manager.setPendingState state subState }

/-- `storeNormalGoal`, with the time that is left. -/
def store (c : Control α) (duration : α) : Control α :=
  match c.pCurrent with
  | none => c
  | some current =>
      let goal := { c.externalGoal with duration := .present duration }
      { c with
        externalGoal := goal
        pCurrent := some (current.addTrajectoryPointFront goal) }

def pushCurrentFront (c : Control α) : Control α :=
  match c.pCurrent with
  | none => c
  | some current => { c with primaryQueue := current :: c.primaryQueue, pCurrent := none }

/-- The resets of a new session. -/
def reset (c : Control α) (duration : α) : Control α :=
  { ((c.store duration).pushCurrentFront).setGoal false false with
    externalGoal := {}
    manager := .reset }

/-- The activation of a session, or the end of one. -/
def checkStates (c : Control α) (statesOk : Bool) (duration : α) : Control α :=
  if statesOk then
    if c.manager.verifyState .normal .none then
      { c with manager := c.manager.activateStateManager }
    else c
  else if !c.manager.verifyState .normal .none then
    { c.reset duration with primaryQueue := [], temporaryQueue := [] }
  else c

/-- `prepare`, for the two properties of the inputs it depends on. -/
def prepare (c : Control α) (firstMessage statesOk : Bool) (duration : α) : Control α :=
  let c := (if firstMessage then c.reset duration else c).checkStates statesOk duration
  c.setGoal false c.hasActiveGoal

def updateState (c : Control α) : Control α := { c with manager := c.manager.updateState }

/-- The events of a finished ramp down that do not depend on the order to stop. -/
def handle (c : Control α) : Control α :=
  { c with
    events := { c.events with doDurationFactorUpdate := false, doDiscard := false }
    pCurrent := if c.events.doDiscard then none else c.pCurrent
    primaryQueue := if c.events.doDiscard then c.temporaryQueue else c.primaryQueue
    temporaryQueue := if c.events.doDiscard then [] else c.temporaryQueue }

/-- Apply a pending static goal, unless a ramp down is ordered first. -/
def applyStaticGoal (c : Control α) : Control α :=
  let events := c.events
  if events.doStaticPositionGoalUpdate && !events.doRampDown then
    { c.log [.preparedPosition events.staticPositionGoal events.doStaticGoalFastUpdate] with
      events := { events with staticPositionGoal := {}, doStaticPositionGoalUpdate := false }
      hasNewGoal := true
      hasActiveGoal := true }
  else if events.doStaticVelocityGoalUpdate && !events.doRampDown then
    { c.log [.preparedVelocity events.staticVelocityGoal events.doStaticGoalFastUpdate] with
      events := { events with staticVelocityGoal := {}, doStaticVelocityGoalUpdate := false }
      hasNewGoal := true
      hasActiveGoal := true }
  else c

/-! ### The rules -/

/-- What `updateNormalGoal` can do. -/
inductive NextGoal (c : Control α) : Control α → Prop where
  | empty (h : c.pCurrent = none) : NextGoal c (c.setGoal false false)
  /-- The points before the new goal are skipped, since they are reached already. -/
  | found (skipped : List (PointGoal α)) (goal : PointGoal α) (points : List (PointGoal α))
      (h : c.pCurrent = some ⟨skipped ++ goal :: points⟩) :
      NextGoal c ({ c with externalGoal := goal, pCurrent := some ⟨points⟩ }.log
        ((skipped ++ [goal]).map .retrieved) |>.setGoal true true)
  /-- All points are reached already. -/
  | exhausted (points : List (PointGoal α)) (externalGoal : PointGoal α)
      (h : c.pCurrent = some ⟨points⟩) :
      NextGoal c ({ c with externalGoal := externalGoal, pCurrent := none }.log
        (points.map .retrieved) |>.setGoal false false)

/-- What `process` can do after `updateState`. -/
inductive Turn (c : Control α) : Control α → Prop where
  | shouldNeverOccur (hstate : c.manager.currentState = .normal)
      (hsub : c.manager.currentSubState ≠ .running) : Turn c (c.log [.shouldNeverOccur])
  | interrupt (hstate : c.manager.currentState = .normal)
      (hsub : c.manager.currentSubState = .running) (hramp : c.events.doRampDown = true) :
      Turn c (c.request .rampDown .none)
  /-- The goal is not reached yet, or nothing is left to do. -/
  | continue (hstate : c.manager.currentState = .normal)
      (hsub : c.manager.currentSubState = .running) (hramp : c.events.doRampDown = false) :
      Turn c c
  | advance (c' : Control α) (hstate : c.manager.currentState = .normal)
      (hsub : c.manager.currentSubState = .running) (hramp : c.events.doRampDown = false)
      (hcurrent : c.pCurrent ≠ none) (hgoal : NextGoal c c') : Turn c c'
  | take (next : Trajectory α) (queue : List (Trajectory α)) (c' : Control α)
      (hstate : c.manager.currentState = .normal)
      (hsub : c.manager.currentSubState = .running) (hramp : c.events.doRampDown = false)
      (hcurrent : c.pCurrent = none) (hqueue : c.primaryQueue = next :: queue)
      (hgoal : NextGoal ({ c with primaryQueue := queue, pCurrent := some next }.log
        [.taken next]) c') : Turn c c'
  | startRampDown (duration : α) (hstate : c.manager.currentState = .rampDown)
      (hsub : c.manager.currentSubState = .none) :
      Turn c (((if c.hasActiveGoal then c.store duration else c).setGoal true true).request
        .rampDown .running)
  | continueRampDown (hstate : c.manager.currentState = .rampDown)
      (hsub : c.manager.currentSubState = .running) : Turn c c
  | finishRampDown (hstate : c.manager.currentState = .rampDown)
      (hsub : c.manager.currentSubState = .running) : Turn c (c.request .rampDown .finished)
  | wait (hstate : c.manager.currentState = .rampDown)
      (hsub : c.manager.currentSubState = .finished) (hstop : c.events.doStop = true)
      (hresume : c.events.doResume = false) : Turn c c.handle
  | enterStaticGoal (hstate : c.manager.currentState = .rampDown)
      (hsub : c.manager.currentSubState = .finished) (hstop : c.events.doStop = true)
      (hresume : c.events.doResume = true) (hstatic : c.events.doStaticGoalStart = true) :
      Turn c ((c.handle.setEvents { c.handle.events with
        doRampDown := false, doStop := false, doResume := false }).request .staticGoal .none)
  | resume (c' : Control α) (hstate : c.manager.currentState = .rampDown)
      (hsub : c.manager.currentSubState = .finished) (hstop : c.events.doStop = true)
      (hresume : c.events.doResume = true) (hstatic : c.events.doStaticGoalStart = false)
      (hgoal : NextGoal (c.handle.setEvents { c.handle.events with
        doRampDown := false, doStop := false, doResume := false }) c') :
      Turn c (c'.request .normal .running)
  | rampedDown (c' : Control α) (hstate : c.manager.currentState = .rampDown)
      (hsub : c.manager.currentSubState = .finished) (hstop : c.events.doStop = false)
      (hgoal : NextGoal (c.handle.setEvents { c.handle.events with doRampDown := false }) c') :
      Turn c (c'.request .normal .running)
  | startStaticGoal (hstate : c.manager.currentState = .staticGoal)
      (hsub : c.manager.currentSubState = .none) :
      Turn c ((c.pushCurrentFront.setGoal c.hasNewGoal false).request .staticGoal .running)
  | executeStaticGoal (hstate : c.manager.currentState = .staticGoal)
      (hsub : c.manager.currentSubState = .running) :
      Turn c (if c.events.doStaticGoalFinish then c.applyStaticGoal.request .staticGoal .finished
        else if c.events.doRampDown then c.applyStaticGoal.request .rampDown .none
        else c.applyStaticGoal)
  | finishStaticGoal (hstate : c.manager.currentState = .staticGoal)
      (hsub : c.manager.currentSubState = .finished) :
      Turn c ((c.setEvents { c.events with
        doStaticGoalStart := false
        doStaticGoalFinish := false
        doStaticPositionGoalUpdate := false
        doStaticVelocityGoalUpdate := false
        doRampDown := true
        doStop := true }).request .rampDown .none)

end Control

end AbbWrapper
