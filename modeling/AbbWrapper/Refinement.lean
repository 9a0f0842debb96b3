import AbbWrapper.Decisions

/-! # The program follows the rules

Every step of a trajectory motion is a `Control.Step` of its control part (`step_control`): the
numbers decide which rule applies, and nothing else.

* The operations come first, from the inside to the outside: the loop over the points to be reached
  (`reachLoop_points`), the next goal (`updateNormalGoal_nextGoal`), the processing of a state
  (`process_turn`), and a callback with states that are ok (`generateOutputs_ok`,
  `generateOutputs_session`) or not (`generateOutputs_notOk`).
* `remainingTime` is the one number that a rule has as an argument: the duration with which the active
  goal is stored back.
* The numeric end of a callback and the motion step do not touch the control part
  (`control_executeGoal`, `call_motionStep`).

What is proved of the rules therefore holds of every run of the program (`legal_run` is the first such
result). -/

namespace AbbWrapper

open Protobuf Runs

variable {α : Type}

namespace TrajectoryMotion

/-! ### The operations -/

@[simp] theorem control_setGoal (t : TrajectoryMotion α) (hasNewGoal hasActiveGoal : Bool) :
    (t.setGoal hasNewGoal hasActiveGoal).control = t.control.setGoal hasNewGoal hasActiveGoal :=
  rfl

@[simp] theorem control_setEvents (t : TrajectoryMotion α) (events : PendingEvents α) :
    (t.setEvents events).control = t.control.setEvents events := rfl

@[simp] theorem control_log (t : TrajectoryMotion α) (calls : List (Call α)) :
    (t.log calls).control = t.control.log calls := rfl

@[simp] theorem control_request (t : TrajectoryMotion α) (state : States) (subState : SubStates) :
    (t.request state subState).control = t.control.request state subState := rfl

@[simp] theorem control_events (t : TrajectoryMotion α) : t.control.events = t.events := rfl

@[simp] theorem control_updateConfigurations (t : TrajectoryMotion α)
    (configurations : TrajectoryConfiguration α) :
    (t.updateConfigurations configurations).control = t.control := rfl

theorem control_pushCurrentFront (t : TrajectoryMotion α) :
    t.pushCurrentFront.control = t.control.pushCurrentFront := by
  unfold pushCurrentFront Control.pushCurrentFront
  cases h : t.trajectories.pCurrent <;> simp [control, h]

variable [Field α] [LinearOrder α]

/-- The time that is left of the active goal, as `storeNormalGoal` computes it. -/
def remainingTime (t : TrajectoryMotion α) : α :=
  max (Constants.lowestSampleTime α)
    (t.motionStep.internalGoal.duration.val - t.motionStep.data.timePassed)

theorem control_storeNormalGoal (t : TrajectoryMotion α) :
    t.storeNormalGoal.control = t.control.store t.remainingTime := by
  unfold storeNormalGoal Control.store
  cases h : t.trajectories.pCurrent <;> simp [control, setCurrent, remainingTime, h]

theorem control_resetComponents (t : TrajectoryMotion α) :
    t.resetComponents.control = t.control.reset t.remainingTime := by
  have h := control_pushCurrentFront t.storeNormalGoal
  rw [control_storeNormalGoal] at h
  unfold Control.reset
  rw [← h]
  rfl

omit [Field α] [LinearOrder α] in
theorem control_handleRampDownEvents (t : TrajectoryMotion α) :
    t.handleRampDownEvents.control = t.control.handle := by
  obtain ⟨conf, ⟨new, active, events, updated, progress⟩, trajectories, manager, m, c, trace⟩ := t
  obtain ⟨stop, resume, discard, ramp, start, fast, position, velocity, finish, pg, vg, update, f⟩ :=
    events
  cases discard <;> cases update <;> rfl

variable [Cmath α]

/-- The loop over points to be reached: the points retrieved are the first ones; the goal is the
last point retrieved, and without success no point is left. -/
theorem reachLoop_points (m : MotionStep α) (lastPoint : Bool) (points : List (PointGoal α)) :
    (reachLoop m lastPoint points).2.2.2 ++ (reachLoop m lastPoint points).2.2.1 = points ∧
    ((reachLoop m lastPoint points).2.1 = false → (reachLoop m lastPoint points).2.2.1 = []) ∧
    (m.externalGoal :: (reachLoop m lastPoint points).2.2.2).getLast? =
      some (reachLoop m lastPoint points).1.externalGoal := by
  induction points generalizing m with
  | nil => simp [reachLoop, MotionStep.prepareNormalGoal]
  | cons point points ih =>
      simp only [reachLoop]
      split
      · obtain ⟨hpoints, hleft, hlast⟩ := ih { m.prepareNormalGoal lastPoint with
          externalGoal := point }
        refine ⟨by rw [List.cons_append, hpoints], hleft, ?_⟩
        rw [List.getLast?_cons_cons]
        exact hlast
      · simp [MotionStep.prepareNormalGoal]

/-- The same for the first point, which is retrieved in any case. -/
theorem nextGoal_points (m : MotionStep α) (point : PointGoal α) (points : List (PointGoal α)) :
    (nextGoal m (point :: points)).2.2.2 ++ (nextGoal m (point :: points)).2.2.1 =
      point :: points ∧
    ((nextGoal m (point :: points)).2.1 = false →
      (nextGoal m (point :: points)).2.2.1 = []) ∧
    (nextGoal m (point :: points)).2.2.2.getLast? =
      some (nextGoal m (point :: points)).1.externalGoal := by
  simp only [nextGoal]
  split
  · obtain ⟨hpoints, hleft, hlast⟩ :=
      reachLoop_points { m with externalGoal := point } points.isEmpty points
    exact ⟨by rw [List.cons_append, hpoints], hleft, hlast⟩
  · simp [MotionStep.prepareNormalGoal]

/-- `updateNormalGoal` follows the rules of `NextGoal`. -/
theorem updateNormalGoal_nextGoal (t : TrajectoryMotion α) :
    Control.NextGoal t.control t.updateNormalGoal.control := by
  unfold updateNormalGoal
  cases hcurrent : t.trajectories.pCurrent with
  | none => exact .empty hcurrent
  | some current =>
      obtain ⟨points⟩ := current
      cases points with
      | nil => exact .exhausted [] t.motionStep.externalGoal hcurrent
      | cons point points =>
          obtain ⟨hpoints, hleft, hlast⟩ := nextGoal_points t.motionStep point points
          simp only
          generalize nextGoal t.motionStep (point :: points) = r at hpoints hleft hlast ⊢
          obtain ⟨m, success, left, retrieved⟩ := r
          obtain ⟨skipped, hskipped⟩ := List.getLast?_eq_some_iff.mp hlast
          simp only at hpoints hleft hskipped
          subst hskipped
          cases success with
          | true =>
              exact .found skipped m.externalGoal left (by
                rw [show t.control.pCurrent = _ from hcurrent, ← hpoints]
                simp)
          | false =>
              obtain rfl : left = [] := hleft rfl
              rw [List.append_nil] at hpoints
              have h := Control.NextGoal.exhausted (c := t.control) _ m.externalGoal hcurrent
              rw [← hpoints] at h
              exact h

theorem control_applyStaticGoal (t : TrajectoryMotion α) :
    t.applyStaticGoal.control = t.control.applyStaticGoal := by
  unfold applyStaticGoal Control.applyStaticGoal
  rw [control_events]
  cases hposition : t.events.doStaticPositionGoalUpdate && !t.events.doRampDown with
  | true => simp only [hposition, if_true]; rfl
  | false =>
      cases hvelocity : t.events.doStaticVelocityGoalUpdate && !t.events.doRampDown with
      | true => simp only [hposition, hvelocity, if_true, Bool.false_eq_true, if_false]; rfl
      | false => simp only [hposition, hvelocity, Bool.false_eq_true, if_false]

theorem processNormalState_turn (t : TrajectoryMotion α)
    (hstate : t.stateManager.currentState = .normal) :
    Control.Turn t.control t.processNormalState.control := by
  unfold processNormalState
  cases hsub : t.stateManager.currentSubState with
  | none => exact .shouldNeverOccur hstate (by simp [control, hsub])
  | finished => exact .shouldNeverOccur hstate (by simp [control, hsub])
  | running =>
      cases hramp : t.events.doRampDown with
      | true => exact .interrupt hstate hsub hramp
      | false =>
          simp only [Bool.false_eq_true, if_false]
          cases hcurrent : t.trajectories.pCurrent with
          | some current =>
              have hne : t.control.pCurrent ≠ none := by simp [control, hcurrent]
              have hadvance := Control.Turn.advance _ hstate hsub hramp hne
                t.updateNormalGoal_nextGoal
              have hcontinue := Control.Turn.continue (c := t.control) hstate hsub hramp
              simp only
              split_ifs
              · exact hadvance
              · exact hcontinue
              · exact hadvance
              · exact hcontinue
          | none =>
              cases hqueue : t.trajectories.primaryQueue with
              | nil => exact .continue hstate hsub hramp
              | cons next queue =>
                  refine .take next queue _ hstate hsub hramp hcurrent hqueue ?_
                  exact updateNormalGoal_nextGoal ({ t with
                    trajectories := { t.trajectories with
                      primaryQueue := queue
                      pCurrent := some next } }.log [.taken next])

theorem processRampDownState_turn (t : TrajectoryMotion α)
    (hstate : t.stateManager.currentState = .rampDown) :
    Control.Turn t.control t.processRampDownState.control := by
  unfold processRampDownState
  cases hsub : t.stateManager.currentSubState with
  | none =>
      have h := Control.Turn.startRampDown (c := t.control) t.remainingTime hstate hsub
      simp only [control_request, control_setGoal]
      rw [apply_ite control, control_storeNormalGoal]
      exact h
  | running =>
      simp only
      split
      · exact .finishRampDown hstate hsub
      · exact .continueRampDown hstate hsub
  | finished =>
      have hhandle := t.control_handleRampDownEvents
      simp only
      generalize t.handleRampDownEvents = u at hhandle
      have hstop' : u.events.doStop = t.control.events.doStop := congrArg (·.events.doStop) hhandle
      have hresume' : u.events.doResume = t.control.events.doResume :=
        congrArg (·.events.doResume) hhandle
      have hstatic' : u.events.doStaticGoalStart = t.control.events.doStaticGoalStart :=
        congrArg (·.events.doStaticGoalStart) hhandle
      by_cases hstop : u.events.doStop = true
      · rw [if_pos hstop]
        rw [hstop'] at hstop
        by_cases hresume : u.events.doResume = true
        · rw [if_pos hresume]
          rw [hresume'] at hresume
          by_cases hstatic : u.events.doStaticGoalStart = true
          · rw [if_pos (by exact hstatic)]
            rw [hstatic'] at hstatic
            have h := Control.Turn.enterStaticGoal hstate hsub hstop hresume hstatic
            rwa [← hhandle] at h
          · rw [if_neg (by exact hstatic)]
            rw [hstatic', Bool.not_eq_true] at hstatic
            rw [control_request]
            refine .resume _ hstate hsub hstop hresume hstatic ?_
            rw [← hhandle]
            exact updateNormalGoal_nextGoal (u.setEvents { u.events with
              doRampDown := false, doStop := false, doResume := false })
        · rw [if_neg hresume, hhandle]
          rw [hresume', Bool.not_eq_true] at hresume
          exact .wait hstate hsub hstop hresume
      · rw [if_neg hstop]
        rw [hstop', Bool.not_eq_true] at hstop
        rw [control_request]
        refine .rampedDown _ hstate hsub hstop ?_
        rw [← hhandle]
        exact updateNormalGoal_nextGoal (u.setEvents { u.events with doRampDown := false })

theorem processStaticGoalState_turn (t : TrajectoryMotion α)
    (hstate : t.stateManager.currentState = .staticGoal) :
    Control.Turn t.control t.processStaticGoalState.control := by
  unfold processStaticGoalState
  cases hsub : t.stateManager.currentSubState with
  | none =>
      have h := Control.Turn.startStaticGoal (c := t.control) hstate hsub
      have hnew : t.pushCurrentFront.data.hasNewGoal = t.control.hasNewGoal := by
        unfold pushCurrentFront
        split <;> rfl
      rw [← control_pushCurrentFront, ← hnew] at h
      exact h
  | running =>
      have h := Control.Turn.executeStaticGoal (c := t.control) hstate hsub
      have happly := t.control_applyStaticGoal
      have hfinish : t.applyStaticGoal.events.doStaticGoalFinish =
          t.control.events.doStaticGoalFinish := by
        rw [← control_events, happly]; simp
      have hramp : t.applyStaticGoal.events.doRampDown = t.control.events.doRampDown := by
        rw [← control_events, happly]; simp
      rw [← happly, ← hfinish, ← hramp] at h
      simp only
      split_ifs at h ⊢
      · exact h
      · exact h
      · exact h
  | finished => exact .finishStaticGoal hstate hsub

/-- **One `process` follows the rules of `Turn`.** -/
theorem process_turn (t : TrajectoryMotion α) :
    Control.Turn t.control.updateState t.process.control := by
  unfold process
  simp only
  cases hstate : t.stateManager.updateState.currentState with
  | normal => exact processNormalState_turn { t with stateManager := t.stateManager.updateState } hstate
  | rampDown =>
      exact processRampDownState_turn { t with stateManager := t.stateManager.updateState } hstate
  | staticGoal =>
      exact processStaticGoalState_turn { t with stateManager := t.stateManager.updateState } hstate

theorem externalGoal_calculate (c : Controller α) (output : Output α) (m : MotionStep α) :
    (c.calculate output m).2.2.externalGoal = m.externalGoal := by
  unfold Controller.calculate
  simp only
  split <;> rfl

/-- The numbers do not decide over states and queues. -/
@[simp] theorem control_executeGoal (t : TrajectoryMotion α) (outputs : Output α) :
    (t.executeGoal outputs).1.control = t.control := by
  unfold executeGoal
  cases hnew : t.data.hasNewGoal <;> cases hactive : t.data.hasActiveGoal <;>
    simp [control, hactive, externalGoal_calculate, MotionStep.evaluateInterpolator,
      MotionStep.updateInterpolator]

omit [Field α] [LinearOrder α] [Cmath α] in
@[simp] theorem control_updateExecutionProgress (t : TrajectoryMotion α) (outputs : Output α)
    (inputs : InputContainer α) :
    (t.updateExecutionProgress outputs inputs).control = t.control := rfl

variable [FloorRing α]

omit [Cmath α] [FloorRing α] in
theorem control_checkStates (t : TrajectoryMotion α) (statesOk : Bool) :
    (t.checkStates statesOk).control = t.control.checkStates statesOk t.remainingTime := by
  unfold checkStates Control.checkStates
  rw [show t.control.manager = t.stateManager from rfl]
  cases statesOk with
  | true =>
      simp only [if_true]
      rw [apply_ite control]
      rfl
  | false =>
      simp only [Bool.false_eq_true, if_false]
      rw [apply_ite control, ← control_resetComponents]
      rfl

omit [Cmath α] in
theorem control_prepare (t : TrajectoryMotion α) (inputs : InputContainer α) :
    (t.prepare inputs).control =
      t.control.prepare inputs.firstMessage inputs.statesOk t.remainingTime := by
  unfold prepare Control.prepare
  simp only
  have hreceive : (t.receive inputs).resetComponents.control = t.control.reset t.remainingTime :=
    control_resetComponents (t.receive inputs)
  cases inputs.firstMessage with
  | false =>
      have h := control_checkStates (t.receive inputs) inputs.statesOk
      exact congrArg (fun c => c.setGoal false c.hasActiveGoal) h
  | true =>
      rw [if_pos rfl, if_pos rfl, ← hreceive]
      -- after the reset the machine is inactive, so that the queues are not cleared
      cases inputs.statesOk <;> rfl

/-- **A callback with ok states**: the resets of a first message, then one `Turn`. -/
theorem generateOutputs_ok (t : TrajectoryMotion α) (outputs : Output α)
    (inputs : InputContainer α) (hok : inputs.statesOk = true) :
    Control.Turn
      (({ t.control with trace := [] }.prepare inputs.firstMessage true t.remainingTime).updateState)
      (t.generateOutputs outputs inputs).1.control := by
  unfold generateOutputs
  simp only [hok, if_true, control_updateExecutionProgress, control_executeGoal]
  have h := process_turn ({ t with trace := [] }.prepare inputs)
  rw [control_prepare, hok] at h
  exact h

/-- Within a session, a callback with ok states is one turn from the state before it. -/
theorem generateOutputs_session {t : TrajectoryMotion α} (outputs : Output α)
    {inputs : InputContainer α} (hok : inputs.statesOk = true) (hfirst : inputs.firstMessage = false)
    (hv : t.stateManager.verifyState .normal .none = false) :
    Control.Turn (Control.setGoal { t.control with trace := [] } false
      t.control.hasActiveGoal).updateState (t.generateOutputs outputs inputs).1.control := by
  have hturn := generateOutputs_ok t outputs inputs hok
  rwa [hfirst, Control.prepare_session { t.control with trace := [] } _ hv] at hturn

/-- **A callback with not-ok states** only prepares. -/
theorem generateOutputs_notOk (t : TrajectoryMotion α) (outputs : Output α)
    (inputs : InputContainer α) (hok : inputs.statesOk = false) :
    (t.generateOutputs outputs inputs).1.control =
      { t.control with trace := [] }.prepare inputs.firstMessage false t.remainingTime := by
  unfold generateOutputs
  simp only [hok, Bool.false_eq_true, if_false, control_updateExecutionProgress]
  rw [control_prepare, hok]
  rfl

omit [Cmath α] [FloorRing α] in
theorem call_fst (t : TrajectoryMotion α) (call : TrajectoryCall α)
    (h : call ≠ .retrieveExecutionProgress) :
    (t.call call).1 = call.acceptedIn t.stateManager := by
  cases call with
  | retrieveExecutionProgress => exact absurd rfl h
  | addTrajectory trajectory override =>
      simp only [TrajectoryMotion.call, addTrajectory, TrajectoryCall.acceptedIn]
      split_ifs <;> simp_all
  | _ =>
      simp only [TrajectoryMotion.call, stopTrajectory, resumeTrajectory, updateDurationFactor,
        startStaticGoal, setStaticPositionGoal, setStaticVelocityGoal, finishStaticGoal, command,
        TrajectoryCall.acceptedIn]
      split <;> simp_all

omit [Cmath α] [FloorRing α] in
theorem call_accepted {t : TrajectoryMotion α} {call : TrajectoryCall α}
    (h : call.acceptedIn t.stateManager = true) : (t.call call).1 = true :=
  (t.call_fst call (by rintro rfl; cases h)).trans h

omit [Cmath α] [FloorRing α] in
theorem addTrajectory_fst (t : TrajectoryMotion α) (trajectory : TrajectoryGoal α)
    (override : Bool) :
    (t.addTrajectory trajectory override).1 = t.control.manager.verifyState .normal .running :=
  t.call_fst (.addTrajectory trajectory override) (by simp)

/-- The trajectories a step of a run accepts. -/
def acceptedTrajectories (t : TrajectoryMotion α) : Action α → List (Trajectory α)
  | .call (.addTrajectory trajectory override) =>
      if (t.addTrajectory trajectory override).1 then [Trajectory.of trajectory] else []
  | _ => []

omit [Field α] [LinearOrder α] [Cmath α] [FloorRing α] in
theorem control_command (t : TrajectoryMotion α) (state : States) (subState : SubStates)
    (f : PendingEvents α → PendingEvents α) :
    (t.command state subState f).2.control =
      if t.control.manager.verifyState state subState then t.control.setEvents (f t.control.events)
      else t.control := by
  unfold command
  rw [show t.control.manager = t.stateManager from rfl]
  split <;> rfl

omit [Cmath α] [FloorRing α] in
theorem control_call (t : TrajectoryMotion α) (call : TrajectoryCall α) :
    (t.call call).2.control = t.control.call call := by
  cases call with
  | addTrajectory trajectory override =>
      unfold TrajectoryMotion.call addTrajectory Control.call
      change _ = if t.stateManager.verifyState .normal .running = true then _ else _
      simp only
      by_cases h : t.stateManager.verifyState .normal .running = true
      · rw [if_pos h, if_pos h]
        cases override with
        | true => rfl
        | false =>
            simp only [Control.enqueue, Bool.false_eq_true, if_false]
            by_cases hd : t.events.doDiscard = true
            · rw [if_pos hd, if_pos (show t.control.events.doDiscard = true from hd)]
              rfl
            · rw [if_neg hd, if_neg (show ¬t.control.events.doDiscard = true from hd)]
              rfl
      · rw [if_neg h, if_neg h]
  | retrieveExecutionProgress =>
      simp only [TrajectoryMotion.call, retrieveExecutionProgress, Control.call,
        TrajectoryCall.acceptedIn]
      split <;> rfl
  | _ => exact control_command t _ _ _

omit [Cmath α] [FloorRing α] in
/-- A command does not touch the motion step. -/
theorem call_motionStep (t : TrajectoryMotion α) (call : TrajectoryCall α) :
    (t.call call).2.motionStep = t.motionStep := by
  cases call with
  | addTrajectory trajectory override =>
      unfold TrajectoryMotion.call addTrajectory
      simp only
      split_ifs <;> rfl
  | retrieveExecutionProgress =>
      unfold TrajectoryMotion.call retrieveExecutionProgress
      simp only
      split <;> rfl
  | _ =>
      unfold TrajectoryMotion.call
      simp only [stopTrajectory, resumeTrajectory, updateDurationFactor, startStaticGoal,
        setStaticPositionGoal, setStaticVelocityGoal, finishStaticGoal, command]
      split <;> rfl

/-- **The machine follows the rules of `Control.Step`.** -/
theorem step_control (t : TrajectoryMotion α) (a : Action α) :
    Control.Step t.control a (t.step a).control := by
  cases a with
  | generateOutputs outputs inputs =>
      cases hok : inputs.statesOk with
      | true => exact .ok outputs inputs _ _ hok (generateOutputs_ok t outputs inputs hok)
      | false =>
          have h := Control.Step.notOk (c := t.control) outputs inputs t.remainingTime hok
          rwa [← generateOutputs_notOk t outputs inputs hok] at h
  | call call =>
      have h := Control.Step.call (c := t.control) call
      rwa [← control_call] at h
  | updateConfigurations configurations => exact .updateConfigurations configurations

/-! ### Runs -/

/-- In every reachable state a pending state is a legal successor of the current one. -/
theorem legal_run (configurations : TrajectoryConfiguration α) (es : List (Action α)) :
    Control.Legal (run step (init configurations) es).stateManager := by
  have hinit : Control.Legal (init configurations).stateManager :=
    fun h => absurd h (by simp [init, StateManager.init])
  exact run_inv (I := fun t : TrajectoryMotion α => Control.Legal t.stateManager)
    (fun t a ht => (t.step_control a).legal ht) es hinit

end TrajectoryMotion

end AbbWrapper
