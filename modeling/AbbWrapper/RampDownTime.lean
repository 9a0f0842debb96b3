import AbbWrapper.RemainingTime

/-! # The time of a ramp down

A ramp down to a stop takes `RAMP_DOWN_STOP_DURATION`.  The time of the motion step starts from zero
with it, and goes on by the sample time in every callback.

* The state that a callback of a session processes is known before (`processed_session`).
* `executeGoal_time` says what becomes of the time at the numeric end of a callback.
* A callback that processes (RampDown, None) while a stop is ordered prepares the duration of the stop
  (`rampDown_started`).  One that processes (RampDown, Running), and goes on, has not reached it
  (`rampDown_continued`).

With these two a ramp down can be counted in callbacks: whoever waits for its end takes the duration by
the sample time. -/

namespace AbbWrapper

open Protobuf Runs

variable {α : Type} [Field α] [LinearOrder α] [Cmath α] [FloorRing α]

namespace TrajectoryMotion

omit [FloorRing α] in
/-- The time of an active goal goes on by the sample time; a new goal starts from zero. -/
theorem executeGoal_time {t : TrajectoryMotion α} (hactive : t.data.hasActiveGoal = true)
    (outputs : Output α) :
    (t.executeGoal outputs).1.motionStep.data.timePassed =
        (if t.data.hasNewGoal then 0 else t.motionStep.data.timePassed) +
          t.motionStep.data.estimatedSampleTime ∧
      (t.executeGoal outputs).1.motionStep.interpolator.getDuration =
        if t.data.hasNewGoal then
          max (Constants.lowestSampleTime α) t.motionStep.interpolatorConditions.duration
        else t.motionStep.interpolator.getDuration := by
  have hactive' := t.hasActiveGoal_startGoal.trans hactive
  have hrewrites := (Controller.calculate_frame t.startGoal.controller outputs
    t.startGoal.motionStep.evaluateInterpolator).2.eq
  rw [executeGoal_eq, if_pos hactive']
  have htime := congrArg (·.data.timePassed) hrewrites
  have hduration := congrArg (·.interpolator.getDuration) hrewrites
  refine ⟨htime.trans ?_, hduration.trans ?_⟩
  · change t.startGoal.motionStep.data.timePassed + t.startGoal.motionStep.data.estimatedSampleTime =
      _
    unfold startGoal
    split <;> rfl
  · change t.startGoal.motionStep.interpolator.getDuration = _
    unfold startGoal
    split
    · exact congrArg Conditions.duration (EGMInterpolator.update_frame _ _ _ _).1
    · rfl

omit [Cmath α] in
/-- The state a callback of a session processes. -/
theorem processed_session {t : TrajectoryMotion α} {inputs : InputContainer α}
    (hok : inputs.statesOk = true) (hfirst : inputs.firstMessage = false)
    (hv : t.stateManager.verifyState .normal .none = false) :
    t.processed inputs = t.control.next := by
  have hcontrol : (t.prepared inputs).control =
      { t.control with trace := [] }.prepare false true t.remainingTime := by
    have h := control_prepare { t with trace := [] } inputs
    rw [hok, hfirst] at h
    exact h
  change (t.prepared inputs).control.next = t.control.next
  rw [hcontrol, Control.prepare_session _ _ hv]
  rfl

omit [FloorRing α] in
/-- What the start of a ramp down prepares. -/
theorem processRampDownState_prepared {t : TrajectoryMotion α}
    (hsub : t.stateManager.currentSubState = .none) :
    t.processRampDownState.data.hasNewGoal = true ∧
      t.processRampDownState.data.hasActiveGoal = true ∧
      t.processRampDownState.motionStep.data = t.motionStep.data ∧
      t.processRampDownState.motionStep.interpolatorConditions =
        (t.motionStep.prepareRampDownGoal t.events.doStop).interpolatorConditions := by
  unfold processRampDownState
  simp only [hsub]
  refine ⟨rfl, rfl, ?_, ?_⟩
  · split
    · unfold storeNormalGoal
      split <;> rfl
    · rfl
  · split
    · exact storeNormalGoal_conditions _
    · rfl

/-- A ramp down to a stop takes `RAMP_DOWN_STOP_DURATION`. -/
theorem rampDown_started {t : TrajectoryMotion α} {inputs : InputContainer α}
    (hlegal : Control.Legal t.stateManager) (hok : inputs.statesOk = true)
    (hplace : t.processed inputs = (.rampDown, .none)) (hstop : t.events.doStop = true)
    (outputs : Output α) :
    (t.step (.generateOutputs outputs inputs)).data.hasActiveGoal = true ∧
      (t.step (.generateOutputs outputs inputs)).motionStep.interpolator.getDuration =
        max (Constants.lowestSampleTime α) MotionStep.rampDownStopDuration ∧
      (t.step (.generateOutputs outputs inputs)).motionStep.data.timePassed =
        inputs.estimatedSampleTime := by
  obtain ⟨hprocess, -, hsub⟩ := process_rampDown hlegal hok hplace
  obtain ⟨hnew, hactive, hdata, hconditions⟩ := processRampDownState_prepared hsub
  obtain ⟨htime, hduration⟩ := executeGoal_time hactive outputs
  obtain ⟨-, -, -, hkept⟩ :=
    executeGoal_frame (t.enterRampDown inputs).processRampDownState outputs
  have hevents : (t.enterRampDown inputs).events.doStop = true := hstop
  rw [step, generateOutputs, hok]
  change ((t.prepared inputs).process.executeGoal outputs).1.data.hasActiveGoal = true ∧
    ((t.prepared inputs).process.executeGoal outputs).1.motionStep.interpolator.getDuration = _ ∧
    ((t.prepared inputs).process.executeGoal outputs).1.motionStep.data.timePassed = _
  rw [hprocess, hkept, htime, hduration, hnew, hdata, hconditions, hevents]
  exact ⟨hactive, rfl, zero_add _⟩

/-- A ramp down that is not over goes on by the sample time. -/
theorem rampDown_continued {t : TrajectoryMotion α} {inputs : InputContainer α}
    (hlegal : Control.Legal t.stateManager) (hok : inputs.statesOk = true)
    (hplace : t.processed inputs = (.rampDown, .running)) (hactive : t.data.hasActiveGoal = true)
    (outputs : Output α)
    (hnext : (t.step (.generateOutputs outputs inputs)).control.next = (.rampDown, .running)) :
    t.motionStep.interpolationDurationReached = false ∧
      (t.step (.generateOutputs outputs inputs)).data.hasActiveGoal = true ∧
      (t.step (.generateOutputs outputs inputs)).motionStep.interpolator.getDuration =
        t.motionStep.interpolator.getDuration ∧
      (t.step (.generateOutputs outputs inputs)).motionStep.data.timePassed =
        t.motionStep.data.timePassed + inputs.estimatedSampleTime := by
  obtain ⟨hprocess, hstate, hsub⟩ := process_rampDown hlegal hok hplace
  have hmotion : (t.enterRampDown inputs).motionStep = (t.receive inputs).motionStep := rfl
  have hactive : (t.enterRampDown inputs).data.hasActiveGoal = true := hactive
  have hnone : (t.enterRampDown inputs).data.hasNewGoal = false := rfl
  generalize t.enterRampDown inputs = u at *
  have hreached : t.motionStep.interpolationDurationReached =
      u.motionStep.interpolationDurationReached := by rw [hmotion]; rfl
  have hcontrol : (t.step (.generateOutputs outputs inputs)).control =
      u.processRampDownState.control := by
    rw [← hprocess, step, generateOutputs, hok]
    exact (control_updateExecutionProgress _ _ _).trans (control_executeGoal _ _)
  rw [hcontrol] at hnext
  unfold processRampDownState at hprocess hnext
  simp only [hsub, ← hreached] at hprocess hnext
  cases hover : t.motionStep.interpolationDurationReached with
  | true =>
      rw [hover, if_pos rfl, control_request, Control.next_request] at hnext
      · cases hnext
      · simp [StateManager.accepts, control, hstate, hsub]
  | false =>
      rw [hover, if_neg Bool.false_ne_true] at hprocess
      obtain ⟨htime, hduration⟩ := executeGoal_time hactive outputs
      obtain ⟨-, -, -, hkept⟩ := executeGoal_frame u outputs
      rw [step, generateOutputs, hok]
      change false = false ∧
        ((t.prepared inputs).process.executeGoal outputs).1.data.hasActiveGoal = true ∧
        ((t.prepared inputs).process.executeGoal outputs).1.motionStep.interpolator.getDuration =
          _ ∧ ((t.prepared inputs).process.executeGoal outputs).1.motionStep.data.timePassed = _
      rw [hprocess, hkept, htime, hduration, hnone, hmotion]
      exact ⟨rfl, hactive, rfl, rfl⟩

end TrajectoryMotion

end AbbWrapper
