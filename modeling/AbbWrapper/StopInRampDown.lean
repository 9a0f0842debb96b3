import AbbWrapper.ActivationStart
import AbbWrapper.CompleteStop
import AbbWrapper.RampDownTime
import AbbWrapper.StaticOrders
import AbbWrapper.VectorSizes

/-! # Ramp downs to a stop

The orders that a ramp down has been started with cannot change until it is finished
(`StopsInRampDown`): where `do_stop` is set in (RampDown, Finished), the ramp down was one to a
stop, and its time is over.

* `RampsToStop` says that the active goal is a ramp down to a stop, whose end is at rest, and `HasStopped`
  that its time is over and its end has been evaluated.
* `evaluated` is the evaluation of an active goal, and `enteredRampDown` what a callback in RampDown
  evaluates.
* `Received` says of a step that its sample time is one that `estimateSampleTime` can return, and that
  the feedback of a reset has no more robot joints than there are polynomials.

There is one lemma for each kind of callback: the ramp down starts, goes on, is finished, or waits
(`callback_starts`, `callback_continues`, `callback_finishes`, `callback_waits`).  Once its time is over
a stop holds still (`HasStopped.holds`). -/

namespace AbbWrapper

open Protobuf Runs

variable {α : Type} [Field α] [LinearOrder α] [Cmath α]

namespace EGMInterpolator

omit [LinearOrder α] [Cmath α] in
theorem EndsAtRest.congr {e : EGMInterpolator α} {r s : References α} (he : e.EndsAtRest r)
    (h : s.SameSizes r) : e.EndsAtRest s :=
  ⟨h.robotPosition ▸ he.joints, he.axes, h.externalPosition ▸ he.external⟩

end EGMInterpolator

omit [Field α] [LinearOrder α] [Cmath α] in
theorem PointGoal.sameSizes_of_shape {p q : PointGoal α} (h : p.shape = q.shape) :
    p.references.SameSizes q.references := by
  simp only [PointGoal.shape, JointGoal.vectorSizes, Prod.mk.injEq, List.cons.injEq, and_true] at h
  obtain ⟨⟨hposition, hvelocity, -⟩, hposition', hvelocity', -⟩ := h
  exact ⟨hposition, hvelocity, hposition', hvelocity'⟩

omit [LinearOrder α] [Cmath α] in
/-- A reset creates as many velocities, of the external joints as well, as the feedback has robot
joints. -/
theorem MotionStep.resetMotionStep_haveSplines (m : MotionStep α)
    (h : m.robotJoints ≤ maxNumberOfSplines) :
    m.resetMotionStep.interpolation.references.HaveSplines := by
  have hreset : (Joints.reset m.robotJoints : Joints α).valuesSize ≤ maxNumberOfSplines :=
    List.length_replicate.trans_le h
  exact ⟨hreset, hreset⟩

namespace Control

omit [Cmath α] in
/-- From the start of a ramp down to its end only an order to resume is accepted. -/
theorem Legal.call_rampDown {c : Control α} (hc : Legal c.manager)
    (h : c.next = (.rampDown, .running) ∨ c.next = (.rampDown, .finished) ∨
      c.manager.verifyState .rampDown .finished = true) {call : TrajectoryCall α}
    (hresume : call ≠ .resumeTrajectory) : c.call call = c := by
  have hnormal : c.manager.verifyState .normal .running = false := by
    cases hv : c.manager.verifyState .normal .running with
    | false => rfl
    | true =>
        simp only [StateManager.verifyState, decide_eq_true_eq] at h
        rcases next_of_normal hc hv with hnext | hnext <;>
          simp [StateManager.verifyState, hnext] at h hv <;> simp [hv] at h
  have hstatic : c.manager.verifyState .staticGoal .running = false := by
    cases hv : c.manager.verifyState .staticGoal .running with
    | false => rfl
    | true =>
        simp only [StateManager.verifyState, decide_eq_true_eq] at h
        rcases next_of_staticGoal hc hv with hnext | hnext | ⟨hnext, -⟩ <;>
          simp [StateManager.verifyState, hnext] at h hv <;> simp [hv] at h
  apply call_rejected
  cases call with
  | resumeTrajectory => exact absurd rfl hresume
  | setStaticPositionGoal goal fast => exact hstatic
  | setStaticVelocityGoal goal fast => exact hstatic
  | finishStaticGoal resume => exact hstatic
  | retrieveExecutionProgress => rfl
  | _ => exact hnormal

omit [Cmath α] in
theorem Legal.call_doStop {c : Control α} (hc : Legal c.manager)
    (h : c.next = (.rampDown, .running) ∨ c.next = (.rampDown, .finished) ∨
      c.manager.verifyState .rampDown .finished = true) (call : TrajectoryCall α) :
    (c.call call).events.doStop = c.events.doStop := by
  by_cases hresume : call = .resumeTrajectory
  · subst hresume
    unfold Control.call
    split <;> rfl
  · rw [hc.call_rampDown h hresume]

omit [Field α] [LinearOrder α] [Cmath α] in
/-- A finished ramp down to a stop waits for an order to resume. -/
theorem Decides.waits {e e' : PendingEvents α} {s : States × SubStates}
    (h : Decides e (.rampDown, .finished) e' s) (hstop : e.doStop = true)
    (hresume : e.doResume = false) : e' = handled e ∧ s = (.rampDown, .finished) := by
  cases h with
  | wait => exact ⟨rfl, rfl⟩
  | enterStaticGoal _ hresume' => exact absurd hresume' (by simp [hresume])
  | resume _ hresume' => exact absurd hresume' (by simp [hresume])
  | rampedDown hstop' => exact absurd hstop (by simp [hstop'])

omit [Field α] [LinearOrder α] [Cmath α] in
/-- Not-ok states end the session. -/
theorem prepare_notOk (c : Control α) (firstMessage : Bool) (duration : α) :
    (c.prepare firstMessage false duration).manager.verifyState .normal .none = true := by
  have hcheck (d : Control α) :
      (d.checkStates false duration).manager.verifyState .normal .none = true := by
    unfold checkStates
    by_cases hv : d.manager.verifyState .normal .none = true
    · simp [hv]
    · simp [hv]
      rfl
  exact hcheck _

end Control

namespace TrajectoryMotion

/-! ### The goal of a ramp down to a stop -/

/-- The active goal is a ramp down to a stop. -/
structure RampsToStop (t : TrajectoryMotion α) : Prop where
  active : t.data.hasActiveGoal = true
  stops : t.motionStep.interpolator.Stops
  rest : t.motionStep.interpolator.EndsAtRest t.motionStep.interpolation.references
  passes : t.controller.Passes
  mode : t.controller.egmMode = t.motionStep.interpolator.conditions.mode
  sizes : t.motionStep.interpolation.references.SameSizes t.controller.initialReferences.references

/-- The ramp down is over, and its end has been evaluated. -/
structure HasStopped (t : TrajectoryMotion α) : Prop extends RampsToStop t where
  time : t.motionStep.interpolator.conditions.duration ≤ t.motionStep.data.timePassed
  settled : t.motionStep.interpolator.rampedDown t.motionStep.interpolation.references =
    t.motionStep.interpolation.references

/-- An active goal is evaluated. -/
def evaluated (t : TrajectoryMotion α) (outputs : Output α) : TrajectoryMotion α :=
  let r := t.controller.calculate outputs t.motionStep.evaluateInterpolator
  { t with controller := r.1, motionStep := r.2.2 }

theorem evaluated_motionStep (t : TrajectoryMotion α) (outputs : Output α) :
    (t.evaluated outputs).motionStep.interpolator = t.motionStep.interpolator ∧
      (t.evaluated outputs).motionStep.data.timePassed =
        t.motionStep.data.timePassed + t.motionStep.data.estimatedSampleTime := by
  have hrewrites := (Controller.calculate_frame t.controller outputs
    t.motionStep.evaluateInterpolator).2.eq
  have hinterpolator := congrArg MotionStep.interpolator hrewrites
  have htime := congrArg (·.data.timePassed) hrewrites
  exact ⟨hinterpolator, htime⟩

theorem RampsToStop.references {t : TrajectoryMotion α} (ht : t.RampsToStop) (outputs : Output α) :
    (t.evaluated outputs).motionStep.interpolation.references =
      (t.motionStep.interpolator.evaluate t.motionStep.interpolation
        t.motionStep.data.estimatedSampleTime
        (t.motionStep.data.timePassed + t.motionStep.data.estimatedSampleTime)).references :=
  (ht.passes.calculate outputs t.motionStep.evaluateInterpolator).2.2.2

theorem RampsToStop.evaluated {t : TrajectoryMotion α} (ht : t.RampsToStop) (outputs : Output α) :
    (t.evaluated outputs).RampsToStop := by
  obtain ⟨hpasses, hmode, hinitial, -⟩ :=
    ht.passes.calculate outputs t.motionStep.evaluateInterpolator
  obtain ⟨hinterpolator, -⟩ := t.evaluated_motionStep outputs
  have hsizes := PointGoal.sameSizes_of_shape (t.motionStep.interpolator.shape_evaluate
    t.motionStep.interpolation t.motionStep.data.estimatedSampleTime
    (t.motionStep.data.timePassed + t.motionStep.data.estimatedSampleTime))
  rw [← ht.references outputs] at hsizes
  refine ⟨ht.active, ?_, ?_, hpasses, ?_, ?_⟩
  · rw [hinterpolator]
    exact ht.stops
  · rw [hinterpolator]
    exact ht.rest.congr hsizes
  · rw [hinterpolator]
    exact hmode.trans ht.mode
  · have hinitial' : (t.evaluated outputs).controller.initialReferences =
        t.controller.initialReferences := hinitial
    rw [hinitial']
    exact hsizes.trans ht.sizes

variable [IsStrictOrderedRing α] [ExactCmath α]

/-- Once the time is over, the end of the ramp down is evaluated. -/
theorem RampsToStop.hasStopped {t : TrajectoryMotion α} (ht : t.RampsToStop) (outputs : Output α)
    (htime : t.motionStep.interpolator.conditions.duration ≤
      t.motionStep.data.timePassed + t.motionStep.data.estimatedSampleTime) :
    (t.evaluated outputs).HasStopped ∧ (t.evaluated outputs).motionStep.interpolation.references =
      t.motionStep.interpolator.rampedDown t.motionStep.interpolation.references := by
  obtain ⟨hinterpolator, htime'⟩ := t.evaluated_motionStep outputs
  have hreferences := (ht.references outputs).trans
    (EGMInterpolator.evaluate_rampedDown ht.stops t.motionStep.interpolation
      t.motionStep.data.estimatedSampleTime htime)
  refine ⟨⟨ht.evaluated outputs, ?_, ?_⟩, hreferences⟩
  · rw [hinterpolator, htime']
    exact htime
  · rw [hinterpolator, hreferences, EGMInterpolator.rampedDown_rampedDown]

/-- **A stop holds still**: the references stay, and are passed on to the outputs. -/
theorem HasStopped.holds {t : TrajectoryMotion α} (ht : t.HasStopped) (outputs : Output α)
    (hsplines : t.motionStep.interpolation.references.HaveSplines)
    (hsample : 0 ≤ t.motionStep.data.estimatedSampleTime) :
    (t.evaluated outputs).HasStopped ∧
      (t.evaluated outputs).motionStep.interpolation.references =
        t.motionStep.interpolation.references ∧
      (t.controller.calculate outputs t.motionStep.evaluateInterpolator).2.1.HeldAt
        t.controller.egmMode outputs t.motionStep.data.feedback
        t.motionStep.interpolation.references := by
  have htime : t.motionStep.interpolator.conditions.duration ≤
      t.motionStep.data.timePassed + t.motionStep.data.estimatedSampleTime :=
    ht.time.trans (le_add_of_nonneg_right hsample)
  obtain ⟨hstopped, hreferences⟩ := ht.toRampsToStop.hasStopped outputs htime
  rw [ht.settled] at hreferences
  refine ⟨hstopped, hreferences, ?_⟩
  have hevaluated : t.motionStep.evaluateInterpolator.interpolation.references =
      t.motionStep.interpolation.references :=
    (EGMInterpolator.evaluate_rampedDown ht.stops t.motionStep.interpolation
      t.motionStep.data.estimatedSampleTime htime).trans ht.settled
  have hrest : t.motionStep.interpolation.references.AtRest t.controller.egmMode := by
    rw [ht.mode, ← ht.settled]
    exact ht.rest.atRest
  have hheld := ht.passes.heldAt outputs (m := t.motionStep.evaluateInterpolator)
  rw [hevaluated] at hheld
  apply hheld ht.sizes hsplines hrest
  · intro hmode
    rw [ht.mode] at hmode
    rw [← ht.settled]
    unfold EGMInterpolator.rampedDown
    simp only [hmode]
    rfl
  · intro hmode
    rw [ht.mode] at hmode
    rw [← ht.settled]
    unfold EGMInterpolator.rampedDown
    simp only [hmode]
    exact normalize_normalize _ _ _ _

/-! ### One callback -/

omit [IsStrictOrderedRing α] [ExactCmath α] in
theorem executeGoal_evaluated {t : TrajectoryMotion α} (hactive : t.data.hasActiveGoal = true)
    (outputs : Output α) : (t.executeGoal outputs).1 = t.startGoal.evaluated outputs ∧
      (t.executeGoal outputs).2 = (t.startGoal.controller.calculate outputs
        t.startGoal.motionStep.evaluateInterpolator).2.1 := by
  have hactive' := t.hasActiveGoal_startGoal.trans hactive
  refine ⟨?_, ?_⟩
  · rw [executeGoal_eq, if_pos hactive']
    rfl
  · unfold executeGoal
    change (if t.startGoal.data.hasActiveGoal = true then _ else _ :
      TrajectoryMotion α × Output α).2 = _
    rw [if_pos hactive']
    rfl

omit [IsStrictOrderedRing α] [ExactCmath α] in
/-- The execution of a goal changes no size of the references. -/
theorem shape_interpolation_executeGoal (t : TrajectoryMotion α) (outputs : Output α) :
    (t.executeGoal outputs).1.motionStep.interpolation.shape = t.motionStep.interpolation.shape := by
  have hstart : t.startGoal.motionStep.interpolation.shape = t.motionStep.interpolation.shape := by
    unfold startGoal
    split <;> rfl
  rw [executeGoal_eq]
  split
  · have hkeeps := Controller.calculate_keepsShape t.startGoal.controller outputs
      t.startGoal.motionStep.evaluateInterpolator
    exact (hkeeps.references.trans (EGMInterpolator.shape_evaluate _ _ _ _)).trans hstart
  · exact hstart

omit [IsStrictOrderedRing α] [ExactCmath α] [Cmath α] in
theorem RampsToStop.congr {t u : TrajectoryMotion α} (ht : t.RampsToStop)
    (hactive : u.data.hasActiveGoal = t.data.hasActiveGoal)
    (hinterpolator : u.motionStep.interpolator = t.motionStep.interpolator)
    (hreferences : u.motionStep.interpolation.references = t.motionStep.interpolation.references)
    (hcontroller : u.controller = t.controller) : u.RampsToStop := by
  constructor
  · exact hactive.trans ht.active
  · rw [hinterpolator]
    exact ht.stops
  · rw [hinterpolator, hreferences]
    exact ht.rest
  · rw [hcontroller]
    exact ht.passes
  · rw [hcontroller, hinterpolator]
    exact ht.mode
  · rw [hreferences, hcontroller]
    exact ht.sizes

omit [IsStrictOrderedRing α] [ExactCmath α] in
theorem HasStopped.congr {t u : TrajectoryMotion α} (ht : t.HasStopped)
    (hactive : u.data.hasActiveGoal = t.data.hasActiveGoal)
    (hinterpolator : u.motionStep.interpolator = t.motionStep.interpolator)
    (hreferences : u.motionStep.interpolation.references = t.motionStep.interpolation.references)
    (htime : u.motionStep.data.timePassed = t.motionStep.data.timePassed)
    (hcontroller : u.controller = t.controller) : u.HasStopped := by
  refine ⟨ht.toRampsToStop.congr hactive hinterpolator hreferences hcontroller, ?_, ?_⟩
  · rw [hinterpolator, htime]
    exact ht.time
  · rw [hinterpolator, hreferences]
    exact ht.settled

omit [ExactCmath α] in
/-- The start of a ramp down to a stop. -/
theorem rampsToStop_start {t : TrajectoryMotion α} (hnew : t.data.hasNewGoal = true)
    (hactive : t.data.hasActiveGoal = true) (hstate : t.stateManager.currentState = .rampDown)
    (hgain : t.controller.k = 1) (hmode : t.motionStep.interpolatorConditions.mode = t.motionStep.data.mode)
    (hconditions : EGMInterpolator.RampsToZero t.motionStep.interpolatorConditions) :
    t.startGoal.RampsToStop := by
  obtain ⟨hkept, hstops, hrest⟩ := EGMInterpolator.update_stops t.motionStep.interpolator
    { t.motionStep.interpolation with
      reach := .present t.motionStep.internalGoal.reach.get
      duration := .present t.motionStep.interpolatorConditions.duration }
    t.motionStep.internalGoal hconditions
  have hstart : t.startGoal = { t with
      motionStep := t.motionStep.updateInterpolator
      controller := t.controller.update t.stateManager.currentState t.motionStep.updateInterpolator
        t.configurations } := if_pos hnew
  rw [hstart]
  refine ⟨hactive, hstops, hrest, ⟨?_, hgain⟩, ?_, ⟨rfl, rfl, rfl, rfl⟩⟩
  · simp [Controller.update, hstate]
  · change t.motionStep.data.mode = _
    rw [← hmode]
    exact congrArg Conditions.mode hkept.symm

omit [IsStrictOrderedRing α] [ExactCmath α] in
/-- A ramp down that goes on, or waits, leaves the goal as it is. -/
theorem processRampDownState_goal {t : TrajectoryMotion α}
    (h : t.stateManager.currentSubState = .running ∨ t.stateManager.currentSubState = .finished ∧
      t.events.doStop = true ∧ t.events.doResume = false) :
    t.processRampDownState.data.hasNewGoal = t.data.hasNewGoal ∧
      t.processRampDownState.data.hasActiveGoal = t.data.hasActiveGoal ∧
      t.processRampDownState.motionStep.data.timePassed = t.motionStep.data.timePassed ∧
      t.processRampDownState.motionStep.data.estimatedSampleTime =
        t.motionStep.data.estimatedSampleTime ∧
      t.processRampDownState.motionStep.data.feedback = t.motionStep.data.feedback := by
  rcases processRampDownState_cases h with h | h | h
  · rw [h]
    exact ⟨rfl, rfl, rfl, rfl, rfl⟩
  · rw [h]
    exact ⟨rfl, rfl, rfl, rfl, rfl⟩
  · rw [h]
    unfold handleRampDownEvents
    simp only
    split <;> split <;> exact ⟨rfl, rfl, rfl, rfl, rfl⟩

variable [FloorRing α]

/-- What a callback in RampDown evaluates. -/
def enteredRampDown (t : TrajectoryMotion α) (inputs : InputContainer α) : TrajectoryMotion α :=
  (t.enterRampDown inputs).processRampDownState

omit [IsStrictOrderedRing α] [ExactCmath α] in
theorem callback_rampDown {t : TrajectoryMotion α} {inputs : InputContainer α}
    {subState : SubStates} (hlegal : Control.Legal t.stateManager) (hok : inputs.statesOk = true)
    (hplace : t.processed inputs = (.rampDown, subState)) (outputs : Output α) :
    (t.step (.generateOutputs outputs inputs)) =
        ((t.enteredRampDown inputs).executeGoal outputs).1.updateExecutionProgress
          ((t.enteredRampDown inputs).executeGoal outputs).2 inputs ∧
      (t.generateOutputs outputs inputs).2 =
        ((t.enteredRampDown inputs).executeGoal outputs).2 := by
  obtain ⟨hprocess, -, -⟩ := process_rampDown hlegal hok hplace
  have hprocess : ({ t with trace := [] }.prepare inputs).process = t.enteredRampDown inputs :=
    hprocess
  constructor
  · rw [step, generateOutputs, hok]
    simp only [if_true, hprocess]
  · rw [generateOutputs, hok]
    simp only [if_true, hprocess]

omit [IsStrictOrderedRing α] [ExactCmath α] in
/-- A ramp down that goes on, or waits, keeps what it evaluates. -/
theorem enteredRampDown_goal {t : TrajectoryMotion α} {inputs : InputContainer α}
    {subState : SubStates} (hlegal : Control.Legal t.stateManager) (hok : inputs.statesOk = true)
    (hplace : t.processed inputs = (.rampDown, subState))
    (h : subState = .running ∨ subState = .finished ∧ t.events.doStop = true ∧
      t.events.doResume = false) :
    (t.enteredRampDown inputs).startGoal = t.enteredRampDown inputs ∧
      (t.enteredRampDown inputs).data.hasActiveGoal = t.data.hasActiveGoal ∧
      (t.enteredRampDown inputs).motionStep.interpolator = t.motionStep.interpolator ∧
      (t.enteredRampDown inputs).motionStep.interpolation = t.motionStep.interpolation ∧
      (t.enteredRampDown inputs).motionStep.data.timePassed = t.motionStep.data.timePassed ∧
      (t.enteredRampDown inputs).motionStep.data.estimatedSampleTime =
        inputs.estimatedSampleTime ∧
      (t.enteredRampDown inputs).motionStep.data.feedback = inputs.current.feedback.get ∧
      (t.enteredRampDown inputs).controller = t.controller := by
  obtain ⟨-, -, hsub⟩ := process_rampDown hlegal hok hplace
  have hkeeps := (t.enterRampDown inputs).processRampDownState_keeps
  obtain ⟨hnew, hactive, htime, hsample, hfeedback⟩ :=
    processRampDownState_goal (t := t.enterRampDown inputs) (by rw [hsub]; exact h)
  refine ⟨if_neg ?_, hactive, hkeeps.motionStep.interpolator, hkeeps.motionStep.interpolation,
    htime, hsample, hfeedback, hkeeps.controller⟩
  intro hnew'
  rw [enteredRampDown, hnew] at hnew'
  cases hnew'

/-- The orders of a ramp down stay until it is finished: one to a stop ends in a stop. -/
structure StopsInRampDown (t : TrajectoryMotion α) : Prop where
  legal : Control.Legal t.stateManager
  wired : t.Wired
  splines : t.motionStep.interpolation.references.HaveSplines
  running : t.control.next = (.rampDown, .running) → t.events.doStop = true → t.RampsToStop
  finished : t.control.next = (.rampDown, .finished) → t.events.doStop = true → t.HasStopped
  waits : t.stateManager.verifyState .rampDown .finished = true → t.events.doStop = true →
    t.control.next = (.rampDown, .finished)

omit [IsStrictOrderedRing α] [ExactCmath α] in
/-- What a callback makes of an active goal in RampDown. -/
theorem callback_evaluated {t : TrajectoryMotion α} {inputs : InputContainer α}
    {subState : SubStates} (hlegal : Control.Legal t.stateManager) (hok : inputs.statesOk = true)
    (hplace : t.processed inputs = (.rampDown, subState))
    (hactive : (t.enteredRampDown inputs).data.hasActiveGoal = true) (outputs : Output α) :
    (((t.enteredRampDown inputs).startGoal.evaluated outputs).RampsToStop →
        (t.step (.generateOutputs outputs inputs)).RampsToStop) ∧
      (((t.enteredRampDown inputs).startGoal.evaluated outputs).HasStopped →
        (t.step (.generateOutputs outputs inputs)).HasStopped) := by
  obtain ⟨hstep, -⟩ := callback_rampDown hlegal hok hplace outputs
  obtain ⟨hevaluated, -⟩ := executeGoal_evaluated hactive outputs
  rw [hstep, hevaluated]
  constructor
  · intro h
    exact h.congr rfl rfl rfl rfl
  · intro h
    exact h.congr rfl rfl rfl rfl rfl

omit [IsStrictOrderedRing α] [ExactCmath α] in
theorem callback_decides {t : TrajectoryMotion α} {inputs : InputContainer α}
    (hok : inputs.statesOk = true) (outputs : Output α) :
    Control.Decides t.events (t.processed inputs)
        (t.step (.generateOutputs outputs inputs)).events
        (t.step (.generateOutputs outputs inputs)).control.next ∧
      (t.step (.generateOutputs outputs inputs)).stateManager.current = t.processed inputs := by
  have hturn := generateOutputs_ok t outputs inputs hok
  have hprepared : (t.prepared inputs).control =
      { t.control with trace := [] }.prepare inputs.firstMessage true t.remainingTime := by
    have h := control_prepare { t with trace := [] } inputs
    rw [hok] at h
    exact h
  have hevents : (t.prepared inputs).control.events = t.events := by
    rw [hprepared, (Control.prepare_frame _ _ _ _).1]
    rfl
  rw [← hprepared] at hturn
  have hdecides := hturn.decides (Control.updateState_hasPendingState _)
  rw [show (t.prepared inputs).control.updateState.events = t.events from hevents] at hdecides
  obtain ⟨hstate, hsub⟩ := hturn.current
  exact ⟨hdecides, Prod.ext hstate hsub⟩

omit [ExactCmath α] in
/-- The start of a ramp down to a stop. -/
theorem callback_starts {t : TrajectoryMotion α} {inputs : InputContainer α}
    (hlegal : Control.Legal t.stateManager) (hgain : t.controller.k = 1)
    (hok : inputs.statesOk = true) (hplace : t.processed inputs = (.rampDown, .none))
    (hstop : t.events.doStop = true) (outputs : Output α) :
    (t.step (.generateOutputs outputs inputs)).RampsToStop := by
  obtain ⟨-, hstate, hsub⟩ := process_rampDown hlegal hok hplace
  obtain ⟨hnew, hactive, hdata, hconditions⟩ := processRampDownState_prepared hsub
  have hkeeps := (t.enterRampDown inputs).processRampDownState_keeps
  have hevents : (t.enterRampDown inputs).events.doStop = true := hstop
  rw [hevents] at hconditions
  apply (callback_evaluated hlegal hok hplace hactive outputs).1
  apply RampsToStop.evaluated
  apply rampsToStop_start hnew hactive
  · exact (processRampDownState_turn _ hstate).current.1.trans hstate
  · rw [hkeeps.controller]
    exact hgain
  · rw [hdata, hconditions]
    rfl
  · rw [hconditions]
    exact ⟨rfl, rfl, Constants.lowestSampleTime_le_one⟩

omit [IsStrictOrderedRing α] [ExactCmath α] in
/-- A ramp down to a stop goes on. -/
theorem callback_continues {t : TrajectoryMotion α} {inputs : InputContainer α}
    (hlegal : Control.Legal t.stateManager) (hok : inputs.statesOk = true)
    (hplace : t.processed inputs = (.rampDown, .running)) (ht : t.RampsToStop)
    (outputs : Output α) : (t.step (.generateOutputs outputs inputs)).RampsToStop := by
  obtain ⟨hstart, hactive, hinterpolator, hinterpolation, -, -, -, hcontroller⟩ :=
    enteredRampDown_goal hlegal hok hplace (.inl rfl)
  have hentered : (t.enteredRampDown inputs).RampsToStop :=
    ht.congr hactive hinterpolator (congrArg PointGoal.references hinterpolation) hcontroller
  apply (callback_evaluated hlegal hok hplace hentered.active outputs).1
  rw [hstart]
  exact hentered.evaluated outputs

omit [IsStrictOrderedRing α] [ExactCmath α] in
theorem callback_keepsMode {t : TrajectoryMotion α} {inputs : InputContainer α}
    (hlegal : Control.Legal t.stateManager) (hok : inputs.statesOk = true)
    (hplace : t.processed inputs = (.rampDown, .running)) (ht : t.RampsToStop)
    (outputs : Output α) :
    (t.step (.generateOutputs outputs inputs)).controller.egmMode = t.controller.egmMode := by
  obtain ⟨hstart, hactive, hinterpolator, hinterpolation, -, -, -, hcontroller⟩ :=
    enteredRampDown_goal hlegal hok hplace (.inl rfl)
  have hentered : (t.enteredRampDown inputs).RampsToStop :=
    ht.congr hactive hinterpolator (congrArg PointGoal.references hinterpolation) hcontroller
  obtain ⟨hstep, -⟩ := callback_rampDown hlegal hok hplace outputs
  obtain ⟨hevaluated, -⟩ := executeGoal_evaluated hentered.active outputs
  rw [hstep, hevaluated, hstart, ← hcontroller]
  exact (hentered.passes.calculate outputs _).2.1

omit [IsStrictOrderedRing α] [ExactCmath α] in
theorem reached_of_finished {t : TrajectoryMotion α} {inputs : InputContainer α}
    (hlegal : Control.Legal t.stateManager) (hok : inputs.statesOk = true)
    (hplace : t.processed inputs = (.rampDown, .running)) (outputs : Output α)
    (hnext : (t.step (.generateOutputs outputs inputs)).control.next = (.rampDown, .finished)) :
    t.motionStep.interpolationDurationReached = true := by
  obtain ⟨-, hstate, hsub⟩ := process_rampDown hlegal hok hplace
  obtain ⟨hstep, -⟩ := callback_rampDown hlegal hok hplace outputs
  rw [hstep, control_updateExecutionProgress, control_executeGoal, enteredRampDown,
    processRampDownState] at hnext
  simp only [hsub] at hnext
  by_cases hreached : (t.enterRampDown inputs).motionStep.interpolationDurationReached = true
  · exact hreached
  · rw [if_neg hreached, Control.next_of_not_pending (Control.updateState_hasPendingState _)] at hnext
    have hsub' := congrArg Prod.snd hnext
    rw [show (t.enterRampDown inputs).control.manager.currentSubState = .running from hsub] at hsub'
    cases hsub'

/-- A ramp down to a stop is over when its time is. -/
theorem callback_finishes {t : TrajectoryMotion α} {inputs : InputContainer α}
    (hlegal : Control.Legal t.stateManager) (hok : inputs.statesOk = true)
    (hs : Constants.lowestSampleTime α ≤ inputs.estimatedSampleTime)
    (hplace : t.processed inputs = (.rampDown, .running)) (ht : t.RampsToStop)
    (outputs : Output α)
    (hnext : (t.step (.generateOutputs outputs inputs)).control.next = (.rampDown, .finished)) :
    (t.step (.generateOutputs outputs inputs)).HasStopped := by
  obtain ⟨hstart, hactive, hinterpolator, hinterpolation, htime, hsample, -, hcontroller⟩ :=
    enteredRampDown_goal hlegal hok hplace (.inl rfl)
  have hentered : (t.enteredRampDown inputs).RampsToStop :=
    ht.congr hactive hinterpolator (congrArg PointGoal.references hinterpolation) hcontroller
  apply (callback_evaluated hlegal hok hplace hentered.active outputs).2
  rw [hstart]
  refine (hentered.hasStopped outputs ?_).1
  rw [hinterpolator, htime, hsample]
  have hreached := reached_of_finished hlegal hok hplace outputs hnext
  have hleft : t.motionStep.interpolator.conditions.duration - t.motionStep.data.timePassed <
      1 / 2 * Constants.lowestSampleTime α := of_decide_eq_true hreached
  linarith [Constants.lowestSampleTime_pos (α := α)]

/-- The wait after a stop. -/
theorem callback_waits {t : TrajectoryMotion α} {inputs : InputContainer α}
    (hlegal : Control.Legal t.stateManager) (hok : inputs.statesOk = true)
    (hs : 0 ≤ inputs.estimatedSampleTime)
    (hplace : t.processed inputs = (.rampDown, .finished)) (hstop : t.events.doStop = true)
    (hresume : t.events.doResume = false) (ht : t.HasStopped)
    (hsplines : t.motionStep.interpolation.references.HaveSplines) (outputs : Output α) :
    (t.step (.generateOutputs outputs inputs)).HasStopped ∧
      (t.step (.generateOutputs outputs inputs)).motionStep.interpolation.references =
        t.motionStep.interpolation.references ∧
      (t.step (.generateOutputs outputs inputs)).controller.egmMode = t.controller.egmMode ∧
      (t.generateOutputs outputs inputs).2.HeldAt t.controller.egmMode outputs
        inputs.current.feedback.get t.motionStep.interpolation.references := by
  obtain ⟨hstart, hactive, hinterpolator, hinterpolation, htime, hsample, hfeedback,
    hcontroller⟩ := enteredRampDown_goal hlegal hok hplace (.inr ⟨rfl, hstop, hresume⟩)
  have hreferences := congrArg PointGoal.references hinterpolation
  have hentered : (t.enteredRampDown inputs).HasStopped :=
    ht.congr hactive hinterpolator hreferences htime hcontroller
  rw [← hsample] at hs
  obtain ⟨hstopped, hreferences', hheld⟩ :=
    hentered.holds outputs (hreferences ▸ hsplines) hs
  obtain ⟨hstep, houtput⟩ := callback_rampDown hlegal hok hplace outputs
  obtain ⟨hevaluated, houtput'⟩ := executeGoal_evaluated hentered.active outputs
  rw [hstart] at hevaluated houtput'
  rw [hreferences] at hreferences' hheld
  rw [hcontroller, hfeedback] at hheld
  have hmode := hstopped.mode
  rw [(evaluated_motionStep _ outputs).1, ← hentered.mode, hcontroller] at hmode
  rw [hstep, hevaluated, houtput, houtput', hcontroller]
  exact ⟨hstopped.congr rfl rfl rfl rfl rfl, hreferences', hmode, hheld⟩

omit [IsStrictOrderedRing α] [ExactCmath α] [FloorRing α] in
/-- A state whose machine is not in RampDown is none of a ramp down to a stop. -/
theorem StopsInRampDown.of_inactive {t : TrajectoryMotion α} (hlegal : Control.Legal t.stateManager)
    (hwired : t.Wired) (hsplines : t.motionStep.interpolation.references.HaveSplines)
    (h : t.stateManager.verifyState .normal .none = true) : t.StopsInRampDown := by
  have hnext := Control.next_of_inactive (c := t.control) hlegal h
  refine ⟨hlegal, hwired, hsplines, ?_, ?_, ?_⟩
  · intro h'
    rw [hnext] at h'
    cases h'
  · intro h'
    rw [hnext] at h'
    cases h'
  · intro h'
    simp only [StateManager.verifyState, decide_eq_true_eq] at h h'
    rw [h.1] at h'
    cases h'.1

omit [IsStrictOrderedRing α] [ExactCmath α] in
theorem StopsInRampDown.init (configurations : TrajectoryConfiguration α) :
    (init configurations).StopsInRampDown :=
  .of_inactive (legal_run configurations []) (wired_run configurations [])
    ⟨Nat.zero_le _, Nat.zero_le _⟩ rfl

/-- A callback has a sample time that `estimateSampleTime` can return, and the references are reset from
a feedback that has no more robot joints than there are polynomials: a message that has been parsed has
six or seven. -/
def Received (t : TrajectoryMotion α) (a : Action α) : Prop :=
  t.Sampled a ∧ ∀ feedback ∈ t.resetFeedback a, feedback.sizes.1 ≤ maxNumberOfSplines

omit [IsStrictOrderedRing α] [ExactCmath α] [Cmath α] [FloorRing α] in
theorem Received.of_no_reset {t : TrajectoryMotion α} {a : Action α} (hs : t.Sampled a)
    (h : t.resetFeedback a = none) : t.Received a := by
  refine ⟨hs, fun feedback hfeedback => ?_⟩
  rw [h] at hfeedback
  cases hfeedback

omit [IsStrictOrderedRing α] [ExactCmath α] in
theorem motionStep_callback (t : TrajectoryMotion α) {inputs : InputContainer α}
    (hok : inputs.statesOk = true) (outputs : Output α) :
    (t.step (.generateOutputs outputs inputs)).motionStep =
      ((t.prepared inputs).process.executeGoal outputs).1.motionStep := by
  rw [step, generateOutputs, hok]
  rfl

omit [IsStrictOrderedRing α] [ExactCmath α] in
/-- After its preparation a callback changes no size of the references. -/
theorem shape_callback (t : TrajectoryMotion α) (outputs : Output α) (inputs : InputContainer α) :
    (t.step (.generateOutputs outputs inputs)).motionStep.interpolation.shape =
      (t.prepared inputs).motionStep.interpolation.shape := by
  cases hok : inputs.statesOk with
  | false =>
      have hstep : (t.step (.generateOutputs outputs inputs)).motionStep =
          (t.prepared inputs).motionStep := by
        rw [step, generateOutputs, hok]
        rfl
      rw [hstep]
  | true =>
      have hkept := (t.prepared inputs).process_keeps.motionStep
      rw [t.motionStep_callback hok, shape_interpolation_executeGoal, hkept.interpolation]

omit [IsStrictOrderedRing α] [ExactCmath α] in
/-- Only a reset changes the sizes of the references. -/
theorem shape_step {t : TrajectoryMotion α} {a : Action α} (h : t.resetFeedback a = none) :
    (t.step a).motionStep.interpolation.shape = t.motionStep.interpolation.shape := by
  cases a with
  | updateConfigurations configurations => rfl
  | call call =>
      have hmotion : (t.step (.call call)).motionStep = t.motionStep := t.call_motionStep call
      rw [hmotion]
  | generateOutputs outputs inputs =>
      obtain ⟨hmotion, -⟩ := t.prepared_goal inputs
      rw [shape_callback, hmotion, if_neg]
      · rfl
      · intro hresets
        rw [resetFeedback, if_pos hresets] at h
        cases h

omit [IsStrictOrderedRing α] [ExactCmath α] in
/-- A reset is one by a feedback whose robot joints have polynomials. -/
theorem splines_step {t : TrajectoryMotion α}
    (ht : t.motionStep.interpolation.references.HaveSplines) {a : Action α} (h : t.Received a) :
    (t.step a).motionStep.interpolation.references.HaveSplines := by
  cases hreset : t.resetFeedback a with
  | none => exact ht.congr (PointGoal.sameSizes_of_shape (shape_step hreset))
  | some feedback =>
      have hfeedback := h.2 _ hreset
      cases a with
      | updateConfigurations configurations => cases hreset
      | call call => cases hreset
      | generateOutputs outputs inputs =>
          rw [resetFeedback] at hreset
          split at hreset
          next hresets =>
            obtain ⟨hmotion, -⟩ := t.prepared_goal inputs
            rw [if_pos hresets] at hmotion
            have hprepared :
                (t.prepared inputs).motionStep.interpolation.references.HaveSplines := by
              rw [hmotion]
              apply MotionStep.resetMotionStep_haveSplines
              rw [← Option.some.inj hreset] at hfeedback
              exact hfeedback
            exact hprepared.congr (PointGoal.sameSizes_of_shape (t.shape_callback outputs inputs))
          next => cases hreset

/-- Callbacks with ok states. -/
theorem StopsInRampDown.callback {t : TrajectoryMotion α} (ht : t.StopsInRampDown)
    {inputs : InputContainer α} (hok : inputs.statesOk = true) (outputs : Output α)
    (h : t.Received (.generateOutputs outputs inputs)) :
    (t.step (.generateOutputs outputs inputs)).StopsInRampDown := by
  have hs : Constants.lowestSampleTime α ≤ inputs.estimatedSampleTime := h.1
  obtain ⟨hdecides, hcurrent⟩ := callback_decides (t := t) hok outputs
  have hlegal' : Control.Legal (t.step (.generateOutputs outputs inputs)).stateManager :=
    (t.step_control (.generateOutputs outputs inputs)).legal ht.legal
  have hnext : ∀ subState, t.processed inputs = (.rampDown, subState) →
      t.control.next = (.rampDown, subState) := by
    intro subState hplace
    rw [processed, prepared_rampDown ht.legal hok (congrArg Prod.fst hplace)] at hplace
    exact hplace
  refine ⟨hlegal', ht.wired.step _, splines_step ht.splines h, ?_, ?_, ?_⟩
  · intro hnext' hstop'
    rw [hnext'] at hdecides
    have hstarts := fun hplace hstop =>
      callback_starts ht.legal ht.wired.gain hok hplace hstop outputs
    have hcontinues := fun hplace hrunning =>
      callback_continues ht.legal hok hplace hrunning outputs
    generalize (t.step (.generateOutputs outputs inputs)).events = e' at hdecides hstop'
    generalize t.processed inputs = s at *
    cases hdecides with
    | startRampDown => exact hstarts rfl hstop'
    | continueRampDown => exact hcontinues rfl (ht.running (hnext _ rfl) hstop')
  · intro hnext' hstop'
    have hfinishes := fun hplace hrunning =>
      callback_finishes ht.legal hok hs hplace hrunning outputs hnext'
    have hwaits := fun hplace hstop hresume hstopped =>
      (callback_waits ht.legal hok (Constants.lowestSampleTime_pos.le.trans hs) hplace hstop hresume
        hstopped ht.splines outputs).1
    rw [hnext'] at hdecides
    generalize (t.step (.generateOutputs outputs inputs)).events = e' at hdecides hstop'
    generalize t.processed inputs = s at *
    cases hdecides with
    | finishRampDown => exact hfinishes rfl (ht.running (hnext _ rfl) hstop')
    | wait hstop hresume => exact hwaits rfl hstop hresume (ht.finished (hnext _ rfl) hstop)
  · intro hv hstop'
    have hplace : t.processed inputs = (.rampDown, .finished) := by
      simp only [StateManager.verifyState, decide_eq_true_eq] at hv
      rw [← hcurrent]
      exact Prod.ext hv.1 hv.2
    rw [hplace] at hdecides
    generalize (t.step (.generateOutputs outputs inputs)).events = e' at hdecides hstop'
    generalize (t.step (.generateOutputs outputs inputs)).control.next = s' at hdecides ⊢
    cases hdecides with
    | wait => rfl
    | enterStaticGoal => cases hstop'
    | resume => cases hstop'
    | rampedDown hstop => exact absurd hstop' (by simp [Control.handled, hstop])

omit [IsStrictOrderedRing α] [ExactCmath α] in
/-- A command orders nothing but a resumption in a ramp down. -/
theorem StopsInRampDown.call {t : TrajectoryMotion α} (ht : t.StopsInRampDown)
    (call : TrajectoryCall α) : (t.step (.call call)).StopsInRampDown := by
  have hlegal : Control.Legal (t.step (.call call)).stateManager :=
    (t.step_control (.call call)).legal ht.legal
  have hcontrol : (t.step (.call call)).control = t.control.call call := t.control_call call
  have hmotion : (t.step (.call call)).motionStep = t.motionStep := t.call_motionStep call
  have hcontroller : (t.step (.call call)).controller = t.controller :=
    (t.call_keeps call).controller
  have hactive : (t.step (.call call)).data.hasActiveGoal = t.data.hasActiveGoal := by
    have h := congrArg Control.hasActiveGoal hcontrol
    exact h.trans (Control.call_frame t.control call).2.2.2.2
  have hnext : (t.step (.call call)).control.next = t.control.next := by
    rw [hcontrol, Control.call_next]
  have hevents := congrArg (·.events.doStop) hcontrol
  have hmanager := congrArg Control.manager hcontrol
  have hstop := fun h =>
    hevents.trans (Control.Legal.call_doStop (c := t.control) ht.legal h call)
  refine ⟨hlegal, ht.wired.step _, hmotion.symm ▸ ht.splines, ?_, ?_, ?_⟩
  · intro hplace hstop'
    rw [hnext] at hplace
    have hrunning := ht.running hplace ((hstop (.inl hplace)).symm.trans hstop')
    exact hrunning.congr hactive (by rw [hmotion]) (by rw [hmotion]) hcontroller
  · intro hplace hstop'
    rw [hnext] at hplace
    have hfinished := ht.finished hplace ((hstop (.inr (.inl hplace))).symm.trans hstop')
    exact hfinished.congr hactive (by rw [hmotion]) (by rw [hmotion]) (by rw [hmotion])
      hcontroller
  · intro hv hstop'
    rw [show (t.step (.call call)).stateManager = _ from hmanager, (Control.call_frame _ _).1]
      at hv
    rw [hnext]
    exact ht.waits hv ((hstop (.inr (.inr hv))).symm.trans hstop')

theorem StopsInRampDown.step {t : TrajectoryMotion α} (ht : t.StopsInRampDown) {a : Action α}
    (h : t.Received a) : (t.step a).StopsInRampDown := by
  have hlegal : Control.Legal (t.step a).stateManager := (t.step_control a).legal ht.legal
  have hwired := ht.wired.step a
  have hsplines := splines_step ht.splines h
  cases a with
  | updateConfigurations configurations =>
      refine ⟨hlegal, hwired, hsplines, ?_, ?_, ht.waits⟩
      · intro hnext hstop
        exact (ht.running hnext hstop).congr rfl rfl rfl rfl
      · intro hnext hstop
        exact (ht.finished hnext hstop).congr rfl rfl rfl rfl rfl
  | call call => exact ht.call call
  | generateOutputs outputs inputs =>
      cases hok : inputs.statesOk with
      | true => exact ht.callback hok outputs h
      | false =>
          apply StopsInRampDown.of_inactive hlegal hwired hsplines
          have hcontrol := generateOutputs_notOk t outputs inputs hok
          have hinactive := Control.prepare_notOk { t.control with trace := [] }
            inputs.firstMessage t.remainingTime
          rw [← hcontrol] at hinactive
          exact hinactive

theorem stopsInRampDown_run (configurations : TrajectoryConfiguration α) {es : List (Action α)}
    (hes : Along TrajectoryMotion.step Received (TrajectoryMotion.init configurations) es) :
    (run TrajectoryMotion.step (TrajectoryMotion.init configurations) es).StopsInRampDown :=
  hes.run_inv (fun _ _ ht hs => ht.step hs) (.init configurations)

end TrajectoryMotion

end AbbWrapper
