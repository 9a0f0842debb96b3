import AbbWrapper.BoundaryConditions
import AbbWrapper.StaticGoalApplied
import AbbWrapper.StopInRampDown

/-! # A completed stop holds still

While a finished ramp down to a stop waits for an order to resume, every callback evaluates the
interpolator to the references it has evaluated before.  What the outputs, the feedback or the
references lack is not written: an axis that the feedback loses keeps the velocity it had.

* `HoldsStill` says of a callback that its outputs stand still at given references; `StaysStopped` are the
  steps of the session in which no resumption is accepted.
* `StandsStill` is the invariant: the machine waits in (RampDown, Finished) after a stop, at references
  that do not change.
* `StopsInRampDown` holds in every reachable state, so that nothing is assumed about the way in which the
  stop was completed.

`stop_holds_still` is about every run up to the stop and every one after it.  The robot of the first test
turns until the stop is ordered (`velocity_turning`, `stop_holds_still_turning`); in the second one it
loses an axis (`stop_moves_lost_axis`). -/

namespace AbbWrapper

open Protobuf Runs

variable {α : Type} [Field α] [LinearOrder α] [Cmath α]

theorem EGMInterpolator.reach_evaluate (e : EGMInterpolator α) (output : PointGoal α)
    (sampleTime t : α) : (e.evaluate output sampleTime t).reach = output.reach := by
  unfold EGMInterpolator.evaluate
  cases e.conditions.operation with
  | normal => cases e.conditions.mode <;> rfl
  | rampDown => cases e.conditions.mode <;> rfl
  | rampInPosition => cases e.conditions.mode <;> rfl
  | rampInVelocity => cases e.conditions.mode <;> rfl

namespace Controller

/-- In joint mode the velocities of a point that is only passed are not ramped, unless the method is
linear. -/
theorem calculate_velocities {c : Controller α} (hmode : c.egmMode = .egmJoint)
    (hlinear : c.isLinear = false) (output : Output α) {m : MotionStep α}
    (hreach : m.interpolation.reach.get = false) :
    (c.calculate output m).2.2.interpolation.references.robotVelocity =
        m.interpolation.references.robotVelocity ∧
      (c.calculate output m).2.2.interpolation.references.externalVelocity =
        m.interpolation.references.externalVelocity := by
  have hmode' : (c.scaleFactors m).egmMode = .egmJoint := hmode
  have hlinear' : (c.scaleFactors m).isLinear = false := hlinear
  have htransition : (c.scaleFactors m).doVelocityTransition = false := rfl
  unfold calculate
  simp only [hmode']
  generalize c.scaleFactors m = d at hmode' hlinear' htransition ⊢
  have hcheck (r : PointGoal α) (hr : r.reach.get = false) :
      d.checkForVelocityTransition r = (d, r) := by
    obtain ⟨_, _, isNormalState, _, _, _, _, _⟩ := d
    cases hlinear'
    cases htransition
    unfold checkForVelocityTransition
    cases isNormalState with
    | false => rfl
    | true => simp only [hr, Bool.false_eq_true, if_false, if_true]
  have hpassed (out ref fdb start : Joints α) : (d.calculateJoints out ref fdb start).2 = ref := by
    unfold calculateJoints
    simp only [htransition, Bool.false_eq_true, if_false]
  rw [hcheck]
  · exact ⟨hpassed _ _ _ _, hpassed _ _ _ _⟩
  · exact hreach

end Controller

namespace TrajectoryMotion

theorem processNormalState_taken {t : TrajectoryMotion α}
    (hsub : t.stateManager.currentSubState = .running) (hramp : t.events.doRampDown = false)
    {point : PointGoal α} {points : List (PointGoal α)} {queue temporary : List (Trajectory α)}
    (htrajectories : t.trajectories = ⟨⟨point :: points⟩ :: queue, temporary, none⟩)
    (hreach : point.reach.get = false) : t.processNormalState.motionStep =
      { t.motionStep with externalGoal := point }.prepareNormalGoal points.isEmpty := by
  unfold processNormalState
  simp only [hsub, hramp, htrajectories, Bool.false_eq_true, if_false]
  unfold updateNormalGoal
  change (nextGoal t.motionStep (point :: points)).1 = _
  rw [nextGoal]
  simp only [hreach, Bool.false_eq_true, if_false]

/-- In (Normal, Running) without a trajectory the next one is taken, and its first point prepared, unless
it is one to be reached. -/
theorem process_taken {t : TrajectoryMotion α}
    (hplace : t.stateManager.updateState.current = (.normal, .running))
    (hramp : t.events.doRampDown = false) {point : PointGoal α} {points : List (PointGoal α)}
    {queue temporary : List (Trajectory α)}
    (htrajectories : t.trajectories = ⟨⟨point :: points⟩ :: queue, temporary, none⟩)
    (hreach : point.reach.get = false) : t.process.motionStep =
      { t.motionStep with externalGoal := point }.prepareNormalGoal points.isEmpty := by
  have hstate : t.stateManager.updateState.currentState = .normal := congrArg Prod.fst hplace
  have hprocess : t.process =
      { t with stateManager := t.stateManager.updateState }.processNormalState := by
    simp only [process, hstate]
  rw [hprocess]
  exact processNormalState_taken (t := { t with stateManager := t.stateManager.updateState })
    (congrArg Prod.snd hplace) hramp htrajectories hreach

/-- The velocities of the references as a point is activated in joint mode that is only passed. -/
theorem executeGoal_velocities {t : TrajectoryMotion α} (hnew : t.data.hasNewGoal = true)
    (hactive : t.data.hasActiveGoal = true) (hmode : t.motionStep.data.mode = .egmJoint)
    (hlinear : t.configurations.splineMethod ≠ .linear)
    (hreach : t.motionStep.internalGoal.reach.get = false) (outputs : Output α) :
    let m := t.motionStep.updateInterpolator.evaluateInterpolator
    (t.executeGoal outputs).1.motionStep.interpolation.references.robotVelocity =
        m.interpolation.references.robotVelocity ∧
      (t.executeGoal outputs).1.motionStep.interpolation.references.externalVelocity =
        m.interpolation.references.externalVelocity := by
  intro m
  have hstart : t.startGoal = { t with
      motionStep := t.motionStep.updateInterpolator
      controller := t.controller.update t.stateManager.currentState t.motionStep.updateInterpolator
        t.configurations } := if_pos hnew
  have hactive' : t.startGoal.data.hasActiveGoal = true := t.hasActiveGoal_startGoal.trans hactive
  have hreach' : m.interpolation.reach.get = false :=
    (congrArg (·.get) (EGMInterpolator.reach_evaluate _ t.motionStep.updateInterpolator.interpolation
      _ _)).trans hreach
  rw [executeGoal_eq, if_pos hactive', hstart]
  apply Controller.calculate_velocities
  · exact hmode
  · exact decide_eq_false hlinear
  · exact hreach'

variable [IsStrictOrderedRing α] [ExactCmath α] [FloorRing α]

/-! ### Standing still -/

omit [Cmath α] [IsStrictOrderedRing α] [ExactCmath α] in
/-- Within a session, a callback with ok states processes the next state. -/
theorem processed_next {t : TrajectoryMotion α} (hlegal : Control.Legal t.stateManager)
    (hnext : t.control.next ≠ (.normal, .none)) {inputs : InputContainer α}
    (hok : inputs.statesOk = true) (hfirst : inputs.firstMessage = false) :
    t.processed inputs = t.control.next := by
  exact processed_session hok hfirst (Control.verifyState_of_next (c := t.control) hlegal hnext)

/-- A step of the session with ok states that orders no resumption. -/
def StaysStopped (t : TrajectoryMotion α) : Action α → Prop
  | .generateOutputs _ inputs => inputs.statesOk = true ∧ inputs.firstMessage = false ∧
      Constants.lowestSampleTime α ≤ inputs.estimatedSampleTime
  | .call call => call = .resumeTrajectory → (t.call call).1 = false
  | .updateConfigurations _ => True

/-- The outputs of a callback stand still at the references `r`. -/
def HoldsStill (mode : EGMModes) (r : References α) (t : TrajectoryMotion α) : Action α → Prop
  | .generateOutputs outputs inputs =>
      (t.generateOutputs outputs inputs).2.HeldAt mode outputs inputs.current.feedback.get r
  | _ => True

/-- The machine waits in (RampDown, Finished) after a stop at the references `r`. -/
structure StandsStill (mode : EGMModes) (r : References α) (t : TrajectoryMotion α) : Prop where
  stops : t.StopsInRampDown
  next : t.control.next = (.rampDown, .finished)
  doStop : t.events.doStop = true
  doResume : t.events.doResume = false
  mode : t.controller.egmMode = mode
  references : t.motionStep.interpolation.references = r

omit [IsStrictOrderedRing α] [ExactCmath α] in
theorem StandsStill.call {mode : EGMModes} {r : References α} {t : TrajectoryMotion α}
    (ht : t.StandsStill mode r) {call : TrajectoryCall α} (h : t.StaysStopped (.call call)) :
    (t.step (.call call)).control = t.control := by
  have hcontrol : (t.step (.call call)).control = t.control.call call := t.control_call call
  rw [hcontrol]
  by_cases hresume : call = .resumeTrajectory
  · apply Control.call_rejected
    have hrejected := h hresume
    rwa [t.call_fst call (by rintro rfl; cases hresume)] at hrejected
  · exact Control.Legal.call_rampDown (c := t.control) ht.stops.legal (.inr (.inl ht.next)) hresume

theorem StandsStill.step {mode : EGMModes} {r : References α} {t : TrajectoryMotion α}
    (ht : t.StandsStill mode r) {a : Action α} (h : t.StaysStopped a) :
    (t.step a).StandsStill mode r ∧ t.HoldsStill mode r a := by
  cases a with
  | updateConfigurations configurations =>
      have hstops := ht.stops.step (a := .updateConfigurations configurations)
        (.of_no_reset trivial rfl)
      exact ⟨⟨hstops, ht.next, ht.doStop, ht.doResume, ht.mode, ht.references⟩,
        trivial⟩
  | call call =>
      have hcontrol := ht.call h
      have hmotion : (t.step (.call call)).motionStep = t.motionStep := t.call_motionStep call
      have hcontroller : (t.step (.call call)).controller = t.controller :=
        (t.call_keeps call).controller
      have hstops := ht.stops.step (a := .call call) (.of_no_reset trivial rfl)
      refine ⟨⟨hstops, ?_, ?_, ?_, ?_, ?_⟩, trivial⟩
      · rw [hcontrol]
        exact ht.next
      · rw [← control_events, hcontrol]
        exact ht.doStop
      · rw [← control_events, hcontrol]
        exact ht.doResume
      · rw [hcontroller]
        exact ht.mode
      · rw [hmotion]
        exact ht.references
  | generateOutputs outputs inputs =>
      obtain ⟨hok, hfirst, hs⟩ := h
      have hplace : t.processed inputs = (.rampDown, .finished) :=
        (processed_next ht.stops.legal (by rw [ht.next]; nofun) hok hfirst).trans ht.next
      obtain ⟨hstopped, hreferences, hmode, hheld⟩ := callback_waits ht.stops.legal hok
        (Constants.lowestSampleTime_pos.le.trans hs) hplace ht.doStop ht.doResume
        (ht.stops.finished ht.next ht.doStop) ht.stops.splines outputs
      obtain ⟨hdecides, -⟩ := callback_decides (t := t) hok outputs
      have hreset : t.resetFeedback (.generateOutputs outputs inputs) = none := by
        rw [resetFeedback, hok, hfirst]
        rfl
      have hstops := ht.stops.step (a := .generateOutputs outputs inputs) (.of_no_reset hs hreset)
      rw [ht.references] at hreferences hheld
      rw [ht.mode] at hmode hheld
      rw [hplace] at hdecides
      obtain ⟨hevents, hnext⟩ := hdecides.waits ht.doStop ht.doResume
      refine ⟨⟨hstops, hnext, ?_, ?_, hmode, hreferences⟩, hheld⟩
      · rw [hevents]
        exact ht.doStop
      · rw [hevents]
        exact ht.doResume

/-- **A completed stop holds still**, for as long as the session goes on without an order to
resume. -/
theorem stop_holds_still (configurations : TrajectoryConfiguration α) (before es : List (Action α))
    (hbefore : Along TrajectoryMotion.step Received (TrajectoryMotion.init configurations) before)
    {t : TrajectoryMotion α}
    (ht : run TrajectoryMotion.step (TrajectoryMotion.init configurations) before = t)
    (hstate : t.stateManager.verifyState .rampDown .finished = true)
    (hstop : t.events.doStop = true) (hresume : t.events.doResume = false)
    (hes : Along TrajectoryMotion.step StaysStopped t es) :
    Along TrajectoryMotion.step
      (HoldsStill t.controller.egmMode t.motionStep.interpolation.references) t es := by
  have hstops := stopsInRampDown_run configurations hbefore
  rw [ht] at hstops
  have hstands : t.StandsStill t.controller.egmMode t.motionStep.interpolation.references :=
    ⟨hstops, hstops.waits hstate hstop, hstop, hresume, rfl, rfl⟩
  exact hes.of_inv (fun _ _ hu h => hu.step h) hstands

/-! ### A stop of a robot that moves -/

/-- Joints at zero that do not move. -/
def jointsAtRest (n : ℕ) : JointSpace α :=
  { position := .present ⟨.replicate n 0⟩, velocity := .present ⟨.replicate n 0⟩ }

/-- The outputs of a robot with six joints and an external one. -/
def supplied : Output α :=
  { robot := .present { joints := .present (jointsAtRest 6) }
    external := .present { joints := .present (jointsAtRest 1) } }

/-- The inputs of a callback one second after the last one. -/
def second : InputContainer α :=
  { (tick : InputContainer α) with
    estimatedSampleTime := 1
    current := { (tick : InputContainer α).current with
      feedback := .present {
        robot := .present { joints := .present (jointsAtRest 6) }
        external := .present { joints := .present (jointsAtRest 1) } } } }

/-- The first joint and the external one are to turn by ten degrees within ten seconds. -/
def turned : PointGoal α where
  duration := .present 10
  robot := .present { joints := .present { position := .present ⟨[10, 0, 0, 0, 0, 0]⟩ } }
  external := .present { joints := .present { position := .present ⟨[10]⟩ } }

def quintic : TrajectoryConfiguration α := ⟨⟨.six, false, true, false, 60⟩, .quintic⟩

def starting : List (Action α) :=
  [.generateOutputs supplied { (second : InputContainer α) with firstMessage := true },
    .call (.addTrajectory ⟨[turned, turned]⟩ false)]

/-- The first point of a trajectory is activated. -/
def turning : List (Action α) := starting ++ [.generateOutputs supplied second]

/-- A stop is ordered, and the ramp down started. -/
def stopping : List (Action α) :=
  [.call (.stopTrajectory false), .generateOutputs supplied second, .generateOutputs supplied second]

def waiting : List (Action α) := [.generateOutputs supplied second, .generateOutputs supplied second]

omit [Cmath α] [ExactCmath α] [FloorRing α] in
theorem second_sampled (t : TrajectoryMotion α) : t.Sampled (.generateOutputs supplied second) :=
  Constants.lowestSampleTime_le_one

omit [IsStrictOrderedRing α] [ExactCmath α] in
theorem callback_second (t : TrajectoryMotion α) :
    Control.Decides t.events (t.processed second)
        (t.step (.generateOutputs supplied second)).events
        (t.step (.generateOutputs supplied second)).control.next ∧
      (t.step (.generateOutputs supplied second)).stateManager.current = t.processed second :=
  callback_decides rfl supplied

/-- A ramp down to a stop whose time is over is finished with a callback, and waits with the next one;
the mode stays. -/
theorem waiting_stopped {t : TrajectoryMotion α} (ht : t.StopsInRampDown)
    (hnext : t.control.next = (.rampDown, .running)) (hstop : t.events.doStop = true)
    (hresume : t.events.doResume = false)
    (hreached : t.motionStep.interpolationDurationReached = true) :
    (run TrajectoryMotion.step t waiting).stateManager.verifyState .rampDown .finished = true ∧
      (run TrajectoryMotion.step t waiting).events.doStop = true ∧
      (run TrajectoryMotion.step t waiting).events.doResume = false ∧
      (run TrajectoryMotion.step t waiting).controller.egmMode = t.controller.egmMode := by
  have hsampled (u : TrajectoryMotion α) : u.Received (.generateOutputs supplied second) :=
    .of_no_reset u.second_sampled rfl
  -- the callback that finds the time to be over
  have hplace : t.processed second = (.rampDown, .running) :=
    (processed_next ht.legal (by rw [hnext]; nofun) rfl rfl).trans hnext
  have hmode := callback_keepsMode ht.legal rfl hplace (ht.running hnext hstop) supplied
  have hover : (t.step (.generateOutputs supplied second)).events = t.events ∧
      (t.step (.generateOutputs supplied second)).control.next = (.rampDown, .finished) := by
    obtain ⟨hdecides, -⟩ := t.callback_second
    have hcontinued :=
      rampDown_continued ht.legal rfl hplace (ht.running hnext hstop).active supplied
    rw [hplace] at hdecides
    generalize (t.step (.generateOutputs supplied second)).events = e at *
    generalize (t.step (.generateOutputs supplied second)).control.next = s at *
    cases hdecides with
    | continueRampDown => exact absurd (hcontinued rfl).1 (by simp [hreached])
    | finishRampDown => exact ⟨rfl, rfl⟩
  have ht' := ht.step (hsampled t)
  unfold waiting
  rw [run_cons, ← hmode]
  generalize t.step (.generateOutputs supplied second) = u at *
  obtain ⟨hevents, hnext'⟩ := hover
  rw [← hevents] at hstop hresume
  -- the callback that waits
  have hplace' : u.processed second = (.rampDown, .finished) :=
    (processed_next ht'.legal (by rw [hnext']; nofun) rfl rfl).trans hnext'
  obtain ⟨-, -, hmode', -⟩ :=
    callback_waits ht'.legal rfl (show 0 ≤ (second : InputContainer α).estimatedSampleTime from
      zero_le_one) hplace' hstop hresume (ht'.finished hnext' hstop) ht'.splines supplied
  obtain ⟨hdecides, hcurrent⟩ := u.callback_second
  rw [hplace'] at hdecides hcurrent
  obtain ⟨hwaited, -⟩ := hdecides.waits hstop hresume
  rw [run_cons, run_nil, hwaited]
  refine ⟨?_, hstop, hresume, hmode'⟩
  exact decide_eq_true ⟨congrArg Prod.fst hcurrent, congrArg Prod.snd hcurrent⟩

/-- The state before the callback that activates the first point. -/
def ready : TrajectoryMotion α := run TrajectoryMotion.step (TrajectoryMotion.init quintic) starting

/-- What the first point is executed with. -/
def activated : MotionStep α :=
  { ((TrajectoryMotion.init quintic : TrajectoryMotion α).receive second).motionStep.resetMotionStep with
    externalGoal := turned }.prepareNormalGoal false

/-- From zero to ten degrees in ten seconds. -/
def tenDegrees : SplineConditions α := ⟨10, 0, 0, 0, 10, 0, 0, .quintic, false, 0⟩

omit [IsStrictOrderedRing α] [ExactCmath α] in
theorem ready_motionStep : (ready : TrajectoryMotion α).motionStep =
    ((TrajectoryMotion.init quintic : TrajectoryMotion α).receive second).motionStep.resetMotionStep :=
  rfl

omit [IsStrictOrderedRing α] [ExactCmath α] in
theorem prepared_ready : ((ready : TrajectoryMotion α).prepared second).motionStep =
    ((TrajectoryMotion.init quintic : TrajectoryMotion α).receive second).motionStep.resetMotionStep := by
  obtain ⟨hmotion, -⟩ := (ready : TrajectoryMotion α).prepared_goal second
  have hwithin : ((ready : TrajectoryMotion α).prepared second).motionStep =
      ((ready : TrajectoryMotion α).receive second).motionStep :=
    hmotion.trans (if_neg Bool.false_ne_true)
  rw [hwithin, receive, ready_motionStep]
  rfl

omit [ExactCmath α] in
theorem clamped_activated : EGMInterpolator.clamped (activated : MotionStep α).interpolatorConditions =
    ⟨10, .egmJoint, .normal, 0, .quintic⟩ := by
  have hten : max (Constants.lowestSampleTime α) (1 * 10) = 10 := by
    rw [one_mul, max_eq_right (Constants.lowestSampleTime_le_one.trans (by norm_num))]
  unfold EGMInterpolator.clamped
  rw [← hten]
  rfl

omit [Cmath α] [ExactCmath α] [FloorRing α] in
theorem velocity_tenDegrees : ((SplinePolynomial.update (tenDegrees : SplineConditions α)).sample
    (saturate 1 0 10)).velocity = 243 / 1000 := by
  have hone : saturate (1 : α) 0 10 = 1 := by
    unfold saturate
    norm_num
  rw [hone]
  simp only [SplinePolynomial.update, tenDegrees, SplinePolynomial.sample,
    SplinePolynomial.calculateVelocity]
  norm_num

omit [ExactCmath α] in
/-- After a second the joint moves. -/
theorem velocity_activated {k : Coordinate} (hk : k = .robot 0 ∨ k = .external 0) :
    (k.sample (activated : MotionStep α).updateInterpolator.evaluateInterpolator.interpolation).velocity =
      243 / 1000 := by
  have hin : k.In .egmJoint 6 1 := by
    rcases hk with rfl | rfl
    · exact ⟨rfl, Nat.succ_pos 5⟩
    · exact Nat.one_pos
  have hconditions : k.conditions ⟨10, .egmJoint, .normal, 0, .quintic⟩
      (activated : MotionStep α).updateInterpolator.interpolation activated.internalGoal =
        tenDegrees := by
    rcases hk with rfl | rfl <;> rfl
  have hholds : (activated : MotionStep α).updateInterpolator.interpolation.Holds 6 1 :=
    ⟨le_rfl, le_rfl, le_rfl, le_rfl, Nat.le_add_left 1 5, Nat.le_add_left 1 5⟩
  have hsample : k.sample (((activated : MotionStep α).interpolator.update
      activated.updateInterpolator.interpolation activated.internalGoal
        activated.interpolatorConditions).evaluate activated.updateInterpolator.interpolation 1 (0 + 1)) =
      _ := EGMInterpolator.sample_update (r := 6) (x := 1) rfl (.inl rfl) rfl rfl (by norm_num)
        (by decide) hholds 1 (0 + 1) hin
  rw [clamped_activated, hconditions, zero_add] at hsample
  rw [← velocity_tenDegrees, ← hsample, ← zero_add (1 : α)]
  rfl

/-- **The robot moves** as the first point is activated. -/
theorem velocity_turning {k : Coordinate} (hk : k = .robot 0 ∨ k = .external 0) :
    (k.sample (run TrajectoryMotion.step (TrajectoryMotion.init quintic)
      (turning : List (Action ℝ))).motionStep.interpolation).velocity = 243 / 1000 := by
  have hrun : run TrajectoryMotion.step (TrajectoryMotion.init quintic) (turning : List (Action ℝ)) =
      (ready : TrajectoryMotion ℝ).step (.generateOutputs supplied second) := by
    rw [turning, run_append]
    rfl
  have hplace : ((ready : TrajectoryMotion ℝ).prepared second).stateManager.updateState.current =
      (.normal, .running) := by decide +kernel
  have hramp : ((ready : TrajectoryMotion ℝ).prepared second).events.doRampDown = false := by
    decide +kernel
  have htrajectories : ((ready : TrajectoryMotion ℝ).prepared second).trajectories =
      ⟨[⟨[turned, turned]⟩], [], none⟩ := rfl
  have hprocess : ((ready : TrajectoryMotion ℝ).prepared second).process.motionStep = activated := by
    rw [process_taken hplace hramp htrajectories rfl, prepared_ready]
    rfl
  have hnew : ((ready : TrajectoryMotion ℝ).prepared second).process.data.hasNewGoal = true := by
    decide +kernel
  have hactive : ((ready : TrajectoryMotion ℝ).prepared second).process.data.hasActiveGoal = true := by
    decide +kernel
  have hlinear : ((ready : TrajectoryMotion ℝ).prepared second).process.configurations.splineMethod ≠
      .linear := by decide +kernel
  rw [hrun, motionStep_callback _ rfl]
  generalize ((ready : TrajectoryMotion ℝ).prepared second).process = t at *
  have hvelocities := executeGoal_velocities hnew hactive (by rw [hprocess]; rfl) hlinear
    (by rw [hprocess]; rfl) supplied
  rw [hprocess] at hvelocities
  rw [← velocity_activated hk]
  rcases hk with rfl | rfl
  · exact congrArg (·.value 0) hvelocities.1
  · exact congrArg (·.value 0) hvelocities.2

theorem second_received (t : TrajectoryMotion ℝ) : t.Received (.generateOutputs supplied second) :=
  .of_no_reset t.second_sampled rfl

theorem turning_received : Along TrajectoryMotion.step Received (TrajectoryMotion.init quintic)
    (turning ++ stopping ++ waiting : List (Action ℝ)) := by
  have hfirst (t : TrajectoryMotion ℝ) :
      t.Received (.generateOutputs supplied { second with firstMessage := true }) := by
    refine ⟨second_sampled t, fun feedback hfeedback => ?_⟩
    obtain rfl := Option.some.inj hfeedback
    decide
  have hcall (t : TrajectoryMotion ℝ) (call : TrajectoryCall ℝ) : t.Received (.call call) :=
    .of_no_reset trivial rfl
  apply Along.of_forall
  simp only [turning, starting, stopping, waiting, List.cons_append, List.nil_append,
    List.forall_mem_cons]
  exact ⟨hfirst, fun t => hcall t _, second_received, fun t => hcall t _, second_received,
    second_received, second_received, second_received, List.forall_mem_nil _⟩

/-- The ramp down has been started a second ago. -/
theorem stopping_reached : (run TrajectoryMotion.step (TrajectoryMotion.init quintic)
    (turning ++ stopping : List (Action ℝ))).motionStep.interpolationDurationReached = true := by
  have hlegal := legal_run quintic (turning ++ [.call (.stopTrajectory false),
    .generateOutputs supplied second] : List (Action ℝ))
  have hrun : run TrajectoryMotion.step (TrajectoryMotion.init quintic)
      (turning ++ stopping : List (Action ℝ)) =
        (run TrajectoryMotion.step (TrajectoryMotion.init quintic)
          (turning ++ [.call (.stopTrajectory false), .generateOutputs supplied second] :
            List (Action ℝ))).step (.generateOutputs supplied second) := by
    rw [run_append, run_append]
    rfl
  have hplace : (run TrajectoryMotion.step (TrajectoryMotion.init quintic)
      (turning ++ [.call (.stopTrajectory false), .generateOutputs supplied second] :
        List (Action ℝ))).processed second = (.rampDown, .none) := by decide +kernel
  have hstop : (run TrajectoryMotion.step (TrajectoryMotion.init quintic)
      (turning ++ [.call (.stopTrajectory false), .generateOutputs supplied second] :
        List (Action ℝ))).events.doStop = true := by decide +kernel
  rw [hrun]
  obtain ⟨-, hduration, htime⟩ := rampDown_started hlegal rfl hplace hstop supplied
  apply decide_eq_true
  rw [hduration, htime]
  have hmax : max (Constants.lowestSampleTime ℝ) MotionStep.rampDownStopDuration = 1 :=
    max_eq_right Constants.lowestSampleTime_le_one
  rw [hmax]
  change (1 : ℝ) - 1 < _
  linarith [Constants.lowestSampleTime_pos (α := ℝ)]

/-- The robot and its external axis turn until the stop is ordered.  Once the ramp down is over, all seven
joints are sent where the references stand, and at rest. -/
theorem stop_holds_still_turning :
    let t := run TrajectoryMotion.step (TrajectoryMotion.init quintic) (turning : List (Action ℝ))
    let u := run TrajectoryMotion.step t (stopping ++ waiting)
    let output := (u.generateOutputs supplied second).2
    0 < t.motionStep.interpolation.references.robotVelocity.value 0 ∧
      0 < t.motionStep.interpolation.references.externalVelocity.value 0 ∧
      Along TrajectoryMotion.step (HoldsStill .egmJoint u.motionStep.interpolation.references) u
        waiting ∧
      (∀ i < 6, output.robotJoints.position.get.value i =
          u.motionStep.interpolation.references.robotPosition.value i ∧
        output.robotJoints.velocity.get.value i = 0) ∧
      output.externalJoints.position.get.value 0 =
        u.motionStep.interpolation.references.externalPosition.value 0 ∧
      output.externalJoints.velocity.get.value 0 = 0 := by
  intro t u output
  have hmoves (k : Coordinate) (hk : k = .robot 0 ∨ k = .external 0) :
      0 < (k.sample t.motionStep.interpolation).velocity := by
    rw [velocity_turning hk]
    norm_num
  have hbefore : run TrajectoryMotion.step t stopping =
      run TrajectoryMotion.step (TrajectoryMotion.init quintic) (turning ++ stopping) :=
    (run_append _ _ _).symm
  have hu : u = run TrajectoryMotion.step (run TrajectoryMotion.step (TrajectoryMotion.init quintic)
      (turning ++ stopping)) waiting := (run_append _ _ _).trans (by rw [hbefore])
  have hrun : run TrajectoryMotion.step (TrajectoryMotion.init quintic)
      (turning ++ stopping ++ waiting) = u := (run_append _ _ _).trans hu.symm
  have hstops := stopsInRampDown_run quintic ((along_append _ _ _).mp turning_received).1
  obtain ⟨hstate, hstop, hresume, hmode⟩ := waiting_stopped hstops (by decide +kernel)
    (by decide +kernel) (by decide +kernel) stopping_reached
  have hjoint : (run TrajectoryMotion.step (TrajectoryMotion.init quintic)
      (turning ++ stopping : List (Action ℝ))).controller.egmMode = .egmJoint := by decide +kernel
  have hshape : u.motionStep.interpolation.shape = ([6, 6, 6], [1, 6, 6]) := by
    have hstopping : (run TrajectoryMotion.step (TrajectoryMotion.init quintic)
        (turning ++ stopping : List (Action ℝ))).motionStep.interpolation.shape =
          ([6, 6, 6], [1, 6, 6]) := by decide +kernel
    rw [hu, waiting, run_cons, run_cons, run_nil, shape_step rfl, shape_step rfl, hstopping]
  rw [hjoint] at hmode
  rw [← hu] at hstate hstop hresume hmode
  have hstays (v : TrajectoryMotion ℝ) : v.StaysStopped (.generateOutputs supplied second) :=
    ⟨rfl, rfl, second_sampled v⟩
  have hes : Along TrajectoryMotion.step StaysStopped u waiting := by
    apply Along.of_forall
    simp only [waiting, List.forall_mem_cons]
    exact ⟨hstays, hstays, List.forall_mem_nil _⟩
  have hholds := stop_holds_still quintic (turning ++ stopping ++ waiting) waiting turning_received
    hrun hstate hstop hresume hes
  rw [hmode] at hholds
  simp only [PointGoal.shape, JointGoal.vectorSizes, Prod.mk.injEq, List.cons.injEq, and_true] at hshape
  obtain ⟨⟨hposition, hvelocity, -⟩, hposition', hvelocity', -⟩ := hshape
  have hheld : output.HeldAt .egmJoint supplied (second : InputContainer ℝ).current.feedback.get
      u.motionStep.interpolation.references := hholds.1
  clear_value output u
  have hrobot := hheld.robot rfl
  refine ⟨hmoves (.robot 0) (.inl rfl), hmoves (.external 0) (.inr rfl), hholds, fun i hi => ⟨?_, ?_⟩,
    ?_, ?_⟩
  · exact hrobot.position i (hi.trans_eq hposition.symm) hi hi
  · exact hrobot.velocity i (hi.trans_eq hposition.symm) (hi.trans_eq hvelocity.symm) hi hi
  · exact hheld.external.position 0 (Nat.one_pos.trans_eq hposition'.symm) Nat.one_pos Nat.one_pos
  · exact hheld.external.velocity 0 (Nat.one_pos.trans_eq hposition'.symm)
      ((Nat.succ_pos 5).trans_eq hvelocity'.symm) Nat.one_pos Nat.one_pos

/-! ### An axis that the feedback loses -/

/-- A message of a robot with an external axis, or without one. -/
def withAxis (seqno : UInt32) (sec : UInt64) (axis : List ℚ) : EgmRobot ℚ :=
  { Evaluation.message seqno sec Evaluation.home true with
    feedBack := .present {
      Evaluation.planned Evaluation.home sec with externalJoints := .present ⟨axis⟩ }
    planned := .present {
      Evaluation.planned Evaluation.home sec with externalJoints := .present ⟨axis⟩ } }

/-- The external axis is to turn by ten degrees within ten seconds. -/
def turn : PointGoal ℚ :=
  { Evaluation.point 10 Evaluation.home with
    external := .present { joints := .present { position := .present ⟨[10]⟩ } } }

/-- A stop is ordered while the axis turns; the ramp down goes without its feedback. -/
def losesAxis : List (Event (TrajectoryConfiguration ℚ) (TrajectoryCall ℚ) (EgmRobot ℚ)) :=
  [.datagram (some (withAxis 0 0 [0])) [], .user (.addTrajectory ⟨[turn]⟩ false),
    .datagram (some (withAxis 1 1 [0])) [], .datagram (some (withAxis 2 2 [0])) [],
    .user (.stopTrajectory false), .datagram (some (withAxis 3 3 [0])) [],
    .datagram (some (withAxis 4 4 [])) [], .datagram (some (withAxis 5 5 [])) [],
    .datagram (some (withAxis 6 6 [])) []]

/-- The machine waits after the stop with a velocity reference that is not zero. -/
theorem stop_moves_lost_axis :
    let s := run (EGMInterface.step trajectoryHandler Evaluation.parse)
      (.init Evaluation.configurations (.init Evaluation.configurations)) losesAxis
    let s' := s.step trajectoryHandler Evaluation.parse (.datagram (some (withAxis 7 7 [])) [])
    s.motion.stateManager.verifyState .rampDown .finished = true ∧
      s.motion.events.doStop = true ∧ s.motion.events.doResume = false ∧
      s'.inputs.statesOk = true ∧ s'.motion.controller.egmMode = .egmJoint ∧
      s'.outputs.current.externalJoints.velocity.get.value 0 ≠ 0 := by
  decide +kernel

end TrajectoryMotion

end AbbWrapper
