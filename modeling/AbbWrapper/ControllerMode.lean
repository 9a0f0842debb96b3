import AbbWrapper.LastPoint
import AbbWrapper.SessionReset
import AbbWrapper.TransitionGraph

/-! # The mode of the output controller

At every update of the goal the controller notes whether the machine is in Normal, and ramps out
the velocities of a reached goal only then.  A goal that is resumed is activated while the machine
leaves RampDown: its state is Normal from the next callback on, but the note says otherwise for as
long as the goal lasts.

* `processed` is the state that a callback processes, and `prepared` the machine that it processes.
* `ActivatesNormalGoal` says that `updateNormalGoal` activates a goal in a callback: that is in
  (Normal, Running), or on leaving (RampDown, Finished).
* `RunsNormally` says that the controller is in normal mode until the next update of the goal.
* `Cycle` is a callback as an active goal sees it, and `references` what the goal makes of a list of
  such callbacks.

A goal is executed in normal mode exactly if it is activated in (Normal, Running); two goals that are
activated there from the same references have the same references ever after (`normal_mode_iff`).  A goal
that is resumed is not (`resumed_not_normal`). -/

namespace AbbWrapper

open Protobuf Runs

variable {α : Type} [Field α] [LinearOrder α] [Cmath α]

/-! ### The references of a goal -/

/-- A callback as an active goal sees it. -/
structure Cycle (α : Type) where
  sampleTime : α
  feedback : Feedback α
  outputs : Output α

namespace Controller

/-- The references of an active goal, callback by callback. -/
def references (c : Controller α) (m : MotionStep α) : List (Cycle α) → List (PointGoal α)
  | [] => []
  | cycle :: cycles =>
      let m := { m with data := { m.data with
        estimatedSampleTime := cycle.sampleTime, feedback := cycle.feedback } }
      let r := c.calculate cycle.outputs m.evaluateInterpolator
      r.2.2.interpolation :: references r.1 r.2.2 cycles

omit [LinearOrder α] [Cmath α] in
theorem checkForVelocityTransition_mode (c : Controller α) (references : PointGoal α) :
    (c.checkForVelocityTransition references).1.isNormalState = c.isNormalState := by
  unfold checkForVelocityTransition
  simp only
  split <;> rfl

/-- What is noted at an update of the goal stays. -/
theorem calculate_mode (c : Controller α) (output : Output α) (m : MotionStep α) :
    (c.calculate output m).1.isNormalState = c.isNormalState := by
  unfold calculate
  simp only
  split
  · exact checkForVelocityTransition_mode _ _
  · exact checkForVelocityTransition_mode _ _

/-- The references depend on the references of the interpolator, the time and the feedback. -/
theorem calculate_congr (c : Controller α) (output : Output α) {m m' : MotionStep α}
    (hinterpolation : m.interpolation = m'.interpolation)
    (htime : m.data.timePassed = m'.data.timePassed) (hfeedback : m.data.feedback = m'.data.feedback) :
    (c.calculate output m).1 = (c.calculate output m').1 ∧
      (c.calculate output m).2.2.interpolation = (c.calculate output m').2.2.interpolation := by
  obtain ⟨⟨mode, time, sample, factor, feedback⟩, internal, external, interpolation, interpolator,
    conditions, configurations⟩ := m
  obtain ⟨⟨mode', time', sample', factor', feedback'⟩, internal', external', interpolation',
    interpolator', conditions', configurations'⟩ := m'
  cases hinterpolation
  cases htime
  cases hfeedback
  obtain ⟨mode, references, normal, linear, transition, a, b, k⟩ := c
  cases mode <;> exact ⟨rfl, rfl⟩

/-- Controllers that follow alike, on interpolators that evaluate alike. -/
theorem references_alike {c c' : Controller α} {m m' : MotionStep α} (hc : c.Alike c')
    (hk : c.k = c'.k) (hinterpolation : m.interpolation = m'.interpolation)
    (htime : m.data.timePassed = m'.data.timePassed)
    (hinterpolator : m.interpolator.Alike m.interpolation.sizes m'.interpolator)
    (cycles : List (Cycle α)) : c.references m cycles = c'.references m' cycles := by
  induction cycles generalizing c c' m m' with
  | nil => rfl
  | cons cycle cycles ih =>
      unfold references
      simp only
      generalize hn : ({ m with data := { m.data with
        estimatedSampleTime := cycle.sampleTime, feedback := cycle.feedback } } :
          MotionStep α).evaluateInterpolator = n
      generalize hn' : ({ m' with data := { m'.data with
        estimatedSampleTime := cycle.sampleTime, feedback := cycle.feedback } } :
          MotionStep α).evaluateInterpolator = n'
      have heq : n.interpolation = n'.interpolation := by
        rw [← hn, ← hn']
        simp only [MotionStep.evaluateInterpolator, ← hinterpolation, ← htime]
        exact hinterpolator.evaluate _ rfl _ _
      have htime' : n.data.timePassed = n'.data.timePassed := by
        rw [← hn, ← hn']
        simp only [MotionStep.evaluateInterpolator, htime]
      have hfeedback : n.data.feedback = n'.data.feedback := by
        rw [← hn, ← hn']
        rfl
      have hsizes : n.interpolation.sizes = m.interpolation.sizes := by
        rw [← hn]
        exact EGMInterpolator.evaluate_sizes _ _ _ _
      have halike : n.interpolator.Alike m.interpolation.sizes n'.interpolator := by
        rw [← hn, ← hn']
        exact hinterpolator
      obtain ⟨hsame, hreference⟩ := c.calculate_congr cycle.outputs heq htime' hfeedback
      rw [← calculate_alike hc hk, ← hreference]
      congr 1
      obtain ⟨hk', hrewrites⟩ := calculate_frame c cycle.outputs n
      obtain ⟨-, hrewrites'⟩ := calculate_frame c cycle.outputs n'
      rw [← hsame]
      apply ih ⟨rfl, rfl, rfl, rfl⟩ rfl hreference
      · rw [congrArg MotionStep.data hrewrites.eq, congrArg MotionStep.data hrewrites'.eq]
        exact htime'
      · rw [congrArg MotionStep.interpolator hrewrites.eq,
          congrArg MotionStep.interpolator hrewrites'.eq, hrewrites.sizes, hsizes]
        exact halike

end Controller

namespace TrajectoryMotion

/-! ### The activation of a normal goal -/

/-- What a callback processes. -/
def prepared [FloorRing α] (t : TrajectoryMotion α) (inputs : InputContainer α) :
    TrajectoryMotion α := { t with trace := [] }.prepare inputs

/-- The state a callback processes. -/
def processed [FloorRing α] (t : TrajectoryMotion α) (inputs : InputContainer α) :
    States × SubStates := (t.prepared inputs).stateManager.updateState.current

/-- A callback in which `updateNormalGoal` activates a goal: that is done in (Normal, Running) and
on leaving (RampDown, Finished). -/
structure ActivatesNormalGoal [FloorRing α] (t : TrajectoryMotion α) (inputs : InputContainer α) :
    Prop where
  statesOk : inputs.statesOk = true
  place : t.processed inputs = (.normal, .running) ∨ t.processed inputs = (.rampDown, .finished)
  hasNewGoal : (t.prepared inputs).process.data.hasNewGoal = true

/-- A step that updates the goal. -/
def UpdatesGoal [FloorRing α] (t : TrajectoryMotion α) : Action α → Prop
  | .generateOutputs outputs inputs => (t.generateOutputs outputs inputs).1.data.hasNewGoal = true
  | _ => False

/-- The controller is in normal mode now and until the next update of the goal. -/
def RunsNormally [FloorRing α] (t : TrajectoryMotion α) : Prop :=
  ∀ es, Along step (fun s a => ¬s.UpdatesGoal a) t es →
    (run step t es).controller.isNormalState = true

/-- The interpolator is prepared for the internal goal, with the present spline method. -/
structure PreparedNormal (m : MotionStep α) : Prop where
  duration : m.interpolatorConditions.duration = m.internalGoal.duration.val
  mode : m.interpolatorConditions.mode = m.data.mode
  operation : m.interpolatorConditions.operation = .normal
  splineMethod : m.interpolatorConditions.splineMethod = m.configurations.splineMethod

/-- If there is a new goal, the interpolator is prepared for it. -/
def Prepares (t : TrajectoryMotion α) : Prop :=
  t.data.hasNewGoal = true → PreparedNormal t.motionStep

/-- What prepares a new goal, in each state that starts one. -/
inductive NewGoal : States × SubStates → MotionStep α → Prop where
  | normal (s : States × SubStates) (hs : s = (.normal, .running) ∨ s = (.rampDown, .finished))
      (m : MotionStep α) (lastPoint : Bool) : NewGoal s (m.prepareNormalGoal lastPoint)
  /-- The goal that is given up is stored as the external goal. -/
  | rampDown (m : MotionStep α) (doStop : Bool) (externalGoal : PointGoal α) :
      NewGoal (.rampDown, .none) { m.prepareRampDownGoal doStop with externalGoal := externalGoal }
  | staticPosition (m : MotionStep α) (positionGoal : StaticPositionGoal α) (fast : Bool) :
      NewGoal (.staticGoal, .running) (m.prepareStaticPositionGoal positionGoal fast)
  | staticVelocity (m : MotionStep α) (velocityGoal : StaticVelocityGoal α) (fast : Bool) :
      NewGoal (.staticGoal, .running) (m.prepareStaticVelocityGoal velocityGoal fast)

theorem updateNormalGoal_newGoal {t : TrajectoryMotion α}
    (hnew : t.updateNormalGoal.data.hasNewGoal = true) :
    ∃ (m : MotionStep α) (lastPoint : Bool),
      t.updateNormalGoal.motionStep = m.prepareNormalGoal lastPoint := by
  unfold updateNormalGoal at hnew ⊢
  cases hcurrent : t.trajectories.pCurrent with
  | none =>
      rw [hcurrent] at hnew
      cases hnew
  | some current =>
      obtain ⟨points⟩ := current
      rw [hcurrent] at hnew
      cases points with
      | nil => cases hnew
      | cons point points =>
          obtain ⟨m, hm, -⟩ := nextGoal_prepared t.motionStep point points
          exact ⟨m, points.isEmpty, hm⟩

theorem processNormalState_newGoal {t : TrajectoryMotion α} (h : t.data.hasNewGoal = false)
    (hnew : t.processNormalState.data.hasNewGoal = true) :
    t.stateManager.currentSubState = .running ∧ ∃ (m : MotionStep α) (lastPoint : Bool),
      t.processNormalState.motionStep = m.prepareNormalGoal lastPoint := by
  have hnone {u : TrajectoryMotion α} (hu : u.data.hasNewGoal = t.data.hasNewGoal)
      (hnew : u.data.hasNewGoal = true) : False := by
    rw [hu, h] at hnew
    cases hnew
  unfold processNormalState at hnew ⊢
  cases hsub : t.stateManager.currentSubState with
  | none =>
      rw [hsub] at hnew
      exact (hnone rfl hnew).elim
  | finished =>
      rw [hsub] at hnew
      exact (hnone rfl hnew).elim
  | running =>
      refine ⟨rfl, ?_⟩
      simp only [hsub] at hnew ⊢
      split at hnew
      · exact (hnone rfl hnew).elim
      · next hramp =>
        rw [if_neg hramp]
        cases hcurrent : t.trajectories.pCurrent with
        | none =>
            simp only [hcurrent] at hnew ⊢
            split at hnew
            · exact (hnone rfl hnew).elim
            · exact updateNormalGoal_newGoal hnew
        | some current =>
            simp only [hcurrent] at hnew ⊢
            split_ifs at hnew ⊢
            · exact updateNormalGoal_newGoal hnew
            · exact (hnone rfl hnew).elim
            · exact updateNormalGoal_newGoal hnew
            · exact (hnone rfl hnew).elim

theorem processRampDownState_newGoal {t : TrajectoryMotion α} (h : t.data.hasNewGoal = false)
    (hnew : t.processRampDownState.data.hasNewGoal = true) :
    NewGoal (.rampDown, t.stateManager.currentSubState) t.processRampDownState.motionStep := by
  have hhandled : t.handleRampDownEvents.data.hasNewGoal = false := by
    have hcontrol := congrArg Control.hasNewGoal t.control_handleRampDownEvents
    exact hcontrol.trans h
  have hnone {u v : TrajectoryMotion α} (hu : u.data.hasNewGoal = v.data.hasNewGoal)
      (hv : v.data.hasNewGoal = false) (hnew : u.data.hasNewGoal = true) : False := by
    rw [hu, hv] at hnew
    cases hnew
  unfold processRampDownState at hnew ⊢
  cases hsub : t.stateManager.currentSubState with
  | none =>
      simp only
      split
      · unfold storeNormalGoal
        split
        · exact .rampDown t.motionStep t.events.doStop t.motionStep.externalGoal
        · exact .rampDown t.motionStep t.events.doStop _
      · exact .rampDown t.motionStep t.events.doStop t.motionStep.externalGoal
  | running =>
      simp only [hsub] at hnew
      split at hnew
      · exact (hnone rfl h hnew).elim
      · exact (hnone rfl h hnew).elim
  | finished =>
      simp only [hsub] at hnew ⊢
      have hnext (e : PendingEvents α)
          (hnew : (t.handleRampDownEvents.setEvents e).updateNormalGoal.data.hasNewGoal = true) :
          NewGoal (.rampDown, .finished)
            ((t.handleRampDownEvents.setEvents e).updateNormalGoal).motionStep := by
        obtain ⟨m, lastPoint, hm⟩ := updateNormalGoal_newGoal hnew
        rw [hm]
        exact .normal _ (.inr rfl) m lastPoint
      split_ifs at hnew ⊢
      · exact (hnone rfl hhandled hnew).elim
      · exact hnext _ hnew
      · exact (hnone rfl hhandled hnew).elim
      · exact hnext _ hnew

theorem processStaticGoalState_newGoal {t : TrajectoryMotion α} (h : t.data.hasNewGoal = false)
    (hnew : t.processStaticGoalState.data.hasNewGoal = true) :
    NewGoal (.staticGoal, t.stateManager.currentSubState) t.processStaticGoalState.motionStep := by
  have happlied (hnew : t.applyStaticGoal.data.hasNewGoal = true) :
      NewGoal (.staticGoal, .running) t.applyStaticGoal.motionStep := by
    unfold applyStaticGoal at hnew ⊢
    simp only at hnew ⊢
    split_ifs at hnew ⊢
    · exact .staticPosition _ _ _
    · exact .staticVelocity _ _ _
    · exact absurd (hnew.symm.trans h) (by simp)
  unfold processStaticGoalState at hnew ⊢
  cases hsub : t.stateManager.currentSubState with
  | none =>
      simp only [hsub] at hnew
      have hpushed : t.pushCurrentFront.data.hasNewGoal = true := hnew
      unfold pushCurrentFront at hpushed
      split at hpushed
      · exact absurd (hpushed.symm.trans h) (by simp)
      · exact absurd (hpushed.symm.trans h) (by simp)
  | running =>
      simp only [hsub] at hnew ⊢
      split_ifs at hnew ⊢
      · exact happlied hnew
      · exact happlied hnew
      · exact happlied hnew
  | finished =>
      simp only [hsub] at hnew
      exact absurd (hnew.symm.trans h) (by simp)

/-- **The origin of a new goal.** -/
theorem process_newGoal {t : TrajectoryMotion α} (h : t.data.hasNewGoal = false)
    (hnew : t.process.data.hasNewGoal = true) :
    NewGoal t.stateManager.updateState.current t.process.motionStep := by
  unfold process at hnew ⊢
  simp only at hnew ⊢
  unfold StateManager.current
  cases hstate : t.stateManager.updateState.currentState with
  | normal =>
      simp only [hstate] at hnew ⊢
      obtain ⟨hsub, m, lastPoint, hm⟩ := processNormalState_newGoal (by exact h) hnew
      rw [hm]
      exact .normal _ (.inl (congrArg (Prod.mk States.normal) hsub)) m lastPoint
  | rampDown =>
      simp only [hstate] at hnew ⊢
      exact processRampDownState_newGoal (by exact h) hnew
  | staticGoal =>
      simp only [hstate] at hnew ⊢
      exact processStaticGoalState_newGoal (by exact h) hnew

variable [FloorRing α]

/-- The goal that is activated has been prepared. -/
theorem ActivatesNormalGoal.prepared {t : TrajectoryMotion α} {inputs : InputContainer α}
    (h : t.ActivatesNormalGoal inputs) : PreparedNormal (t.prepared inputs).process.motionStep := by
  refine (?_ : (t.prepared inputs).process.Prepares) h.hasNewGoal
  intro hnew
  have hplace := h.place
  have hgoal : NewGoal (t.processed inputs) (t.prepared inputs).process.motionStep :=
    process_newGoal rfl hnew
  generalize t.processed inputs = s at hplace hgoal
  generalize (t.prepared inputs).process.motionStep = m at hgoal
  cases hgoal with
  | normal => exact ⟨rfl, rfl, rfl, rfl⟩
  | rampDown => rcases hplace with hplace | hplace <;> cases hplace
  | staticPosition => rcases hplace with hplace | hplace <;> cases hplace
  | staticVelocity => rcases hplace with hplace | hplace <;> cases hplace

omit [Cmath α] in
theorem prepare_controller (t : TrajectoryMotion α) (inputs : InputContainer α) :
    (t.prepare inputs).controller = t.controller := by
  have hreset (u : TrajectoryMotion α) : u.resetComponents.controller = u.controller :=
    u.resetComponents_keeps.1
  have hcheck (u : TrajectoryMotion α) (statesOk : Bool) :
      (u.checkStates statesOk).controller = u.controller := by
    unfold checkStates
    split_ifs
    · rfl
    · rfl
    · exact hreset u
    · rfl
  change (checkStates _ _).controller = _
  rw [hcheck]
  split
  · exact hreset _
  · rfl

/-- A callback with ok states, as far as the controller is concerned. -/
theorem generateOutputs_controller {t : TrajectoryMotion α} {inputs : InputContainer α}
    (hok : inputs.statesOk = true) (outputs : Output α) :
    (t.generateOutputs outputs inputs).1.controller =
        ((t.prepared inputs).process.executeGoal outputs).1.controller ∧
      (t.generateOutputs outputs inputs).1.data.hasNewGoal =
        (t.prepared inputs).process.data.hasNewGoal := by
  unfold generateOutputs
  simp only [hok, if_true]
  refine ⟨rfl, ?_⟩
  have hcontrol := control_executeGoal (t.prepared inputs).process outputs
  exact congrArg Control.hasNewGoal hcontrol

omit [FloorRing α] in
/-- The evaluation of a goal does not touch the mode. -/
theorem executeGoal_mode (t : TrajectoryMotion α) (outputs : Output α) :
    (t.executeGoal outputs).1.controller.isNormalState = t.startGoal.controller.isNormalState := by
  rw [executeGoal_eq]
  split
  · exact Controller.calculate_mode _ _ _
  · rfl

/-- What the controller notes at an activation. -/
theorem activated_mode {t : TrajectoryMotion α} {inputs : InputContainer α}
    (h : t.ActivatesNormalGoal inputs) (outputs : Output α) :
    (t.step (.generateOutputs outputs inputs)).controller.isNormalState =
      decide ((t.processed inputs).1 = .normal) := by
  have hplace := (t.prepared inputs).process_turn.current.1
  rw [step, (generateOutputs_controller h.statesOk outputs).1, executeGoal_mode, startGoal,
    if_pos h.hasNewGoal]
  change decide ((t.prepared inputs).process.stateManager.currentState = .normal) = _
  rw [show (t.prepared inputs).process.stateManager.currentState = (t.processed inputs).1 from hplace]

/-- No other step changes it. -/
theorem step_mode {t : TrajectoryMotion α} {a : Action α} (h : ¬t.UpdatesGoal a) :
    (t.step a).controller.isNormalState = t.controller.isNormalState := by
  cases a with
  | call call => rw [step, (t.call_keeps call).controller]
  | updateConfigurations configurations => rfl
  | generateOutputs outputs inputs =>
      have hprepared : (t.prepared inputs).controller = t.controller := prepare_controller _ inputs
      cases hok : inputs.statesOk with
      | true =>
          obtain ⟨hcontroller, hnew⟩ := generateOutputs_controller (t := t) hok outputs
          have hold : (t.prepared inputs).process.data.hasNewGoal = false := by
            rw [← hnew]
            exact Bool.eq_false_iff.mpr h
          rw [step, hcontroller, executeGoal_mode, startGoal, hold, if_neg Bool.false_ne_true,
            (process_keeps _).controller, hprepared]
      | false =>
          rw [step, generateOutputs, hok]
          exact congrArg Controller.isNormalState hprepared

/-! ### Two activations -/

/-- The same references to start from, the same internal goal and the same way to get there. -/
structure SameGoal (m m' : MotionStep α) : Prop where
  start : m.interpolation = m'.interpolation
  internalGoal : m.internalGoal = m'.internalGoal
  mode : m.data.mode = m'.data.mode
  splineMethod : m.configurations.splineMethod = m'.configurations.splineMethod

omit [FloorRing α] in
/-- Goals that are activated in Normal are executed alike. -/
theorem references_eq {t t' : TrajectoryMotion α} (ht : Wired t) (ht' : Wired t')
    (hnew : t.data.hasNewGoal = true) (hnew' : t'.data.hasNewGoal = true)
    (hprepared : PreparedNormal t.motionStep) (hprepared' : PreparedNormal t'.motionStep)
    (hstate : t.stateManager.currentState = t'.stateManager.currentState)
    (hgoal : SameGoal t.motionStep t'.motionStep) (cycles : List (Cycle α)) :
    t.startGoal.controller.references t.startGoal.motionStep cycles =
      t'.startGoal.controller.references t'.startGoal.motionStep cycles := by
  have hconditions : t.motionStep.interpolatorConditions.Alike
      t'.motionStep.interpolatorConditions := by
    refine ⟨?_, ?_, ?_, fun hramp => ?_, fun _ => ?_⟩
    · rw [hprepared.duration, hprepared'.duration, hgoal.internalGoal]
    · rw [hprepared.mode, hprepared'.mode, hgoal.mode]
    · rw [hprepared.operation, hprepared'.operation]
    · rw [hprepared.operation] at hramp
      cases hramp
    · rw [hprepared.splineMethod, hprepared'.splineMethod, hgoal.splineMethod]
  have hstart : t.motionStep.updateInterpolator.interpolation =
      t'.motionStep.updateInterpolator.interpolation := by
    simp only [MotionStep.updateInterpolator, hgoal.start, hgoal.internalGoal, hconditions.duration]
  unfold startGoal
  rw [if_pos hnew, if_pos hnew']
  apply Controller.references_alike
  · refine ⟨hgoal.mode, hstart, ?_, ?_⟩
    · simp only [Controller.update, hstate]
    · have hmethod : t.configurations.splineMethod = t'.configurations.splineMethod := by
        rw [← ht.configurations, ← ht'.configurations, hgoal.splineMethod]
      simp only [Controller.update, hmethod]
  · exact ht.gain.trans ht'.gain.symm
  · exact hstart
  · rfl
  · have halike := EGMInterpolator.update_alike (ht.splines.trans ht'.splines.symm) hconditions
      t.motionStep.updateInterpolator.interpolation t.motionStep.internalGoal
    change (t.motionStep.interpolator.update t.motionStep.updateInterpolator.interpolation
      t.motionStep.internalGoal t.motionStep.interpolatorConditions).Alike _
        (t'.motionStep.interpolator.update t'.motionStep.updateInterpolator.interpolation
          t'.motionStep.internalGoal t'.motionStep.interpolatorConditions)
    rw [← hstart, ← hgoal.internalGoal]
    exact halike

/-- **A goal is executed in normal mode exactly if** it is activated in (Normal, Running), and not
on leaving a ramp down; two such goals that are the same have the same references. -/
theorem normal_mode_iff (configurations : TrajectoryConfiguration α) (es : List (Action α))
    (outputs : Output α) (inputs : InputContainer α)
    (h : (run step (init configurations) es).ActivatesNormalGoal inputs) :
    let t := run step (init configurations) es
    ((t.step (.generateOutputs outputs inputs)).RunsNormally ↔
      t.processed inputs = (.normal, .running)) ∧
    ∀ (configurations' : TrajectoryConfiguration α) (es' : List (Action α))
      (inputs' : InputContainer α),
      let t' := run step (init configurations') es'
      t'.ActivatesNormalGoal inputs' → t.processed inputs = (.normal, .running) →
        t'.processed inputs' = (.normal, .running) →
        SameGoal (t.prepared inputs).process.motionStep (t'.prepared inputs').process.motionStep →
        ∀ cycles, (t.prepared inputs).process.startGoal.controller.references
            (t.prepared inputs).process.startGoal.motionStep cycles =
          (t'.prepared inputs').process.startGoal.controller.references
            (t'.prepared inputs').process.startGoal.motionStep cycles := by
  intro t
  have hmode := activated_mode h outputs
  constructor
  · constructor
    · intro hruns
      have hnormal := hmode.symm.trans (hruns [] trivial)
      rcases h.place with hplace | hplace
      · exact hplace
      · rw [hplace] at hnormal
        cases hnormal
    · intro hplace after hafter
      have hstart : (t.step (.generateOutputs outputs inputs)).controller.isNormalState = true := by
        rw [hmode, hplace]
        rfl
      exact hafter.run_inv (I := fun s : TrajectoryMotion α => s.controller.isNormalState = true)
        (fun s a hs ha => (step_mode ha).trans hs) hstart
  · intro configurations' es' inputs' t' h' hplace hplace' hgoal cycles
    have hwired (s : TrajectoryMotion α) (hs : Wired s) (i : InputContainer α) :
        Wired (s.prepared i).process := by
      have hcleared : Wired { s with trace := [] } := hs.of_eq rfl rfl rfl rfl
      exact (hcleared.prepare i).of_keeps (process_keeps _)
    have hstate := (t.prepared inputs).process_turn.current.1.trans (congrArg Prod.fst hplace)
    have hstate' := (t'.prepared inputs').process_turn.current.1.trans (congrArg Prod.fst hplace')
    exact references_eq (hwired t (wired_run configurations es) inputs)
      (hwired t' (wired_run configurations' es') inputs') h.hasNewGoal h'.hasNewGoal h.prepared
      h'.prepared (hstate.trans hstate'.symm) hgoal cycles

/-! ### A resumed goal -/

namespace Resumed

/-- Splines of first order. -/
def linear : TrajectoryConfiguration ℚ := { Evaluation.configurations with splineMethod := .linear }

/-- A goal of ten seconds is added, and activated by the next callback. -/
def added : List (Action ℚ) := [.generateOutputs {} Evaluation.first,
  .call (.addTrajectory ⟨[Evaluation.point 10 [10, 0, 0, 0, 0, 0]]⟩ false)]

/-- The goal is stopped after a second, and a resume is ordered. -/
def stopped : List (Action ℚ) := added ++ .generateOutputs {} Evaluation.next ::
  .call (.stopTrajectory false) :: .replicate 4 (.generateOutputs {} Evaluation.next) ++
  [.call .resumeTrajectory]

/-- The time the goal needs. -/
def callbacks : List (Action ℚ) := .replicate 12 (.generateOutputs {} Evaluation.next)

/-- The goal is activated in (Normal, Running) at first. -/
theorem normal_mode_added :
    ((run step (init linear) added).step (.generateOutputs {} Evaluation.next)).RunsNormally := by
  have hplace : (run step (init linear) added).processed Evaluation.next = (.normal, .running) := by
    decide +kernel
  have hnew : ((run step (init linear) added).prepared Evaluation.next).process.data.hasNewGoal =
      true := by
    decide +kernel
  exact (normal_mode_iff linear added {} Evaluation.next ⟨by decide +kernel, .inl hplace,
    hnew⟩).1.mpr hplace

/-- **A resumed goal is not executed in normal mode**: the velocity with which the goal starts is
not ramped out, and still there when the goal has ended. -/
theorem resumed_not_normal :
    ¬(∀ (configurations : TrajectoryConfiguration ℚ) (es : List (Action ℚ)) (outputs : Output ℚ)
      (inputs : InputContainer ℚ), (run step (init configurations) es).ActivatesNormalGoal inputs →
        ((run step (init configurations) es).step (.generateOutputs outputs inputs)).RunsNormally) ∧
    ((run step (init linear) (stopped ++ callbacks)).motionStep.interpolation.robotJoints.velocity.get.value
      0 ≠ 0) := by
  refine ⟨fun h => ?_, by decide +kernel⟩
  have hplace : (run step (init linear) stopped).processed Evaluation.next =
      (.rampDown, .finished) := by
    decide +kernel
  have hnew : ((run step (init linear) stopped).prepared Evaluation.next).process.data.hasNewGoal =
      true := by
    decide +kernel
  have hruns := h linear stopped {} Evaluation.next ⟨by decide +kernel, .inr hplace, hnew⟩ [] trivial
  revert hruns
  decide +kernel

end Resumed

end TrajectoryMotion

end AbbWrapper
