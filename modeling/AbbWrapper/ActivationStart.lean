import Mathlib.Data.List.Induction
import AbbWrapper.ControllerMode

/-! # Where a motion starts

The references from which the first goal of a session starts are those of the last reset.  A reset
takes place at a session's first message and as the states of an active session become not ok; the
activation itself, which may come many messages later, resets nothing.

* `SamePlace` compares the places of two feedbacks, and `StartsAt` says that references are at rest at
  the place of a feedback.
* `lastReset` is the feedback of the last reset of a run.  In (Normal, None) the references are those of
  this reset (`Parked`, `parked_run`).
* `BecomesActive` says of a callback that the machine becomes active in it, `goalStart` are the
  references from which a goal starts that is activated in a callback, and `Rests` are the steps of a
  session after which no goal is active.

A motion starts where the robot is exactly if the activation is a first message, or the robot has not
moved since the last reset (`starts_at_feedback_iff`); it may start 30 degrees away
(`starts_elsewhere`).  A goal that is activated in a later callback starts from the same references. -/

namespace AbbWrapper

open Protobuf Runs

variable {α : Type} [Field α]

/-! ### Places -/

/-- The same joint positions, external positions and pose. -/
structure Feedback.SamePlace (f f' : Feedback α) : Prop where
  robot : f.robotJoints.position.get = f'.robotJoints.position.get
  position : f.robotCartesian.pose.get.position.get = f'.robotCartesian.pose.get.position.get
  orientation :
    f.robotCartesian.pose.get.quaternion.get = f'.robotCartesian.pose.get.quaternion.get
  external : f.externalJoints.position.get = f'.externalJoints.position.get

/-- References at rest at the place of a feedback. -/
structure PointGoal.StartsAt (p : PointGoal α) (f : Feedback α) : Prop where
  robot : p.robotJoints.position.get = f.robotJoints.position.get
  position : p.robotCartesian.pose.get.position.get = f.robotCartesian.pose.get.position.get
  orientation : p.robotCartesian.pose.get.quaternion.get = f.robotCartesian.pose.get.quaternion.get
  external : p.externalJoints.position.get = f.externalJoints.position.get
  atRest : p.AtRest

theorem PointGoal.StartsAt.iff_samePlace {p : PointGoal α} {f : Feedback α} (h : p.StartsAt f)
    (f' : Feedback α) : p.StartsAt f' ↔ f.SamePlace f' := by
  constructor
  · intro h'
    exact ⟨h.robot.symm.trans h'.robot, h.position.symm.trans h'.position,
      h.orientation.symm.trans h'.orientation, h.external.symm.trans h'.external⟩
  · intro hsame
    exact ⟨h.robot.trans hsame.robot, h.position.trans hsame.position,
      h.orientation.trans hsame.orientation, h.external.trans hsame.external, h.atRest⟩

/-- A reset takes the references to the feedback. -/
theorem MotionStep.resetMotionStep_startsAt (m : MotionStep α) :
    m.resetMotionStep.interpolation.StartsAt m.data.feedback :=
  ⟨rfl, rfl, rfl, rfl, PointGoal.resetVelocities_atRest _ _⟩

omit [Field α] in
/-- A new goal is active. -/
theorem Control.Turn.active {c c' : Control α} (h : Control.Turn c c') (hc : c.hasNewGoal = false)
    (hnew : c'.hasNewGoal = true) : c'.hasActiveGoal = true := by
  have hgoal (d d' : Control α) (hgoal : Control.NextGoal d d') (hnew : d'.hasNewGoal = true) :
      d'.hasActiveGoal = true := by
    cases hgoal with
    | found => rfl
    | empty => cases hnew
    | exhausted => cases hnew
  have hold (h : c.hasNewGoal = true) : c'.hasActiveGoal = true :=
    absurd (h.symm.trans hc) (by simp)
  cases h with
  | advance _ _ _ _ _ hnext => exact hgoal _ _ hnext hnew
  | take _ _ _ _ _ _ _ _ hnext => exact hgoal _ _ hnext hnew
  | startRampDown => rfl
  | resume d _ _ _ _ _ hnext => exact hgoal _ d hnext hnew
  | rampedDown d _ _ _ hnext => exact hgoal _ d hnext hnew
  | executeStaticGoal =>
      have happly (hnew : c.applyStaticGoal.hasNewGoal = true) :
          c.applyStaticGoal.hasActiveGoal = true := by
        unfold Control.applyStaticGoal at hnew ⊢
        simp only at hnew ⊢
        split_ifs at hnew ⊢
        · rfl
        · rfl
        · exact absurd (hnew.symm.trans hc) (by simp)
      split_ifs at hnew ⊢
      · exact happly hnew
      · exact happly hnew
      · exact happly hnew
  | startStaticGoal => exact absurd (hnew.symm.trans hc) (by simp)
  | _ => exact hold hnew

omit [Field α] in
/-- A goal that is not new has been active before. -/
theorem Control.Turn.kept {c c' : Control α} (h : Control.Turn c c') (hnew : c'.hasNewGoal = false)
    (hactive : c'.hasActiveGoal = true) : c.hasActiveGoal = true := by
  have hgoal (d d' : Control α) (hgoal : Control.NextGoal d d') (hnew : d'.hasNewGoal = false)
      (hactive : d'.hasActiveGoal = true) : False := by
    cases hgoal with
    | found => cases hnew
    | empty => cases hactive
    | exhausted => cases hactive
  cases h with
  | advance _ _ _ _ _ hnext => exact (hgoal _ _ hnext hnew hactive).elim
  | take _ _ _ _ _ _ _ _ hnext => exact (hgoal _ _ hnext hnew hactive).elim
  | startRampDown => cases hnew
  | resume d _ _ _ _ _ hnext => exact (hgoal _ d hnext hnew hactive).elim
  | rampedDown d _ _ _ hnext => exact (hgoal _ d hnext hnew hactive).elim
  | startStaticGoal => cases hactive
  | executeStaticGoal =>
      have happly (hnew : c.applyStaticGoal.hasNewGoal = false)
          (hactive : c.applyStaticGoal.hasActiveGoal = true) : c.hasActiveGoal = true := by
        unfold Control.applyStaticGoal at hnew hactive
        simp only at hnew hactive
        split_ifs at hnew hactive
        exact hactive
      split_ifs at hnew hactive
      · exact happly hnew hactive
      · exact happly hnew hactive
      · exact happly hnew hactive
  | _ => exact hactive

namespace TrajectoryMotion

variable [LinearOrder α] [Cmath α] [FloorRing α]

omit [FloorRing α] in
/-- **Rule for active goals**: a property of the interpolator and the references that the active goal
has is kept as long as the goal goes on; a new goal must have it as it is started. -/
theorem startGoal_active {P : MotionStep α → Prop}
    (hcongr : ∀ {m m' : MotionStep α}, m'.interpolator = m.interpolator →
      m'.interpolation = m.interpolation → P m → P m')
    {t : TrajectoryMotion α} (hold : t.data.hasActiveGoal = true → P t.motionStep)
    (hnew : t.process.data.hasNewGoal = true → P t.process.motionStep.updateInterpolator) :
    t.process.startGoal.data.hasActiveGoal = true → P t.process.startGoal.motionStep := by
  intro hactive
  rw [hasActiveGoal_startGoal] at hactive
  unfold startGoal
  split
  next hgoal => exact hnew hgoal
  next hgoal =>
    have hkept := t.process_keeps.motionStep
    have hwas := t.process_turn.kept (Bool.eq_false_iff.mpr hgoal) hactive
    exact hcongr hkept.interpolator hkept.interpolation (hold hwas)

/-! ### Resets -/

/-- The feedback of a step that resets the references. -/
def resetFeedback (t : TrajectoryMotion α) : Action α → Option (Feedback α)
  | .generateOutputs _ inputs =>
      if inputs.firstMessage || !inputs.statesOk && !t.stateManager.verifyState .normal .none then
        some inputs.current.feedback.get
      else none
  | _ => none

/-- The feedback of the last reset of a run, if the one before it was `f`. -/
def lastReset : TrajectoryMotion α → Feedback α → List (Action α) → Feedback α
  | _, f, [] => f
  | t, f, a :: es => lastReset (t.step a) ((t.resetFeedback a).getD f) es

/-- In (Normal, None) the references are those of the last reset, whose feedback is `f`. -/
def Parked (f : Feedback α) (t : TrajectoryMotion α) : Prop :=
  t.stateManager.verifyState .normal .none = true → t.motionStep.interpolation.StartsAt f

omit [Cmath α] in
/-- A callback is prepared with a reset, or within a session. -/
theorem prepared_goal (t : TrajectoryMotion α) (inputs : InputContainer α) :
    let resets := inputs.firstMessage || !inputs.statesOk && !t.stateManager.verifyState .normal .none
    (t.prepared inputs).motionStep = (if resets then (t.receive inputs).motionStep.resetMotionStep
        else (t.receive inputs).motionStep) ∧
      (t.prepared inputs).data.hasActiveGoal = (!resets && t.data.hasActiveGoal) := by
  intro resets
  obtain ⟨u, hu⟩ : ∃ u, u = { t with trace := [] }.receive inputs := ⟨_, rfl⟩
  have hmotion : u.motionStep = (t.receive inputs).motionStep := by rw [hu]; rfl
  have hverify : u.stateManager.verifyState .normal .none =
      t.stateManager.verifyState .normal .none := by rw [hu]; rfl
  have hactive : u.data.hasActiveGoal = t.data.hasActiveGoal := by rw [hu]; rfl
  have hprepared : (t.prepared inputs).motionStep =
        ((if inputs.firstMessage then u.resetComponents else u).checkStates
          inputs.statesOk).motionStep ∧
      (t.prepared inputs).data.hasActiveGoal =
        ((if inputs.firstMessage then u.resetComponents else u).checkStates
          inputs.statesOk).data.hasActiveGoal := by
    rw [hu]
    exact ⟨rfl, rfl⟩
  rw [hprepared.1, hprepared.2]
  have hreset : u.resetComponents.stateManager.verifyState .normal .none = true := rfl
  unfold checkStates
  cases hfirst : inputs.firstMessage with
  | true =>
      have hresets : resets = true := by simp [resets, hfirst]
      rw [hresets, if_pos rfl, if_pos rfl, ← hmotion, ← motionStep_resetComponents u, hreset]
      cases inputs.statesOk <;> exact ⟨rfl, rfl⟩
  | false =>
      have hresets : resets = (!inputs.statesOk && !u.stateManager.verifyState .normal .none) := by
        simp [resets, hfirst, hverify]
      rw [hresets, if_neg Bool.false_ne_true, ← hmotion, ← hactive]
      cases inputs.statesOk <;> cases u.stateManager.verifyState .normal .none
      · exact ⟨motionStep_resetComponents u, rfl⟩
      · exact ⟨rfl, rfl⟩
      · exact ⟨rfl, rfl⟩
      · exact ⟨rfl, rfl⟩

omit [Cmath α] in
/-- Where the references are once a callback is prepared, unless a session goes on. -/
theorem prepared_startsAt {f : Feedback α} {t : TrajectoryMotion α} {inputs : InputContainer α}
    (h : t.stateManager.verifyState .normal .none = true ∨ inputs.firstMessage = true ∨
      inputs.statesOk = false)
    (ht : t.Parked f) : (t.prepared inputs).motionStep.interpolation.StartsAt
      (if inputs.firstMessage || !inputs.statesOk && !t.stateManager.verifyState .normal .none then
        inputs.current.feedback.get else f) := by
  obtain ⟨hmotion, -⟩ := t.prepared_goal inputs
  rw [hmotion]
  cases hresets : inputs.firstMessage ||
      !inputs.statesOk && !t.stateManager.verifyState .normal .none with
  | true =>
      rw [if_pos rfl, if_pos rfl]
      exact (t.receive inputs).motionStep.resetMotionStep_startsAt
  | false =>
      rw [if_neg Bool.false_ne_true, if_neg Bool.false_ne_true]
      have hv : t.stateManager.verifyState .normal .none = true := by
        rw [Bool.or_eq_false_iff, Bool.and_eq_false_iff, Bool.not_eq_false', Bool.not_eq_false']
          at hresets
        obtain ⟨hfirst, hok | hv⟩ := hresets
        · exact h.resolve_right (by simp [hfirst, hok])
        · exact hv
      exact ht hv

theorem Parked.step {f : Feedback α} {t : TrajectoryMotion α} (ht : t.Parked f)
    (hgraph : t.control.OnGraph) (a : Action α) : (t.step a).Parked ((t.resetFeedback a).getD f) := by
  cases a with
  | call call =>
      intro hv
      have hmanager := (congrArg Control.manager (t.control_call call)).trans
        (Control.call_frame t.control call).1
      rw [show (t.step (.call call)).stateManager = t.stateManager from hmanager] at hv
      rw [TrajectoryMotion.step, (t.call_keeps call).motionStep.interpolation]
      exact ht hv
  | updateConfigurations configurations => exact ht
  | generateOutputs outputs inputs =>
      intro hv
      cases hok : inputs.statesOk with
      | true =>
          -- a callback with ok states leaves an active machine
          have hmoves := (hgraph.step (t.step_control (.generateOutputs outputs inputs))).2
          simp only [StateManager.verifyState, decide_eq_true_eq] at hv
          have hplace : (t.step (.generateOutputs outputs inputs)).control.manager.current =
              (.normal, .none) := Prod.ext hv.1 hv.2
          rw [hplace] at hmoves
          simp only [Moves, hok, if_true] at hmoves
          split at hmoves
          · cases hmoves
          · rcases hmoves with ⟨hstays, hne⟩ | hedge
            · exact absurd hstays.symm hne
            · generalize t.control.manager.current = s at hedge
              cases hedge
      | false =>
          have hprepared := prepared_startsAt (.inr (.inr hok)) ht
          have hstep : (t.step (.generateOutputs outputs inputs)).motionStep =
              (t.prepared inputs).motionStep := by
            rw [TrajectoryMotion.step, generateOutputs, hok]
            rfl
          have hget : (t.resetFeedback (.generateOutputs outputs inputs)).getD f =
              if inputs.firstMessage || !inputs.statesOk &&
                !t.stateManager.verifyState .normal .none then inputs.current.feedback.get else f := by
            simp only [resetFeedback]
            split <;> rfl
          rw [hstep, hget]
          exact hprepared

/-- The references of a run in (Normal, None). -/
theorem parked_run (configurations : TrajectoryConfiguration α) (es : List (Action α)) :
    (run step (init configurations) es).Parked ((init configurations).lastReset {} es) := by
  have hlast (f : Feedback α) (t : TrajectoryMotion α) (ht : t.Parked f)
      (hgraph : t.control.OnGraph) (es : List (Action α)) :
      (run step t es).Parked (t.lastReset f es) := by
    induction es generalizing f t with
    | nil => exact ht
    | cons a es ih => exact ih _ _ (ht.step hgraph a) (hgraph.step (t.step_control a)).1
  refine hlast {} (init configurations) (fun _ => ⟨rfl, rfl, rfl, rfl, ?_⟩)
    (onGraph_run configurations []) es
  exact ⟨⟨nofun, nofun⟩, ⟨rfl, rfl, rfl⟩, ⟨rfl, rfl, rfl⟩, ⟨rfl, rfl, rfl⟩, ⟨nofun, nofun⟩⟩

/-! ### Activations -/

/-- A callback in which the machine becomes active. -/
structure BecomesActive (t : TrajectoryMotion α) (inputs : InputContainer α) : Prop where
  statesOk : inputs.statesOk = true
  inactive : inputs.firstMessage = true ∨ t.stateManager.verifyState .normal .none = true

/-- The references from which a goal starts that is activated in a callback. -/
def goalStart (t : TrajectoryMotion α) (inputs : InputContainer α) : PointGoal α :=
  (t.prepared inputs).process.motionStep.interpolation

/-- A step of the session after which no goal is active. -/
def Rests (t : TrajectoryMotion α) (a : Action α) : Prop :=
  (∀ outputs inputs, a = .generateOutputs outputs inputs →
    inputs.statesOk = true ∧ inputs.firstMessage = false) ∧ (t.step a).data.hasActiveGoal = false

theorem goalStart_eq (t : TrajectoryMotion α) (inputs : InputContainer α) :
    t.goalStart inputs = (t.prepared inputs).motionStep.interpolation :=
  (process_keeps _).motionStep.interpolation

/-- Within a session a goal starts from the references there are. -/
theorem goalStart_session {t : TrajectoryMotion α} {inputs : InputContainer α}
    (hok : inputs.statesOk = true) (hfirst : inputs.firstMessage = false) :
    t.goalStart inputs = t.motionStep.interpolation := by
  rw [goalStart_eq, (t.prepared_goal inputs).1, hfirst, hok]
  rfl

/-- A callback after which no goal is active has not touched the references. -/
theorem step_rests {t : TrajectoryMotion α} {outputs : Output α} {inputs : InputContainer α}
    (hok : inputs.statesOk = true)
    (hrests : (t.step (.generateOutputs outputs inputs)).data.hasActiveGoal = false) :
    (t.step (.generateOutputs outputs inputs)).motionStep.interpolation = t.goalStart inputs := by
  have hcontrol := control_executeGoal (t.prepared inputs).process outputs
  have hactive : (t.prepared inputs).process.data.hasActiveGoal = false := by
    rw [step, generateOutputs, hok] at hrests
    exact (congrArg Control.hasActiveGoal hcontrol).symm.trans hrests
  have hnew : (t.prepared inputs).process.data.hasNewGoal = false := by
    have hturn := (t.prepared inputs).process_turn
    cases hnew : (t.prepared inputs).process.data.hasNewGoal with
    | false => rfl
    | true => exact absurd ((hturn.active rfl hnew).symm.trans hactive) (by simp)
  have hidle : ((t.prepared inputs).process.executeGoal outputs).1 = (t.prepared inputs).process := by
    have hstart : (t.prepared inputs).process.startGoal = (t.prepared inputs).process := by
      rw [startGoal, hnew, if_neg Bool.false_ne_true]
    rw [executeGoal_eq, hstart, hactive, if_neg Bool.false_ne_true]
  rw [step, generateOutputs, hok]
  exact congrArg (·.motionStep.interpolation) hidle

/-- Nor has any other step of the session. -/
theorem run_rests {t : TrajectoryMotion α} {es : List (Action α)} (h : Along step Rests t es) :
    (run step t es).motionStep.interpolation = t.motionStep.interpolation := by
  induction es generalizing t with
  | nil => rfl
  | cons a es ih =>
      obtain ⟨⟨hsession, hrests⟩, hrest⟩ := h
      refine (ih hrest).trans ?_
      cases a with
      | call call => exact (t.call_keeps call).motionStep.interpolation
      | updateConfigurations configurations => rfl
      | generateOutputs outputs inputs =>
          obtain ⟨hok, hfirst⟩ := hsession outputs inputs rfl
          rw [step_rests hok hrests, goalStart_session hok hfirst]

/-- **A motion starts where the robot is exactly if** the activation is a first message, or the
feedback of the last reset was at the same place.  A goal that is activated in a later callback
starts from the same references. -/
theorem starts_at_feedback_iff (configurations : TrajectoryConfiguration α) (es : List (Action α))
    (inputs : InputContainer α) (h : (run step (init configurations) es).BecomesActive inputs) :
    let t := run step (init configurations) es
    ((t.goalStart inputs).StartsAt inputs.current.feedback.get ↔ inputs.firstMessage = true ∨
      ((init configurations).lastReset {} es).SamePlace inputs.current.feedback.get) ∧
    ∀ (outputs : Output α) (later : List (Action α)) (inputs' : InputContainer α),
      (t.step (.generateOutputs outputs inputs)).data.hasActiveGoal = false →
        Along step Rests (t.step (.generateOutputs outputs inputs)) later →
          inputs'.statesOk = true → inputs'.firstMessage = false →
            (run step (t.step (.generateOutputs outputs inputs)) later).goalStart inputs' =
              t.goalStart inputs := by
  intro t
  have hparked := parked_run configurations es
  have hstart := prepared_startsAt (h.inactive.symm.imp_right .inl) hparked
  rw [h.statesOk, Bool.not_true, Bool.false_and, Bool.or_false] at hstart
  constructor
  · rw [goalStart_eq]
    cases hfirst : inputs.firstMessage with
    | true =>
        rw [hfirst, if_pos rfl] at hstart
        exact iff_of_true hstart (.inl rfl)
    | false =>
        rw [hfirst, if_neg Bool.false_ne_true] at hstart
        rw [hstart.iff_samePlace]
        simp
  · intro outputs later inputs' hrests hlater hok hfirst
    rw [goalStart_session hok hfirst, run_rests hlater, step_rests h.statesOk hrests]

/-! ### Evaluated activations -/

/-- The inputs of a first message whose states are not ok. -/
def notReady : InputContainer ℚ :=
  Evaluation.receive .init (Evaluation.message 0 0 Evaluation.home false)

/-- The robot stands still until its states are ok. -/
def stillThere : InputContainer ℚ :=
  Evaluation.receive notReady (Evaluation.message 1 1 Evaluation.home true)

/-- The activation comes with the second message. -/
theorem starts_at_feedback_still :
    let t := run step (init Evaluation.configurations) [.generateOutputs {} notReady]
    stillThere.firstMessage = false ∧ (t.goalStart stillThere).StartsAt stillThere.current.feedback.get := by
  have hactive : (run step (init Evaluation.configurations)
      [.generateOutputs {} notReady]).BecomesActive stillThere :=
    ⟨by decide +kernel, .inr (by decide +kernel)⟩
  refine ⟨by decide +kernel, (starts_at_feedback_iff Evaluation.configurations
    [.generateOutputs {} notReady] stillThere hactive).1.mpr (.inr ?_)⟩
  exact ⟨by decide +kernel, by decide +kernel, by decide +kernel, by decide +kernel⟩

/-- The robot has been moved by hand before its states become ok. -/
def moved : InputContainer ℚ :=
  Evaluation.receive notReady (Evaluation.message 1 1 [30, 0, 0, 0, 0, 0] true)

/-- **A motion does not always start where the robot is**: it starts from the joint angles of the
first message, 30 degrees away. -/
theorem starts_elsewhere :
    ¬(∀ (es : List (Action ℚ)) (inputs : InputContainer ℚ),
      (run step (init Evaluation.configurations) es).BecomesActive inputs →
        ((run step (init Evaluation.configurations) es).goalStart inputs).StartsAt
          inputs.current.feedback.get) := by
  intro h
  have hrobot := (h [.generateOutputs {} notReady] moved
    ⟨by decide +kernel, .inr (by decide +kernel)⟩).robot
  revert hrobot
  decide +kernel

end TrajectoryMotion

end AbbWrapper
