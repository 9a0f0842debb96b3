import AbbWrapper.Agreement

/-! # Machines on the same course

While no goal is active, the interpolator and the output controller are not read, and a new goal
overwrites them.  So machines that agree, and whose interpolators and controllers are alike if there
is a goal to be executed, agree for ever in their states and their queues.

* `Idle` says that no goal is active and the next one will be a new one; a machine stays so until it starts
  one (`Idle.turn`).
* `Executes` says of two machines that they evaluate and calculate the same, and `SameCourse` that they
  agree and have to execute the same, or nothing.
* `Processed` is what holds between the two parts of a callback: the goal that is to be executed is a new
  one, or there is none, or the machines execute the same.

The start of a goal makes machines alike that were not (`Processed.startGoal`), and every step keeps
them on the same course (`SameCourse.step`). -/

namespace AbbWrapper

open Protobuf Runs

variable {α : Type}

/-! ### Idle machines -/

namespace Control

/-- No goal is active, and the next one will be a new one. -/
structure Idle (c : Control α) : Prop where
  hasActiveGoal : c.hasActiveGoal = false
  pCurrent : c.pCurrent = none
  ready : c.next.1 = .normal ∨ c.next = (.rampDown, .none)

theorem Idle.congr {c c' : Control α} (h : Idle c) (hactive : c'.hasActiveGoal = c.hasActiveGoal)
    (hcurrent : c'.pCurrent = c.pCurrent) (hmanager : c'.manager = c.manager) : Idle c' :=
  ⟨hactive ▸ h.hasActiveGoal, hcurrent ▸ h.pCurrent, by
    simpa only [next, hmanager] using h.ready⟩

theorem NextGoal.idle {c c' : Control α} (h : NextGoal c c') (hnext : c.next.1 = .normal) :
    c'.hasNewGoal = true ∨ Idle c' := by
  cases h with
  | empty h => exact .inr ⟨rfl, h, .inl hnext⟩
  | found => exact .inl rfl
  | exhausted => exact .inr ⟨rfl, rfl, .inl hnext⟩

/-- An idle machine stays so until it starts a goal. -/
theorem Idle.turn {c c' : Control α} (hc : Idle c) (h : Turn c.updateState c') :
    c'.hasNewGoal = true ∨ Idle c' := by
  have hp : c.updateState.manager.hasPendingState = false := updateState_hasPendingState _
  have hcurrent : c.updateState.pCurrent = none := hc.pCurrent
  have hstays (hstate : c.updateState.manager.currentState = .normal) : Idle c.updateState :=
    ⟨hc.hasActiveGoal, hcurrent, .inl (by rw [next_of_not_pending hp, hstate])⟩
  have hramp (hstate : c.updateState.manager.currentState = .rampDown)
      (hsub : c.updateState.manager.currentSubState ≠ .none) : False := by
    rcases hc.ready with hnext | hnext
    · rw [show c.next.1 = c.updateState.manager.currentState from rfl, hstate] at hnext
      cases hnext
    · exact hsub (congrArg Prod.snd hnext)
  have hstatic (hstate : c.updateState.manager.currentState = .staticGoal) : False := by
    rcases hc.ready with hnext | hnext
    · rw [show c.next.1 = c.updateState.manager.currentState from rfl, hstate] at hnext
      cases hnext
    · have hnext := congrArg Prod.fst hnext
      rw [show c.next.1 = c.updateState.manager.currentState from rfl, hstate] at hnext
      cases hnext
  cases h with
  | shouldNeverOccur hstate => exact .inr ((hstays hstate).congr rfl rfl rfl)
  | interrupt hstate hsub =>
      refine .inr ⟨hc.hasActiveGoal, hcurrent, .inr (next_request ?_)⟩
      simp [StateManager.accepts, hstate, hsub]
  | «continue» hstate => exact .inr (hstays hstate)
  | advance _ _ _ _ hne => exact absurd hcurrent hne
  | take trajectory queue _ hstate _ _ _ _ hgoal =>
      refine hgoal.idle ?_
      rw [next_of_not_pending (by exact hp)]
      exact hstate
  | startRampDown => exact .inl rfl
  | continueRampDown hstate hsub => exact (hramp hstate (by simp [hsub])).elim
  | finishRampDown hstate hsub => exact (hramp hstate (by simp [hsub])).elim
  | wait hstate hsub => exact (hramp hstate (by simp [hsub])).elim
  | enterStaticGoal hstate hsub => exact (hramp hstate (by simp [hsub])).elim
  | resume _ hstate hsub => exact (hramp hstate (by simp [hsub])).elim
  | rampedDown _ hstate hsub => exact (hramp hstate (by simp [hsub])).elim
  | startStaticGoal hstate => exact (hstatic hstate).elim
  | executeStaticGoal hstate => exact (hstatic hstate).elim
  | finishStaticGoal hstate => exact (hstatic hstate).elim

theorem pCurrent_pushCurrentFront (c : Control α) : c.pushCurrentFront.pCurrent = none := by
  unfold pushCurrentFront
  split
  next h => exact h
  next => rfl

/-- A reset leaves an idle machine. -/
theorem idle_reset (c : Control α) (duration : α) : Idle (c.reset duration) :=
  ⟨rfl, pCurrent_pushCurrentFront (c.store duration), .inl rfl⟩

theorem Idle.checkStates {c : Control α} (h : Idle c) (statesOk : Bool) (duration : α) :
    Idle (c.checkStates statesOk duration) := by
  unfold Control.checkStates
  split
  · split
    · refine ⟨h.hasActiveGoal, h.pCurrent, ?_⟩
      cases hp : c.manager.hasPendingState with
      | false => exact .inl (by simp [next, StateManager.updateState,
          StateManager.activateStateManager, hp])
      | true =>
          have hnext := h.ready
          simp only [next, StateManager.updateState, StateManager.activateStateManager, hp,
            if_true] at hnext ⊢
          exact hnext
    · exact h
  · split
    · exact (idle_reset c duration).congr rfl rfl rfl
    · exact h

theorem Idle.call [Field α] [LinearOrder α] {c : Control α} (h : Idle c)
    (call : TrajectoryCall α) : Idle (c.call call) := by
  obtain ⟨hmanager, hcurrent, -, -, hactive⟩ := call_frame c call
  exact h.congr hactive hcurrent hmanager

end Control

/-! ### The same course -/

namespace MotionStep

variable [Field α] [LinearOrder α] [Cmath α]

/-- The outputs are calculated from the references, not from the interpolator. -/
theorem Agrees.calculate {m m' : MotionStep α} (h : m.Agrees m') (c : Controller α)
    (output : Output α) : (c.calculate output m').1 = (c.calculate output m).1 ∧
      (c.calculate output m).2.2.Agrees (c.calculate output m').2.2 := by
  obtain ⟨interpolator, conditions, rfl⟩ := h.exists_eq
  obtain ⟨mode, references, normal, linear, transition, a, b, k⟩ := c
  cases mode <;> exact ⟨rfl, ⟨rfl, rfl, rfl, rfl, rfl⟩⟩

end MotionStep

namespace TrajectoryMotion

variable [Field α] [LinearOrder α] [Cmath α]

/-- The interpolators evaluate, and the controllers calculate, the same. -/
structure Executes (t t' : TrajectoryMotion α) : Prop where
  interpolator :
    t.motionStep.interpolator.Alike t.motionStep.interpolation.sizes t'.motionStep.interpolator
  controller : t.controller.Alike t'.controller

/-- Machines that agree and have to execute the same, or nothing. -/
structure SameCourse (t t' : TrajectoryMotion α) : Prop where
  same : Same t t'
  gain : t.controller.k = t'.controller.k
  splines : t.motionStep.interpolator.splinePolynomials.length =
    t'.motionStep.interpolator.splinePolynomials.length
  executes : t.control.Idle ∨ Executes t t'

section course
variable {t t' : TrajectoryMotion α}

/-- The end of the interpolation is seen in both. -/
theorem SameCourse.reached (h : SameCourse t t')
    (hbusy : t.trajectories.pCurrent ≠ none ∨ t.control.next = (.rampDown, .running)) :
    t'.motionStep.interpolationDurationReached = t.motionStep.interpolationDurationReached := by
  rcases h.executes with hidle | hexecutes
  · rcases hbusy with hcurrent | hnext
    · exact absurd hidle.pCurrent hcurrent
    · rcases hidle.ready with hready | hready <;> rw [hnext] at hready <;> cases hready
  · simp only [MotionStep.interpolationDurationReached, h.same.motionStep.data,
      hexecutes.interpolator.duration]

/-- Between `process` and the numeric end: a goal that is to be executed is new or known. -/
structure Processed (t t' : TrajectoryMotion α) : Prop where
  same : Same t t'
  gain : t.controller.k = t'.controller.k
  splines : t.motionStep.interpolator.splinePolynomials.length =
    t'.motionStep.interpolator.splinePolynomials.length
  executes : t.data.hasNewGoal = true ∨ t.control.Idle ∨ Executes t t'

theorem SameCourse.process (h : SameCourse t t') : Processed t.process t'.process := by
  have hkeeps := t.process_keeps
  have hkeeps' := t'.process_keeps
  refine ⟨h.same.process h.reached, by rw [hkeeps.controller, hkeeps'.controller, h.gain], ?_, ?_⟩
  · rw [hkeeps.motionStep.interpolator, hkeeps'.motionStep.interpolator, h.splines]
  · rcases h.executes with hidle | hexecutes
    · rcases hidle.turn t.process_turn with hnew | hidle'
      · exact .inl hnew
      · exact .inr (.inl hidle')
    · refine .inr (.inr ⟨?_, ?_⟩)
      · rw [hkeeps.motionStep.interpolator, hkeeps'.motionStep.interpolator,
          hkeeps.motionStep.interpolation]
        exact hexecutes.interpolator
      · rw [hkeeps.controller, hkeeps'.controller]
        exact hexecutes.controller

/-- The start of a new goal. -/
def startGoal (t : TrajectoryMotion α) : TrajectoryMotion α :=
  if t.data.hasNewGoal then
    { t with
      motionStep := t.motionStep.updateInterpolator
      controller := t.controller.update t.stateManager.currentState t.motionStep.updateInterpolator
        t.configurations }
  else t

theorem hasActiveGoal_startGoal (t : TrajectoryMotion α) :
    t.startGoal.data.hasActiveGoal = t.data.hasActiveGoal := by
  unfold startGoal
  split <;> rfl

/-- **A new goal overwrites the past.** -/
theorem Processed.startGoal (h : Processed t t') : SameCourse t.startGoal t'.startGoal := by
  unfold TrajectoryMotion.startGoal
  rw [h.same.hasNewGoal]
  split
  next hnew =>
    obtain ⟨hdata, hinternal, hexternal, hinterpolation, hconfigurations⟩ := h.same.motionStep
    have hconditions := h.same.prepared hnew
    have hstart : t'.motionStep.updateInterpolator.interpolation =
        t.motionStep.updateInterpolator.interpolation := by
      simp only [MotionStep.updateInterpolator, hinterpolation, hinternal, hconditions.duration]
    have hagrees : t.motionStep.updateInterpolator.Agrees t'.motionStep.updateInterpolator := by
      refine ⟨?_, hinternal, hexternal, hstart, hconfigurations⟩
      simp only [MotionStep.updateInterpolator, hdata]
    refine ⟨⟨h.same.configurations, hagrees, h.same.stateManager, h.same.trajectories,
      h.same.hasNewGoal, h.same.hasActiveGoal, h.same.events, h.same.prepared⟩, h.gain, ?_,
      .inr ⟨?_, ?_⟩⟩
    · simp only [MotionStep.updateInterpolator, EGMInterpolator.update_frame, h.splines]
    · have halike := EGMInterpolator.update_alike h.splines hconditions
        t.motionStep.updateInterpolator.interpolation t.motionStep.internalGoal
      change (t.motionStep.interpolator.update t.motionStep.updateInterpolator.interpolation
        t.motionStep.internalGoal t.motionStep.interpolatorConditions).Alike _
          (t'.motionStep.interpolator.update t'.motionStep.updateInterpolator.interpolation
            t'.motionStep.internalGoal t'.motionStep.interpolatorConditions)
      rw [hstart, hinternal]
      exact halike
    · simp only [h.same.stateManager, h.same.configurations]
      exact Controller.update_alike _ _ _ (congrArg ProcessData.mode hagrees.data).symm
        hstart.symm _
  next hnew =>
    refine ⟨h.same, h.gain, h.splines, ?_⟩
    rcases h.executes with hnew' | hexecutes
    · exact absurd hnew' hnew
    · exact hexecutes

omit [Cmath α] in
theorem Executes.evaluateInterpolator [Cmath α] (h : SameCourse t t') (hexecutes : Executes t t') :
    t.motionStep.evaluateInterpolator.Agrees t'.motionStep.evaluateInterpolator := by
  obtain ⟨hdata, hinternal, hexternal, hinterpolation, hconfigurations⟩ := h.same.motionStep
  refine ⟨?_, hinternal, hexternal, ?_, hconfigurations⟩
  · simp only [MotionStep.evaluateInterpolator, hdata]
  · simp only [MotionStep.evaluateInterpolator, hdata, hinterpolation]
    exact (hexecutes.interpolator.evaluate _ rfl _ _).symm

theorem executeGoal_eq (t : TrajectoryMotion α) (outputs : Output α) :
    (t.executeGoal outputs).1 =
      if t.startGoal.data.hasActiveGoal then
        let r := t.startGoal.controller.calculate outputs t.startGoal.motionStep.evaluateInterpolator
        { t.startGoal with controller := r.1, motionStep := r.2.2 }
      else t.startGoal := by
  unfold executeGoal
  change (if t.startGoal.data.hasActiveGoal = true then _ else _ :
    TrajectoryMotion α × Output α).1 = _
  split <;> rfl

theorem Processed.executeGoal (h : Processed t t') (outputs : Output α) :
    SameCourse (t.executeGoal outputs).1 (t'.executeGoal outputs).1 := by
  have h := h.startGoal
  rw [executeGoal_eq, executeGoal_eq]
  generalize t.startGoal = t at *
  generalize t'.startGoal = t' at *
  rw [h.same.hasActiveGoal]
  split
  next hactive =>
    rcases h.executes with hidle | hexecutes
    · exact absurd hidle.hasActiveGoal (by simp [control, hactive])
    · obtain ⟨hcontroller, hagrees⟩ :=
        (hexecutes.evaluateInterpolator h).calculate t.controller outputs
      obtain ⟨hk, hrewrites⟩ :=
        Controller.calculate_frame t.controller outputs t.motionStep.evaluateInterpolator
      obtain ⟨-, hrewrites'⟩ :=
        Controller.calculate_frame t.controller outputs t'.motionStep.evaluateInterpolator
      rw [← Controller.calculate_alike hexecutes.controller h.gain]
      have hinterpolator := congrArg MotionStep.interpolator hrewrites.eq
      have hinterpolator' := congrArg MotionStep.interpolator hrewrites'.eq
      have hconditions := congrArg MotionStep.interpolatorConditions hrewrites.eq
      have hconditions' := congrArg MotionStep.interpolatorConditions hrewrites'.eq
      have hsizes : (t.controller.calculate outputs
          t.motionStep.evaluateInterpolator).2.2.interpolation.sizes =
            t.motionStep.interpolation.sizes :=
        hrewrites.sizes.trans (EGMInterpolator.evaluate_sizes _ _ _ _)
      refine ⟨⟨h.same.configurations, hagrees, h.same.stateManager, h.same.trajectories,
        h.same.hasNewGoal, h.same.hasActiveGoal, h.same.events, fun hnew => ?_⟩, ?_, ?_,
        .inr ⟨?_, ?_⟩⟩
      · simp only [hconditions, hconditions']
        exact h.same.prepared hnew
      · simp only [hcontroller]
      · simp only [hinterpolator, hinterpolator']
        exact h.splines
      · simp only [hinterpolator, hinterpolator', hsizes]
        exact hexecutes.interpolator
      · simp only [hcontroller]
        exact ⟨rfl, rfl, rfl, rfl⟩
  next => exact h

/-! ### Steps -/

omit [Cmath α] in
theorem Same.receive [FloorRing α] (h : Same t t') (inputs : InputContainer α) :
    Same (t.receive inputs) (t'.receive inputs) := by
  obtain ⟨hdata, hinternal, hexternal, hinterpolation, hconfigurations⟩ := h.motionStep
  refine ⟨h.configurations, ⟨?_, hinternal, hexternal, hinterpolation, hconfigurations⟩,
    h.stateManager, h.trajectories, h.hasNewGoal, h.hasActiveGoal, h.events, h.prepared⟩
  simp only [TrajectoryMotion.receive, hdata]

omit [Cmath α] in
theorem Same.resetComponents (h : Same t t') : Same t.resetComponents t'.resetComponents := by
  have hpushed := h.storeNormalGoal.pushCurrentFront
  refine ⟨hpushed.configurations, hpushed.motionStep.resetMotionStep, rfl, hpushed.trajectories,
    rfl, rfl, hpushed.events, fun hnew => nomatch hnew⟩

omit [Cmath α] in
theorem Same.checkStates (h : Same t t') (statesOk : Bool) :
    Same (t.checkStates statesOk) (t'.checkStates statesOk) := by
  unfold TrajectoryMotion.checkStates
  rw [h.stateManager]
  split
  · split
    · exact ⟨h.configurations, h.motionStep, rfl, h.trajectories, h.hasNewGoal, h.hasActiveGoal,
        h.events, h.prepared⟩
    · exact h
  · split
    · have hreset := h.resetComponents
      refine ⟨hreset.configurations, hreset.motionStep, hreset.stateManager, ?_,
        hreset.hasNewGoal, hreset.hasActiveGoal, hreset.events, hreset.prepared⟩
      simp only [hreset.trajectories]
    · exact h

omit [Cmath α] in
/-- A reset keeps the interpolator and the controller. -/
theorem resetComponents_keeps (t : TrajectoryMotion α) :
    t.resetComponents.controller = t.controller ∧
      t.resetComponents.motionStep.interpolator = t.motionStep.interpolator := by
  have hkeeps := t.storeNormalGoal_keeps.trans t.storeNormalGoal.pushCurrentFront_keeps
  exact ⟨hkeeps.controller, hkeeps.motionStep.interpolator⟩

theorem SameCourse.resetComponents (h : SameCourse t t') :
    SameCourse t.resetComponents t'.resetComponents := by
  obtain ⟨hcontroller, hinterpolator⟩ := t.resetComponents_keeps
  obtain ⟨hcontroller', hinterpolator'⟩ := t'.resetComponents_keeps
  refine ⟨h.same.resetComponents, by rw [hcontroller, hcontroller', h.gain],
    by rw [hinterpolator, hinterpolator', h.splines], .inl ?_⟩
  rw [control_resetComponents]
  exact Control.idle_reset _ _

/-- Where interpolator, references and controller are as before, the same has to be executed. -/
theorem SameCourse.congr {u u' : TrajectoryMotion α} (h : SameCourse t t') (hsame : Same u u')
    (hkept : u.controller = t.controller ∧ u.motionStep.interpolator = t.motionStep.interpolator ∧
      u.motionStep.interpolation = t.motionStep.interpolation)
    (hkept' : u'.controller = t'.controller ∧
      u'.motionStep.interpolator = t'.motionStep.interpolator)
    (hidle : t.control.Idle → u.control.Idle) : SameCourse u u' := by
  obtain ⟨hcontroller, hinterpolator, hinterpolation⟩ := hkept
  obtain ⟨hcontroller', hinterpolator'⟩ := hkept'
  refine ⟨hsame, by rw [hcontroller, hcontroller', h.gain],
    by rw [hinterpolator, hinterpolator', h.splines],
    h.executes.imp hidle fun hexecutes => ⟨?_, ?_⟩⟩
  · rw [hinterpolator, hinterpolator', hinterpolation]
    exact hexecutes.interpolator
  · rw [hcontroller, hcontroller']
    exact hexecutes.controller

theorem SameCourse.checkStates (h : SameCourse t t') (statesOk : Bool) :
    SameCourse (t.checkStates statesOk) (t'.checkStates statesOk) := by
  have hsame := h.same.checkStates statesOk
  have hidle (hidle : t.control.Idle) : (t.checkStates statesOk).control.Idle := by
    rw [control_checkStates]
    exact hidle.checkStates _ _
  by_cases hends : statesOk = false ∧ t.stateManager.verifyState .normal .none = false
  · have hreset (u : TrajectoryMotion α) (hu : u.stateManager = t.stateManager) :
        u.checkStates statesOk = { u.resetComponents with
          trajectories := { u.resetComponents.trajectories with
            primaryQueue := [], temporaryQueue := [] } } := by
      simp [TrajectoryMotion.checkStates, hu, hends]
    rw [hreset t rfl, hreset t' h.same.stateManager] at *
    exact h.resetComponents.congr hsame ⟨rfl, rfl, rfl⟩ ⟨rfl, rfl⟩ fun h => h.congr rfl rfl rfl
  · have hkept (u : TrajectoryMotion α)
        (hu : ¬(statesOk = false ∧ u.stateManager.verifyState .normal .none = false)) :
        u.checkStates statesOk = { u with stateManager := (u.checkStates statesOk).stateManager } := by
      unfold TrajectoryMotion.checkStates
      cases statesOk <;> cases hv : u.stateManager.verifyState .normal .none <;> simp_all
    refine h.congr hsame ?_ ?_ hidle
    · rw [hkept t hends]
      exact ⟨rfl, rfl, rfl⟩
    · rw [hkept t' (by rw [h.same.stateManager]; exact hends)]
      exact ⟨rfl, rfl⟩

variable [FloorRing α]

theorem SameCourse.prepare (h : SameCourse t t') (inputs : InputContainer α) :
    SameCourse (t.prepare inputs) (t'.prepare inputs) := by
  have hreceived : SameCourse (t.receive inputs) (t'.receive inputs) :=
    h.congr (h.same.receive inputs) ⟨rfl, rfl, rfl⟩ ⟨rfl, rfl⟩ id
  have hchecked : SameCourse
      ((if inputs.firstMessage then (t.receive inputs).resetComponents
        else t.receive inputs).checkStates inputs.statesOk)
      ((if inputs.firstMessage then (t'.receive inputs).resetComponents
        else t'.receive inputs).checkStates inputs.statesOk) := by
    split
    · exact hreceived.resetComponents.checkStates _
    · exact hreceived.checkStates _
  unfold TrajectoryMotion.prepare
  simp only [hchecked.same.hasActiveGoal]
  exact hchecked.congr (hchecked.same.setGoal false _ fun h => nomatch h) ⟨rfl, rfl, rfl⟩
    ⟨rfl, rfl⟩ fun h => h.congr rfl rfl rfl

theorem SameCourse.generateOutputs (h : SameCourse t t') (outputs : Output α)
    (inputs : InputContainer α) :
    SameCourse (t.generateOutputs outputs inputs).1 (t'.generateOutputs outputs inputs).1 := by
  have hframe {u u' : TrajectoryMotion α} (h : Same u u') (calls calls' : List (Call α)) :
      Same { u with trace := calls } { u' with trace := calls' } :=
    ⟨h.configurations, h.motionStep, h.stateManager, h.trajectories, h.hasNewGoal,
      h.hasActiveGoal, h.events, h.prepared⟩
  have hcleared : SameCourse { t with trace := [] } { t' with trace := [] } :=
    h.congr (hframe h.same [] []) ⟨rfl, rfl, rfl⟩ ⟨rfl, rfl⟩ fun h => h.congr rfl rfl rfl
  have hprepared := hcleared.prepare inputs
  have hexecuted : SameCourse
      (if inputs.statesOk then ({ t with trace := [] }.prepare inputs).process.executeGoal outputs
        else ({ t with trace := [] }.prepare inputs, outputs)).1
      (if inputs.statesOk then ({ t' with trace := [] }.prepare inputs).process.executeGoal outputs
        else ({ t' with trace := [] }.prepare inputs, outputs)).1 := by
    split
    · exact hprepared.process.executeGoal outputs
    · exact hprepared
  refine hexecuted.congr ?_ ⟨rfl, rfl, rfl⟩ ⟨rfl, rfl⟩ id
  obtain ⟨hconfigurations, hmotionStep, hmanager, htrajectories, hnew, hactive, hevents,
    hconditions⟩ := hexecuted.same
  exact ⟨hconfigurations, hmotionStep, hmanager, htrajectories, hnew, hactive, hevents,
    hconditions⟩

end course

/-! ### Commands -/

section calls
variable {t t' : TrajectoryMotion α}

omit [Field α] [LinearOrder α] [Cmath α] in
theorem Same.command (h : Same t t') (state : States) (subState : SubStates)
    {f : PendingEvents α → PendingEvents α}
    (hf : ∀ e e' : PendingEvents α, e.Alike e' → (f e).Alike (f e')) :
    Same (t.command state subState f).2 (t'.command state subState f).2 := by
  unfold TrajectoryMotion.command
  rw [h.stateManager]
  split
  · exact h.setEvents (hf _ _ h.events)
  · exact h

omit [Field α] [LinearOrder α] [Cmath α] in
theorem Same.addTrajectory (h : Same t t') (trajectory : TrajectoryGoal α) (override : Bool) :
    Same (t.addTrajectory trajectory override).2 (t'.addTrajectory trajectory override).2 := by
  have hoverride : t.events.overrideTrajectories.Alike t'.events.overrideTrajectories :=
    { h.events with doRampDown := rfl, doStop := rfl, doDiscard := rfl, doResume := rfl }
  unfold TrajectoryMotion.addTrajectory
  simp only [h.stateManager, h.trajectories, h.events.doDiscard]
  split_ifs
  · exact ⟨h.configurations, h.motionStep, h.stateManager, rfl, h.hasNewGoal, h.hasActiveGoal,
      hoverride, h.prepared⟩
  · exact ⟨h.configurations, h.motionStep, rfl, rfl, h.hasNewGoal, h.hasActiveGoal, h.events,
      h.prepared⟩
  · exact ⟨h.configurations, h.motionStep, rfl, rfl, h.hasNewGoal, h.hasActiveGoal, h.events,
      h.prepared⟩
  · exact h

omit [Cmath α] in
/-- A command writes the same to both. -/
theorem Same.call (h : Same t t') (call : TrajectoryCall α) :
    Same (t.call call).2 (t'.call call).2 := by
  cases call with
  | addTrajectory trajectory override => exact h.addTrajectory trajectory override
  | stopTrajectory discard =>
      exact h.command .normal .running fun e e' he =>
        { he with doRampDown := rfl, doStop := rfl, doDiscard := rfl }
  | resumeTrajectory =>
      exact h.command .rampDown .finished fun e e' he => { he with doResume := rfl }
  | updateDurationFactor factor =>
      exact h.command .normal .running fun e e' he =>
        { he with doRampDown := rfl, doDurationFactorUpdate := rfl, factor := fun _ => rfl }
  | startStaticGoal discard =>
      exact h.command .normal .running fun e e' he =>
        { he with
          doRampDown := rfl, doStop := rfl, doDiscard := rfl, doResume := rfl
          doStaticGoalStart := rfl }
  | setStaticPositionGoal goal fast =>
      exact h.command .staticGoal .running fun e e' he =>
        { he with
          doRampDown := rfl, doStop := rfl, doResume := rfl
          doStaticPositionGoalUpdate := rfl, doStaticVelocityGoalUpdate := rfl
          fast := fun _ => rfl, positionGoal := fun _ => rfl, velocityGoal := (nomatch ·) }
  | setStaticVelocityGoal goal fast =>
      exact h.command .staticGoal .running fun e e' he =>
        { he with
          doRampDown := rfl, doStop := rfl, doResume := rfl
          doStaticPositionGoalUpdate := rfl, doStaticVelocityGoalUpdate := rfl
          fast := fun _ => rfl, positionGoal := (nomatch ·), velocityGoal := fun _ => rfl }
  | finishStaticGoal resume =>
      exact h.command .staticGoal .running fun e e' he =>
        { he with doStaticGoalFinish := rfl, doResume := rfl }
  | retrieveExecutionProgress =>
      have hkept (u : TrajectoryMotion α) : (u.call .retrieveExecutionProgress).2 =
          { u with data := { u.data with
            hasUpdatedExecutionProgress :=
              (u.call .retrieveExecutionProgress).2.data.hasUpdatedExecutionProgress } } := by
        unfold TrajectoryMotion.call retrieveExecutionProgress
        simp only
        split <;> rfl
      rw [hkept t, hkept t']
      exact ⟨h.configurations, h.motionStep, h.stateManager, h.trajectories, h.hasNewGoal,
        h.hasActiveGoal, h.events, h.prepared⟩

omit [Cmath α] in
/-- What no command writes. -/
theorem call_keeps (t : TrajectoryMotion α) (call : TrajectoryCall α) :
    Keeps t (t.call call).2 := by
  have hcommand (state : States) (subState : SubStates) (f : PendingEvents α → PendingEvents α) :
      Keeps t (t.command state subState f).2 := by
    unfold TrajectoryMotion.command
    split
    · exact ⟨rfl, rfl, ⟨rfl, rfl, rfl⟩⟩
    · exact .refl t
  cases call with
  | addTrajectory trajectory override =>
      unfold TrajectoryMotion.call TrajectoryMotion.addTrajectory
      simp only
      split_ifs <;> exact ⟨rfl, rfl, ⟨rfl, rfl, rfl⟩⟩
  | retrieveExecutionProgress =>
      unfold TrajectoryMotion.call retrieveExecutionProgress
      simp only
      split <;> exact ⟨rfl, rfl, ⟨rfl, rfl, rfl⟩⟩
  | _ => exact hcommand _ _ _

variable [FloorRing α]

/-- **One step** of machines on the same course. -/
theorem SameCourse.step (h : SameCourse t t') (a : Action α) :
    SameCourse (t.step a) (t'.step a) := by
  cases a with
  | generateOutputs outputs inputs => exact h.generateOutputs outputs inputs
  | call call =>
      have hkeeps := t.call_keeps call
      have hkeeps' := t'.call_keeps call
      refine h.congr (h.same.call call)
        ⟨hkeeps.controller, hkeeps.motionStep.interpolator, hkeeps.motionStep.interpolation⟩
        ⟨hkeeps'.controller, hkeeps'.motionStep.interpolator⟩ fun hidle => ?_
      change (t.call call).2.control.Idle
      rw [control_call]
      exact hidle.call call
  | updateConfigurations configurations =>
      obtain ⟨hdata, hinternal, hexternal, hinterpolation, -⟩ := h.same.motionStep
      exact h.congr ⟨rfl, ⟨hdata, hinternal, hexternal, hinterpolation, rfl⟩, h.same.stateManager,
        h.same.trajectories, h.same.hasNewGoal, h.same.hasActiveGoal, h.same.events,
        h.same.prepared⟩ ⟨rfl, rfl, rfl⟩ ⟨rfl, rfl⟩ id

end calls

end TrajectoryMotion

end AbbWrapper
