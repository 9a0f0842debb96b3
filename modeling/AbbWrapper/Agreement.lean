import AbbWrapper.Refinement
import AbbWrapper.Residue

/-! # Machines that agree

Two trajectory motions that agree in everything but the interpolator, the output controller and the
data of events that are not pending.  `process` writes neither the interpolator nor the controller,
and reads the interpolator in one place only, at the end of an interpolation: where both machines
see that end, they decide the same.

* `MotionStep.Agrees` is agreement of the motion steps up to the interpolator, and `MotionStep.Prepared`
  says that the next update leads to the same interpolator.
* `MotionStep.Preserved` is a property that all preparations of a goal preserve; such a property is
  preserved by a whole `process` (`process_preserved`).  `Keeps` says what no preparation writes.
* `PendingEvents.Alike` says that the same events are pending, with the same data, and `Same` that two
  machines agree in all that decides over states and queues.

The main result is that one turn of the state machine keeps machines the same, if both see the end of
the interpolation (`Same.process`).  Two machines that begin a session alike are compared with it. -/

namespace AbbWrapper

open Protobuf

variable {α : Type}

/-! ### Motion steps -/

namespace MotionStep

/-- The same up to the interpolator and its conditions. -/
structure Agrees (m m' : MotionStep α) : Prop where
  data : m'.data = m.data
  internalGoal : m'.internalGoal = m.internalGoal
  externalGoal : m'.externalGoal = m.externalGoal
  interpolation : m'.interpolation = m.interpolation
  configurations : m'.configurations = m.configurations

/-- The next update of the interpolator leads to the same. -/
structure Prepared [Field α] (m m' : MotionStep α) : Prop where
  agrees : m.Agrees m'
  conditions : m.interpolatorConditions.Alike m'.interpolatorConditions

theorem Agrees.exists_eq {m m' : MotionStep α} (h : m.Agrees m') :
    ∃ interpolator conditions,
      m' = { m with interpolator := interpolator, interpolatorConditions := conditions } := by
  obtain ⟨hdata, hinternal, hexternal, hinterpolation, hconfigurations⟩ := h
  refine ⟨m'.interpolator, m'.interpolatorConditions, ?_⟩
  rw [← hdata, ← hinternal, ← hexternal, ← hinterpolation, ← hconfigurations]

variable [Field α]

theorem Agrees.prepareRampDownGoal {m m' : MotionStep α} (h : m.Agrees m') (doStop : Bool) :
    (m.prepareRampDownGoal doStop).Prepared (m'.prepareRampDownGoal doStop) := by
  refine ⟨⟨h.data, h.internalGoal, h.externalGoal, h.interpolation, h.configurations⟩,
    ⟨rfl, ?_, rfl, fun _ => rfl, fun h => absurd h (by simp [MotionStep.prepareRampDownGoal])⟩⟩
  simp only [MotionStep.prepareRampDownGoal, h.data]

theorem Agrees.resetMotionStep {m m' : MotionStep α} (h : m.Agrees m') :
    m.resetMotionStep.Agrees m'.resetMotionStep := by
  obtain ⟨hdata, -, -, -, hconfigurations⟩ := h
  refine ⟨?_, ?_, rfl, ?_, hconfigurations⟩ <;>
    simp only [MotionStep.resetMotionStep, MotionStep.robotJoints, hdata]

variable [LinearOrder α]

theorem Agrees.conditionMet {m m' : MotionStep α} (h : m.Agrees m') :
    m'.conditionMet = m.conditionMet := by
  simp only [MotionStep.conditionMet, h.data, h.internalGoal]

variable [Cmath α]

theorem Agrees.prepareNormalGoal {m m' : MotionStep α} (h : m.Agrees m') (lastPoint : Bool) :
    (m.prepareNormalGoal lastPoint).Prepared (m'.prepareNormalGoal lastPoint) := by
  obtain ⟨interpolator, conditions, rfl⟩ := h.exists_eq
  refine ⟨⟨rfl, rfl, rfl, rfl, rfl⟩, ⟨rfl, rfl, rfl, fun h => ?_, fun _ => rfl⟩⟩
  cases h

omit [LinearOrder α] [Cmath α] in
theorem Agrees.prepareStatic {m m' : MotionStep α} (h : m.Agrees m') (mode : EGMModes)
    (goal : PointGoal α) {operation : Operation}
    (hoperation : operation = .rampInPosition ∨ operation = .rampInVelocity)
    (fastTransition : Bool) : (m.prepareStatic mode goal operation fastTransition).Prepared
      (m'.prepareStatic mode goal operation fastTransition) := by
  refine ⟨⟨?_, rfl, h.externalGoal, h.interpolation, h.configurations⟩, ⟨rfl, rfl, rfl, ?_, ?_⟩⟩
  · simp only [MotionStep.prepareStatic, h.data]
  · rintro rfl
    rcases hoperation with h | h <;> cases h
  · rintro rfl
    rcases hoperation with h | h <;> cases h

/-- What no preparation of a goal writes. -/
structure Keeps (m m' : MotionStep α) : Prop where
  interpolator : m'.interpolator = m.interpolator
  interpolation : m'.interpolation = m.interpolation
  configurations : m'.configurations = m.configurations

omit [Field α] [LinearOrder α] [Cmath α] in
theorem Keeps.trans {m m' m'' : MotionStep α} (h : Keeps m m') (h' : Keeps m' m'') : Keeps m m'' :=
  ⟨h'.interpolator.trans h.interpolator, h'.interpolation.trans h.interpolation,
    h'.configurations.trans h.configurations⟩

/-- A property of motion steps that is preserved by everything that `process` does with them. -/
structure Preserved (P : MotionStep α → Prop) : Prop where
  externalGoal : ∀ {m} (goal : PointGoal α), P m → P { m with externalGoal := goal }
  durationFactor : ∀ {m} (factor : α), P m →
    P { m with data := { m.data with durationFactor := factor } }
  normal : ∀ {m} (lastPoint : Bool), P m → P (m.prepareNormalGoal lastPoint)
  rampDown : ∀ {m} (doStop : Bool), P m → P (m.prepareRampDownGoal doStop)
  staticPosition : ∀ {m} (goal : StaticPositionGoal α) (fast : Bool), P m →
    P (m.prepareStaticPositionGoal goal fast)
  staticVelocity : ∀ {m} (goal : StaticVelocityGoal α) (fast : Bool), P m →
    P (m.prepareStaticVelocityGoal goal fast)

end MotionStep

/-! ### The next goal -/

namespace TrajectoryMotion

variable [Field α] [LinearOrder α] [Cmath α]

theorem reachLoop_keeps (m : MotionStep α) (lastPoint : Bool) (points : List (PointGoal α)) :
    m.Keeps (reachLoop m lastPoint points).1 := by
  induction points generalizing m with
  | nil => exact ⟨rfl, rfl, rfl⟩
  | cons point points ih =>
      unfold reachLoop
      simp only
      split
      · obtain ⟨hinterpolator, hinterpolation, hconfigurations⟩ :=
          ih { m.prepareNormalGoal lastPoint with externalGoal := point }
        exact ⟨hinterpolator, hinterpolation, hconfigurations⟩
      · exact ⟨rfl, rfl, rfl⟩

theorem nextGoal_keeps (m : MotionStep α) (points : List (PointGoal α)) :
    m.Keeps (nextGoal m points).1 := by
  cases points with
  | nil => exact ⟨rfl, rfl, rfl⟩
  | cons point points =>
      unfold nextGoal
      simp only
      split
      · obtain ⟨hinterpolator, hinterpolation, hconfigurations⟩ :=
          reachLoop_keeps { m with externalGoal := point } points.isEmpty points
        exact ⟨hinterpolator, hinterpolation, hconfigurations⟩
      · exact ⟨rfl, rfl, rfl⟩

theorem reachLoop_agrees {m m' : MotionStep α} (h : m.Agrees m') (lastPoint : Bool)
    (points : List (PointGoal α)) :
    (reachLoop m lastPoint points).1.Prepared (reachLoop m' lastPoint points).1 ∧
      (reachLoop m' lastPoint points).2 = (reachLoop m lastPoint points).2 := by
  induction points generalizing m m' with
  | nil =>
      have hprepared := h.prepareNormalGoal lastPoint
      refine ⟨hprepared, ?_⟩
      simp only [reachLoop, hprepared.agrees.conditionMet]
  | cons point points ih =>
      have hprepared := h.prepareNormalGoal lastPoint
      obtain ⟨hdata, hinternal, -, hinterpolation, hconfigurations⟩ := hprepared.agrees
      unfold reachLoop
      simp only [hprepared.agrees.conditionMet]
      split
      · have hpoint : ({ m.prepareNormalGoal lastPoint with externalGoal := point } :
            MotionStep α).Agrees { m'.prepareNormalGoal lastPoint with externalGoal := point } :=
          ⟨hdata, hinternal, rfl, hinterpolation, hconfigurations⟩
        obtain ⟨hloop, hsame⟩ := ih hpoint
        exact ⟨hloop, by simp only [hsame]⟩
      · exact ⟨hprepared, rfl⟩

theorem nextGoal_agrees {m m' : MotionStep α} (h : m.Agrees m') (points : List (PointGoal α)) :
    (nextGoal m points).1.Agrees (nextGoal m' points).1 ∧
      (nextGoal m' points).2 = (nextGoal m points).2 ∧
      ((nextGoal m points).2.1 = true →
        (nextGoal m points).1.Prepared (nextGoal m' points).1) := by
  cases points with
  | nil => exact ⟨h, rfl, fun h => absurd h (by simp [nextGoal])⟩
  | cons point points =>
      have hpoint : ({ m with externalGoal := point } : MotionStep α).Agrees
          { m' with externalGoal := point } :=
        ⟨h.data, h.internalGoal, rfl, h.interpolation, h.configurations⟩
      unfold nextGoal
      simp only
      split
      · obtain ⟨hprepared, hsame⟩ := reachLoop_agrees hpoint points.isEmpty points
        exact ⟨hprepared.agrees, by simp only [hsame], fun _ => hprepared⟩
      · have hprepared := hpoint.prepareNormalGoal points.isEmpty
        exact ⟨hprepared.agrees, rfl, fun _ => hprepared⟩

/-! ### What `process` does to the motion step -/

section preserved
variable {P : MotionStep α → Prop} (hP : MotionStep.Preserved P)

include hP

theorem reachLoop_preserved {m : MotionStep α} (h : P m) (lastPoint : Bool)
    (points : List (PointGoal α)) : P (reachLoop m lastPoint points).1 := by
  induction points generalizing m with
  | nil => exact hP.normal lastPoint h
  | cons point points ih =>
      unfold reachLoop
      simp only
      split
      · exact ih (hP.externalGoal point (hP.normal lastPoint h))
      · exact hP.normal lastPoint h

theorem nextGoal_preserved {m : MotionStep α} (h : P m) (points : List (PointGoal α)) :
    P (nextGoal m points).1 := by
  cases points with
  | nil => exact h
  | cons point points =>
      unfold nextGoal
      simp only
      split
      · exact reachLoop_preserved hP (hP.externalGoal point h) _ _
      · exact hP.normal _ (hP.externalGoal point h)

theorem updateNormalGoal_preserved {t : TrajectoryMotion α} (h : P t.motionStep) :
    P t.updateNormalGoal.motionStep := by
  unfold updateNormalGoal
  split
  · exact h
  · exact nextGoal_preserved hP h _

theorem storeNormalGoal_preserved {t : TrajectoryMotion α} (h : P t.motionStep) :
    P t.storeNormalGoal.motionStep := by
  unfold storeNormalGoal
  split
  · exact h
  · exact hP.externalGoal _ h

theorem handleRampDownEvents_preserved {t : TrajectoryMotion α} (h : P t.motionStep) :
    P t.handleRampDownEvents.motionStep := by
  unfold handleRampDownEvents
  simp only
  split_ifs
  · exact hP.durationFactor _ h
  · exact hP.durationFactor _ h
  · exact h
  · exact h

theorem processNormalState_preserved {t : TrajectoryMotion α} (h : P t.motionStep) :
    P t.processNormalState.motionStep := by
  unfold processNormalState
  split
  · exact h
  · split
    · exact h
    · split
      · split_ifs
        · exact updateNormalGoal_preserved hP h
        · exact h
        · exact updateNormalGoal_preserved hP h
        · exact h
      · split
        · exact h
        · exact updateNormalGoal_preserved hP h
  · exact h

theorem processRampDownState_preserved {t : TrajectoryMotion α} (h : P t.motionStep) :
    P t.processRampDownState.motionStep := by
  unfold processRampDownState
  split
  · simp only
    split
    · exact storeNormalGoal_preserved hP (hP.rampDown _ h)
    · exact hP.rampDown _ h
  · split <;> exact h
  · have hhandled := handleRampDownEvents_preserved hP h
    simp only
    split_ifs
    · exact hhandled
    · exact updateNormalGoal_preserved hP hhandled
    · exact hhandled
    · exact updateNormalGoal_preserved hP hhandled

theorem processStaticGoalState_preserved {t : TrajectoryMotion α} (h : P t.motionStep) :
    P t.processStaticGoalState.motionStep := by
  have happlied : P t.applyStaticGoal.motionStep := by
    unfold applyStaticGoal
    simp only
    split_ifs
    · exact hP.staticPosition _ _ h
    · exact hP.staticVelocity _ _ h
    · exact h
  unfold processStaticGoalState
  split
  · change P t.pushCurrentFront.motionStep
    unfold pushCurrentFront
    split <;> exact h
  · simp only
    split_ifs <;> exact happlied
  · exact h

/-- **What all preparations preserve, `process` preserves.** -/
theorem process_preserved {t : TrajectoryMotion α} (h : P t.motionStep) :
    P t.process.motionStep := by
  unfold process
  simp only
  split
  · exact processNormalState_preserved hP h
  · exact processRampDownState_preserved hP h
  · exact processStaticGoalState_preserved hP h

end preserved

/-! ### What `process` does not write -/

/-- The interpolator, the references and the output controller are kept. -/
structure Keeps (t u : TrajectoryMotion α) : Prop where
  configurations : u.configurations = t.configurations
  controller : u.controller = t.controller
  motionStep : t.motionStep.Keeps u.motionStep

omit [Field α] [LinearOrder α] [Cmath α] in
theorem Keeps.refl (t : TrajectoryMotion α) : Keeps t t := ⟨rfl, rfl, ⟨rfl, rfl, rfl⟩⟩

omit [Field α] [LinearOrder α] [Cmath α] in
theorem Keeps.trans {t u v : TrajectoryMotion α} (h : Keeps t u) (h' : Keeps u v) : Keeps t v :=
  ⟨h'.configurations.trans h.configurations, h'.controller.trans h.controller,
    h.motionStep.trans h'.motionStep⟩

omit [Cmath α] in
theorem storeNormalGoal_keeps (t : TrajectoryMotion α) : Keeps t t.storeNormalGoal := by
  unfold storeNormalGoal
  split
  · exact .refl t
  · exact ⟨rfl, rfl, ⟨rfl, rfl, rfl⟩⟩

omit [Field α] [LinearOrder α] [Cmath α] in
theorem pushCurrentFront_keeps (t : TrajectoryMotion α) : Keeps t t.pushCurrentFront := by
  unfold pushCurrentFront
  split
  · exact .refl t
  · exact ⟨rfl, rfl, ⟨rfl, rfl, rfl⟩⟩

theorem updateNormalGoal_keeps (t : TrajectoryMotion α) : Keeps t t.updateNormalGoal := by
  unfold updateNormalGoal
  split
  · exact ⟨rfl, rfl, ⟨rfl, rfl, rfl⟩⟩
  · exact ⟨rfl, rfl, nextGoal_keeps _ _⟩

omit [Field α] [LinearOrder α] [Cmath α] in
theorem handleRampDownEvents_keeps (t : TrajectoryMotion α) : Keeps t t.handleRampDownEvents := by
  unfold handleRampDownEvents
  simp only
  split_ifs <;> exact ⟨rfl, rfl, ⟨rfl, rfl, rfl⟩⟩

theorem applyStaticGoal_keeps (t : TrajectoryMotion α) : Keeps t t.applyStaticGoal := by
  unfold applyStaticGoal
  simp only
  split_ifs <;> exact ⟨rfl, rfl, ⟨rfl, rfl, rfl⟩⟩

theorem processNormalState_keeps (t : TrajectoryMotion α) : Keeps t t.processNormalState := by
  have hrefl : Keeps t (t.log [.shouldNeverOccur]) := ⟨rfl, rfl, ⟨rfl, rfl, rfl⟩⟩
  unfold processNormalState
  split
  · exact hrefl
  · split
    · exact ⟨rfl, rfl, ⟨rfl, rfl, rfl⟩⟩
    · split
      · split_ifs
        · exact t.updateNormalGoal_keeps
        · exact .refl t
        · exact t.updateNormalGoal_keeps
        · exact .refl t
      · split
        · exact .refl t
        · refine Keeps.trans ?_ (updateNormalGoal_keeps _)
          exact ⟨rfl, rfl, ⟨rfl, rfl, rfl⟩⟩
  · exact hrefl

theorem processRampDownState_keeps (t : TrajectoryMotion α) : Keeps t t.processRampDownState := by
  unfold processRampDownState
  split
  · simp only
    split
    · obtain ⟨hconfigurations, hcontroller, hinterpolator, hinterpolation, hconfigurations'⟩ :=
        storeNormalGoal_keeps { t with
          motionStep := t.motionStep.prepareRampDownGoal t.events.doStop }
      exact ⟨hconfigurations, hcontroller, ⟨hinterpolator, hinterpolation, hconfigurations'⟩⟩
    · exact ⟨rfl, rfl, ⟨rfl, rfl, rfl⟩⟩
  · split
    · exact ⟨rfl, rfl, ⟨rfl, rfl, rfl⟩⟩
    · exact .refl t
  · simp only
    refine t.handleRampDownEvents_keeps.trans ?_
    generalize t.handleRampDownEvents = u
    have hnext (e : PendingEvents α) :
        Keeps u ((u.setEvents e).updateNormalGoal.request .normal .running) := by
      obtain ⟨hconfigurations, hcontroller, hmotionStep⟩ := updateNormalGoal_keeps (u.setEvents e)
      exact ⟨hconfigurations, hcontroller, hmotionStep⟩
    split_ifs
    · exact ⟨rfl, rfl, ⟨rfl, rfl, rfl⟩⟩
    · exact hnext _
    · exact .refl u
    · exact hnext _

theorem processStaticGoalState_keeps (t : TrajectoryMotion α) :
    Keeps t t.processStaticGoalState := by
  unfold processStaticGoalState
  split
  · obtain ⟨hconfigurations, hcontroller, hmotionStep⟩ := t.pushCurrentFront_keeps
    exact ⟨hconfigurations, hcontroller, hmotionStep⟩
  · obtain ⟨hconfigurations, hcontroller, hmotionStep⟩ := t.applyStaticGoal_keeps
    simp only
    split_ifs <;> exact ⟨hconfigurations, hcontroller, hmotionStep⟩
  · exact ⟨rfl, rfl, ⟨rfl, rfl, rfl⟩⟩

theorem process_keeps (t : TrajectoryMotion α) : Keeps t t.process := by
  have hupdated : Keeps t { t with stateManager := t.stateManager.updateState } :=
    ⟨rfl, rfl, ⟨rfl, rfl, rfl⟩⟩
  unfold process
  simp only
  split
  · exact hupdated.trans (processNormalState_keeps _)
  · exact hupdated.trans (processRampDownState_keeps _)
  · exact hupdated.trans (processStaticGoalState_keeps _)

end TrajectoryMotion

/-! ### Events -/

/-- The same events are pending, with the same data. -/
structure PendingEvents.Alike (e e' : PendingEvents α) : Prop where
  doStop : e'.doStop = e.doStop
  doResume : e'.doResume = e.doResume
  doDiscard : e'.doDiscard = e.doDiscard
  doRampDown : e'.doRampDown = e.doRampDown
  doStaticGoalStart : e'.doStaticGoalStart = e.doStaticGoalStart
  doStaticGoalFinish : e'.doStaticGoalFinish = e.doStaticGoalFinish
  doStaticPositionGoalUpdate : e'.doStaticPositionGoalUpdate = e.doStaticPositionGoalUpdate
  doStaticVelocityGoalUpdate : e'.doStaticVelocityGoalUpdate = e.doStaticVelocityGoalUpdate
  doDurationFactorUpdate : e'.doDurationFactorUpdate = e.doDurationFactorUpdate
  fast : e.doStaticPositionGoalUpdate = true ∨ e.doStaticVelocityGoalUpdate = true →
    e'.doStaticGoalFastUpdate = e.doStaticGoalFastUpdate
  positionGoal : e.doStaticPositionGoalUpdate = true →
    e'.staticPositionGoal = e.staticPositionGoal
  velocityGoal : e.doStaticVelocityGoalUpdate = true →
    e'.staticVelocityGoal = e.staticVelocityGoal
  factor : e.doDurationFactorUpdate = true → e'.durationFactor = e.durationFactor

namespace TrajectoryMotion

variable [Field α]

/-- Machines that agree in what decides over states and queues, once `process` has done its part;
a new goal has been prepared in both. -/
structure Same (t t' : TrajectoryMotion α) : Prop where
  configurations : t'.configurations = t.configurations
  motionStep : t.motionStep.Agrees t'.motionStep
  stateManager : t'.stateManager = t.stateManager
  trajectories : t'.trajectories = t.trajectories
  hasNewGoal : t'.data.hasNewGoal = t.data.hasNewGoal
  hasActiveGoal : t'.data.hasActiveGoal = t.data.hasActiveGoal
  events : t.events.Alike t'.events
  prepared : t.data.hasNewGoal = true →
    t.motionStep.interpolatorConditions.Alike t'.motionStep.interpolatorConditions

section same
variable {t t' : TrajectoryMotion α}

theorem Same.setGoal (h : Same t t') (hasNewGoal hasActiveGoal : Bool)
    (hprepared : hasNewGoal = true → t.motionStep.Prepared t'.motionStep) :
    Same (t.setGoal hasNewGoal hasActiveGoal) (t'.setGoal hasNewGoal hasActiveGoal) :=
  ⟨h.configurations, h.motionStep, h.stateManager, h.trajectories, rfl, rfl, h.events,
    fun hnew => (hprepared hnew).conditions⟩

omit [Field α] in
theorem Same.setEvents (h : Same t t') {e e' : PendingEvents α} (he : e.Alike e') :
    Same (t.setEvents e) (t'.setEvents e') :=
  ⟨h.configurations, h.motionStep, h.stateManager, h.trajectories, h.hasNewGoal, h.hasActiveGoal,
    he, h.prepared⟩

omit [Field α] in
theorem Same.log (h : Same t t') (calls calls' : List (Call α)) :
    Same (t.log calls) (t'.log calls') :=
  ⟨h.configurations, h.motionStep, h.stateManager, h.trajectories, h.hasNewGoal, h.hasActiveGoal,
    h.events, h.prepared⟩

omit [Field α] in
theorem Same.request (h : Same t t') (state : States) (subState : SubStates) :
    Same (t.request state subState) (t'.request state subState) := by
  refine ⟨h.configurations, h.motionStep, ?_, h.trajectories, h.hasNewGoal, h.hasActiveGoal,
    h.events, h.prepared⟩
  unfold TrajectoryMotion.request
  rw [h.stateManager]

omit [Field α] in
theorem Same.pushCurrentFront (h : Same t t') :
    Same t.pushCurrentFront t'.pushCurrentFront := by
  unfold TrajectoryMotion.pushCurrentFront
  rw [h.trajectories]
  split
  · exact h
  · exact ⟨h.configurations, h.motionStep, h.stateManager, rfl, h.hasNewGoal, h.hasActiveGoal,
      h.events, h.prepared⟩

variable [LinearOrder α]

theorem Same.storeNormalGoal (h : Same t t') : Same t.storeNormalGoal t'.storeNormalGoal := by
  obtain ⟨hdata, hinternal, hexternal, hinterpolation, hconfigurations⟩ := h.motionStep
  unfold TrajectoryMotion.storeNormalGoal
  rw [h.trajectories]
  split
  · exact h
  · rw [hdata, hinternal, hexternal]
    refine ⟨h.configurations, ⟨hdata, hinternal, rfl, hinterpolation, hconfigurations⟩,
      h.stateManager, ?_, h.hasNewGoal, h.hasActiveGoal, h.events, h.prepared⟩
    simp only [setCurrent, h.trajectories]

variable [Cmath α]

theorem Same.updateNormalGoal (h : Same t t') : Same t.updateNormalGoal t'.updateNormalGoal := by
  unfold TrajectoryMotion.updateNormalGoal
  rw [h.trajectories]
  split
  next => exact h.setGoal false false fun hnew => absurd hnew (by simp)
  next current _ =>
    obtain ⟨hagrees, hsame, hprepared⟩ := nextGoal_agrees h.motionStep current.points
    simp only [hsame]
    refine ⟨h.configurations, hagrees, h.stateManager, ?_, rfl, rfl, h.events,
      fun hnew => (hprepared hnew).conditions⟩
    simp only [TrajectoryMotion.setGoal, TrajectoryMotion.log, setCurrent]

omit [Field α] [LinearOrder α] [Cmath α] in
/-- The duration factor is overwritten by an update that is pending in both. -/
theorem Same.handleRampDownEvents (h : Same t t') :
    Same t.handleRampDownEvents t'.handleRampDownEvents := by
  have hfactor : Same (if t.events.doDurationFactorUpdate then
        { t.setEvents { t.events with doDurationFactorUpdate := false } with
          motionStep := { t.motionStep with
            data := { t.motionStep.data with durationFactor := t.events.durationFactor } } }
      else t)
      (if t'.events.doDurationFactorUpdate then
        { t'.setEvents { t'.events with doDurationFactorUpdate := false } with
          motionStep := { t'.motionStep with
            data := { t'.motionStep.data with durationFactor := t'.events.durationFactor } } }
      else t') := by
    rw [h.events.doDurationFactorUpdate]
    split
    next hupdate =>
      obtain ⟨hdata, hinternal, hexternal, hinterpolation, hconfigurations⟩ := h.motionStep
      refine ⟨h.configurations, ⟨?_, hinternal, hexternal, hinterpolation, hconfigurations⟩,
        h.stateManager, h.trajectories, h.hasNewGoal, h.hasActiveGoal,
        { h.events with doDurationFactorUpdate := rfl, factor := fun h => nomatch h }, h.prepared⟩
      simp only [hdata, h.events.factor hupdate]
    next => exact h
  unfold TrajectoryMotion.handleRampDownEvents
  simp only
  revert hfactor
  generalize (if t.events.doDurationFactorUpdate = true then _ else t) = u
  generalize (if t'.events.doDurationFactorUpdate = true then _ else t') = u'
  intro h
  rw [h.events.doDiscard]
  split
  · obtain ⟨hconfigurations, hmotionStep, hmanager, htrajectories, hnew, hactive, hevents,
      hprepared⟩ := h
    exact ⟨hconfigurations, hmotionStep, hmanager, by rw [htrajectories], hnew, hactive,
      { hevents with doDiscard := rfl }, hprepared⟩
  · exact h

/-- A static goal is prepared from the goal that is pending in both. -/
theorem Same.applyStaticGoal (h : Same t t') : Same t.applyStaticGoal t'.applyStaticGoal := by
  have hevents := h.events
  have hprepared (mode : EGMModes) (goal : PointGoal α) {operation : Operation}
      (hoperation : operation = .rampInPosition ∨ operation = .rampInVelocity) (fast : Bool) :=
    h.motionStep.prepareStatic mode goal hoperation fast
  unfold TrajectoryMotion.applyStaticGoal
  simp only [hevents.doStaticPositionGoalUpdate, hevents.doStaticVelocityGoalUpdate,
    hevents.doRampDown]
  split
  next hposition =>
    have hupdate : t.events.doStaticPositionGoalUpdate = true := (Bool.and_eq_true_iff.mp hposition).1
    simp only [hevents.fast (.inl hupdate), hevents.positionGoal hupdate,
      MotionStep.prepareStaticPositionGoal, h.motionStep.interpolation]
    obtain ⟨hagrees, hconditions⟩ := hprepared
      (if t.events.staticPositionGoal.robot.get.cartesian.has then .egmPose else .egmJoint)
      (MotionStep.transferStaticPositionGoal t.events.staticPositionGoal
        t.motionStep.interpolation) (.inl rfl) t.events.doStaticGoalFastUpdate
    refine ⟨h.configurations, hagrees, h.stateManager, h.trajectories, rfl, rfl, ?_,
      fun _ => hconditions⟩
    exact { hevents with
      doRampDown := rfl
      doStaticPositionGoalUpdate := rfl
      doStaticVelocityGoalUpdate := rfl
      fast := fun _ => rfl
      positionGoal := fun h => nomatch h }
  next =>
    split
    next hvelocity =>
      have hupdate : t.events.doStaticVelocityGoalUpdate = true :=
        (Bool.and_eq_true_iff.mp hvelocity).1
      simp only [hevents.fast (.inr hupdate), hevents.velocityGoal hupdate,
        MotionStep.prepareStaticVelocityGoal, h.motionStep.interpolation]
      obtain ⟨hagrees, hconditions⟩ := hprepared
        (if t.events.staticVelocityGoal.robot.get.cartesian.has then .egmPose else .egmJoint)
        (MotionStep.transferStaticVelocityGoal t.events.staticVelocityGoal
          t.motionStep.interpolation) (.inr rfl) t.events.doStaticGoalFastUpdate
      refine ⟨h.configurations, hagrees, h.stateManager, h.trajectories, rfl, rfl, ?_,
        fun _ => hconditions⟩
      exact { hevents with
        doRampDown := rfl
        doStaticPositionGoalUpdate := rfl
        doStaticVelocityGoalUpdate := rfl
        fast := fun _ => rfl
        velocityGoal := fun h => nomatch h }
    next => exact h

/-! ### The states -/

theorem Same.processNormalState (h : Same t t')
    (hreached : t.trajectories.pCurrent ≠ none →
      t'.motionStep.interpolationDurationReached = t.motionStep.interpolationDurationReached) :
    Same t.processNormalState t'.processNormalState := by
  unfold TrajectoryMotion.processNormalState
  rw [h.stateManager, h.events.doRampDown, h.trajectories, h.motionStep.internalGoal,
    h.motionStep.conditionMet]
  split
  · exact h.log _ _
  · split
    · exact h.request _ _
    · split
      next current hcurrent =>
        rw [hreached (by simp [hcurrent])]
        split_ifs
        · exact h.updateNormalGoal
        · exact h
        · exact h.updateNormalGoal
        · exact h
      next hcurrent =>
        split
        next => exact h
        next next queue hqueue =>
          have htaken : Same { t with trajectories := { t.trajectories with
                primaryQueue := queue, pCurrent := some next } }
              { t' with
                trajectories := { t.trajectories with
                  primaryQueue := queue, pCurrent := some next }
                stateManager := t.stateManager } :=
            ⟨h.configurations, h.motionStep, rfl, rfl, h.hasNewGoal, h.hasActiveGoal, h.events,
              h.prepared⟩
          exact (htaken.log _ _).updateNormalGoal
  · exact h.log _ _

omit [Cmath α] in
theorem storeNormalGoal_conditions (t : TrajectoryMotion α) :
    t.storeNormalGoal.motionStep.interpolatorConditions = t.motionStep.interpolatorConditions := by
  unfold storeNormalGoal
  split <;> rfl

theorem Same.processRampDownState (h : Same t t')
    (hreached : t.stateManager.currentSubState = .running →
      t'.motionStep.interpolationDurationReached = t.motionStep.interpolationDurationReached) :
    Same t.processRampDownState t'.processRampDownState := by
  unfold TrajectoryMotion.processRampDownState
  rw [h.stateManager]
  split
  · simp only [h.events.doStop, h.hasActiveGoal]
    obtain ⟨hagrees, hconditions⟩ := h.motionStep.prepareRampDownGoal t.events.doStop
    have hramp : Same { t with motionStep := t.motionStep.prepareRampDownGoal t.events.doStop }
        { t' with
          motionStep := t'.motionStep.prepareRampDownGoal t.events.doStop
          stateManager := t.stateManager } :=
      ⟨h.configurations, hagrees, rfl, h.trajectories, h.hasNewGoal, h.hasActiveGoal, h.events,
        fun _ => hconditions⟩
    split
    · have hstored := hramp.storeNormalGoal
      refine (hstored.setGoal true true fun _ => ⟨hstored.motionStep, ?_⟩).request _ _
      rw [storeNormalGoal_conditions, storeNormalGoal_conditions]
      exact hconditions
    · exact (hramp.setGoal true true fun _ => ⟨hagrees, hconditions⟩).request _ _
  next hsub =>
    rw [hreached hsub]
    split
    · exact h.request _ _
    · exact h
  · have h := h.handleRampDownEvents
    have hevents := h.events
    simp only
    generalize t.handleRampDownEvents = u at *
    generalize t'.handleRampDownEvents = u' at *
    have hresumed : Same
        (u.setEvents { u.events with doRampDown := false, doStop := false, doResume := false })
        (u'.setEvents { u'.events with doRampDown := false, doStop := false, doResume := false }) :=
      h.setEvents { hevents with doRampDown := rfl, doStop := rfl, doResume := rfl }
    have hramped : Same (u.setEvents { u.events with doRampDown := false })
        (u'.setEvents { u'.events with
          doRampDown := false, doStop := u.events.doStop, doResume := u.events.doResume }) :=
      h.setEvents { hevents with doRampDown := rfl, doStop := rfl, doResume := rfl }
    simp only [hevents.doStop, hevents.doResume, hresumed.events.doStaticGoalStart]
    split_ifs
    · exact hresumed.request _ _
    · exact hresumed.updateNormalGoal.request _ _
    · exact h
    · exact hramped.updateNormalGoal.request _ _

theorem Same.processStaticGoalState (h : Same t t') :
    Same t.processStaticGoalState t'.processStaticGoalState := by
  unfold TrajectoryMotion.processStaticGoalState
  rw [h.stateManager]
  split
  · have hpushed := h.pushCurrentFront
    simp only [hpushed.hasNewGoal]
    exact (hpushed.setGoal _ false fun hnew =>
      ⟨hpushed.motionStep, hpushed.prepared hnew⟩).request _ _
  · have happlied := h.applyStaticGoal
    simp only [happlied.events.doStaticGoalFinish, happlied.events.doRampDown]
    split_ifs
    · exact happlied.request _ _
    · exact happlied.request _ _
    · exact happlied
  · refine (h.setEvents ?_).request _ _
    exact { h.events with
      doStaticGoalStart := rfl
      doStaticGoalFinish := rfl
      doStaticPositionGoalUpdate := rfl
      doStaticVelocityGoalUpdate := rfl
      doRampDown := rfl
      doStop := rfl
      fast := fun h => h.elim (fun h => nomatch h) fun h => nomatch h
      positionGoal := fun h => nomatch h
      velocityGoal := fun h => nomatch h }

/-- **A turn keeps machines the same**, if the end of the interpolation is seen in both. -/
theorem Same.process (h : Same t t')
    (hreached : t.trajectories.pCurrent ≠ none ∨
        t.control.next = (.rampDown, .running) →
      t'.motionStep.interpolationDurationReached = t.motionStep.interpolationDurationReached) :
    Same t.process t'.process := by
  have hupdated : Same { t with stateManager := t.stateManager.updateState }
      { t' with stateManager := t'.stateManager.updateState } :=
    ⟨h.configurations, h.motionStep, by rw [h.stateManager], h.trajectories, h.hasNewGoal,
      h.hasActiveGoal, h.events, h.prepared⟩
  unfold TrajectoryMotion.process
  simp only [h.stateManager]
  rw [h.stateManager] at hupdated
  split
  next => exact hupdated.processNormalState fun hcurrent => hreached (.inl hcurrent)
  next hstate =>
    exact hupdated.processRampDownState fun hsub => hreached (.inr (Prod.ext hstate hsub))
  next => exact hupdated.processStaticGoalState

end same

end TrajectoryMotion

end AbbWrapper
