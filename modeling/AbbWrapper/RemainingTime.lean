import Mathlib.Algebra.Order.Field.Basic
import AbbWrapper.ControllerMode

/-! # The remaining time of an interrupted goal

The duration of the internal goal is the duration of the user's point times the duration factor.
As a ramp down starts, what is left of the former is written back to the point, and multiplied once
more as the point is activated again.

* `Interrupts` and `Reactivates` are the two callbacks: one that starts a ramp down while a goal is active,
  and one that activates the goal that is retrieved first.
* `StoresDuration` is the invariant between them: the first point of the current trajectory has the
  duration that was stored (`Interrupts.stores`, `StoresDuration.step`).
* `FactorAtLeastOne` is the invariant of the duration factor, of the pending one as well.

The duration after a reactivation is therefore the stored one times the factor
(`Reactivates.duration`), and `remaining_time_scaled_iff` compares it with what should have been left.
The time of a slow goal is doubled at every interruption (`remaining_time_doubled`). -/

namespace AbbWrapper

open Protobuf Runs

variable {α : Type} [Field α] [LinearOrder α] [Cmath α]

namespace TrajectoryMotion

/-! ### What the numeric end of a callback leaves -/

/-- The evaluation of a goal writes to its time and its references only. -/
theorem executeGoal_frame (t : TrajectoryMotion α) (outputs : Output α) :
    (t.executeGoal outputs).1.motionStep.internalGoal = t.motionStep.internalGoal ∧
      (t.executeGoal outputs).1.motionStep.data.durationFactor = t.motionStep.data.durationFactor ∧
      (t.executeGoal outputs).1.trajectories = t.trajectories ∧
      (t.executeGoal outputs).1.data = t.data := by
  have hstart : t.startGoal.motionStep.internalGoal = t.motionStep.internalGoal ∧
      t.startGoal.motionStep.data.durationFactor = t.motionStep.data.durationFactor ∧
      t.startGoal.trajectories = t.trajectories ∧ t.startGoal.data = t.data := by
    unfold startGoal
    split
    · exact ⟨rfl, rfl, rfl, rfl⟩
    · exact ⟨rfl, rfl, rfl, rfl⟩
  obtain ⟨hinternal, hfactor, htrajectories, hdata⟩ := hstart
  rw [executeGoal_eq]
  split
  · have hrewrites := (Controller.calculate_frame t.startGoal.controller outputs
      t.startGoal.motionStep.evaluateInterpolator).2.eq
    refine ⟨?_, ?_, htrajectories, hdata⟩
    · exact (congrArg MotionStep.internalGoal hrewrites).trans hinternal
    · exact (congrArg (·.data.durationFactor) hrewrites).trans hfactor
  · exact ⟨hinternal, hfactor, htrajectories, hdata⟩

variable [FloorRing α]

/-- A callback with ok states, as far as the goals are concerned. -/
theorem generateOutputs_goals {t : TrajectoryMotion α} {inputs : InputContainer α}
    (hok : inputs.statesOk = true) (outputs : Output α) :
    (t.step (.generateOutputs outputs inputs)).motionStep.internalGoal =
        (t.prepared inputs).process.motionStep.internalGoal ∧
      (t.step (.generateOutputs outputs inputs)).motionStep.data.durationFactor =
        (t.prepared inputs).process.motionStep.data.durationFactor ∧
      (t.step (.generateOutputs outputs inputs)).trajectories =
        (t.prepared inputs).process.trajectories ∧
      (t.step (.generateOutputs outputs inputs)).events = (t.prepared inputs).process.events := by
  obtain ⟨hinternal, hfactor, htrajectories, hdata⟩ :=
    executeGoal_frame (t.prepared inputs).process outputs
  have hevents := congrArg DecisionData.pendingEvents hdata
  rw [step, generateOutputs, hok]
  exact ⟨hinternal, hfactor, htrajectories, hevents⟩

omit [Cmath α] in
/-- A ramp down is processed within a session. -/
theorem prepared_rampDown {t : TrajectoryMotion α} {inputs : InputContainer α}
    (hlegal : Control.Legal t.stateManager) (hok : inputs.statesOk = true)
    (h : (t.processed inputs).1 = .rampDown) :
    t.prepared inputs =
      (({ t with trace := [] }).receive inputs).setGoal false t.data.hasActiveGoal := by
  have hnext : (t.prepared inputs).control.next = t.processed inputs := rfl
  have hcontrol := control_prepare { t with trace := [] } inputs
  rw [show (t.prepared inputs).control = _ from hcontrol, hok] at hnext
  by_cases hstart : inputs.firstMessage = true ∨ t.stateManager.verifyState .normal .none = true
  · have hnormal := Control.next_prepare_start { t with trace := [] }.control hlegal
      inputs.firstMessage { t with trace := [] }.remainingTime hstart
    rw [← hnext, hnormal] at h
    cases h
  · obtain ⟨hfirst, hv⟩ : inputs.firstMessage = false ∧
        t.stateManager.verifyState .normal .none = false := by
      simpa using hstart
    have hv' : (({ t with trace := [] }).receive inputs).stateManager.verifyState .normal .none =
        false := hv
    unfold prepared prepare checkStates
    simp only [hfirst, hok, hv', Bool.false_eq_true, if_true, if_false]
    rfl

/-! ### The stored goal -/

/-- If there is a current trajectory, then its first point has this duration. -/
def StoresDuration (duration : α) (t : TrajectoryMotion α) : Prop :=
  ∀ current ∈ t.trajectories.pCurrent, ∀ point ∈ current.points.head?,
    point.duration = .present duration

/-- The ramp down starts while a goal is active. -/
structure Interrupts (t : TrajectoryMotion α) (inputs : InputContainer α) : Prop where
  statesOk : inputs.statesOk = true
  place : t.processed inputs = (.rampDown, .none)
  active : t.data.hasActiveGoal = true

/-- The ramp down goes on, or waits for a resume order. -/
def RampsDown (t : TrajectoryMotion α) : Action α → Prop
  | .generateOutputs _ inputs => inputs.statesOk = true ∧
      (t.processed inputs = (.rampDown, .running) ∨ t.processed inputs = (.rampDown, .finished) ∧
        t.events.doStop = true ∧ t.events.doResume = false)
  | _ => True

/-- The goal that is retrieved first is activated. -/
structure Reactivates (t : TrajectoryMotion α) (inputs : InputContainer α) : Prop where
  statesOk : inputs.statesOk = true
  place : t.processed inputs = (.rampDown, .finished)
  hasNewGoal : (t.prepared inputs).process.data.hasNewGoal = true
  first : ((t.prepared inputs).process.trace.filterMap Call.point?).length = 1

omit [FloorRing α] in
/-- What `processRampDownState` does as a ramp down starts. -/
theorem processRampDownState_start {t : TrajectoryMotion α}
    (hsub : t.stateManager.currentSubState = .none) (hactive : t.data.hasActiveGoal = true) :
    t.processRampDownState.StoresDuration t.remainingTime := by
  unfold processRampDownState
  simp only [hsub, hactive, if_true]
  unfold storeNormalGoal
  cases hcurrent : t.trajectories.pCurrent with
  | none =>
      intro current hmem
      have hmem : current ∈ t.trajectories.pCurrent := hmem
      rw [hcurrent] at hmem
      cases hmem
  | some trajectory =>
      rintro current ⟨⟩ point ⟨⟩
      rfl

omit [Field α] [LinearOrder α] [Cmath α] [FloorRing α] in
theorem StoresDuration.of_pCurrent {duration : α} {t u : TrajectoryMotion α}
    (h : t.StoresDuration duration)
    (hcurrent : u.trajectories.pCurrent = t.trajectories.pCurrent ∨
      u.trajectories.pCurrent = none) : u.StoresDuration duration := by
  intro current hmem
  rcases hcurrent with hcurrent | hcurrent
  · rw [hcurrent] at hmem
    exact h current hmem
  · rw [hcurrent] at hmem
    cases hmem

omit [Field α] [LinearOrder α] [Cmath α] [FloorRing α] in
/-- The events of a finished ramp down at most discard the trajectory. -/
theorem pCurrent_handleRampDownEvents (t : TrajectoryMotion α) :
    t.handleRampDownEvents.trajectories.pCurrent = t.trajectories.pCurrent ∨
      t.handleRampDownEvents.trajectories.pCurrent = none := by
  have hcontrol := congrArg Control.pCurrent t.control_handleRampDownEvents
  rw [show t.handleRampDownEvents.trajectories.pCurrent = _ from hcontrol]
  simp only [Control.handle]
  split
  · exact .inr rfl
  · exact .inl rfl

omit [FloorRing α] in
/-- A ramp down that goes on requests a state at most, and one that waits handles the events. -/
theorem processRampDownState_cases {t : TrajectoryMotion α}
    (h : t.stateManager.currentSubState = .running ∨ t.stateManager.currentSubState = .finished ∧
      t.events.doStop = true ∧ t.events.doResume = false) :
    t.processRampDownState = t.request .rampDown .finished ∨ t.processRampDownState = t ∨
      t.processRampDownState = t.handleRampDownEvents := by
  unfold processRampDownState
  rcases h with hsub | ⟨hsub, hstop, hresume⟩
  · simp only [hsub]
    split
    · exact .inl rfl
    · exact .inr (.inl rfl)
  · have hevents := congrArg Control.events t.control_handleRampDownEvents
    have hstop' : t.handleRampDownEvents.events.doStop = true :=
      (congrArg PendingEvents.doStop hevents).trans hstop
    have hresume' : t.handleRampDownEvents.events.doResume = false :=
      (congrArg PendingEvents.doResume hevents).trans hresume
    right
    right
    simp only [hsub, hstop', hresume', if_true, Bool.false_eq_true, if_false]

omit [FloorRing α] in
/-- What `processRampDownState` does while the ramp down goes on or waits. -/
theorem processRampDownState_waits {t : TrajectoryMotion α}
    (h : t.stateManager.currentSubState = .running ∨ t.stateManager.currentSubState = .finished ∧
      t.events.doStop = true ∧ t.events.doResume = false) :
    t.processRampDownState.trajectories.pCurrent = t.trajectories.pCurrent ∨
      t.processRampDownState.trajectories.pCurrent = none := by
  rcases processRampDownState_cases h with h | h | h
  · exact .inl (congrArg (·.trajectories.pCurrent) h)
  · exact .inl (congrArg (·.trajectories.pCurrent) h)
  · rw [h]
    exact t.pCurrent_handleRampDownEvents

/-- What a callback of a session makes of the state before it processes RampDown. -/
def enterRampDown (t : TrajectoryMotion α) (inputs : InputContainer α) : TrajectoryMotion α :=
  { (({ t with trace := [] }).receive inputs).setGoal false t.data.hasActiveGoal with
    stateManager := t.stateManager.updateState }

omit [FloorRing α] in
theorem process_of_rampDown {t : TrajectoryMotion α}
    (h : t.stateManager.updateState.currentState = .rampDown) :
    t.process =
      { t with stateManager := t.stateManager.updateState }.processRampDownState := by
  simp only [process, h]

/-- One `process` in RampDown. -/
theorem process_rampDown {t : TrajectoryMotion α} {inputs : InputContainer α} {subState : SubStates}
    (hlegal : Control.Legal t.stateManager) (hok : inputs.statesOk = true)
    (hplace : t.processed inputs = (.rampDown, subState)) :
    (t.prepared inputs).process = (t.enterRampDown inputs).processRampDownState ∧
      (t.enterRampDown inputs).stateManager.currentState = .rampDown ∧
      (t.enterRampDown inputs).stateManager.currentSubState = subState := by
  have hprepared := prepared_rampDown hlegal hok (congrArg Prod.fst hplace)
  have hcurrent : t.stateManager.updateState.current = (.rampDown, subState) := by
    rw [processed, hprepared] at hplace
    exact hplace
  refine ⟨?_, congrArg Prod.fst hcurrent, congrArg Prod.snd hcurrent⟩
  have hstate : t.stateManager.updateState.currentState = .rampDown := congrArg Prod.fst hcurrent
  rw [hprepared]
  exact process_of_rampDown hstate

/-- The ramp down stores the remaining time. -/
theorem Interrupts.stores {t : TrajectoryMotion α} {inputs : InputContainer α}
    (hlegal : Control.Legal t.stateManager) (h : t.Interrupts inputs) (outputs : Output α) :
    (t.step (.generateOutputs outputs inputs)).StoresDuration t.remainingTime := by
  obtain ⟨hprocess, -, hsub⟩ := process_rampDown hlegal h.statesOk h.place
  obtain ⟨-, -, htrajectories, -⟩ := generateOutputs_goals (t := t) h.statesOk outputs
  rw [hprocess] at htrajectories
  rw [StoresDuration, htrajectories]
  exact processRampDownState_start (t := t.enterRampDown inputs) hsub h.active

/-- It stays stored until the ramp down is left. -/
theorem StoresDuration.step {duration : α} {t : TrajectoryMotion α} {a : Action α}
    (h : t.StoresDuration duration) (hlegal : Control.Legal t.stateManager) (ha : t.RampsDown a) :
    (t.step a).StoresDuration duration := by
  cases a with
  | call call =>
      apply h.of_pCurrent
      left
      have hcontrol := congrArg Control.pCurrent (t.control_call call)
      exact hcontrol.trans (Control.call_frame t.control call).2.1
  | updateConfigurations configurations => exact h
  | generateOutputs outputs inputs =>
      obtain ⟨hok, hplace⟩ := ha
      apply h.of_pCurrent
      rw [(generateOutputs_goals (t := t) hok outputs).2.2.1]
      rcases hplace with hplace | ⟨hplace, hstop, hresume⟩
      · obtain ⟨hprocess, -, hsub⟩ := process_rampDown hlegal hok hplace
        rw [hprocess]
        exact processRampDownState_waits (t := t.enterRampDown inputs) (.inl hsub)
      · obtain ⟨hprocess, -, hsub⟩ := process_rampDown hlegal hok hplace
        rw [hprocess]
        exact processRampDownState_waits (t := t.enterRampDown inputs) (.inr ⟨hsub, hstop, hresume⟩)

omit [FloorRing α] in
/-- The stored point is activated with its duration times the duration factor. -/
theorem updateNormalGoal_stored {duration : α} {t : TrajectoryMotion α}
    (h : t.StoresDuration duration) (hnew : t.updateNormalGoal.data.hasNewGoal = true)
    (htrace : t.trace = []) (hfirst : (t.updateNormalGoal.trace.filterMap Call.point?).length = 1) :
    t.updateNormalGoal.motionStep.internalGoal.duration.val =
      t.updateNormalGoal.motionStep.data.durationFactor * duration := by
  unfold updateNormalGoal at hnew hfirst ⊢
  cases hcurrent : t.trajectories.pCurrent with
  | none =>
      rw [hcurrent] at hnew
      cases hnew
  | some current =>
      obtain ⟨points⟩ := current
      simp only [hcurrent] at hnew hfirst
      cases points with
      | nil => cases hnew
      | cons point points =>
          obtain ⟨hpoints, -, hlast⟩ := nextGoal_points t.motionStep point points
          obtain ⟨m, hm, hexternal, -, hfactor⟩ := nextGoal_prepared t.motionStep point points
          -- a single point is retrieved, which is the stored one
          have hone : (nextGoal t.motionStep (point :: points)).2.2.2.length = 1 := by
            have hpoint (ps : List (PointGoal α)) :
                (ps.map Call.retrieved).filterMap Call.point? = ps := by
              induction ps with
              | nil => rfl
              | cons p ps ih => simpa [Call.point?] using ih
            change ((t.trace ++ _).filterMap Call.point?).length = 1 at hfirst
            rwa [htrace, List.nil_append, hpoint] at hfirst
          obtain ⟨retrieved, hretrieved⟩ := List.length_eq_one_iff.mp hone
          rw [hretrieved] at hpoints hlast
          have hgoal : m.externalGoal = point := by
            rw [hexternal, ← Option.some.inj hlast]
            exact (List.cons.inj hpoints).1
          have hstored := h _ hcurrent point rfl
          change (nextGoal t.motionStep (point :: points)).1.internalGoal.duration.val =
            (nextGoal t.motionStep (point :: points)).1.data.durationFactor * duration
          rw [hm]
          simp only [MotionStep.prepareNormalGoal, hgoal, hstored, Optional.has_present, if_true,
            Optional.val_present]

/-- The reactivation scales the stored duration. -/
theorem Reactivates.duration {duration : α} {t : TrajectoryMotion α} {inputs : InputContainer α}
    (hlegal : Control.Legal t.stateManager) (hstored : t.StoresDuration duration)
    (h : t.Reactivates inputs) (outputs : Output α) :
    (t.step (.generateOutputs outputs inputs)).motionStep.internalGoal.duration.val =
      (t.step (.generateOutputs outputs inputs)).motionStep.data.durationFactor * duration := by
  obtain ⟨hprocess, -, hsub⟩ := process_rampDown hlegal h.statesOk h.place
  obtain ⟨hinternal, hfactor, -⟩ := generateOutputs_goals (t := t) h.statesOk outputs
  have hnew := h.hasNewGoal
  have hfirst := h.first
  rw [hinternal, hfactor, hprocess]
  rw [hprocess] at hnew hfirst
  have hu : (t.enterRampDown inputs).StoresDuration duration := hstored.of_pCurrent (.inl rfl)
  have htrace : (t.enterRampDown inputs).trace = [] := rfl
  have hnone : (t.enterRampDown inputs).data.hasNewGoal = false := rfl
  generalize t.enterRampDown inputs = u at *
  have hhandled : u.handleRampDownEvents.StoresDuration duration :=
    hu.of_pCurrent u.pCurrent_handleRampDownEvents
  have hquiet : u.handleRampDownEvents.trace = [] := by
    have hcontrol := congrArg Control.trace u.control_handleRampDownEvents
    exact hcontrol.trans htrace
  have hold : u.handleRampDownEvents.data.hasNewGoal = false := by
    have hcontrol := congrArg Control.hasNewGoal u.control_handleRampDownEvents
    exact hcontrol.trans hnone
  unfold processRampDownState at hnew hfirst ⊢
  simp only [hsub] at hnew hfirst ⊢
  generalize u.handleRampDownEvents = w at *
  have hrequest (e : PendingEvents α)
      (hnew : (w.setEvents e).updateNormalGoal.data.hasNewGoal = true)
      (hfirst : (((w.setEvents e).updateNormalGoal.request .normal .running).trace.filterMap
        Call.point?).length = 1) :
      (w.setEvents e).updateNormalGoal.motionStep.internalGoal.duration.val =
        (w.setEvents e).updateNormalGoal.motionStep.data.durationFactor * duration := by
    apply updateNormalGoal_stored (t := w.setEvents e) hhandled hnew hquiet
    simp only [request, log, List.filterMap_append, List.length_append] at hfirst
    exact hfirst
  split_ifs at hnew hfirst ⊢
  · exact absurd (hnew.symm.trans hold) (by simp)
  · exact hrequest _ hnew hfirst
  · exact absurd (hnew.symm.trans hold) (by simp)
  · exact hrequest _ hnew hfirst

/-! ### The duration factor -/

section factor
omit [FloorRing α]

/-- The duration factor is at least one, and so is the one that is pending. -/
structure FactorAtLeastOne (t : TrajectoryMotion α) : Prop where
  active : 1 ≤ t.motionStep.data.durationFactor
  pending : 1 ≤ t.events.durationFactor

omit [Cmath α] in
theorem FactorAtLeastOne.of_eq {t u : TrajectoryMotion α} (h : t.FactorAtLeastOne)
    (hactive : u.motionStep.data.durationFactor = t.motionStep.data.durationFactor)
    (hpending : u.events.durationFactor = t.events.durationFactor) : u.FactorAtLeastOne :=
  ⟨hactive ▸ h.active, hpending ▸ h.pending⟩

theorem FactorAtLeastOne.updateNormalGoal {t : TrajectoryMotion α} (h : t.FactorAtLeastOne) :
    t.updateNormalGoal.FactorAtLeastOne := by
  unfold TrajectoryMotion.updateNormalGoal
  split
  · exact h.of_eq rfl rfl
  · next current _ =>
    obtain ⟨points⟩ := current
    cases points with
    | nil => exact h.of_eq rfl rfl
    | cons point points =>
        obtain ⟨m, hm, -, -, hfactor⟩ := nextGoal_prepared t.motionStep point points
        refine h.of_eq ?_ rfl
        change (nextGoal t.motionStep (point :: points)).1.data.durationFactor = _
        rw [hm]
        exact hfactor

omit [Cmath α] in
theorem FactorAtLeastOne.storeNormalGoal {t : TrajectoryMotion α} (h : t.FactorAtLeastOne) :
    t.storeNormalGoal.FactorAtLeastOne := by
  unfold TrajectoryMotion.storeNormalGoal
  split
  · exact h
  · exact h.of_eq rfl rfl

omit [Cmath α] in
theorem FactorAtLeastOne.pushCurrentFront {t : TrajectoryMotion α} (h : t.FactorAtLeastOne) :
    t.pushCurrentFront.FactorAtLeastOne := by
  unfold TrajectoryMotion.pushCurrentFront
  split
  · exact h
  · exact h.of_eq rfl rfl

theorem FactorAtLeastOne.processNormalState {t : TrajectoryMotion α} (h : t.FactorAtLeastOne) :
    t.processNormalState.FactorAtLeastOne := by
  unfold TrajectoryMotion.processNormalState
  split
  · exact h.of_eq rfl rfl
  · split
    · exact h.of_eq rfl rfl
    · split
      · split_ifs
        · exact h.updateNormalGoal
        · exact h
        · exact h.updateNormalGoal
        · exact h
      · split
        · exact h
        · exact FactorAtLeastOne.updateNormalGoal (h.of_eq rfl rfl)
  · exact h.of_eq rfl rfl

omit [Cmath α] in
/-- Where the pending factor becomes active. -/
theorem FactorAtLeastOne.handleRampDownEvents {t : TrajectoryMotion α} (h : t.FactorAtLeastOne) :
    t.handleRampDownEvents.FactorAtLeastOne := by
  unfold TrajectoryMotion.handleRampDownEvents
  simp only
  split_ifs
  · exact ⟨h.pending, h.pending⟩
  · exact ⟨h.pending, h.pending⟩
  · exact h.of_eq rfl rfl
  · exact h

theorem FactorAtLeastOne.processRampDownState {t : TrajectoryMotion α} (h : t.FactorAtLeastOne) :
    t.processRampDownState.FactorAtLeastOne := by
  unfold TrajectoryMotion.processRampDownState
  split
  · have hprepared : FactorAtLeastOne { t with
        motionStep := t.motionStep.prepareRampDownGoal t.events.doStop } := h.of_eq rfl rfl
    simp only
    split_ifs
    · exact hprepared.storeNormalGoal.of_eq rfl rfl
    · exact hprepared.of_eq rfl rfl
  · split_ifs
    · exact h.of_eq rfl rfl
    · exact h
  · have hhandled := h.handleRampDownEvents
    simp only
    generalize t.handleRampDownEvents = u at hhandled
    have hnext (e : PendingEvents α) (he : e.durationFactor = u.events.durationFactor) :
        ((u.setEvents e).updateNormalGoal.request .normal .running).FactorAtLeastOne :=
      (FactorAtLeastOne.updateNormalGoal (t := u.setEvents e)
        (hhandled.of_eq rfl he)).of_eq rfl rfl
    split_ifs
    · exact hhandled.of_eq rfl rfl
    · exact hnext _ rfl
    · exact hhandled
    · exact hnext _ rfl

theorem FactorAtLeastOne.processStaticGoalState {t : TrajectoryMotion α} (h : t.FactorAtLeastOne) :
    t.processStaticGoalState.FactorAtLeastOne := by
  have happlied : t.applyStaticGoal.FactorAtLeastOne := by
    unfold applyStaticGoal
    simp only
    split_ifs
    · exact h.of_eq rfl rfl
    · exact h.of_eq rfl rfl
    · exact h
  unfold TrajectoryMotion.processStaticGoalState
  split
  · exact h.pushCurrentFront.of_eq rfl rfl
  · simp only
    split_ifs
    · exact happlied.of_eq rfl rfl
    · exact happlied.of_eq rfl rfl
    · exact happlied
  · exact h.of_eq rfl rfl

theorem FactorAtLeastOne.process {t : TrajectoryMotion α} (h : t.FactorAtLeastOne) :
    t.process.FactorAtLeastOne := by
  have hupdated : FactorAtLeastOne { t with stateManager := t.stateManager.updateState } :=
    h.of_eq rfl rfl
  unfold TrajectoryMotion.process
  simp only
  split
  · exact hupdated.processNormalState
  · exact hupdated.processRampDownState
  · exact hupdated.processStaticGoalState

end factor

omit [Cmath α] in
theorem FactorAtLeastOne.prepare {t : TrajectoryMotion α} (h : t.FactorAtLeastOne)
    (inputs : InputContainer α) : (t.prepare inputs).FactorAtLeastOne := by
  have hreset (u : TrajectoryMotion α) (hu : u.FactorAtLeastOne) :
      u.resetComponents.FactorAtLeastOne := hu.storeNormalGoal.pushCurrentFront.of_eq rfl rfl
  have hcheck (u : TrajectoryMotion α) (hu : u.FactorAtLeastOne) (statesOk : Bool) :
      (u.checkStates statesOk).FactorAtLeastOne := by
    unfold checkStates
    split_ifs
    · exact hu.of_eq rfl rfl
    · exact hu
    · exact (hreset u hu).of_eq rfl rfl
    · exact hu
  have hreceived : (t.receive inputs).FactorAtLeastOne := h.of_eq rfl rfl
  refine FactorAtLeastOne.of_eq (hcheck (if inputs.firstMessage then (t.receive inputs).resetComponents
    else t.receive inputs) ?_ inputs.statesOk) rfl rfl
  split
  · exact hreset _ hreceived
  · exact hreceived

variable [IsStrictOrderedRing α]

omit [Cmath α] [FloorRing α] in
theorem one_le_saturate (factor : α) :
    1 ≤ saturate factor PendingEvents.durationFactorMin PendingEvents.durationFactorMax := by
  unfold saturate PendingEvents.durationFactorMin PendingEvents.durationFactorMax
  split_ifs with hlower hupper
  · exact le_rfl
  · norm_num
  · exact not_lt.mp hlower

omit [Cmath α] [FloorRing α] [IsStrictOrderedRing α] in
theorem FactorAtLeastOne.command {t : TrajectoryMotion α} (h : t.FactorAtLeastOne) (state : States)
    (subState : SubStates) {f : PendingEvents α → PendingEvents α}
    (hf : 1 ≤ (f t.events).durationFactor) : (t.command state subState f).2.FactorAtLeastOne := by
  unfold TrajectoryMotion.command
  split
  · exact ⟨h.active, hf⟩
  · exact h

theorem FactorAtLeastOne.step {t : TrajectoryMotion α} (h : t.FactorAtLeastOne) (a : Action α) :
    (t.step a).FactorAtLeastOne := by
  cases a with
  | updateConfigurations configurations => exact h.of_eq rfl rfl
  | call call =>
      cases call with
      | addTrajectory trajectory override =>
          unfold TrajectoryMotion.step TrajectoryMotion.call addTrajectory
          simp only
          split_ifs
          · exact h.of_eq rfl rfl
          · exact h.of_eq rfl rfl
          · exact h.of_eq rfl rfl
          · exact h
      | updateDurationFactor factor => exact h.command _ _ (one_le_saturate factor)
      | retrieveExecutionProgress =>
          unfold TrajectoryMotion.step TrajectoryMotion.call retrieveExecutionProgress
          simp only
          split
          · exact h.of_eq rfl rfl
          · exact h
      | _ => exact h.command _ _ h.pending
  | generateOutputs outputs inputs =>
      have hcleared : FactorAtLeastOne { t with trace := [] } := h.of_eq rfl rfl
      have hprepared : (t.prepared inputs).FactorAtLeastOne := hcleared.prepare inputs
      cases hok : inputs.statesOk with
      | true =>
          obtain ⟨-, hfactor, -, hevents⟩ := generateOutputs_goals (t := t) hok outputs
          exact hprepared.process.of_eq hfactor (by rw [hevents])
      | false =>
          rw [TrajectoryMotion.step, generateOutputs, hok]
          exact hprepared.of_eq rfl rfl

theorem factorAtLeastOne_run (configurations : TrajectoryConfiguration α) (es : List (Action α)) :
    (run step (init configurations) es).FactorAtLeastOne :=
  run_inv (I := fun t : TrajectoryMotion α => t.FactorAtLeastOne) (fun _ a ht => ht.step a) es
    ⟨le_rfl, le_rfl⟩

/-! ### Runs -/

omit [Cmath α] [FloorRing α] in
theorem remainingTime_pos (t : TrajectoryMotion α) : 0 < t.remainingTime :=
  lt_of_lt_of_le Constants.lowestSampleTime_pos (le_max_left _ _)

/-- **The remaining time is scaled once exactly if** the duration factor is one while the goal is
interrupted.  A goal of duration `D` is interrupted after the time `p` under the factor `f`, and
reactivated under `f2`. -/
theorem remaining_time_scaled_iff (configurations : TrajectoryConfiguration α)
    (before between : List (Action α)) (outputs outputs' : Output α)
    (inputs inputs' : InputContainer α)
    (hinterrupts : (run step (init configurations) before).Interrupts inputs)
    (hbetween : Along step RampsDown
      ((run step (init configurations) before).step (.generateOutputs outputs inputs)) between)
    (hreactivates : (run step ((run step (init configurations) before).step
      (.generateOutputs outputs inputs)) between).Reactivates inputs') :
    let t := run step (init configurations) before
    let u := (run step (t.step (.generateOutputs outputs inputs)) between).step
      (.generateOutputs outputs' inputs')
    let D := t.motionStep.internalGoal.duration.val
    let p := t.motionStep.data.timePassed
    let f := t.motionStep.data.durationFactor
    let f2 := u.motionStep.data.durationFactor
    u.motionStep.internalGoal.duration.val =
      f2 / f * max (Constants.lowestSampleTime α) (D - p) ↔ f = 1 := by
  intro t u D p f f2
  have hlegal : Control.Legal t.stateManager := legal_run configurations before
  have hlegal' : Control.Legal (t.step (.generateOutputs outputs inputs)).stateManager :=
    (t.step_control (.generateOutputs outputs inputs)).legal hlegal
  have hstored := hinterrupts.stores hlegal outputs
  obtain ⟨hstored', hlegal''⟩ := hbetween.run_inv
    (I := fun s : TrajectoryMotion α => s.StoresDuration t.remainingTime ∧
      Control.Legal s.stateManager)
    (fun s a hs ha => ⟨hs.1.step hs.2 ha, (s.step_control a).legal hs.2⟩) ⟨hstored, hlegal'⟩
  have hduration := hreactivates.duration hlegal'' hstored' outputs'
  have hf : 1 ≤ f := (factorAtLeastOne_run configurations before).active
  have hf2 : 1 ≤ f2 := by
    have hfactor := (factorAtLeastOne_run configurations
      (before ++ .generateOutputs outputs inputs :: between ++ [.generateOutputs outputs' inputs'])).active
    rwa [run_append, run_append] at hfactor
  have hpos := t.remainingTime_pos
  change u.motionStep.internalGoal.duration.val = f2 / f * t.remainingTime ↔ f = 1
  rw [show u.motionStep.internalGoal.duration.val = f2 * t.remainingTime from hduration]
  constructor
  · intro heq
    have hdiv : f2 = f2 / f := mul_right_cancel₀ hpos.ne' heq
    have hf0 : f ≠ 0 := (lt_of_lt_of_le zero_lt_one hf).ne'
    have hf20 : f2 ≠ 0 := (lt_of_lt_of_le zero_lt_one hf2).ne'
    rw [eq_div_iff hf0] at hdiv
    exact mul_left_cancel₀ hf20 (hdiv.trans (mul_one f2).symm)
  · intro hone
    rw [hone, div_one]

/-! ### A slow goal -/

namespace Slowed

/-- A callback one second later. -/
def callback : Action ℚ := .generateOutputs {} Evaluation.next

/-- A goal of ten seconds is to be executed at half the speed. -/
def slowed : List (Action ℚ) := [.generateOutputs {} Evaluation.first,
  .call (.addTrajectory ⟨[Evaluation.point 10 [10, 0, 0, 0, 0, 0]]⟩ false), callback,
  .call (.updateDurationFactor 2), callback]

/-- The slow goal has been executed for some time, and is stopped. -/
def stopped : List (Action ℚ) :=
  slowed ++ [callback, callback, callback, callback, .call (.stopTrajectory false), callback]

/-- The ramp down to a stop, and the order to resume. -/
def stopping : List (Action ℚ) := [callback, callback, .call .resumeTrajectory]

/-- The first interruption is that of a goal at full speed: eight seconds become sixteen. -/
theorem remaining_time_scaled_slowed :
    (run step ((run step (init Evaluation.configurations) slowed).step callback)
        [callback]).Reactivates Evaluation.next ∧
      ((run step ((run step (init Evaluation.configurations) slowed).step callback)
        [callback]).step callback).motionStep.internalGoal.duration.val = 2 / 1 * 8 := by
  have hinterrupts : (run step (init Evaluation.configurations) slowed).Interrupts
      Evaluation.next := ⟨by decide +kernel, by decide +kernel, by decide +kernel⟩
  have hreactivates : (run step ((run step (init Evaluation.configurations) slowed).step callback)
      [callback]).Reactivates Evaluation.next :=
    ⟨by decide +kernel, by decide +kernel, by decide +kernel, by decide +kernel⟩
  refine ⟨hreactivates, ((remaining_time_scaled_iff Evaluation.configurations slowed [callback] {} {}
    Evaluation.next Evaluation.next hinterrupts ⟨⟨by decide +kernel, .inl (by decide +kernel)⟩,
      trivial⟩ hreactivates).mpr (by decide +kernel)).trans (by decide +kernel)⟩

/-- **The remaining time is scaled at every interruption**: the slow goal has thirteen seconds left
as it is stopped, and twenty-six as it is resumed with the factor unchanged. -/
theorem remaining_time_doubled :
    ¬(∀ (before between : List (Action ℚ)) (outputs outputs' : Output ℚ)
      (inputs inputs' : InputContainer ℚ),
      let t := run step (init Evaluation.configurations) before
      let v := run step (t.step (.generateOutputs outputs inputs)) between
      let u := v.step (.generateOutputs outputs' inputs')
      t.Interrupts inputs → Along step RampsDown (t.step (.generateOutputs outputs inputs)) between →
        v.Reactivates inputs' → u.motionStep.internalGoal.duration.val =
          u.motionStep.data.durationFactor / t.motionStep.data.durationFactor *
            max (Constants.lowestSampleTime ℚ)
              (t.motionStep.internalGoal.duration.val - t.motionStep.data.timePassed)) := by
  intro h
  have hramps : Along step RampsDown
      ((run step (init Evaluation.configurations) stopped).step callback) stopping :=
    ⟨⟨by decide +kernel, .inl (by decide +kernel)⟩,
      ⟨by decide +kernel, .inr ⟨by decide +kernel, by decide +kernel, by decide +kernel⟩⟩,
      trivial, trivial⟩
  have hscaled := h stopped stopping {} {} Evaluation.next Evaluation.next
    ⟨by decide +kernel, by decide +kernel, by decide +kernel⟩ hramps
    ⟨by decide +kernel, by decide +kernel, by decide +kernel, by decide +kernel⟩
  revert hscaled
  decide +kernel

end Slowed

end TrajectoryMotion

end AbbWrapper
