import AbbWrapper.Evaluation
import AbbWrapper.SameCourse

/-! # The reset of a session

A callback whose states are not ok ends the session: the motion step and the state manager are
reset and both queues are cleared.  The pending events are not, nor is the duration factor, and
neither are the queues if the message is a first one.  If nothing of this is left, the machine goes
on as one that has never received a command; else the next session starts with a ramp down that
nobody has asked for in it.

* `EndsSession` is such a callback in a session that is active, and `Settled` says that nothing is left
  that its reset does not reach.
* `untouched` is a machine that has never received a command, after a callback with states that are not
  ok; the machines are compared by `SameCourse`.
* `Wired` is what the constructors establish and no step changes; `Calm` says that no ramp down is ahead.

The two machines are on the same course from then on (`sameCourse_of_settled`), so that
`commands_die_with_session` is about all later runs. -/

namespace AbbWrapper

open Protobuf Runs

variable {α : Type}

/-! ### Quiet machines -/

namespace Control

/-- In the normal state, without a ramp down ahead. -/
structure Calm (c : Control α) : Prop where
  doRampDown : c.events.doRampDown = false
  pending : c.manager.hasPendingState = false
  state : c.manager.currentState = .normal
  subState : c.manager.currentSubState ≠ .finished

theorem Calm.congr {c c' : Control α} (h : Calm c)
    (hramp : c'.events.doRampDown = c.events.doRampDown) (hmanager : c'.manager = c.manager) :
    Calm c' :=
  ⟨hramp ▸ h.doRampDown, hmanager ▸ h.pending, hmanager ▸ h.state, hmanager ▸ h.subState⟩

theorem verifyState_of_calm {c : Control α} (h : Calm c) :
    c.manager.verifyState .normal .none = !c.manager.verifyState .normal .running := by
  have hsub := h.subState
  cases hs : c.manager.currentSubState <;> simp_all [StateManager.verifyState, h.state]

theorem calm_reset {c : Control α} (h : c.events.doRampDown = false) (duration : α) :
    Calm (c.reset duration) := by
  refine ⟨?_, rfl, rfl, nofun⟩
  have hevents : (c.reset duration).events = c.events := by simp [Control.reset, setGoal]
  rw [hevents, h]

theorem Calm.checkStates {c : Control α} (h : Calm c) (statesOk : Bool) (duration : α) :
    Calm (c.checkStates statesOk duration) ∧ (c.checkStates statesOk duration).manager.verifyState
      .normal (if statesOk then .running else .none) = true := by
  have hverify := verifyState_of_calm h
  unfold Control.checkStates
  cases statesOk with
  | true =>
      simp only [if_true]
      split
      · exact ⟨⟨h.doRampDown, h.pending, rfl, nofun⟩, rfl⟩
      next hv => exact ⟨h, by simpa [hverify] using hv⟩
  | false =>
      simp only [Bool.false_eq_true, if_false]
      split
      · exact ⟨(calm_reset h.doRampDown duration).congr rfl rfl, rfl⟩
      next hv => exact ⟨h, by simpa using hv⟩

theorem Calm.prepare {c : Control α} (h : Calm c) (firstMessage statesOk : Bool) (duration : α) :
    Calm (c.prepare firstMessage statesOk duration) ∧
      (c.prepare firstMessage statesOk duration).manager.verifyState .normal
        (if statesOk then .running else .none) = true := by
  have hstart : Calm (if firstMessage then c.reset duration else c) := by
    split
    · exact calm_reset h.doRampDown duration
    · exact h
  obtain ⟨hchecked, hverify⟩ := hstart.checkStates statesOk duration
  exact ⟨hchecked.congr rfl rfl, hverify⟩

/-- A turn of a calm machine keeps the state. -/
theorem Calm.turn {c c' : Control α} (hc : Calm c) (h : Turn c.updateState c') :
    Calm c' ∧ c'.manager = c.manager := by
  have hupdated : c.updateState.manager = c.manager := by
    simp [Control.updateState, StateManager.updateState, hc.pending]
  have hstate : c.updateState.manager.currentState = .normal := by rw [hupdated, hc.state]
  have hramp : c.updateState.events.doRampDown = false := hc.doRampDown
  have hkept {d : Control α} (hevents : d.events = c.events)
      (hmanager : d.manager = c.updateState.manager) : Calm d ∧ d.manager = c.manager :=
    ⟨hc.congr (by rw [hevents]) (by rw [hmanager, hupdated]), by rw [hmanager, hupdated]⟩
  cases h with
  | shouldNeverOccur => exact hkept rfl rfl
  | interrupt _ _ hramp' => exact absurd hramp' (by simp [hramp])
  | «continue» => exact hkept rfl rfl
  | advance _ _ _ _ _ hgoal => exact hkept hgoal.frame.2.1 hgoal.frame.1
  | take _ _ _ _ _ _ _ _ hgoal => exact hkept hgoal.frame.2.1 hgoal.frame.1
  | startRampDown _ hstate' => simp [hstate] at hstate'
  | continueRampDown hstate' => simp [hstate] at hstate'
  | finishRampDown hstate' => simp [hstate] at hstate'
  | wait hstate' => simp [hstate] at hstate'
  | enterStaticGoal hstate' => simp [hstate] at hstate'
  | resume _ hstate' => simp [hstate] at hstate'
  | rampedDown _ hstate' => simp [hstate] at hstate'
  | startStaticGoal hstate' => simp [hstate] at hstate'
  | executeStaticGoal hstate' => simp [hstate] at hstate'
  | finishStaticGoal hstate' => simp [hstate] at hstate'

end Control

/-- The commands that ask for a ramp down, when accepted. -/
def TrajectoryCall.asksForRampDown : TrajectoryCall α → Bool
  | .addTrajectory _ override => override
  | .stopTrajectory _ => true
  | .updateDurationFactor _ => true
  | .startStaticGoal _ => true
  | _ => false

theorem Control.Calm.call [Field α] [LinearOrder α] {c : Control α} (hc : Calm c)
    {call : TrajectoryCall α}
    (h : call.asksForRampDown = true → call.acceptedIn c.manager = false) :
    Calm (c.call call) := by
  cases hacc : call.acceptedIn c.manager with
  | false =>
      rw [call_rejected hacc]
      exact hc
  | true =>
      have hasks : call.asksForRampDown = false := by
        cases hasks : call.asksForRampDown with
        | false => rfl
        | true => simp [h hasks] at hacc
      have hstatic (hv : c.manager.verifyState .staticGoal .running = true) : False := by
        simp only [StateManager.verifyState, decide_eq_true_eq, hc.state] at hv
        cases hv.1
      refine hc.congr ?_ (call_frame c call).1
      rw [call_events hacc]
      cases call with
      | addTrajectory trajectory override => cases override with
        | true => cases hasks
        | false => rfl
      | stopTrajectory discard => cases hasks
      | resumeTrajectory => rfl
      | updateDurationFactor factor => cases hasks
      | startStaticGoal discard => cases hasks
      | retrieveExecutionProgress => rfl
      | _ => exact (hstatic hacc).elim

namespace TrajectoryMotion

section quiet
variable [Field α] [LinearOrder α] [Cmath α] [FloorRing α]

/-- A step in which no command is accepted that asks for a ramp down. -/
def WithoutRequest (t : TrajectoryMotion α) : Action α → Prop
  | .call call => call.asksForRampDown = true → (t.call call).1 = false
  | _ => True

/-- The states of a session that runs and is not interrupted. -/
def StaysNormal (t : TrajectoryMotion α) (a : Action α) : Prop :=
  match a with
  | .generateOutputs _ inputs => (t.step a).stateManager.verifyState .normal
      (if inputs.statesOk then .running else .none) = true
  | _ => (t.step a).stateManager = t.stateManager

theorem calm_step {t : TrajectoryMotion α} {a : Action α} (ht : t.control.Calm)
    (ha : t.WithoutRequest a) : (t.step a).control.Calm ∧ t.StaysNormal a := by
  cases a with
  | updateConfigurations configurations => exact ⟨ht, rfl⟩
  | call call =>
      have hcontrol := t.control_call call
      refine ⟨?_, ?_⟩
      · change (t.call call).2.control.Calm
        rw [hcontrol]
        refine ht.call fun hasks => ?_
        have hne : call ≠ .retrieveExecutionProgress := by
          rintro rfl
          cases hasks
        exact (t.call_fst call hne).symm.trans (ha hasks)
      · change (t.call call).2.control.manager = t.control.manager
        rw [hcontrol, (Control.call_frame _ _).1]
  | generateOutputs outputs inputs =>
      have hcleared : Control.Calm { t.control with trace := [] } := ht.congr rfl rfl
      obtain ⟨hprepared, hverify⟩ :=
        hcleared.prepare inputs.firstMessage inputs.statesOk t.remainingTime
      cases hok : inputs.statesOk with
      | true =>
          rw [hok] at hprepared hverify
          obtain ⟨hcalm, hmanager⟩ := hprepared.turn (generateOutputs_ok t outputs inputs hok)
          refine ⟨hcalm, ?_⟩
          change (t.generateOutputs outputs inputs).1.control.manager.verifyState _
            (if inputs.statesOk then _ else _) = true
          rw [hmanager, hok]
          exact hverify
      | false =>
          rw [hok] at hprepared hverify
          have hcontrol := generateOutputs_notOk t outputs inputs hok
          refine ⟨?_, ?_⟩
          · change (t.generateOutputs outputs inputs).1.control.Calm
            rw [hcontrol]
            exact hprepared
          · change (t.generateOutputs outputs inputs).1.control.manager.verifyState _
              (if inputs.statesOk then _ else _) = true
            rw [hcontrol, hok]
            exact hverify

end quiet

/-! ### What every run keeps -/

variable [Field α] [LinearOrder α] [Cmath α]

/-- What the constructors establish and no step changes. -/
structure Wired (t : TrajectoryMotion α) : Prop where
  configurations : t.motionStep.configurations = t.configurations
  gain : t.controller.k = 1
  splines : t.motionStep.interpolator.splinePolynomials.length = maxNumberOfSplines

omit [LinearOrder α] [Cmath α] in
theorem Wired.of_eq {t u : TrajectoryMotion α} (h : Wired t)
    (hconfigurations : u.configurations = t.configurations)
    (hconfigurations' : u.motionStep.configurations = t.motionStep.configurations)
    (hcontroller : u.controller.k = t.controller.k)
    (hinterpolator : u.motionStep.interpolator.splinePolynomials.length =
      t.motionStep.interpolator.splinePolynomials.length) : Wired u :=
  ⟨by rw [hconfigurations', hconfigurations, h.configurations], hcontroller.trans h.gain,
    hinterpolator.trans h.splines⟩

omit [LinearOrder α] [Cmath α] in
theorem Wired.of_keeps {t u : TrajectoryMotion α} (h : Wired t) (hkeeps : Keeps t u) : Wired u :=
  h.of_eq hkeeps.configurations hkeeps.motionStep.configurations (by rw [hkeeps.controller])
    (by rw [hkeeps.motionStep.interpolator])

omit [Cmath α] in
theorem Wired.resetComponents {t : TrajectoryMotion α} (h : Wired t) : Wired t.resetComponents :=
  h.of_eq (t.storeNormalGoal_keeps.trans t.storeNormalGoal.pushCurrentFront_keeps).configurations
    (t.storeNormalGoal_keeps.trans
      t.storeNormalGoal.pushCurrentFront_keeps).motionStep.configurations
    (by rw [t.resetComponents_keeps.1]) (by rw [t.resetComponents_keeps.2])

theorem Wired.startGoal {t : TrajectoryMotion α} (h : Wired t) : Wired t.startGoal := by
  unfold TrajectoryMotion.startGoal
  split
  · exact h.of_eq rfl rfl rfl (by simp [MotionStep.updateInterpolator])
  · exact h

theorem Wired.executeGoal {t : TrajectoryMotion α} (h : Wired t) (outputs : Output α) :
    Wired (t.executeGoal outputs).1 := by
  have h := h.startGoal
  rw [executeGoal_eq]
  split
  · obtain ⟨hk, hrewrites⟩ := Controller.calculate_frame t.startGoal.controller outputs
      t.startGoal.motionStep.evaluateInterpolator
    have hconfigurations := congrArg MotionStep.configurations hrewrites.eq
    have hinterpolator := congrArg MotionStep.interpolator hrewrites.eq
    refine h.of_eq rfl hconfigurations hk ?_
    simp only [hinterpolator]
    rfl
  · exact h

variable [FloorRing α]

omit [Cmath α] in
theorem Wired.prepare {t : TrajectoryMotion α} (h : Wired t) (inputs : InputContainer α) :
    Wired (t.prepare inputs) := by
  have hreceived : Wired (t.receive inputs) := h.of_eq rfl rfl rfl rfl
  have hstart : Wired (if inputs.firstMessage then (t.receive inputs).resetComponents
      else t.receive inputs) := by
    split
    · exact hreceived.resetComponents
    · exact hreceived
  have hchecked (u : TrajectoryMotion α) (hu : Wired u) : Wired (u.checkStates inputs.statesOk) := by
    unfold checkStates
    split_ifs
    · exact hu.of_eq rfl rfl rfl rfl
    · exact hu
    · exact hu.resetComponents.of_eq rfl rfl rfl rfl
    · exact hu
  exact (hchecked _ hstart).of_eq rfl rfl rfl rfl

theorem Wired.step {t : TrajectoryMotion α} (h : Wired t) (a : Action α) : Wired (t.step a) := by
  cases a with
  | call call => exact h.of_keeps (t.call_keeps call)
  | updateConfigurations configurations => exact ⟨rfl, h.gain, h.splines⟩
  | generateOutputs outputs inputs =>
      have hcleared : Wired { t with trace := [] } := h.of_eq rfl rfl rfl rfl
      have hprepared := hcleared.prepare inputs
      have hexecuted : Wired (if inputs.statesOk then
          ({ t with trace := [] }.prepare inputs).process.executeGoal outputs
          else ({ t with trace := [] }.prepare inputs, outputs)).1 := by
        split
        · exact (hprepared.of_keeps (process_keeps _)).executeGoal outputs
        · exact hprepared
      exact hexecuted.of_eq rfl rfl rfl rfl

theorem wired_run (configurations : TrajectoryConfiguration α) (es : List (Action α)) :
    Wired (run step (init configurations) es) := by
  have hinit : Wired (init configurations) :=
    ⟨rfl, rfl, by simp [init, MotionStep.init, EGMInterpolator.init]⟩
  exact run_inv (I := fun t : TrajectoryMotion α => Wired t) (fun _ a ht => ht.step a) es hinit

/-! ### The end of a session -/

/-- A callback that finds an active session with states that are not ok. -/
def EndsSession (t : TrajectoryMotion α) (inputs : InputContainer α) : Prop :=
  inputs.statesOk = false ∧ t.stateManager.verifyState .normal .none = false

/-- Nothing is left that the reset at the end of a session does not reach: events, a duration
factor and, at a first message, trajectories. -/
structure Settled (t : TrajectoryMotion α) (inputs : InputContainer α) : Prop where
  doStop : t.events.doStop = false
  doResume : t.events.doResume = false
  doDiscard : t.events.doDiscard = false
  doRampDown : t.events.doRampDown = false
  doStaticGoalStart : t.events.doStaticGoalStart = false
  doStaticGoalFinish : t.events.doStaticGoalFinish = false
  doStaticPositionGoalUpdate : t.events.doStaticPositionGoalUpdate = false
  doStaticVelocityGoalUpdate : t.events.doStaticVelocityGoalUpdate = false
  doDurationFactorUpdate : t.events.doDurationFactorUpdate = false
  durationFactor : t.motionStep.data.durationFactor = 1
  trajectories : inputs.firstMessage = true → t.trajectories = ⟨[], [], none⟩

/-- A machine that has never received a command, after a callback whose states are not ok. -/
def untouched (configurations : TrajectoryConfiguration α) (outputs : Output α)
    (inputs : InputContainer α) : TrajectoryMotion α :=
  (init configurations).step (.generateOutputs outputs { inputs with firstMessage := true })

omit [Cmath α] [FloorRing α] in
/-- The queues stay empty in a reset. -/
theorem trajectories_resetComponents {t : TrajectoryMotion α}
    (h : t.trajectories = ⟨[], [], none⟩) : t.resetComponents.trajectories = ⟨[], [], none⟩ := by
  have hstored : t.storeNormalGoal = t := by simp [storeNormalGoal, h]
  have hpushed : t.pushCurrentFront = t := by simp [pushCurrentFront, h]
  change (t.storeNormalGoal.pushCurrentFront).trajectories = _
  rw [hstored, hpushed, h]

omit [Cmath α] [FloorRing α] in
theorem pCurrent_resetComponents (t : TrajectoryMotion α) :
    t.resetComponents.trajectories.pCurrent = none := by
  have h := Control.pCurrent_pushCurrentFront (t.control.store t.remainingTime)
  rw [← control_storeNormalGoal, ← control_pushCurrentFront] at h
  exact h

/-- A machine that is reset, with empty queues. -/
def emptied (t : TrajectoryMotion α) (inputs : InputContainer α) : TrajectoryMotion α :=
  { (t.receive inputs).resetComponents with trajectories := ⟨[], [], none⟩ }

omit [Cmath α] in
/-- What `prepare` leaves of a machine that it resets, with states that are not ok. -/
theorem prepare_reset {t : TrajectoryMotion α} {inputs : InputContainer α}
    (hok : inputs.statesOk = false)
    (hfirst : inputs.firstMessage = true → t.trajectories = ⟨[], [], none⟩)
    (hactive : inputs.firstMessage = false → t.stateManager.verifyState .normal .none = false) :
    t.prepare inputs = t.emptied inputs := by
  unfold prepare
  simp only
  cases hmessage : inputs.firstMessage with
  | true =>
      have htrajectories := trajectories_resetComponents (t := t.receive inputs) (hfirst hmessage)
      have hchecked : (t.receive inputs).resetComponents.checkStates inputs.statesOk =
          (t.receive inputs).resetComponents := by
        rw [hok]
        rfl
      simp only [if_true, hchecked]
      unfold emptied
      rw [← htrajectories]
      rfl
  | false =>
      have hv : (t.receive inputs).stateManager.verifyState .normal .none = false :=
        hactive hmessage
      have hcurrent := (t.receive inputs).pCurrent_resetComponents
      simp only [checkStates, hok, hv, Bool.false_eq_true, if_false, Bool.not_false, if_true,
        hcurrent]
      rfl

/-- A callback whose states are not ok only prepares. -/
theorem step_reset {t : TrajectoryMotion α} (outputs : Output α) {inputs : InputContainer α}
    (hok : inputs.statesOk = false)
    (hfirst : inputs.firstMessage = true → t.trajectories = ⟨[], [], none⟩)
    (hactive : inputs.firstMessage = false → t.stateManager.verifyState .normal .none = false) :
    t.step (.generateOutputs outputs inputs) =
      ({ t with trace := [] }.emptied inputs).updateExecutionProgress outputs inputs := by
  have hreset := prepare_reset (t := { t with trace := [] }) hok hfirst hactive
  unfold step generateOutputs
  simp only [hok, Bool.false_eq_true, if_false]
  rw [hreset]

omit [Cmath α] [FloorRing α] in
theorem motionStep_resetComponents (t : TrajectoryMotion α) :
    t.resetComponents.motionStep = t.motionStep.resetMotionStep := by
  change t.storeNormalGoal.pushCurrentFront.motionStep.resetMotionStep = _
  have hpushed : t.storeNormalGoal.pushCurrentFront.motionStep = t.storeNormalGoal.motionStep := by
    unfold pushCurrentFront
    split <;> rfl
  rw [hpushed]
  unfold storeNormalGoal
  split <;> rfl

omit [Cmath α] [FloorRing α] in
theorem events_resetComponents (t : TrajectoryMotion α) :
    t.resetComponents.events = t.events := by
  change t.resetComponents.control.events = t.control.events
  rw [control_resetComponents]
  simp [Control.reset, Control.setGoal]

/-- Emptied machines are on the same course when their events and duration factors are. -/
theorem sameCourse_emptied {t t' : TrajectoryMotion α} (ht : Wired t) (ht' : Wired t')
    (hconfigurations : t'.configurations = t.configurations)
    (hfactor : t'.motionStep.data.durationFactor = t.motionStep.data.durationFactor)
    (hevents : t.events.Alike t'.events) {inputs inputs' : InputContainer α}
    (hsampleTime : inputs'.estimatedSampleTime = inputs.estimatedSampleTime)
    (hcurrent : inputs'.current = inputs.current) :
    SameCourse (t.emptied inputs) (t'.emptied inputs') := by
  have hwired : Wired (t.receive inputs).resetComponents :=
    Wired.resetComponents (ht.of_eq rfl rfl rfl rfl)
  have hwired' : Wired (t'.receive inputs').resetComponents :=
    Wired.resetComponents (ht'.of_eq rfl rfl rfl rfl)
  refine ⟨⟨?_, ?_, rfl, rfl, rfl, rfl, ?_, nofun⟩, hwired.gain.trans hwired'.gain.symm,
    hwired.splines.trans hwired'.splines.symm, .inl ⟨rfl, rfl, .inl rfl⟩⟩
  · have hkept := fun u : TrajectoryMotion α =>
      (u.storeNormalGoal_keeps.trans u.storeNormalGoal.pushCurrentFront_keeps).configurations
    exact ((hkept (t'.receive inputs')).trans hconfigurations).trans (hkept (t.receive inputs)).symm
  · change (t.receive inputs).resetComponents.motionStep.Agrees
      (t'.receive inputs').resetComponents.motionStep
    rw [motionStep_resetComponents, motionStep_resetComponents]
    refine ⟨?_, ?_, rfl, ?_, (ht'.configurations.trans hconfigurations).trans
      ht.configurations.symm⟩ <;>
    simp only [MotionStep.resetMotionStep, MotionStep.robotJoints, receive, hfactor, hsampleTime,
      hcurrent]
  · change (t.receive inputs).resetComponents.events.Alike (t'.receive inputs').resetComponents.events
    rw [events_resetComponents, events_resetComponents]
    exact hevents

/-- **A settled session leaves no trace**: after the reset the machine is on the course of one that
has never received a command. -/
theorem sameCourse_of_settled {t : TrajectoryMotion α} (hwired : Wired t) {inputs : InputContainer α}
    (hends : t.EndsSession inputs) (hsettled : t.Settled inputs) (outputs : Output α) :
    SameCourse (t.step (.generateOutputs outputs inputs))
      (untouched t.configurations outputs inputs) := by
  obtain ⟨hok, hv⟩ := hends
  have hevents : t.events.Alike PendingEvents.init :=
    ⟨hsettled.doStop.symm, hsettled.doResume.symm, hsettled.doDiscard.symm,
      hsettled.doRampDown.symm, hsettled.doStaticGoalStart.symm, hsettled.doStaticGoalFinish.symm,
      hsettled.doStaticPositionGoalUpdate.symm, hsettled.doStaticVelocityGoalUpdate.symm,
      hsettled.doDurationFactorUpdate.symm, by simp [hsettled.doStaticPositionGoalUpdate,
        hsettled.doStaticVelocityGoalUpdate], by simp [hsettled.doStaticPositionGoalUpdate],
      by simp [hsettled.doStaticVelocityGoalUpdate], by simp [hsettled.doDurationFactorUpdate]⟩
  have hcleared : Wired { t with trace := [] } := hwired.of_eq rfl rfl rfl rfl
  have hinit : Wired { init t.configurations with trace := [] } :=
    (wired_run t.configurations []).of_eq rfl rfl rfl rfl
  have hcourse : SameCourse ({ t with trace := [] }.emptied inputs)
      ({ init t.configurations with trace := [] }.emptied { inputs with firstMessage := true }) :=
    sameCourse_emptied hcleared hinit rfl hsettled.durationFactor.symm hevents rfl rfl
  have hfirst : ({ inputs with firstMessage := true } : InputContainer α).statesOk = false := hok
  unfold untouched
  rw [step_reset outputs hok hsettled.trajectories fun _ => hv,
    step_reset outputs hfirst (fun _ => rfl) nofun]
  obtain ⟨hconfigurations, hmotionStep, hmanager, htrajectories, hnew, hactive, hevents,
    hconditions⟩ := hcourse.same
  exact hcourse.congr ⟨hconfigurations, hmotionStep, hmanager, htrajectories, hnew, hactive,
    hevents, hconditions⟩ ⟨rfl, rfl, rfl⟩ ⟨rfl, rfl⟩ id

/-- **Commands die with a settled session.**  After a callback that ends a session and finds nothing
left that its reset does not reach, the states stay normal as long as no command is accepted that
asks for a ramp down; and whatever happens, the states and the queues are those of a machine that
has not received any command before. -/
theorem commands_die_with_session (configurations : TrajectoryConfiguration α)
    (before : List (Action α)) (outputs : Output α) (inputs : InputContainer α)
    (hends : (run step (init configurations) before).EndsSession inputs)
    (hsettled : (run step (init configurations) before).Settled inputs) (after : List (Action α)) :
    (Along step WithoutRequest
        ((run step (init configurations) before).step (.generateOutputs outputs inputs)) after →
      Along step StaysNormal
        ((run step (init configurations) before).step (.generateOutputs outputs inputs)) after) ∧
    (run step ((run step (init configurations) before).step
        (.generateOutputs outputs inputs)) after).stateManager =
      (run step (untouched (run step (init configurations) before).configurations outputs inputs)
        after).stateManager ∧
    (run step ((run step (init configurations) before).step
        (.generateOutputs outputs inputs)) after).trajectories =
      (run step (untouched (run step (init configurations) before).configurations outputs inputs)
        after).trajectories := by
  have hwired := wired_run configurations before
  generalize run step (init configurations) before = t at *
  have hcourse := run_rel (R := SameCourse) (fun _ _ a h => h.step a) after
    (sameCourse_of_settled hwired hends hsettled outputs)
  refine ⟨fun hafter => ?_, hcourse.same.stateManager.symm, hcourse.same.trajectories.symm⟩
  refine hafter.of_inv (I := fun t => t.control.Calm) (fun _ _ ht ha => calm_step ht ha) ?_
  rw [step_reset outputs hends.1 hsettled.trajectories fun _ => hends.2]
  refine ⟨?_, rfl, rfl, nofun⟩
  have hevents : ({ t with trace := [] }.receive inputs).resetComponents.events = t.events :=
    events_resetComponents _
  exact (congrArg PendingEvents.doRampDown hevents).trans hsettled.doRampDown

/-- The inputs of a message that finds EGM stopped, and those of the next one. -/
def lost : InputContainer ℚ := Evaluation.receive Evaluation.next
  (Evaluation.message 2 2 Evaluation.home false)

def regained : InputContainer ℚ := Evaluation.receive lost
  (Evaluation.message 3 3 Evaluation.home true)

/-- A session whose trajectory is being executed. -/
def interrupted : List (Action ℚ) :=
  [.generateOutputs {} Evaluation.first,
    .call (.addTrajectory ⟨[Evaluation.point 1 Evaluation.home]⟩ false),
    .generateOutputs {} Evaluation.next]

/-- The trajectory of the session that has ended is not executed in the next one. -/
theorem commands_die_with_session_trajectory :
    (Along step WithoutRequest
        ((run step (init Evaluation.configurations) interrupted).step (.generateOutputs {} lost))
        [.generateOutputs {} regained] →
      Along step StaysNormal
        ((run step (init Evaluation.configurations) interrupted).step (.generateOutputs {} lost))
        [.generateOutputs {} regained]) ∧
    (run step ((run step (init Evaluation.configurations) interrupted).step
        (.generateOutputs {} lost)) [.generateOutputs {} regained]).stateManager =
      (run step (untouched (run step (init Evaluation.configurations) interrupted).configurations {}
        lost) [.generateOutputs {} regained]).stateManager ∧
    (run step ((run step (init Evaluation.configurations) interrupted).step
        (.generateOutputs {} lost)) [.generateOutputs {} regained]).trajectories =
      (run step (untouched (run step (init Evaluation.configurations) interrupted).configurations {}
        lost) [.generateOutputs {} regained]).trajectories := by
  have hends : (run step (init Evaluation.configurations) interrupted).EndsSession lost :=
    ⟨by decide +kernel, by decide +kernel⟩
  have hsettled : (run step (init Evaluation.configurations) interrupted).Settled lost :=
    ⟨by decide +kernel, by decide +kernel, by decide +kernel, by decide +kernel, by decide +kernel,
      by decide +kernel, by decide +kernel, by decide +kernel, by decide +kernel, by decide +kernel,
      by decide +kernel⟩
  exact commands_die_with_session Evaluation.configurations interrupted {} lost hends hsettled
    [.generateOutputs {} regained]

/-- A stop that is accepted in the last window of a session is left over to the next one, which
ramps down although nothing has been asked of it. -/
theorem stop_outlives_session :
    (run step (init Evaluation.configurations)
      (interrupted ++ [.call (.stopTrajectory false)])).EndsSession lost ∧
    Along step WithoutRequest ((run step (init Evaluation.configurations)
        (interrupted ++ [.call (.stopTrajectory false)])).step (.generateOutputs {} lost))
      [.generateOutputs {} regained, .generateOutputs {} regained] ∧
    ¬ Along step StaysNormal ((run step (init Evaluation.configurations)
        (interrupted ++ [.call (.stopTrajectory false)])).step (.generateOutputs {} lost))
      [.generateOutputs {} regained, .generateOutputs {} regained] := by
  refine ⟨⟨by decide +kernel, by decide +kernel⟩, ⟨trivial, trivial, trivial⟩, fun h => ?_⟩
  obtain ⟨-, hsecond, -⟩ := h
  have hrampDown : ¬((run step ((run step (init Evaluation.configurations)
      (interrupted ++ [.call (.stopTrajectory false)])).step (.generateOutputs {} lost))
        [.generateOutputs {} regained]).step (.generateOutputs {} regained)).stateManager.verifyState
          .normal (if regained.statesOk then .running else .none) = true := by decide +kernel
  exact hrampDown hsecond

end TrajectoryMotion

end AbbWrapper
