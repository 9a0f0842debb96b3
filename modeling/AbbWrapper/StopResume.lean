import AbbWrapper.Evaluation
import AbbWrapper.Refinement

/-! # A stop is honoured

After an accepted `stopTrajectory` the machine ramps down and then waits in (RampDown, Finished)
for a resume order.  `do_resume` is written by six commands and cleared where it is consumed only,
so that an order that was pending before the stop resumes the trajectory by itself: a stop is
honoured when no resume order is pending as it is accepted.

* `Stopped` is the invariant from the stop on: a stop is ordered and no resume; `StopReady` is what the
  events are as a state is processed on the way.
* `WithoutResume` are the steps of a session with ok states in which no order to resume is accepted, by
  whatever command carries it (`carriesResume`).
* `HonoursStop` says of a step that it retrieves no point and does not leave (RampDown, Finished).

One turn keeps the machine stopped (`Stopped.turn`), and so does every command without such an order
(`Stopped.call`); `stop_honoured` is about all runs, and `stop_not_honoured` about an order that was
pending. -/

namespace AbbWrapper

open Protobuf Runs

variable {α : Type}

namespace Control

/-- What the events are as a state is processed on the way to a stop. -/
def StopReady (e : PendingEvents α) : States × SubStates → Prop
  | (.normal, .running) => e.doRampDown = true
  | (.rampDown, _) => True
  | _ => False

/-- A stop is ordered and no resume: the machine is on its way to (RampDown, Finished). -/
structure Stopped (c : Control α) : Prop where
  legal : Legal c.manager
  doStop : c.events.doStop = true
  doResume : c.events.doResume = false
  ready : StopReady c.events c.next
  waits : c.manager.verifyState .rampDown .finished = true → c.next = (.rampDown, .finished)
  current : c.manager.currentState ≠ .staticGoal

theorem Stopped.verifyState {c : Control α} (hc : Stopped c) :
    c.manager.verifyState .normal .none = false := by
  cases hv : c.manager.verifyState .normal .none with
  | false => rfl
  | true =>
      have hready := hc.ready
      rw [next_of_inactive hc.legal hv] at hready
      exact hready.elim

theorem Stopped.of_events {c c' : Control α} (hc : Stopped c)
    (hmanager : c'.manager = c.manager) (hstop : c'.events.doStop = true)
    (hresume : c'.events.doResume = false) (hready : StopReady c'.events c.next) : Stopped c' := by
  obtain ⟨hlegal, -, -, -, hwaits, hcurrent⟩ := hc
  have hnext : c'.next = c.next := by simp only [next, hmanager]
  rw [← hmanager] at hlegal hwaits hcurrent
  rw [← hnext] at hready hwaits
  exact ⟨hlegal, hstop, hresume, hready, hwaits, hcurrent⟩

theorem Stopped.congr {c c' : Control α} (hc : Stopped c) (hmanager : c'.manager = c.manager)
    (hevents : c'.events = c.events) : Stopped c' :=
  hc.of_events hmanager (hevents ▸ hc.doStop) (hevents ▸ hc.doResume) (hevents ▸ hc.ready)

theorem StopReady.mono {e e' : PendingEvents α} {s : States × SubStates} (hs : StopReady e s)
    (h : e'.doRampDown = true) : StopReady e' s := by
  match s, hs with
  | (.normal, .running), _ => exact h
  | (.rampDown, _), _ => trivial

theorem StopReady.ne_staticGoal {e : PendingEvents α} {s : States × SubStates}
    (hs : StopReady e s) : s.1 ≠ .staticGoal := by
  match s, hs with
  | (.normal, .running), _ => simp
  | (.rampDown, _), _ => simp

theorem StopReady.decides {e e' : PendingEvents α} {s s' : States × SubStates}
    (hs : StopReady e s) (hstop : e.doStop = true) (hresume : e.doResume = false)
    (h : Decides e s e' s') :
    (e'.doStop = true ∧ e'.doResume = false ∧ StopReady e' s') ∧ s' ≠ (.normal, .running) ∧
      (s = (.rampDown, .finished) → s' = (.rampDown, .finished)) := by
  cases h with
  | shouldNeverOccur subState hsub => cases subState <;> simp_all [StopReady]
  | interrupt => exact ⟨⟨hstop, hresume, trivial⟩, by simp⟩
  | execute hramp => exact absurd hs (by simp [StopReady, hramp])
  | startRampDown => exact ⟨⟨hstop, hresume, trivial⟩, by simp⟩
  | continueRampDown => exact ⟨⟨hstop, hresume, trivial⟩, by simp⟩
  | finishRampDown => exact ⟨⟨hstop, hresume, trivial⟩, by simp⟩
  | wait => exact ⟨⟨hstop, hresume, trivial⟩, by simp⟩
  | enterStaticGoal _ hresume' => simp [hresume] at hresume'
  | resume _ hresume' => simp [hresume] at hresume'
  | rampedDown hstop' => simp [hstop] at hstop'
  | startStaticGoal => exact hs.elim
  | executeStaticGoal => exact hs.elim
  | interruptStaticGoal => exact hs.elim
  | finishStaticGoal => exact hs.elim
  | leaveStaticGoal => exact hs.elim

/-- **One turn of a stopped machine** retrieves nothing and keeps it stopped. -/
theorem Stopped.turn {c c' : Control α} (hc : Stopped c) (h : Turn c.updateState c') :
    Stopped c' ∧ c'.trace.filterMap Call.point? = c.trace.filterMap Call.point? := by
  have hp : c.updateState.manager.hasPendingState = false := updateState_hasPendingState _
  have hdecides : Decides c.events c.next c'.events c'.next := h.decides hp
  obtain ⟨⟨hstop, hresume, hready⟩, hnext, hwaits⟩ :=
    hc.ready.decides hc.doStop hc.doResume hdecides
  refine ⟨⟨h.legal hp, hstop, hresume, hready, fun hv => hwaits ?_, ?_⟩, (h.quiet hp hnext).1⟩
  · rw [h.verifyState] at hv
    exact next_eq_iff.mpr hv
  · rw [h.current.1]
    exact hc.ready.ne_staticGoal

end Control

/-- The commands that carry a resume order. -/
def TrajectoryCall.carriesResume : TrajectoryCall α → Bool
  | .addTrajectory _ override => override
  | .resumeTrajectory => true
  | .startStaticGoal _ => true
  | _ => false

/-- A command without a resume order keeps a stopped machine stopped. -/
theorem Control.Stopped.call [Field α] [LinearOrder α] {c : Control α} (hc : Stopped c)
    {call : TrajectoryCall α}
    (h : call.carriesResume = true → call.acceptedIn c.manager = false) :
    Stopped (c.call call) := by
  cases hacc : call.acceptedIn c.manager with
  | false =>
      rw [call_rejected hacc]
      exact hc
  | true =>
      have hno : call.carriesResume = false := by
        cases hcarries : call.carriesResume with
        | false => rfl
        | true => simp [h hcarries] at hacc
      have hstatic (hv : c.manager.verifyState .staticGoal .running = true) : False := by
        simp only [StateManager.verifyState, decide_eq_true_eq] at hv
        exact hc.current hv.1
      have horder : (order call c.events).doStop = true ∧
          (order call c.events).doResume = false ∧ StopReady (order call c.events) c.next := by
        cases call with
        | addTrajectory trajectory override =>
            cases override with
            | true => cases hno
            | false => exact ⟨hc.doStop, hc.doResume, hc.ready⟩
        | stopTrajectory discard => exact ⟨rfl, hc.doResume, hc.ready.mono rfl⟩
        | resumeTrajectory => cases hno
        | updateDurationFactor factor => exact ⟨hc.doStop, hc.doResume, hc.ready.mono rfl⟩
        | startStaticGoal discard => cases hno
        | retrieveExecutionProgress => exact ⟨hc.doStop, hc.doResume, hc.ready⟩
        | _ => exact absurd hacc hstatic
      rw [← call_events hacc] at horder
      exact hc.of_events (call_frame c call).1 horder.1 horder.2.1 horder.2.2

namespace TrajectoryMotion

variable [Field α] [LinearOrder α] [Cmath α] [FloorRing α]

/-- A step of a session with ok states in which no resume order is accepted. -/
def WithoutResume (t : TrajectoryMotion α) : Action α → Prop
  | .generateOutputs _ inputs => inputs.statesOk = true ∧ inputs.firstMessage = false
  | .call call => call.carriesResume = true → (t.call call).1 = false
  | .updateConfigurations _ => True

/-- The points a callback retrieves. -/
def retrievedPoints (t : TrajectoryMotion α) : Action α → List (PointGoal α)
  | .generateOutputs outputs inputs =>
      (t.generateOutputs outputs inputs).1.trace.filterMap Call.point?
  | _ => []

/-- A step that retrieves no point and does not leave (RampDown, Finished). -/
def HonoursStop (t : TrajectoryMotion α) (a : Action α) : Prop :=
  t.retrievedPoints a = [] ∧
    (t.stateManager.verifyState .rampDown .finished = true →
      (t.step a).stateManager.verifyState .rampDown .finished = true)

theorem stopped_step {t : TrajectoryMotion α} {a : Action α} (ht : t.control.Stopped)
    (ha : t.WithoutResume a) : (t.step a).control.Stopped ∧ t.HonoursStop a := by
  cases a with
  | updateConfigurations configurations => exact ⟨ht, rfl, id⟩
  | call call =>
      have hcontrol := t.control_call call
      have hstopped : (t.call call).2.control.Stopped := by
        rw [hcontrol]
        refine ht.call fun hcarries => ?_
        have hne : call ≠ .retrieveExecutionProgress := by
          rintro rfl
          cases hcarries
        exact (t.call_fst call hne).symm.trans (ha hcarries)
      refine ⟨hstopped, rfl, fun hv => ?_⟩
      change (t.call call).2.control.manager.verifyState .rampDown .finished = true
      rw [hcontrol, (Control.call_frame _ _).1]
      exact hv
  | generateOutputs outputs inputs =>
      obtain ⟨hok, hfirst⟩ := ha
      have hturn := generateOutputs_session outputs hok hfirst ht.verifyState
      have hprepared : Control.Stopped (Control.setGoal { t.control with trace := [] } false
        t.control.hasActiveGoal) := ht.congr rfl rfl
      obtain ⟨hstopped, htrace⟩ := hprepared.turn hturn
      refine ⟨hstopped, htrace, fun hv => (hturn.verifyState _ _).trans ?_⟩
      exact Control.next_eq_iff.mp (ht.waits hv)

/-! ### Runs -/

/-- **A stop is honoured** if no resume order is pending when it is accepted: from the accepted
`stopTrajectory` on, through any commands and any callbacks of the session, no point is retrieved
and (RampDown, Finished) is not left until a command with a resume order is accepted. -/
theorem stop_honoured (configurations : TrajectoryConfiguration α) (before after : List (Action α))
    (discard : Bool)
    (haccepted : ((run step (init configurations) before).stopTrajectory discard).1 = true)
    (hresume : (run step (init configurations) before).events.doResume = false)
    (hafter : Along step WithoutResume
      ((run step (init configurations) before).stopTrajectory discard).2 after) :
    Along step HonoursStop
      ((run step (init configurations) before).stopTrajectory discard).2 after := by
  have hlegal := legal_run configurations before
  generalize run step (init configurations) before = t at *
  refine hafter.of_inv (I := fun t => t.control.Stopped)
    (fun t a ht ha => stopped_step ht ha) ?_
  have hv : t.stateManager.verifyState .normal .running = true :=
    (t.call_fst (.stopTrajectory discard) (by simp)).symm.trans haccepted
  have hcontrol : (t.stopTrajectory discard).2.control =
      t.control.setEvents (t.events.stopTrajectory discard) := by
    simp [stopTrajectory, command, hv]
  rw [hcontrol]
  have hready : Control.StopReady (t.events.stopTrajectory discard) t.control.next := by
    rcases Control.next_of_normal (c := t.control) hlegal hv with h | h
    · rw [h]
      exact rfl
    · rw [h]
      trivial
  simp only [StateManager.verifyState, decide_eq_true_eq] at hv
  refine ⟨hlegal, rfl, hresume, hready, fun hv' => ?_, ?_⟩
  · simp [StateManager.verifyState, Control.setEvents, control, hv] at hv'
  · simp [Control.setEvents, control, hv]

/-- The callbacks of a ramp down to a complete stop, and two more. -/
def rampDownCallbacks : List (Action ℚ) := .replicate 6 (.generateOutputs {} Evaluation.next)

/-- A trajectory is added, and stopped in the same window. -/
theorem stop_honoured_trajectory :
    Along step HonoursStop
      ((run step (init Evaluation.configurations) [.generateOutputs {} Evaluation.first,
        .call (.addTrajectory ⟨[Evaluation.point 1 Evaluation.home]⟩ false)]).stopTrajectory false).2
      rampDownCallbacks := by
  have hsession : Evaluation.next.statesOk = true ∧ Evaluation.next.firstMessage = false := by
    decide +kernel
  exact stop_honoured Evaluation.configurations _ rampDownCallbacks false (by decide +kernel)
    (by decide +kernel) ⟨hsession, hsession, hsession, hsession, hsession, hsession, trivial⟩

/-- A trajectory that overrides, and a stop in the same window: the override's resume order is
still pending when the stop is accepted, and the trajectory is executed. -/
theorem stop_not_honoured :
    ((run step (init Evaluation.configurations) [.generateOutputs {} Evaluation.first,
        .call (.addTrajectory ⟨[Evaluation.point 1 Evaluation.home]⟩ true)]).stopTrajectory true).1 =
      true ∧
    Along step WithoutResume
      ((run step (init Evaluation.configurations) [.generateOutputs {} Evaluation.first,
        .call (.addTrajectory ⟨[Evaluation.point 1 Evaluation.home]⟩ true)]).stopTrajectory true).2
      rampDownCallbacks ∧
    ¬ Along step HonoursStop
      ((run step (init Evaluation.configurations) [.generateOutputs {} Evaluation.first,
        .call (.addTrajectory ⟨[Evaluation.point 1 Evaluation.home]⟩ true)]).stopTrajectory true).2
      rampDownCallbacks := by
  have hsession : Evaluation.next.statesOk = true ∧ Evaluation.next.firstMessage = false := by
    decide +kernel
  refine ⟨by decide +kernel,
    ⟨hsession, hsession, hsession, hsession, hsession, hsession, trivial⟩, fun h => ?_⟩
  obtain ⟨-, -, -, -, hfifth, -⟩ := h
  exact absurd hfifth.1 (by decide +kernel)

end TrajectoryMotion
end AbbWrapper
