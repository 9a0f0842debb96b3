import AbbWrapper.Evaluation
import AbbWrapper.Refinement

/-! # Accepted trajectories and the discard event

While a discard is pending, `addTrajectory` fills the temporary queue, which replaces the primary
queue at the end of the ramp down.  A run keeps every accepted trajectory as long as no command
takes the pending discard back: `stopTrajectory` and `startStaticGoal` write their argument to
`do_discard` whatever is pending.

* `Kept` is the invariant: the temporary queue holds trajectories only while the discard is pending.
* `KeepsDiscard` says of a step that no accepted command writes `false` to `do_discard` while the
  temporary queue holds trajectories.
* `Waits` says that given trajectories wait in the temporary queue; `AwaitsRampDown` are the steps up to
  the end of the ramp down.

What waits is in the primary queue as soon as the ramp down is over (`accepted_not_stranded`).  An
override, a trajectory accepted after it and a stop without discard strand the trajectory
(`override_stranded`). -/

namespace AbbWrapper

open Protobuf Runs

variable {α : Type}

namespace Control

/-! ### The discard event in a callback -/

/-- Only a finished ramp down touches the temporary queue and the discard event. -/
theorem Turn.discard {c c' : Control α} (h : Turn c c') :
    (c.manager.verifyState .rampDown .finished = false →
      c'.temporaryQueue = c.temporaryQueue ∧ c'.events.doDiscard = c.events.doDiscard) ∧
    (c.manager.verifyState .rampDown .finished = true →
      c'.temporaryQueue = c.handle.temporaryQueue ∧ c'.primaryQueue = c.handle.primaryQueue ∧
        c'.events.doDiscard = false) := by
  simp only [StateManager.verifyState]
  cases h with
  | advance c' hstate hsub hramp hcurrent hgoal =>
      obtain ⟨-, hevents, hprimary, htemporary⟩ := hgoal.frame
      simp [hstate, hevents, htemporary]
  | take next queue c' hstate hsub hramp hcurrent hqueue hgoal =>
      obtain ⟨-, hevents, hprimary, htemporary⟩ := hgoal.frame
      simp [hstate, hevents, htemporary, log]
  | resume c' hstate hsub hstop hresume hstatic hgoal =>
      obtain ⟨-, hevents, hprimary, htemporary⟩ := hgoal.frame
      simp [hstate, hsub, request, log, hevents, hprimary, htemporary, setEvents, handle]
  | rampedDown c' hstate hsub hstop hgoal =>
      obtain ⟨-, hevents, hprimary, htemporary⟩ := hgoal.frame
      simp [hstate, hsub, request, log, hevents, hprimary, htemporary, setEvents, handle]
  | startRampDown duration hstate hsub =>
      cases c.hasActiveGoal <;> simp [hstate, hsub, request, log, setGoal]
  | startStaticGoal hstate hsub => simp [hstate, hsub, request, log, setGoal]
  | executeStaticGoal hstate hsub =>
      split_ifs <;> simp [hstate, hsub, request, log]
  | _ => simp_all [request, log, setEvents, handle]

/-- A callback with ok states that does not end a ramp down leaves the temporary queue and the
discard event alone; one that does replaces the primary queue if a discard is pending. -/
theorem turn_discard {c c' : Control α} {firstMessage : Bool} {duration : α}
    (h : Turn ((c.prepare firstMessage true duration).updateState) c') :
    (c'.manager.verifyState .rampDown .finished = false →
      c'.temporaryQueue = c.temporaryQueue ∧ c'.events.doDiscard = c.events.doDiscard) ∧
    (c'.manager.verifyState .rampDown .finished = true →
      (c.events.doDiscard = true → c'.temporaryQueue = [] ∧ c'.primaryQueue = c.temporaryQueue) ∧
      (c.events.doDiscard = false → c'.temporaryQueue = c.temporaryQueue) ∧
      c'.events.doDiscard = false) := by
  obtain ⟨hother, hfinished⟩ := h.discard
  rw [← h.verifyState] at hother hfinished
  refine ⟨fun hv => ?_, fun hv => ⟨fun hd => ?_, fun hd => ?_, (hfinished hv).2.2⟩⟩
  · simpa [updateState] using hother hv
  · obtain ⟨htemporary, hprimary, -⟩ := hfinished hv
    simp only [updateState, handle, prepare_frame, hd, if_true, prepare_ok_temporaryQueue]
      at htemporary hprimary
    exact ⟨htemporary, hprimary⟩
  · simpa [updateState, handle, hd] using (hfinished hv).1

end Control

namespace TrajectoryMotion

variable [Field α] [LinearOrder α]

/-- No accepted command writes `false` to `do_discard` while the temporary queue holds
trajectories. -/
def KeepsDiscard (t : TrajectoryMotion α) : Action α → Prop
  | .call (.stopTrajectory false) =>
      (t.stopTrajectory false).1 = true → t.trajectories.temporaryQueue = []
  | .call (.startStaticGoal false) =>
      (t.startStaticGoal false).1 = true → t.trajectories.temporaryQueue = []
  | _ => True

/-- The temporary queue holds trajectories only while the discard is pending. -/
def Kept (t : TrajectoryMotion α) : Prop :=
  t.trajectories.temporaryQueue ≠ [] → t.events.doDiscard = true

variable [Cmath α] [FloorRing α]

/-- Until the ramp down is over: callbacks have ok states and do not end in (RampDown, Finished),
and no override is accepted. -/
def AwaitsRampDown (t : TrajectoryMotion α) : Action α → Prop
  | .generateOutputs outputs inputs => inputs.statesOk = true ∧
      (t.generateOutputs outputs inputs).1.stateManager.verifyState .rampDown .finished = false
  | .call (.addTrajectory trajectory true) => (t.addTrajectory trajectory true).1 = false
  | _ => True

/-! ### One step -/

omit [Cmath α] [FloorRing α] in
theorem Kept.call {t : TrajectoryMotion α} {call : TrajectoryCall α} (ht : t.Kept)
    (ha : t.KeepsDiscard (.call call)) : (t.call call).2.Kept := by
  change (t.call call).2.control.temporaryQueue ≠ [] →
    (t.call call).2.control.events.doDiscard = true
  rw [control_call]
  unfold Control.call
  split
  next hacc =>
    have hcall : (t.call call).1 = true := call_accepted hacc
    cases call with
    | addTrajectory trajectory override =>
        cases override with
        | true => exact fun _ => rfl
        | false =>
            simp only [Control.enqueue, Bool.false_eq_true, if_false]
            split
            next hd => exact fun _ => hd
            next hd => exact ht
    | stopTrajectory discard =>
        cases discard with
        | true => exact fun _ => rfl
        | false => exact fun hne => absurd (ha hcall) hne
    | startStaticGoal discard =>
        cases discard with
        | true => exact fun _ => rfl
        | false => exact fun hne => absurd (ha hcall) hne
    | _ => exact ht
  next hacc => exact ht

/-- The trajectories `queue` wait in the temporary queue for the pending discard. -/
def Waits (queue : List (Trajectory α)) (t : TrajectoryMotion α) : Prop :=
  queue ≠ [] ∧ t.events.doDiscard = true ∧ t.trajectories.temporaryQueue = queue

omit [Cmath α] [FloorRing α] in
/-- What a command accepts joins the trajectories that wait. -/
theorem Waits.call [Cmath α] [FloorRing α] {queue : List (Trajectory α)} {t : TrajectoryMotion α} {call : TrajectoryCall α}
    (ht : t.Waits queue) (ha : t.KeepsDiscard (.call call)) (ha' : t.AwaitsRampDown (.call call)) :
    (t.call call).2.Waits (queue ++ t.acceptedTrajectories (.call call)) := by
  obtain ⟨hne, hdiscard, hqueue⟩ := ht
  refine ⟨by simp [hne], ?_⟩
  change (t.call call).2.control.events.doDiscard = true ∧
    (t.call call).2.control.temporaryQueue = _
  rw [control_call]
  unfold Control.call
  split
  next hacc =>
    have hcall : (t.call call).1 = true := call_accepted hacc
    cases call with
    | addTrajectory trajectory override =>
        have hcall : (t.addTrajectory trajectory override).1 = true := hcall
        cases override with
        | true => exact absurd hcall (by simp [show (t.addTrajectory trajectory true).1 = false from ha'])
        | false =>
            simp only [acceptedTrajectories, hcall, if_true, Control.enqueue, Bool.false_eq_true,
              if_false]
            rw [if_pos (show t.control.events.doDiscard = true from hdiscard)]
            exact ⟨hdiscard, congrArg (· ++ _) hqueue⟩
    | stopTrajectory discard =>
        cases discard with
        | true => exact ⟨rfl, hqueue.trans (List.append_nil _).symm⟩
        | false => exact absurd (hqueue.symm.trans (ha hcall)) hne
    | startStaticGoal discard =>
        cases discard with
        | true => exact ⟨rfl, hqueue.trans (List.append_nil _).symm⟩
        | false => exact absurd (hqueue.symm.trans (ha hcall)) hne
    | _ => exact ⟨hdiscard, hqueue.trans (List.append_nil _).symm⟩
  next hacc =>
    have hnone : t.acceptedTrajectories (.call call) = [] := by
      cases call with
      | addTrajectory trajectory override =>
          simp only [acceptedTrajectories, addTrajectory_fst]
          exact if_neg hacc
      | _ => rfl
    rw [hnone, List.append_nil]
    exact ⟨hdiscard, hqueue⟩

theorem Kept.step {t : TrajectoryMotion α} {a : Action α} (ht : t.Kept) (ha : t.KeepsDiscard a) :
    (t.step a).Kept := by
  have hstep := t.step_control a
  change (t.step a).control.temporaryQueue ≠ [] → (t.step a).control.events.doDiscard = true
  generalize (t.step a).control = c' at hstep ⊢
  intro hne
  cases hstep with
  | updateConfigurations configurations => exact ht hne
  | notOk outputs inputs duration hok =>
      rcases Control.prepare_temporaryQueue { t.control with trace := [] } inputs.firstMessage
        false duration with hq | hq
      · rw [hq] at hne
        simpa using ht hne
      · exact absurd hq hne
  | ok outputs inputs duration c' hok hturn =>
      obtain ⟨hother, hfinished⟩ := Control.turn_discard hturn
      cases hv : c'.manager.verifyState .rampDown .finished with
      | false =>
          rw [(hother hv).1] at hne
          rw [(hother hv).2]
          exact ht hne
      | true =>
          obtain ⟨hdiscard, hkeep, -⟩ := hfinished hv
          cases hd : t.events.doDiscard with
          | true => exact absurd (hdiscard hd).1 hne
          | false =>
              rw [hkeep hd] at hne
              exact absurd (ht hne) (by simp [hd])
  | call call =>
      rw [← control_call] at hne ⊢
      exact ht.call ha hne

theorem Waits.step {queue : List (Trajectory α)} {t : TrajectoryMotion α} {a : Action α}
    (ht : t.Waits queue) (ha : t.KeepsDiscard a) (ha' : t.AwaitsRampDown a) :
    (t.step a).Waits (queue ++ t.acceptedTrajectories a) := by
  cases a with
  | call call => exact ht.call ha ha'
  | updateConfigurations configurations =>
      have hnone : t.acceptedTrajectories (.updateConfigurations configurations) = [] := rfl
      rw [hnone, List.append_nil]
      exact ht
  | generateOutputs outputs inputs =>
      obtain ⟨hne, hdiscard, hqueue⟩ := ht
      obtain ⟨hok, hpending⟩ := ha'
      have hturn := generateOutputs_ok t outputs inputs hok
      obtain ⟨htemporary, hevent⟩ := (Control.turn_discard hturn).1 hpending
      simp only [acceptedTrajectories, List.append_nil]
      exact ⟨hne, hevent.trans hdiscard, htemporary.trans hqueue⟩

/-! ### Runs -/

theorem waits_run {queue : List (Trajectory α)} {t : TrajectoryMotion α} {es : List (Action α)}
    (ht : t.Waits queue) (h : Along step KeepsDiscard t es) (h' : Along step AwaitsRampDown t es) :
    (run step t es).Waits (queue ++ collect step acceptedTrajectories t es) := by
  induction es generalizing t queue with
  | nil => simpa using ht
  | cons a es ih =>
      rw [run_cons, collect_cons, ← List.append_assoc]
      exact ih (ht.step h.1 h'.1) h.2 h'.2

/-- **No accepted trajectory is stranded** in a run in which no accepted command takes back a
pending discard.  The temporary queue holds trajectories only while the discard is pending; and
once the ramp down after an accepted override is over, the queued trajectories are this override
and those accepted after it. -/
theorem accepted_not_stranded (configurations : TrajectoryConfiguration α) (es : List (Action α))
    (h : Along step KeepsDiscard (init configurations) es) :
    ((run step (init configurations) es).trajectories.temporaryQueue ≠ [] →
      (run step (init configurations) es).events.doDiscard = true) ∧
    ∀ (before after : List (Action α)) (trajectory : TrajectoryGoal α) (outputs : Output α)
      (inputs : InputContainer α),
      es = before ++ .call (.addTrajectory trajectory true) :: after ++
        [.generateOutputs outputs inputs] →
      ((run step (init configurations) before).addTrajectory trajectory true).1 = true →
      Along step AwaitsRampDown
        ((run step (init configurations) before).addTrajectory trajectory true).2 after →
      inputs.statesOk = true →
      (run step (init configurations) es).stateManager.verifyState .rampDown .finished = true →
      (run step (init configurations) es).trajectories.temporaryQueue = [] ∧
      (run step (init configurations) es).trajectories.primaryQueue =
        Trajectory.of trajectory :: collect step acceptedTrajectories
          ((run step (init configurations) before).addTrajectory trajectory true).2 after := by
  have hkept : Kept (init configurations) := fun h => absurd rfl h
  refine ⟨h.run_inv (I := Kept) (fun t a ht ha => ht.step ha) hkept, ?_⟩
  rintro before after trajectory outputs inputs rfl haccepted hafter hok hover
  have hmid := ((along_append _ _ _).mp ((along_append _ _ _).mp h).1).2
  rw [run_append, run_append] at hover ⊢
  generalize run step (init configurations) before = t at *
  simp only [run_cons, run_nil] at hover ⊢
  have hadd : t.step (.call (.addTrajectory trajectory true)) =
    (t.addTrajectory trajectory true).2 := rfl
  have hwaits : ((t.addTrajectory trajectory true).2).Waits [Trajectory.of trajectory] := by
    rw [addTrajectory_fst] at haccepted
    have hv : t.stateManager.verifyState .normal .running = true := haccepted
    simp [addTrajectory, hv, Waits, events, setEvents, PendingEvents.overrideTrajectories]
  rw [hadd] at hover ⊢
  obtain ⟨-, hdiscard, hqueue⟩ := waits_run hwaits hmid.2 hafter
  have hturn := generateOutputs_ok
    (run step (t.addTrajectory trajectory true).2 after) outputs inputs hok
  obtain ⟨hover', -⟩ := (Control.turn_discard hturn).2 hover
  obtain ⟨htemporary, hprimary⟩ := hover' hdiscard
  exact ⟨htemporary, hprimary.trans hqueue⟩

/-- An override, a trajectory accepted after it and the callbacks up to the end of the ramp
down. -/
def overrideRun : List (Action ℚ) :=
  [.call (.addTrajectory ⟨[Evaluation.point 2 Evaluation.home]⟩ false),
    .generateOutputs {} Evaluation.next, .generateOutputs {} Evaluation.next,
    .generateOutputs {} Evaluation.next]

theorem accepted_not_stranded_override :
    (run step (init Evaluation.configurations)
      ([.generateOutputs {} Evaluation.first] ++
        .call (.addTrajectory ⟨[Evaluation.point 1 Evaluation.home]⟩ true) :: overrideRun ++
        [.generateOutputs {} Evaluation.next])).trajectories.primaryQueue =
      [⟨[Evaluation.point 1 Evaluation.home]⟩, ⟨[Evaluation.point 2 Evaluation.home]⟩] := by
  have hkeeps : Along step KeepsDiscard (init Evaluation.configurations)
      ([.generateOutputs {} Evaluation.first] ++
        .call (.addTrajectory ⟨[Evaluation.point 1 Evaluation.home]⟩ true) :: overrideRun ++
        [.generateOutputs {} Evaluation.next]) := by
    simp [KeepsDiscard, overrideRun]
  have hqueue := (accepted_not_stranded Evaluation.configurations _ hkeeps).2 [.generateOutputs {} Evaluation.first] overrideRun
    ⟨[Evaluation.point 1 Evaluation.home]⟩ {} Evaluation.next rfl (by decide +kernel)
    ⟨trivial, ⟨by decide +kernel, by decide +kernel⟩, ⟨by decide +kernel, by decide +kernel⟩,
      ⟨by decide +kernel, by decide +kernel⟩, trivial⟩ (by decide +kernel) (by decide +kernel)
  exact hqueue.2.trans (by decide +kernel)

/-- An override is accepted, and `stopTrajectory` without discard right after it. -/
def strandedRun : List (Action ℚ) :=
  [.generateOutputs {} Evaluation.first,
    .call (.addTrajectory ⟨[Evaluation.point 1 Evaluation.home]⟩ true),
    .call (.stopTrajectory false)]

/-- The order to stop takes the discard back: the accepted trajectory is stranded. -/
theorem override_stranded :
    (run step (init Evaluation.configurations) strandedRun).trajectories.temporaryQueue =
      [⟨[Evaluation.point 1 Evaluation.home]⟩] ∧
    (run step (init Evaluation.configurations) strandedRun).events.doDiscard = false := by
  decide +kernel

end TrajectoryMotion
end AbbWrapper
