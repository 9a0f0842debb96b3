import Mathlib.Tactic.Linarith
import AbbWrapper.StaticGoal
import AbbWrapper.StaticOrders
import AbbWrapper.RampDownTime

/-! # Static goals that are applied

An order that is accepted in time (`InTime`) gets to its application by itself, after at most 255
callbacks (`Due`).  One that is accepted while the static goals are about to be finished, or a fast
one while a ramp down is about to start, does not.

* `Due n` says that a waiting order is applied in one of the next `n` callbacks: a ramp down to a stop
  takes at most 249 callbacks, and the states before and after it take one each.
* `Delivers` says of a session that the order is applied once or still outstanding, no other is, and it is
  applied if the session is long enough.
* `Astray` is what the events are while nothing leads to StaticGoal any more.

One callback brings the application nearer (`Due.callback`), and no command delays it (`Due.call`).
`static_goal_applied_iff` is about every order that is accepted after any history, and every session
after it. -/

namespace AbbWrapper

open Protobuf Runs

variable {α : Type}

namespace TrajectoryMotion

variable [Field α] [LinearOrder α] [Cmath α] [FloorRing α]

/-! ### How long it takes -/

/-- A waiting order is applied in one of the next `n` callbacks. -/
def Due (n : ℕ) (t : TrajectoryMotion α) : Prop :=
  match t.control.next with
  | (.staticGoal, .running) => 1 ≤ n ∧ (t.events.doRampDown = true → 255 ≤ n)
  | (.rampDown, .none) => 254 ≤ n
  | (.rampDown, .running) => 4 ≤ n ∧ t.data.hasActiveGoal = true ∧
      t.motionStep.interpolator.getDuration - t.motionStep.data.timePassed ≤
        ((n - 4 : ℕ) : α) * Constants.lowestSampleTime α
  | (.rampDown, .finished) => 3 ≤ n
  | (.staticGoal, .none) => 2 ≤ n
  | _ => False

section ordered
variable [IsStrictOrderedRing α]

omit [Cmath α] [FloorRing α] in
/-- Within 249 callbacks after the first one the ramp down to a stop is over. -/
theorem rampDownStopDuration_le {sampleTime : α}
    (h : Constants.lowestSampleTime α ≤ sampleTime) :
    max (Constants.lowestSampleTime α) MotionStep.rampDownStopDuration - sampleTime ≤
      ((253 - 4 : ℕ) : α) * Constants.lowestSampleTime α := by
  have hmax : max (Constants.lowestSampleTime α) MotionStep.rampDownStopDuration = 1 :=
    max_eq_right Constants.lowestSampleTime_le_one
  rw [hmax]
  unfold Constants.lowestSampleTime at *
  have hcast : ((253 - 4 : ℕ) : α) = 249 := by norm_num
  rw [hcast]
  linarith

/-- A callback that does not apply the order brings its application nearer. -/
theorem Due.callback {n : ℕ} {o : StaticOrder α} {t : TrajectoryMotion α} {outputs : Output α}
    {inputs : InputContainer α} (h : t.Due n) (ht : t.control.Waiting o)
    (ha : t.Undisturbed (.generateOutputs outputs inputs))
    (hs : t.Sampled (.generateOutputs outputs inputs))
    (hlater : ¬Control.Applies t.events t.control.next) :
    ∃ k, n = k + 1 ∧ (t.step (.generateOutputs outputs inputs)).Due k := by
  have hplace := processed_session ha.1 ha.2 ht.verifyState
  have hdecides : Control.Decides t.events t.control.next
      (t.step (.generateOutputs outputs inputs)).events
      (t.step (.generateOutputs outputs inputs)).control.next :=
    (generateOutputs_session outputs ha.1 ha.2 ht.verifyState).decides
      (Control.updateState_hasPendingState _)
  have hway : Control.OnTheWay t.events t.control.next := ht.onTheWay
  have hstarted := fun hnext => rampDown_started ht.legal ha.1 (hplace.trans hnext)
  have hcontinued := fun hnext => rampDown_continued ht.legal ha.1 (hplace.trans hnext)
  unfold Due at h ⊢
  generalize hevents : (t.step (.generateOutputs outputs inputs)).events = e' at hdecides ⊢
  generalize hnext : t.control.next = s at h hdecides hway hstarted hcontinued hlater
  generalize hnext' : (t.step (.generateOutputs outputs inputs)).control.next = s' at hdecides ⊢
  cases hdecides with
  | shouldNeverOccur => exact hway.elim
  | interrupt => exact hway.elim
  | execute => exact hway.elim
  | startRampDown =>
      obtain ⟨hactive, hduration, htime⟩ := hstarted rfl hway.1 outputs
      have hn : 254 ≤ n := h
      obtain ⟨k, rfl⟩ : ∃ k, n = k + 254 := ⟨n - 254, by omega⟩
      refine ⟨k + 253, rfl, by omega, hactive, ?_⟩
      rw [hduration, htime]
      refine (rampDownStopDuration_le hs).trans ?_
      apply mul_le_mul_of_nonneg_right _ Constants.lowestSampleTime_pos.le
      exact Nat.cast_le.mpr (by omega)
  | continueRampDown =>
      obtain ⟨hn, hactive, hleft⟩ := h
      obtain ⟨hover, hactive', hduration, htime⟩ := hcontinued rfl hactive outputs hnext'
      have hover : 1 / 2 * Constants.lowestSampleTime α ≤
          t.motionStep.interpolator.getDuration - t.motionStep.data.timePassed :=
        not_lt.mp (decide_eq_false_iff_not.mp hover)
      have hpos := Constants.lowestSampleTime_pos (α := α)
      obtain ⟨k, rfl⟩ : ∃ k, n = k + 4 := ⟨n - 4, by omega⟩
      cases k with
      | zero =>
          simp only [Nat.zero_add, Nat.sub_self, Nat.cast_zero, zero_mul] at hleft
          linarith
      | succ k =>
          refine ⟨k + 4, by omega, by omega, hactive', ?_⟩
          rw [hduration, htime]
          simp only [Nat.add_sub_cancel] at hleft ⊢
          have hs : Constants.lowestSampleTime α ≤ inputs.estimatedSampleTime := hs
          have hcast : ((k + 1 : ℕ) : α) * Constants.lowestSampleTime α =
              (k : α) * Constants.lowestSampleTime α + Constants.lowestSampleTime α := by
            push_cast
            ring
          linarith
  | finishRampDown =>
      have hn : 4 ≤ n := h.1
      exact ⟨n - 1, by omega, show 3 ≤ n - 1 by omega⟩
  | wait hstop hresume => exact absurd hway.2.1 (by simp [hresume])
  | enterStaticGoal =>
      have hn : 3 ≤ n := h
      exact ⟨n - 1, by omega, show 2 ≤ n - 1 by omega⟩
  | resume hstop hresume hstatic => exact absurd hway.2.2 (by simp [hstatic])
  | rampedDown hstop => exact absurd hway.1 (by simp [hstop])
  | startStaticGoal =>
      have hn : 2 ≤ n := h
      have hramp : t.events.doRampDown = false := hway
      exact ⟨n - 1, by omega, show 1 ≤ n - 1 by omega, fun h => absurd h (by simp [hramp])⟩
  | executeStaticGoal hfinish hramp => exact absurd ⟨rfl, hramp⟩ hlater
  | interruptStaticGoal hfinish hramp =>
      have hn : 255 ≤ n := h.2 hramp
      exact ⟨n - 1, by omega, show 254 ≤ n - 1 by omega⟩
  | finishStaticGoal hfinish =>
      cases hramp : t.events.doRampDown with
      | false => exact absurd ⟨rfl, hramp⟩ hlater
      | true => exact absurd (hway hramp).2.2.2 (by simp [hfinish])
  | leaveStaticGoal => exact hway.elim

end ordered

/-! ### Runs -/

/-- A command does not delay the application. -/
theorem Due.call {n : ℕ} {o : StaticOrder α} {t : TrajectoryMotion α} {call : TrajectoryCall α}
    (h : t.Due n) (ht : t.control.Waiting o) (ha : t.Undisturbed (.call call)) :
    (t.step (.call call)).Due n := by
  have hcontrol : (t.step (.call call)).control = t.control.call call := t.control_call call
  have hnext : (t.step (.call call)).control.next = t.control.next := by
    rw [hcontrol, Control.call_next]
  have hactive : (t.step (.call call)).data.hasActiveGoal = t.data.hasActiveGoal :=
    (congrArg Control.hasActiveGoal hcontrol).trans (Control.call_frame _ _).2.2.2.2
  have hmotion : (t.step (.call call)).motionStep = t.motionStep := t.call_motionStep call
  by_cases hrunning : t.control.next = (.staticGoal, .running)
  · have hrejected := ht.legal.call_running hrunning fun hs => ha.acceptedIn hs
    have hevents : (t.step (.call call)).events = t.events :=
      congrArg Control.events (hcontrol.trans hrejected)
    unfold Due at h ⊢
    rwa [hnext, hevents, hactive, hmotion]
  · unfold Due at h ⊢
    rw [hnext, hactive, hmotion]
    generalize t.control.next = s at h hrunning ⊢
    obtain ⟨state, subState⟩ := s
    cases state <;> cases subState
    case staticGoal.running => exact absurd rfl hrunning
    all_goals exact h

omit [Cmath α] [FloorRing α] in
theorem Due.pos {n : ℕ} {t : TrajectoryMotion α} (h : t.Due n) : 0 < n := by
  unfold Due at h
  split at h
  · exact h.1
  · omega
  · omega
  · omega
  · omega
  · exact h.elim

/-- A step either applies a waiting order, or leaves it waiting. -/
theorem waiting_step {o : StaticOrder α} {t : TrajectoryMotion α} {a : Action α}
    (ht : t.control.Waiting o) (ha : t.Undisturbed a) :
    (t.step a).events.outstanding = [] ∧ t.appliedOrders a = [o] ∨
      (t.step a).control.Waiting o ∧ t.appliedOrders a = [] := by
  cases a with
  | updateConfigurations configurations => exact .inr ⟨ht, rfl⟩
  | call call =>
      have hcontrol : (t.step (.call call)).control = t.control.call call := t.control_call call
      rw [hcontrol]
      exact .inr ⟨ht.call fun hs => ha.acceptedIn hs, rfl⟩
  | generateOutputs outputs inputs =>
      rcases waiting_callback ht ha with ⟨-, hdone⟩ | ⟨-, hwaiting⟩
      · exact .inl hdone
      · exact .inr hwaiting

/-- Once nothing is outstanding, nothing is applied. -/
theorem outstanding_run {t : TrajectoryMotion α} {es : List (Action α)}
    (ht : t.events.outstanding = []) (hes : Along step Undisturbed t es) :
    (run step t es).events.outstanding = [] ∧ collect step appliedOrders t es = [] := by
  induction es generalizing t with
  | nil => exact ⟨ht, rfl⟩
  | cons a es ih =>
      obtain ⟨ht', ha⟩ := outstanding_step ht hes.1
      obtain ⟨hrun, hcollect⟩ := ih ht' hes.2
      rw [collect_cons, ha, hcollect]
      exact ⟨hrun, rfl⟩

/-- **A waiting order is applied once** or is still waiting. -/
theorem waiting_run {o : StaticOrder α} {t : TrajectoryMotion α} {es : List (Action α)}
    (ht : t.control.Waiting o) (hes : Along step Undisturbed t es) :
    collect step appliedOrders t es ++ (run step t es).events.outstanding = [o] := by
  induction es generalizing t with
  | nil => exact ht.outstanding
  | cons a es ih =>
      rw [collect_cons, run_cons]
      rcases waiting_step ht hes.1 with ⟨ht', ha⟩ | ⟨ht', ha⟩
      · obtain ⟨hrun, hcollect⟩ := outstanding_run ht' hes.2
        rw [ha, hcollect, hrun]
        rfl
      · rw [ha]
        exact ih ht' hes.2

/-- The number of callbacks of a run. -/
def numberOfCallbacks (es : List (Action α)) : ℕ :=
  es.countP fun
    | .generateOutputs _ _ => true
    | _ => false

/-- **A waiting order is applied in time.** -/
theorem due_run [IsStrictOrderedRing α] {n : ℕ} {o : StaticOrder α} {t : TrajectoryMotion α}
    {es : List (Action α)} (ht : t.control.Waiting o) (hdue : t.Due n)
    (hes : Along step Undisturbed t es) (hsampled : Along step Sampled t es)
    (hn : n ≤ numberOfCallbacks es) : (run step t es).events.outstanding = [] := by
  induction es generalizing t n with
  | nil =>
      have hpos := hdue.pos
      have hzero : n ≤ 0 := hn
      omega
  | cons a es ih =>
      cases a with
      | updateConfigurations configurations => exact ih ht hdue hes.2 hsampled.2 hn
      | call call =>
          have hwaiting : (t.step (.call call)).control.Waiting o := by
            rw [show (t.step (.call call)).control = _ from t.control_call call]
            exact ht.call fun hs => hes.1.acceptedIn hs
          exact ih hwaiting (hdue.call ht hes.1) hes.2 hsampled.2 hn
      | generateOutputs outputs inputs =>
          rcases waiting_callback ht hes.1 with ⟨-, hnone, -⟩ | ⟨hlater, hwaiting, -⟩
          · exact (outstanding_run hnone hes.2).1
          · obtain ⟨k, rfl, hdue'⟩ := hdue.callback ht hes.1 hsampled.1 hlater
            refine ih hwaiting hdue' hes.2 hsampled.2 ?_
            have hcount : numberOfCallbacks (.generateOutputs outputs inputs :: es) =
                numberOfCallbacks es + 1 := List.countP_cons_of_pos rfl
            omega

/-! ### Static goals that are set too late -/

/-- A callback with ok states that is not a first message. -/
def tick : InputContainer α :=
  { InputContainer.init with
    current := { status := .present {
      motorState := .present .on
      rapidExecutionState := .present .running
      egmState := .present .running } } }

/-- In (StaticGoal, Finished) the orders are dropped. -/
theorem lost_finished {t : TrajectoryMotion α} (hlegal : Control.Legal t.stateManager)
    (hnext : t.control.next = (.staticGoal, .finished)) (outputs : Output α)
    {inputs : InputContainer α} (ha : t.Undisturbed (.generateOutputs outputs inputs)) :
    (t.step (.generateOutputs outputs inputs)).events.outstanding = [] ∧
      t.appliedOrders (.generateOutputs outputs inputs) = [] := by
  have hv := Control.verifyState_of_next (c := t.control) hlegal (by rw [hnext]; nofun)
  have haccount := callback_account outputs ha hv
  have hdropped : t.control.updateState.dropped = t.events.outstanding := if_pos hnext
  rw [hdropped, List.append_left_eq_self, List.append_eq_nil_iff] at haccount
  exact ⟨haccount.2, haccount.1⟩

end TrajectoryMotion

namespace Control

/-- What the events are as a state is processed while nothing leads to StaticGoal. -/
def Astray (e : PendingEvents α) : States × SubStates → Prop
  | (.normal, .running) => e.doRampDown = false
  | (.rampDown, _) => e.doStop = false
  | _ => False

theorem Astray.decides {e e' : PendingEvents α} {s s' : States × SubStates} (hs : Astray e s)
    (h : Decides e s e' s') : Astray e' s' ∧ e'.outstanding = e.outstanding := by
  cases h with
  | shouldNeverOccur subState hsub => cases subState <;> first | exact hs.elim | exact absurd rfl hsub
  | interrupt hramp => exact absurd (Eq.trans (Eq.symm hs) hramp) (by simp)
  | execute => exact ⟨hs, rfl⟩
  | startRampDown => exact ⟨hs, rfl⟩
  | continueRampDown => exact ⟨hs, rfl⟩
  | finishRampDown => exact ⟨hs, rfl⟩
  | wait hstop => exact absurd (Eq.trans (Eq.symm hs) hstop) (by simp)
  | enterStaticGoal hstop => exact absurd (Eq.trans (Eq.symm hs) hstop) (by simp)
  | resume hstop => exact absurd (Eq.trans (Eq.symm hs) hstop) (by simp)
  | rampedDown => exact ⟨rfl, rfl⟩
  | startStaticGoal => exact hs.elim
  | executeStaticGoal => exact hs.elim
  | interruptStaticGoal => exact hs.elim
  | finishStaticGoal => exact hs.elim
  | leaveStaticGoal => exact hs.elim

end Control

namespace TrajectoryMotion

variable [Field α] [LinearOrder α] [Cmath α] [FloorRing α]

theorem astray_callback {t : TrajectoryMotion α} (hlegal : Control.Legal t.stateManager)
    (ht : Control.Astray t.events t.control.next) (outputs : Output α) {inputs : InputContainer α}
    (ha : t.Undisturbed (.generateOutputs outputs inputs)) :
    (Control.Astray (t.step (.generateOutputs outputs inputs)).events
        (t.step (.generateOutputs outputs inputs)).control.next ∧
      (t.step (.generateOutputs outputs inputs)).events.outstanding = t.events.outstanding) ∧
      t.appliedOrders (.generateOutputs outputs inputs) = [] := by
  have hv : t.stateManager.verifyState .normal .none = false := by
    apply Control.verifyState_of_next (c := t.control) hlegal
    intro hnext
    rw [hnext] at ht
    exact ht
  have hdecides : Control.Decides t.events t.control.next
      (t.step (.generateOutputs outputs inputs)).events
      (t.step (.generateOutputs outputs inputs)).control.next :=
    (generateOutputs_session outputs ha.1 ha.2 hv).decides (Control.updateState_hasPendingState _)
  obtain ⟨hastray, ho⟩ := ht.decides hdecides
  refine ⟨⟨hastray, ho⟩, ?_⟩
  have haccount := callback_account outputs ha hv
  have hplace : t.control.next ≠ (.staticGoal, .finished) := by
    intro hnext
    rw [hnext] at ht
    exact ht
  rw [Control.dropped_of_next hplace, List.append_nil, ho] at haccount
  exact List.append_left_eq_self.mp haccount

/-- A session without commands. -/
theorem astray_run {t : TrajectoryMotion α} (hlegal : Control.Legal t.stateManager)
    (ht : Control.Astray t.events t.control.next) (n : ℕ) :
    Along step Undisturbed t (.replicate n (.generateOutputs {} tick)) ∧
      collect step appliedOrders t (.replicate n (.generateOutputs {} tick)) = [] := by
  induction n generalizing t with
  | zero => exact ⟨trivial, rfl⟩
  | succ n ih =>
      have ha : t.Undisturbed (.generateOutputs {} tick) := ⟨rfl, rfl⟩
      obtain ⟨⟨hastray, -⟩, happlied⟩ := astray_callback hlegal ht {} ha
      have hlegal' := (t.step_control (.generateOutputs {} tick)).legal hlegal
      obtain ⟨halong, hcollect⟩ := ih hlegal' hastray
      rw [List.replicate_succ, along_cons, collect_cons, happlied, hcollect]
      exact ⟨⟨ha, halong⟩, rfl⟩

/-! ### Orders that are given in time -/

/-- The order is given in time: the next callback does not leave StaticGoal for good. -/
def InTime (o : StaticOrder α) (t : TrajectoryMotion α) : Prop :=
  t.control.next = (.staticGoal, .running) ∧
      (t.events.doStaticGoalFinish = true → o.fastTransition = true) ∨
    t.control.next = (.rampDown, .none) ∧ o.fastTransition = false

/-- The order is applied once or still outstanding, and no other is; after 255 callbacks it has
been applied. -/
structure Delivers (o : StaticOrder α) (t : TrajectoryMotion α) (es : List (Action α)) : Prop where
  once : collect step appliedOrders t es ++ (run step t es).events.outstanding = [o]
  applied : Along step Sampled t es → 255 ≤ numberOfCallbacks es →
    collect step appliedOrders t es = [o]

omit [Cmath α] [FloorRing α] in
/-- What an accepted `setStaticGoal` leaves. -/
theorem call_command {o : StaticOrder α} {t : TrajectoryMotion α}
    (haccepted : (t.call o.command).1 = true) :
    t.stateManager.verifyState .staticGoal .running = true ∧
      (t.call o.command).2.control = t.control.setEvents (Control.order o.command t.events) ∧
      (Control.order o.command t.events).outstanding = [o] := by
  have hacc : o.command.acceptedIn t.stateManager = true := by
    rw [← t.call_fst o.command (by cases o <;> nofun)]
    exact haccepted
  have hcontrol := t.control_call o.command
  rw [Control.call, if_pos (show o.command.acceptedIn t.control.manager = true from hacc)] at hcontrol
  cases o with
  | position goal fast => exact ⟨hacc, hcontrol, rfl⟩
  | velocity goal fast => exact ⟨hacc, hcontrol, rfl⟩

omit [Cmath α] [FloorRing α] in
/-- An order that is given in time waits, for at most 255 callbacks. -/
theorem waiting_of_inTime {o : StaticOrder α} {t : TrajectoryMotion α}
    (ht : t.control.Started) (haccepted : (t.call o.command).1 = true) (hin : InTime o t) :
    (t.call o.command).2.control.Waiting o ∧ (t.call o.command).2.Due 255 := by
  obtain ⟨hv, hcontrol, ho⟩ := call_command haccepted
  have hnext : (t.call o.command).2.control.next = t.control.next := by
    rw [hcontrol]
    rfl
  have hevents : (t.call o.command).2.events = Control.order o.command t.events := by
    rw [← control_events, hcontrol]
    rfl
  have hstart : t.events.doStaticGoalStart = true := ht.start (.inl hv)
  have hwrites : (Control.order o.command t.events).doStop = !o.fastTransition ∧
      (Control.order o.command t.events).doRampDown = !o.fastTransition ∧
      (Control.order o.command t.events).doResume = true ∧
      (Control.order o.command t.events).doStaticGoalStart = t.events.doStaticGoalStart ∧
      (Control.order o.command t.events).doStaticGoalFinish = t.events.doStaticGoalFinish := by
    cases o <;> exact ⟨rfl, rfl, rfl, rfl, rfl⟩
  obtain ⟨hstop, hramp, hresume, hstart', hfinish⟩ := hwrites
  have hway : Control.OnTheWay (Control.order o.command t.events) t.control.next ∧
      (t.call o.command).2.Due 255 := by
    unfold Due
    rw [hnext]
    rcases hin with ⟨hplace, hfast⟩ | ⟨hplace, hfast⟩ <;> rw [hplace]
    · refine ⟨fun h => ?_, ⟨by omega, fun _ => le_rfl⟩⟩
      have hslow : o.fastTransition = false := by
        rw [hramp] at h
        simpa using h
      refine ⟨by rw [hstop, hslow]; rfl, hresume, hstart'.trans hstart, ?_⟩
      rw [hfinish]
      cases hf : t.events.doStaticGoalFinish with
      | false => rfl
      | true => exact absurd (hfast hf) (by simp [hslow])
    · refine ⟨⟨by rw [hstop, hfast]; rfl, hresume, hstart'.trans hstart⟩, ?_⟩
      show 254 ≤ 255
      omega
  refine ⟨⟨?_, ?_, ?_⟩, hway.2⟩
  · rw [hcontrol]
    exact ht.legal
  · rw [control_events, hevents]
    exact ho
  · rw [control_events, hevents, hnext]
    exact hway.1

/-- A finish that is ordered before a ramp down passes over the order. -/
theorem finish_passes_over {u : TrajectoryMotion α} (hlegal : Control.Legal u.stateManager)
    (hplace : u.control.next = (.staticGoal, .running)) (hfinish : u.events.doStaticGoalFinish = true)
    (hramp : u.events.doRampDown = true) {inputs : InputContainer α}
    (ha : u.Undisturbed (.generateOutputs {} inputs)) :
    (u.step (.generateOutputs {} inputs)).control.next = (.staticGoal, .finished) ∧
      u.appliedOrders (.generateOutputs {} inputs) = [] := by
  have hv := Control.verifyState_of_next (c := u.control) hlegal (by rw [hplace]; nofun)
  have hdecides : Control.Decides u.events u.control.next
      (u.step (.generateOutputs {} inputs)).events
      (u.step (.generateOutputs {} inputs)).control.next :=
    (generateOutputs_session {} ha.1 ha.2 hv).decides (Control.updateState_hasPendingState _)
  have haccount := callback_account {} ha hv
  rw [Control.dropped_of_next (by rw [hplace]; nofun), List.append_nil] at haccount
  have hfinished : (u.step (.generateOutputs {} inputs)).events = u.events ∧
      (u.step (.generateOutputs {} inputs)).control.next = (.staticGoal, .finished) := by
    rw [hplace] at hdecides
    generalize (u.step (.generateOutputs {} inputs)).events = e' at hdecides ⊢
    generalize (u.step (.generateOutputs {} inputs)).control.next = s' at hdecides ⊢
    cases hdecides with
    | executeStaticGoal hf => simp [hf] at hfinish
    | interruptStaticGoal hf => simp [hf] at hfinish
    | finishStaticGoal hf => exact ⟨by simp [Control.applied, hramp], rfl⟩
  rw [hfinished.1] at haccount
  exact ⟨hfinished.2, List.append_left_eq_self.mp haccount⟩

/-- A session that goes astray delivers nothing. -/
theorem not_delivers_of_astray {u : TrajectoryMotion α} (o : StaticOrder α)
    (hlegal : Control.Legal u.stateManager) (hastray : Control.Astray u.events u.control.next)
    (hsample : ∀ v : TrajectoryMotion α, v.Sampled (.generateOutputs {} tick)) :
    ∃ es, Along step Undisturbed u es ∧ ¬Delivers o u es := by
  obtain ⟨halong, hcollect⟩ := astray_run hlegal hastray 255
  refine ⟨_, halong, ?_⟩
  intro h
  have hsampled : Along step Sampled u (.replicate 255 (.generateOutputs {} tick)) := by
    apply Along.of_forall
    intro a ha v
    rw [List.eq_of_mem_replicate ha]
    exact hsample v
  have hcount (n : ℕ) :
      numberOfCallbacks (.replicate n (.generateOutputs {} tick : Action α)) = n := by
    simp [numberOfCallbacks, List.countP_replicate]
  have happlied := h.applied hsampled (hcount 255).ge
  rw [hcollect] at happlied
  cases happlied

/-- An order that is not given in time is lost in some session. -/
theorem lost_of_not_inTime {o : StaticOrder α} {t : TrajectoryMotion α}
    (hlegal : Control.Legal t.stateManager) (haccepted : (t.call o.command).1 = true)
    (hin : ¬InTime o t) (hsample : ∀ u : TrajectoryMotion α, u.Sampled (.generateOutputs {} tick)) :
    ∃ es, Along step Undisturbed (t.call o.command).2 es ∧
      ¬Delivers o (t.call o.command).2 es := by
  obtain ⟨hv, hcontrol, -⟩ := call_command haccepted
  have hwrites : (Control.order o.command t.events).doStop = !o.fastTransition ∧
      (Control.order o.command t.events).doRampDown = !o.fastTransition ∧
      (Control.order o.command t.events).doStaticGoalFinish = t.events.doStaticGoalFinish := by
    cases o <;> exact ⟨rfl, rfl, rfl⟩
  obtain ⟨hstop, hramp, hfinish⟩ := hwrites
  generalize (t.call o.command).2 = u at hcontrol
  have hlegal' : Control.Legal u.stateManager := by
    rw [show u.stateManager = t.stateManager from congrArg Control.manager hcontrol]
    exact hlegal
  have hnext : u.control.next = t.control.next := (congrArg Control.next hcontrol).trans rfl
  have hevents : u.events = Control.order o.command t.events := congrArg Control.events hcontrol
  rw [← hevents] at hstop hramp hfinish
  have hundisturbed (v : TrajectoryMotion α) : v.Undisturbed (.generateOutputs {} tick) := ⟨rfl, rfl⟩
  rcases Control.next_of_staticGoal (c := t.control) hlegal hv with hplace | hplace | ⟨hplace, -⟩
  · -- a finish is ordered, and the ramp down keeps the order from being applied before it
    obtain ⟨hordered, hslow⟩ : t.events.doStaticGoalFinish = true ∧ o.fastTransition = false := by
      unfold InTime at hin
      simpa [hplace] using hin
    rw [hordered] at hfinish
    rw [hslow] at hramp
    obtain ⟨hfinished, happlied⟩ :=
      finish_passes_over hlegal' (hnext.trans hplace) hfinish hramp (hundisturbed u)
    obtain ⟨hnone, happlied'⟩ := lost_finished
      ((u.step_control (.generateOutputs {} tick)).legal hlegal') hfinished {} (hundisturbed _)
    refine ⟨[.generateOutputs {} tick, .generateOutputs {} tick],
      ⟨hundisturbed _, hundisturbed _, trivial⟩, ?_⟩
    intro h
    have honce := h.once
    rw [collect_cons, collect_cons, happlied, happlied', run_cons, run_cons, run_nil, hnone] at honce
    cases honce
  · obtain ⟨hnone, happlied⟩ := lost_finished hlegal' (hnext.trans hplace) {} (hundisturbed _)
    refine ⟨[.generateOutputs {} tick], ⟨hundisturbed _, trivial⟩, ?_⟩
    intro h
    have honce := h.once
    rw [collect_cons, happlied, run_cons, run_nil, hnone] at honce
    cases honce
  · -- the ramp down that is pending does not lead back to StaticGoal
    have hfast : o.fastTransition = true := by
      unfold InTime at hin
      simpa [hplace] using hin
    apply not_delivers_of_astray o hlegal' _ hsample
    rw [hnext, hplace]
    exact hstop.trans (by rw [hfast]; rfl)

/-- At most one order is outstanding. -/
theorem outstanding_le {t : TrajectoryMotion α} (ht : t.events.outstanding.length ≤ 1)
    (a : Action α) : (t.step a).events.outstanding.length ≤ 1 := by
  cases a with
  | updateConfigurations configurations => exact ht
  | call call =>
      have hcontrol : (t.step (.call call)).control = t.control.call call := t.control_call call
      rw [← control_events, hcontrol]
      cases hacc : call.acceptedIn t.stateManager with
      | false => rwa [Control.call_rejected hacc]
      | true =>
          rw [Control.call_events hacc]
          cases hother : call.supersedes with
          | false => rwa [Control.outstanding_order hother]
          | true =>
              cases call with
              | setStaticPositionGoal goal fast => exact le_rfl
              | setStaticVelocityGoal goal fast => exact le_rfl
              | finishStaticGoal resume => exact ht
              | _ => cases hother
  | generateOutputs outputs inputs =>
      cases hok : inputs.statesOk with
      | false =>
          rw [← control_events, step, generateOutputs_notOk t outputs inputs hok,
            (Control.prepare_frame _ _ _ _).1]
          exact ht
      | true =>
          have haccount := (generateOutputs_ok t outputs inputs hok).account
          obtain ⟨hevents, htrace⟩ := Control.prepare_frame { t.control with trace := [] }
            inputs.firstMessage true t.remainingTime
          have hbefore : (({ t.control with trace := [] }.prepare inputs.firstMessage true
              t.remainingTime).updateState).account = t.events.outstanding := by
            unfold Control.account Control.updateState
            rw [hevents, htrace]
            rfl
          rw [hbefore] at haccount
          have hlength := congrArg List.length haccount
          rw [List.length_append, Control.account, List.length_append] at hlength
          change (t.generateOutputs outputs inputs).1.control.events.outstanding.length ≤ 1
          omega

/-- **A static goal is applied exactly once if** it is set in time: for an order that is accepted
after any history, and every session that goes on without a command that supersedes it.  A position
and a velocity goal are never outstanding together. -/
theorem static_goal_applied_iff [IsStrictOrderedRing α] (configurations : TrajectoryConfiguration α)
    (before : List (Action α)) (o : StaticOrder α)
    (haccepted : ((run step (init configurations) before).call o.command).1 = true) :
    (∀ es, ¬((run step (init configurations) es).events.doStaticPositionGoalUpdate = true ∧
      (run step (init configurations) es).events.doStaticVelocityGoalUpdate = true)) ∧
    ((∀ es, Along step Undisturbed ((run step (init configurations) before).call o.command).2 es →
      Delivers o ((run step (init configurations) before).call o.command).2 es) ↔
      InTime o (run step (init configurations) before)) := by
  refine ⟨?_, ?_, ?_⟩
  · rintro es ⟨hposition, hvelocity⟩
    have hone := run_inv (I := fun t : TrajectoryMotion α => t.events.outstanding.length ≤ 1)
      (fun t a ht => outstanding_le ht a) (s := init configurations) es (Nat.zero_le 1)
    unfold PendingEvents.outstanding at hone
    simp [hposition, hvelocity] at hone
  · intro h
    by_contra hin
    obtain ⟨es, hes, hlost⟩ := lost_of_not_inTime (legal_run configurations before) haccepted hin
      fun u => le_rfl
    exact hlost (h es hes)
  · intro hin es hes
    have hstarted : (run step (init configurations) before).control.Started :=
      run_inv (I := fun t : TrajectoryMotion α => t.control.Started)
        (fun t a ht => ht.step (t.step_control a)) before ⟨nofun, nofun⟩
    obtain ⟨hwaiting, hdue⟩ := waiting_of_inTime hstarted haccepted hin
    refine ⟨waiting_run hwaiting hes, fun hsampled hcount => ?_⟩
    have honce := waiting_run hwaiting hes
    rwa [due_run hwaiting hdue hes hsampled hcount, List.append_nil] at honce

omit [Cmath α] [FloorRing α] in
instance (t : TrajectoryMotion α) : ∀ a, Decidable (t.Undisturbed a)
  | .generateOutputs _ _ => inferInstanceAs (Decidable (_ ∧ _))
  | .call _ => inferInstanceAs (Decidable (_ → _))
  | .updateConfigurations _ => .isTrue trivial

instance (o : StaticOrder α) (t : TrajectoryMotion α) : Decidable (InTime o t) :=
  inferInstanceAs (Decidable (_ ∧ (_ → _) ∨ _ ∧ _))

/-- StaticGoal is being executed. -/
def executingStatic : List (Action ℚ) :=
  queued ++ .call (.startStaticGoal false) :: .replicate 6 callback

/-- A goal that is not fast, set while StaticGoal is being executed. -/
theorem static_goal_applied_not_fast :
    Delivers (.position homeGoal false)
      ((run step (init Evaluation.configurations) executingStatic).call
        (.setStaticPositionGoal homeGoal false)).2 (.replicate 6 callback) :=
  (static_goal_applied_iff Evaluation.configurations executingStatic (.position homeGoal false)
    (by decide +kernel)).2.mpr (by decide +kernel) (.replicate 6 callback) (by decide +kernel)

/-- A goal that is set after the callback that requests (StaticGoal, Finished): it is accepted, and
dropped in the next callback. -/
theorem static_goal_dropped :
    let t := run step (init Evaluation.configurations)
      (executingStatic ++ [.call (.finishStaticGoal true), callback])
    (t.call (.setStaticPositionGoal homeGoal false)).1 = true ∧
      Along step Undisturbed (t.call (.setStaticPositionGoal homeGoal false)).2 [callback] ∧
      ¬Delivers (.position homeGoal false) (t.call (.setStaticPositionGoal homeGoal false)).2
        [callback] := by
  refine ⟨by decide +kernel, by decide +kernel, fun h => ?_⟩
  have honce := h.once
  revert honce
  decide +kernel

end TrajectoryMotion

end AbbWrapper
