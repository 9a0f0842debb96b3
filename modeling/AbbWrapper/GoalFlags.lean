import AbbWrapper.TransitionGraph

/-! # The flags of the goal

`has_new_goal`, `has_active_goal` and `p_current` agree in every reachable state, as the state
prescribes.  In RampDown the flags are those of the ramp down, until `updateNormalGoal` has found the
goal that Normal goes on with; what the flags say there depends on whether that has happened.

* `updatesInFinished` says of a callback that it executes `updateNormalGoal` in (RampDown, Finished).
* `Recorded` is a motion with the memory whether that has happened since RampDown was entered.  The memory
  does not change the run (`motion_run`).
* `Tracks` says that the flag of the active goal tells whether there is a trajectory, and `Resumable` what
  a ramp down can go on with.
* `Consistent` is the invariant, one field for each kind of state, and `Prepared` what holds of the state
  that a turn processes.

A turn keeps the flags consistent (`Turn.consistent`), so that they are in every reachable state
(`goal_flags_consistent`). -/

namespace AbbWrapper

open Protobuf Runs

variable {α : Type}

namespace Control

/-- Whether a turn executes `updateNormalGoal` in (RampDown, Finished). -/
def updatesInFinished (c : Control α) : Bool :=
  c.manager.verifyState .rampDown .finished &&
    (!c.events.doStop || c.events.doResume && !c.events.doStaticGoalStart)

/-! ### What is said of a state -/

/-- The flag of the active goal tells whether there is a trajectory. -/
def Tracks (c : Control α) : Prop := c.hasActiveGoal = true ↔ c.pCurrent ≠ none

/-- What a ramp down can go on with: the trajectory holds the goal that was given up. -/
def Resumable (c : Control α) : Prop :=
  c.hasActiveGoal = true ∧ ∀ current, c.pCurrent = some current → current.points ≠ []

/-- What holds of every reachable state, where `updated` tells whether `updateNormalGoal` has been
executed in Finished. -/
structure Consistent (c : Control α) (updated : Bool) : Prop where
  legal : Legal c.manager
  new : c.hasNewGoal = true → c.hasActiveGoal = true
  normal : c.manager.currentState = .normal → c.Tracks
  staticGoal : c.manager.currentState = .staticGoal → c.pCurrent = none
  rampDown : c.manager.currentState = .rampDown → updated = false → c.Resumable
  ramped : updated = true → c.manager.currentState = .rampDown ∧ c.next.1 = .normal ∧ c.Tracks
  pending : c.manager.currentState = .rampDown → updated = false → c.next.1 ≠ .normal

/-- What holds of a state that a turn processes. -/
structure Prepared (c : Control α) : Prop where
  new : c.hasNewGoal = false
  normal : c.manager.currentState = .normal → c.Tracks
  staticGoal : c.manager.currentState = .staticGoal → c.manager.currentSubState ≠ .none →
    c.pCurrent = none
  start : c.manager.currentState = .rampDown → c.hasActiveGoal = true ∨ c.pCurrent = none
  rampDown : c.manager.currentState = .rampDown → c.manager.currentSubState ≠ .none → c.Resumable

/-- `updateNormalGoal` sets both flags to whether there is a trajectory left. -/
theorem NextGoal.tracks {c c' : Control α} (h : NextGoal c c') :
    c'.hasNewGoal = c'.hasActiveGoal ∧ c'.Tracks := by
  cases h with
  | empty h => exact ⟨rfl, by simp [Tracks, setGoal, h]⟩
  | found skipped goal points h => exact ⟨rfl, by simp [Tracks, setGoal, log]⟩
  | exhausted points externalGoal h => exact ⟨rfl, by simp [Tracks, setGoal, log]⟩

/-- A goal that is stored is found in its trajectory. -/
theorem resumable_store (c : Control α) (duration : α)
    (h : c.hasActiveGoal = true ∨ c.pCurrent = none) :
    ((if c.hasActiveGoal then c.store duration else c).setGoal true true).Resumable := by
  refine ⟨rfl, ?_⟩
  intro current hcurrent
  change (if c.hasActiveGoal then c.store duration else c).pCurrent = some current at hcurrent
  cases hp : c.pCurrent with
  | none =>
      have hnone : (if c.hasActiveGoal then c.store duration else c).pCurrent = none := by
        split <;> simp [store, hp]
      rw [hnone] at hcurrent
      cases hcurrent
  | some stored =>
      have hactive : c.hasActiveGoal = true := h.resolve_right (by simp [hp])
      rw [if_pos hactive, store] at hcurrent
      simp only [hp, Option.some.injEq] at hcurrent
      rw [← hcurrent]
      exact List.cons_ne_nil _ _

theorem Resumable.handle {c : Control α} (h : c.Resumable) : c.handle.Resumable := by
  refine ⟨h.1, ?_⟩
  intro current hcurrent
  change (if c.events.doDiscard then none else c.pCurrent) = some current at hcurrent
  split at hcurrent
  · cases hcurrent
  · exact h.2 current hcurrent

theorem applyStaticGoal_new {c : Control α} (h : c.hasNewGoal = false) :
    c.applyStaticGoal.hasNewGoal = true → c.applyStaticGoal.hasActiveGoal = true := by
  unfold applyStaticGoal
  simp only
  split_ifs
  · exact fun _ => rfl
  · exact fun _ => rfl
  · simp [h]

namespace Consistent

variable {c : Control α} {updated : Bool} (hlegal : Legal c.manager)
  (hnew : c.hasNewGoal = true → c.hasActiveGoal = true)
include hlegal hnew

theorem of_normal (hstate : c.manager.currentState = .normal) (hupdated : updated = false)
    (htracks : c.Tracks) : c.Consistent updated where
  legal := hlegal
  new := hnew
  normal _ := htracks
  staticGoal h := by simp [hstate] at h
  rampDown h := by simp [hstate] at h
  ramped h := by simp [hupdated] at h
  pending h := by simp [hstate] at h

theorem of_staticGoal (hstate : c.manager.currentState = .staticGoal) (hupdated : updated = false)
    (hnone : c.pCurrent = none) : c.Consistent updated where
  legal := hlegal
  new := hnew
  normal h := by simp [hstate] at h
  staticGoal _ := hnone
  rampDown h := by simp [hstate] at h
  ramped h := by simp [hupdated] at h
  pending h := by simp [hstate] at h

theorem of_rampDown (hstate : c.manager.currentState = .rampDown)
    (hnext : c.next.1 = .normal ↔ updated = true) (hupdated : updated = false)
    (hresumable : c.Resumable) : c.Consistent updated where
  legal := hlegal
  new := hnew
  normal h := by simp [hstate] at h
  staticGoal h := by simp [hstate] at h
  rampDown _ _ := hresumable
  ramped h := by simp [hupdated] at h
  pending _ h := by simp [hnext, h]

theorem of_updated (hstate : c.manager.currentState = .rampDown)
    (hnext : c.next.1 = .normal ↔ updated = true) (hupdated : updated = true) (htracks : c.Tracks) :
    c.Consistent updated where
  legal := hlegal
  new := hnew
  normal h := by simp [hstate] at h
  staticGoal h := by simp [hstate] at h
  rampDown _ h := by simp [hupdated] at h
  ramped h := ⟨hstate, hnext.mpr h, htracks⟩
  pending _ h := by simp [hupdated] at h

end Consistent

/-! ### The preparation of a callback -/

/-- RampDown and StaticGoal are entered with no sub-state. -/
theorem next_same {c : Control α} (h : Legal c.manager) (hstate : c.next.1 ≠ .normal)
    (hsub : c.next.2 ≠ .none) : c.manager.currentState = c.next.1 := by
  rcases next_stays_or_moves h with hstay | hmove
  · rw [hstay]
    rfl
  · change c.manager.current.1 = c.next.1
    generalize c.manager.current = s at hmove ⊢
    generalize c.next = s' at hmove hstate hsub ⊢
    cases hmove <;> first | rfl | exact absurd rfl hstate | exact absurd rfl hsub

/-- What `prepare` leaves of the flags. -/
theorem prepare_goal (c : Control α) (firstMessage statesOk : Bool) (duration : α) :
    (c.prepare firstMessage statesOk duration).hasNewGoal = false ∧
      ((c.prepare firstMessage statesOk duration).hasActiveGoal = false ∧
          (c.prepare firstMessage statesOk duration).pCurrent = none ∨
        firstMessage = false ∧ (statesOk = true ∨ c.manager.verifyState .normal .none = true) ∧
          (c.prepare firstMessage statesOk duration).hasActiveGoal = c.hasActiveGoal ∧
          (c.prepare firstMessage statesOk duration).pCurrent = c.pCurrent) := by
  refine ⟨rfl, ?_⟩
  have hreset (d : Control α) : (d.reset duration).hasActiveGoal = false := rfl
  cases firstMessage with
  | true =>
      left
      unfold prepare checkStates setGoal
      simp only [if_true]
      split_ifs <;> simp [hreset]
  | false =>
      cases statesOk with
      | true =>
          right
          unfold prepare checkStates setGoal
          simp only [Bool.false_eq_true, if_false, if_true]
          split_ifs <;> simp
      | false =>
          cases hv : c.manager.verifyState .normal .none with
          | true => exact .inr ⟨rfl, .inr rfl, by simp [prepare, checkStates, setGoal, hv]⟩
          | false => exact .inl (by simp [prepare, checkStates, setGoal, hv, hreset])

theorem Consistent.tracks_of_inactive {c : Control α} {updated : Bool} (hc : c.Consistent updated)
    (hv : c.manager.verifyState .normal .none = true) : c.Tracks := by
  simp only [StateManager.verifyState, decide_eq_true_eq] at hv
  exact hc.normal hv.1

/-- What is prepared while the machine is inactive, or becomes so, has consistent flags. -/
theorem Consistent.tracks_prepare {c : Control α} {updated : Bool} (hc : c.Consistent updated)
    (firstMessage statesOk : Bool) (duration : α)
    (h : firstMessage = true ∨ statesOk = false ∨ c.manager.verifyState .normal .none = true) :
    (c.prepare firstMessage statesOk duration).Tracks := by
  obtain ⟨-, ⟨hactive, hnone⟩ | ⟨rfl, hv, hactive, hcurrent⟩⟩ :=
    c.prepare_goal firstMessage statesOk duration
  · simp [Tracks, hactive, hnone]
  · rw [Tracks, hactive, hcurrent]
    apply hc.tracks_of_inactive
    rcases h with h | rfl | h
    · cases h
    · exact hv.resolve_left Bool.false_ne_true
    · exact h

/-- Within a session the next state is prepared for. -/
theorem Consistent.prepared_session {c : Control α} {updated : Bool} (hc : c.Consistent updated) :
    (c.setGoal false c.hasActiveGoal).updateState.Prepared := by
  have hupdated (hnormal : c.next.1 ≠ .normal) : updated = false := by
    cases updated with
    | false => rfl
    | true => exact absurd (hc.ramped rfl).2.1 hnormal
  refine ⟨rfl, ?_, ?_, ?_, ?_⟩
  · intro hnext
    change c.next.1 = .normal at hnext
    change c.Tracks
    cases hstate : c.manager.currentState with
    | normal => exact hc.normal hstate
    | rampDown =>
        cases updated with
        | false => exact absurd hnext (hc.pending hstate rfl)
        | true => exact (hc.ramped rfl).2.2
    | staticGoal => exact absurd hnext (next_ne_normal hc.legal hstate)
  · intro hnext hsub
    change c.next.1 = .staticGoal at hnext
    exact hc.staticGoal ((next_same hc.legal (by simp [hnext]) hsub).trans hnext)
  · intro hnext
    change c.next.1 = .rampDown at hnext
    change c.hasActiveGoal = true ∨ c.pCurrent = none
    cases hstate : c.manager.currentState with
    | normal =>
        have htracks : c.Tracks := hc.normal hstate
        by_cases hp : c.pCurrent = none
        · exact .inr hp
        · exact .inl (htracks.mpr hp)
    | rampDown => exact .inl (hc.rampDown hstate (hupdated (by simp [hnext]))).1
    | staticGoal => exact .inr (hc.staticGoal hstate)
  · intro hnext hsub
    change c.next.1 = .rampDown at hnext
    have hstate := (next_same hc.legal (by simp [hnext]) hsub).trans hnext
    exact hc.rampDown hstate (hupdated (by simp [hnext]))

theorem Consistent.prepared {c : Control α} {updated : Bool} (hc : c.Consistent updated)
    (firstMessage : Bool) (duration : α) :
    (c.prepare firstMessage true duration).updateState.Prepared := by
  by_cases hstart : firstMessage = true ∨ c.manager.verifyState .normal .none = true
  · have hnext := next_prepare_start c hc.legal firstMessage duration hstart
    have htracks := hc.tracks_prepare firstMessage true duration (hstart.imp_right .inr)
    have hstate : (c.prepare firstMessage true duration).updateState.manager.currentState = .normal :=
      congrArg Prod.fst hnext
    exact ⟨rfl, fun _ => htracks, fun h => by simp [hstate] at h, fun h => by simp [hstate] at h,
      fun h => by simp [hstate] at h⟩
  · rw [not_or, Bool.not_eq_true, Bool.not_eq_true] at hstart
    obtain ⟨rfl, hv⟩ := hstart
    rw [prepare_session c duration hv]
    exact hc.prepared_session

/-! ### One callback -/

/-- From RampDown exactly `updateNormalGoal` leads to Normal. -/
theorem Decides.updates {e e' : PendingEvents α} {s s' : States × SubStates} (h : Decides e s e' s')
    (hs : s.1 = .rampDown) : s'.1 = .normal ↔
      s.2 = .finished ∧ (!e.doStop || e.doResume && !e.doStaticGoalStart) = true := by
  cases h <;> simp_all

theorem Turn.next_normal_iff {c c' : Control α} (h : Turn c c')
    (hp : c.manager.hasPendingState = false) (hstate : c.manager.currentState = .rampDown) :
    c'.next.1 = .normal ↔ c.updatesInFinished = true := by
  rw [(h.decides hp).updates hstate, updatesInFinished, StateManager.verifyState, Bool.and_eq_true,
    decide_eq_true_eq, and_iff_right hstate]

/-- **A turn keeps the flags consistent.** -/
theorem Turn.consistent {c c' : Control α} (h : Turn c c') (hp : c.manager.hasPendingState = false)
    (hc : c.Prepared) : c'.Consistent c.updatesInFinished := by
  have hlegal := h.legal hp
  have hcurrent := h.current.1
  have hold : c.hasNewGoal = true → c.hasActiveGoal = true := fun h => absurd h (by simp [hc.new])
  have hupdates (hne : c.manager.currentState ≠ .rampDown) : c.updatesInFinished = false := by
    simp [updatesInFinished, StateManager.verifyState, hne]
  have hnext := h.next_normal_iff hp
  cases h with
  | shouldNeverOccur hstate =>
      exact .of_normal hlegal hold hstate (hupdates (by simp [hstate])) (hc.normal hstate)
  | interrupt hstate =>
      exact .of_normal hlegal hold (hcurrent.trans hstate) (hupdates (by simp [hstate]))
        (hc.normal hstate)
  | «continue» hstate =>
      exact .of_normal hlegal hold hstate (hupdates (by simp [hstate])) (hc.normal hstate)
  | advance c' hstate hsub hramp hne hgoal =>
      obtain ⟨hnew, htracks⟩ := hgoal.tracks
      exact .of_normal hlegal (fun h => hnew ▸ h) (hcurrent.trans hstate)
        (hupdates (by simp [hstate])) htracks
  | take next queue c' hstate hsub hramp hne hqueue hgoal =>
      obtain ⟨hnew, htracks⟩ := hgoal.tracks
      exact .of_normal hlegal (fun h => hnew ▸ h) (hcurrent.trans hstate)
        (hupdates (by simp [hstate])) htracks
  | startRampDown duration hstate hsub =>
      have hupdated : c.updatesInFinished = false := by
        simp [updatesInFinished, StateManager.verifyState, hsub]
      exact .of_rampDown hlegal (fun _ => rfl) (hcurrent.trans hstate) (hnext hstate) hupdated
        (c.resumable_store duration (hc.start hstate))
  | continueRampDown hstate hsub =>
      have hupdated : c.updatesInFinished = false := by
        simp [updatesInFinished, StateManager.verifyState, hsub]
      exact .of_rampDown hlegal hold hstate (hnext hstate) hupdated (hc.rampDown hstate (by simp [hsub]))
  | finishRampDown hstate hsub =>
      have hupdated : c.updatesInFinished = false := by
        simp [updatesInFinished, StateManager.verifyState, hsub]
      exact .of_rampDown hlegal hold (hcurrent.trans hstate) (hnext hstate) hupdated
        (hc.rampDown hstate (by simp [hsub]))
  | wait hstate hsub hstop hresume =>
      have hupdated : c.updatesInFinished = false := by
        simp [updatesInFinished, hstop, hresume]
      exact .of_rampDown hlegal hold hstate (hnext hstate) hupdated
        (hc.rampDown hstate (by simp [hsub])).handle
  | enterStaticGoal hstate hsub hstop hresume hstatic =>
      have hupdated : c.updatesInFinished = false := by
        simp [updatesInFinished, hstop, hstatic]
      exact .of_rampDown hlegal hold (hcurrent.trans hstate) (hnext hstate) hupdated
        (hc.rampDown hstate (by simp [hsub])).handle
  | resume c' hstate hsub hstop hresume hstatic hgoal =>
      have hupdated : c.updatesInFinished = true := by
        simp [updatesInFinished, StateManager.verifyState, hstate, hsub, hresume, hstatic]
      obtain ⟨hnew, htracks⟩ := hgoal.tracks
      exact .of_updated hlegal (fun h => hnew ▸ h) (hcurrent.trans hstate) (hnext hstate) hupdated
        htracks
  | rampedDown c' hstate hsub hstop hgoal =>
      have hupdated : c.updatesInFinished = true := by
        simp [updatesInFinished, StateManager.verifyState, hstate, hsub, hstop]
      obtain ⟨hnew, htracks⟩ := hgoal.tracks
      exact .of_updated hlegal (fun h => hnew ▸ h) (hcurrent.trans hstate) (hnext hstate) hupdated
        htracks
  | startStaticGoal hstate hsub =>
      have hnew : (c.pushCurrentFront.setGoal c.hasNewGoal false).hasNewGoal = false := hc.new
      exact .of_staticGoal hlegal (fun h => absurd (hnew.symm.trans h) Bool.false_ne_true)
        (hcurrent.trans hstate) (hupdates (by simp [hstate])) (pushCurrentFront_frame c).2.2.2.2
  | executeStaticGoal hstate hsub =>
      have hupdated := hupdates (by simp [hstate])
      have hnone : c.applyStaticGoal.pCurrent = none := by
        rw [(applyStaticGoal_frame c).2.1]
        exact hc.staticGoal hstate (by simp [hsub])
      have hnew := applyStaticGoal_new hc.new
      split_ifs at hlegal hcurrent ⊢
      · exact .of_staticGoal hlegal hnew (hcurrent.trans hstate) hupdated hnone
      · exact .of_staticGoal hlegal hnew (hcurrent.trans hstate) hupdated hnone
      · exact .of_staticGoal hlegal hnew (hcurrent.trans hstate) hupdated hnone
  | finishStaticGoal hstate hsub =>
      exact .of_staticGoal hlegal hold (hcurrent.trans hstate) (hupdates (by simp [hstate]))
        (hc.staticGoal hstate (by simp [hsub]))

/-- Flags that are consistent stay so as long as nothing is written to them. -/
theorem Consistent.congr {c c' : Control α} {updated : Bool} (hc : c.Consistent updated)
    (hmanager : c'.manager = c.manager) (hnew : c'.hasNewGoal = c.hasNewGoal)
    (hactive : c'.hasActiveGoal = c.hasActiveGoal) (hcurrent : c'.pCurrent = c.pCurrent) :
    c'.Consistent updated := by
  have hnext : c'.next = c.next := by rw [next, next, hmanager]
  have htracks : c'.Tracks ↔ c.Tracks := by rw [Tracks, Tracks, hactive, hcurrent]
  have hresumable : c'.Resumable ↔ c.Resumable := by rw [Resumable, Resumable, hactive, hcurrent]
  constructor
  · rw [hmanager]
    exact hc.legal
  · rw [hnew, hactive]
    exact hc.new
  · rw [hmanager, htracks]
    exact hc.normal
  · rw [hmanager, hcurrent]
    exact hc.staticGoal
  · rw [hmanager, hresumable]
    exact hc.rampDown
  · rw [hmanager, hnext, htracks]
    exact hc.ramped
  · rw [hmanager, hnext]
    exact hc.pending

/-- After `updateNormalGoal` RampDown is left. -/
theorem Consistent.leaves {c : Control α} (hc : c.Consistent true) (firstMessage : Bool)
    (duration : α) :
    (c.prepare firstMessage true duration).updateState.manager.currentState = .normal := by
  by_cases hstart : firstMessage = true ∨ c.manager.verifyState .normal .none = true
  · exact congrArg Prod.fst (next_prepare_start c hc.legal firstMessage duration hstart)
  · rw [not_or, Bool.not_eq_true, Bool.not_eq_true] at hstart
    obtain ⟨rfl, hv⟩ := hstart
    rw [prepare_session c duration hv]
    exact (hc.ramped rfl).2.1

variable [Field α] [LinearOrder α]

theorem Consistent.call {c : Control α} {updated : Bool} (hc : c.Consistent updated)
    (call : TrajectoryCall α) : (c.call call).Consistent updated := by
  obtain ⟨hmanager, hcurrent, -, -, hactive⟩ := call_frame c call
  refine hc.congr hmanager ?_ hactive hcurrent
  unfold Control.call
  split
  · change (enqueue call c).hasNewGoal = c.hasNewGoal
    unfold enqueue
    split
    · split_ifs <;> rfl
    · rfl
  · rfl

end Control

namespace TrajectoryMotion

variable [Field α] [LinearOrder α] [Cmath α] [FloorRing α]

/-- Whether a callback executes `updateNormalGoal` in (RampDown, Finished). -/
def updatesInFinished (t : TrajectoryMotion α) (inputs : InputContainer α) : Bool :=
  let t := { t with trace := [] }.prepare inputs
  let t := { t with stateManager := t.stateManager.updateState }
  inputs.statesOk && t.control.updatesInFinished

end TrajectoryMotion

/-- A motion with the memory whether `updateNormalGoal` has been executed in Finished, since RampDown
has been entered. -/
structure Recorded (α : Type) where
  motion : TrajectoryMotion α
  updated : Bool

namespace Recorded

variable [Field α] [LinearOrder α] [Cmath α] [FloorRing α]

def init (configurations : TrajectoryConfiguration α) : Recorded α := ⟨.init configurations, false⟩

def step (s : Recorded α) (a : Action α) : Recorded α where
  motion := s.motion.step a
  updated :=
    match a with
    | .generateOutputs _ inputs =>
        decide ((s.motion.step a).stateManager.currentState = .rampDown) &&
          (s.updated || s.motion.updatesInFinished inputs)
    | _ => s.updated

/-- The memory does not change the run. -/
theorem motion_run (s : Recorded α) (es : List (Action α)) :
    (run step s es).motion = run TrajectoryMotion.step s.motion es := by
  induction es generalizing s with
  | nil => rfl
  | cons a es ih => exact ih (s.step a)

/-- The memory is set exactly by `updateNormalGoal` in Finished. -/
theorem updated_step {s : Recorded α}
    (hs : Control.Consistent { s.motion.control with trace := [] } s.updated) (outputs : Output α)
    {inputs : InputContainer α} (hok : inputs.statesOk = true) :
    (s.step (.generateOutputs outputs inputs)).updated =
      (Control.prepare { s.motion.control with trace := [] } inputs.firstMessage true
        s.motion.remainingTime).updateState.updatesInFinished := by
  have hturn := s.motion.generateOutputs_ok outputs inputs hok
  have hupdates : s.motion.updatesInFinished inputs =
      (Control.prepare { s.motion.control with trace := [] } inputs.firstMessage true
        s.motion.remainingTime).updateState.updatesInFinished := by
    have hprepare := TrajectoryMotion.control_prepare { s.motion with trace := [] } inputs
    rw [hok] at hprepare
    rw [TrajectoryMotion.updatesInFinished, hok, Bool.true_and]
    exact congrArg (fun c => c.updateState.updatesInFinished) hprepare
  have hstate : (s.motion.step (.generateOutputs outputs inputs)).stateManager.currentState =
      (Control.prepare { s.motion.control with trace := [] } inputs.firstMessage true
        s.motion.remainingTime).updateState.manager.currentState := hturn.current.1
  rw [step]
  simp only
  rw [hstate, hupdates]
  generalize hd : (Control.prepare { s.motion.control with trace := [] } inputs.firstMessage true
    s.motion.remainingTime).updateState = d
  cases hupdated : d.updatesInFinished with
  | true =>
      rw [Control.updatesInFinished, Bool.and_eq_true, StateManager.verifyState,
        decide_eq_true_eq] at hupdated
      simp [hupdated.1.1]
  | false =>
      cases hold : s.updated with
      | false => simp
      | true =>
          rw [hold] at hs
          have hleaves := hs.leaves inputs.firstMessage s.motion.remainingTime
          rw [hd] at hleaves
          simp [hleaves]

theorem consistent_step {s : Recorded α} (hs : s.motion.control.Consistent s.updated)
    (a : Action α) : (s.step a).motion.control.Consistent (s.step a).updated := by
  have hs' : Control.Consistent { s.motion.control with trace := [] } s.updated :=
    hs.congr rfl rfl rfl rfl
  cases a with
  | generateOutputs outputs inputs =>
      cases hok : inputs.statesOk with
      | true =>
          have hturn := s.motion.generateOutputs_ok outputs inputs hok
          have hconsistent := hturn.consistent (by simp [Control.updateState])
            (hs'.prepared inputs.firstMessage s.motion.remainingTime)
          rw [updated_step hs' outputs hok]
          exact hconsistent
      | false =>
          have hcontrol := s.motion.generateOutputs_notOk outputs inputs hok
          have hinactive := Control.prepare_inactive { s.motion.control with trace := [] }
            inputs.firstMessage s.motion.remainingTime
          have htracks := hs'.tracks_prepare inputs.firstMessage false s.motion.remainingTime
            (.inr (.inl rfl))
          have hlegal := Control.legal_prepare hs'.legal inputs.firstMessage false
            s.motion.remainingTime
          rw [← hcontrol] at hinactive htracks hlegal
          have hstate : (s.motion.generateOutputs outputs inputs).1.stateManager.currentState = .normal :=
            congrArg Prod.fst hinactive
          have hnew : (s.motion.generateOutputs outputs inputs).1.control.hasNewGoal = false := by
            rw [hcontrol]
            rfl
          exact .of_normal hlegal (fun h => absurd (hnew.symm.trans h) Bool.false_ne_true) hstate
            (by simp [step, TrajectoryMotion.step, hstate]) htracks
  | call call =>
      change (s.motion.call call).2.control.Consistent s.updated
      rw [TrajectoryMotion.control_call]
      exact hs.call call
  | updateConfigurations configurations => exact hs

theorem consistent_run (configurations : TrajectoryConfiguration α) (es : List (Action α)) :
    (run step (init configurations) es).motion.control.Consistent
      (run step (init configurations) es).updated := by
  have hinit : (init configurations).motion.control.Consistent (init configurations).updated :=
    .of_normal (fun h => absurd h Bool.false_ne_true) (fun h => h) rfl rfl
      (by simp [Control.Tracks, TrajectoryMotion.control, init, TrajectoryMotion.init, DecisionData.init])
  exact run_inv (I := fun s : Recorded α => s.motion.control.Consistent s.updated)
    (fun s a hs => consistent_step hs a) es hinit

/-- **The flags of the goal and the current trajectory stay consistent** in every reachable state, as
the state prescribes. -/
theorem goal_flags_consistent (configurations : TrajectoryConfiguration α) (es : List (Action α)) :
    let t := run TrajectoryMotion.step (.init configurations) es
    (t.data.hasNewGoal = true → t.data.hasActiveGoal = true) ∧
      (t.stateManager.currentState = .normal →
        (t.data.hasActiveGoal = true ↔ t.trajectories.pCurrent ≠ none)) ∧
      (t.stateManager.currentState = .staticGoal → t.trajectories.pCurrent = none) ∧
      (t.stateManager.currentState = .rampDown →
        (run step (init configurations) es).updated = false →
          t.data.hasActiveGoal = true ∧
            ∀ current, t.trajectories.pCurrent = some current → current.points ≠ []) := by
  intro t
  have hs := consistent_run configurations es
  rw [motion_run] at hs
  exact ⟨hs.new, hs.normal, hs.staticGoal, hs.rampDown⟩

end Recorded

end AbbWrapper
