import AbbWrapper.RampDownTime
import AbbWrapper.Completion

/-! # The machine settles

The orders that are pending lead from state to state: a ramp down is started, takes its time and is
finished; a stop that is to be resumed goes on with Normal or with the static goals, and static goals that
are finished are left by another ramp down.

* `rank` counts the states that are still to come by the orders that are pending; only a ramp down that
  goes on stays in its state (`Decides.rank`), and it ends (`rank_decreases`).
* `InSession` says that a session is going on, and `leftAlone` is the machine after so many callbacks
  without a command.

A machine that is left alone therefore comes to a state that it does not leave any more, in which it executes
trajectories, waits to be resumed, or holds a static goal (`machine_settles`). -/

namespace AbbWrapper

open Protobuf Runs Progress

variable {α : Type}

namespace Control

/-! ### The states that are still to come -/

/-- At most so many states come after this one, by the orders that are pending. -/
def rank (e : PendingEvents α) : States × SubStates → ℕ
  | (.normal, _) => if e.doRampDown then 10 else 0
  | (.rampDown, .none) => if e.doStaticGoalStart then 9 else 3
  | (.rampDown, .running) => if e.doStaticGoalStart then 8 else 2
  | (.rampDown, .finished) =>
      if e.doStop && !e.doResume then 0 else if e.doStaticGoalStart then 7 else 1
  | (.staticGoal, .none) => if e.doRampDown then 11 else 6
  | (.staticGoal, .running) => if e.doStaticGoalFinish then 5 else if e.doRampDown then 10 else 0
  | (.staticGoal, .finished) => 4

/-- Only a ramp down that goes on stays in its state, unless no state is to come. -/
theorem Decides.rank {e e' : PendingEvents α} {s s' : States × SubStates} (h : Decides e s e' s')
    (hs : s.1 = .normal → s.2 = .running) :
    rank e' s' < rank e s ∨ s' = s ∧ rank e' s' = rank e s ∧ (rank e s = 0 ∨ s = (.rampDown, .running)) := by
  cases h with
  | shouldNeverOccur subState hsub => exact absurd (hs rfl) hsub
  | interrupt hramp => left; simp [Control.rank, hramp]; split <;> decide
  | execute hramp => right; simp [Control.rank, hramp]
  | startRampDown => left; simp [Control.rank]; split <;> decide
  | continueRampDown => right; simp
  | finishRampDown => left; simp [Control.rank]; split_ifs <;> decide
  | wait hstop hresume => right; simp [Control.rank, handled, hstop, hresume]
  | enterStaticGoal hstop hresume hstatic =>
      left; simp [Control.rank, resumed, hresume, hstatic]
  | resume hstop hresume hstatic => left; simp [Control.rank, resumed, hresume, hstatic]
  | rampedDown hstop => left; simp [Control.rank, hstop]; split <;> decide
  | startStaticGoal => left; simp [Control.rank]; split_ifs <;> decide
  | executeStaticGoal hfinish hramp => right; simp [Control.rank, hfinish, hramp]
  | interruptStaticGoal hfinish hramp => left; simp [Control.rank, hfinish, hramp]; split <;> decide
  | finishStaticGoal hfinish => left; simp [Control.rank, hfinish]
  | leaveStaticGoal => left; simp [Control.rank, left]

/-- The last of the states that come. -/
theorem rank_eq_zero {e : PendingEvents α} {s : States × SubStates} (h : rank e s = 0)
    (hs : s.1 = .normal → s.2 = .running) :
    s = (.normal, .running) ∧ e.doRampDown = false ∨
      s = (.rampDown, .finished) ∧ e.doStop = true ∧ e.doResume = false ∨
      s = (.staticGoal, .running) ∧ e.doStaticGoalFinish = false ∧ e.doRampDown = false := by
  obtain ⟨state, subState⟩ := s
  cases state with
  | normal =>
      obtain rfl : subState = .running := hs rfl
      left
      simpa [rank] using h
  | rampDown =>
      cases subState with
      | none => simp [rank] at h; split at h <;> cases h
      | running => simp [rank] at h; split at h <;> cases h
      | finished =>
          right; left
          simp only [rank] at h
          split_ifs at h with hwaits
          simpa using hwaits
  | staticGoal =>
      cases subState with
      | none => simp [rank] at h; split at h <;> cases h
      | running =>
          right; right
          simp only [rank] at h
          split_ifs at h with hfinish hramp
          exact ⟨rfl, Bool.eq_false_iff.mpr hfinish, Bool.eq_false_iff.mpr hramp⟩
      | finished => cases h

/-- A running ramp down comes next in RampDown only. -/
theorem current_of_next {c : Control α} (h : Legal c.manager) (hnext : c.next = (.rampDown, .running)) :
    c.manager.currentState = .rampDown := by
  cases hp : c.manager.hasPendingState with
  | false =>
      rw [next_of_not_pending hp] at hnext
      exact congrArg Prod.fst hnext
  | true =>
      have haccepts := h hp
      rw [next_of_pending hp, Prod.mk.injEq] at hnext
      rw [hnext.1, hnext.2] at haccepts
      cases hstate : c.manager.currentState with
      | rampDown => rfl
      | normal => cases hsub : c.manager.currentSubState <;> simp [StateManager.accepts, hstate, hsub] at haccepts
      | staticGoal => cases hsub : c.manager.currentSubState <;> simp [StateManager.accepts, hstate, hsub] at haccepts

end Control

namespace TrajectoryMotion

variable [Field α] [LinearOrder α] [Cmath α] [FloorRing α]

def rank (t : TrajectoryMotion α) : ℕ := Control.rank t.events t.control.next

/-- A goal is active as long as a ramp down runs. -/
theorem rampDown_active {configurations : TrajectoryConfiguration α} {es : List (Action α)}
    (hnext : (run step (init configurations) es).control.next = (.rampDown, .running)) :
    (run step (init configurations) es).data.hasActiveGoal = true := by
  have hs := Recorded.consistent_run configurations es
  rw [Recorded.motion_run] at hs
  have hstate := Control.current_of_next hs.legal hnext
  cases hupdated : (run Recorded.step (Recorded.init configurations) es).updated with
  | false => exact (hs.rampDown hstate hupdated).1
  | true =>
      have hnormal : (run step (init configurations) es).control.next.1 = .normal :=
        (hs.ramped hupdated).2.1
      rw [hnext] at hnormal
      cases hnormal

/-- A session is going on: the machine is not, and does not become, (Normal, None). -/
structure InSession (t : TrajectoryMotion α) : Prop where
  legal : Control.Legal t.stateManager
  running : t.control.next.1 = .normal → t.control.next.2 = .running

theorem InSession.decides {t : TrajectoryMotion α} (ht : t.InSession) {inputs : InputContainer α}
    (hok : inputs.statesOk = true) (hfirst : inputs.firstMessage = false) (outputs : Output α) :
    Control.Decides t.events t.control.next (t.step (.generateOutputs outputs inputs)).events
      (t.step (.generateOutputs outputs inputs)).control.next := by
  have hv : t.stateManager.verifyState .normal .none = false := by
    refine Control.verifyState_of_next (c := t.control) ht.legal fun hnext => ?_
    have hrunning := ht.running (congrArg Prod.fst hnext)
    rw [hnext] at hrunning
    cases hrunning
  have hdecides := (generateOutputs_session outputs hok hfirst hv).decides
    (Control.updateState_hasPendingState _)
  exact hdecides

theorem InSession.step {t : TrajectoryMotion α} (ht : t.InSession) {inputs : InputContainer α}
    (hok : inputs.statesOk = true) (hfirst : inputs.firstMessage = false) (outputs : Output α) :
    (t.step (.generateOutputs outputs inputs)).InSession := by
  refine ⟨(t.step_control (.generateOutputs outputs inputs)).legal ht.legal, ?_⟩
  have hdecides := ht.decides hok hfirst outputs
  have hrunning := ht.running
  generalize t.events = e at hdecides
  generalize (t.step (.generateOutputs outputs inputs)).events = e' at hdecides
  generalize t.control.next = s at hdecides hrunning
  generalize (t.step (.generateOutputs outputs inputs)).control.next = s' at hdecides
  intro hnormal
  cases hdecides with
  | shouldNeverOccur subState hsub => exact hrunning rfl
  | execute hramp => rfl
  | resume hstop hresume hstatic => rfl
  | rampedDown hstop => rfl
  | _ => cases hnormal

section run
variable {configurations : TrajectoryConfiguration α} {es : List (Action α)}
  {outputs : ℕ → Output α} {inputs : ℕ → InputContainer α} {sampleTime : α}

/-- The state after `n` callbacks that follow a run. -/
def leftAlone (configurations : TrajectoryConfiguration α) (es : List (Action α))
    (outputs : ℕ → Output α) (inputs : ℕ → InputContainer α) (n : ℕ) : TrajectoryMotion α :=
  run step (init configurations) (es ++ callbacks outputs inputs n)

theorem leftAlone_succ (n : ℕ) : leftAlone configurations es outputs inputs (n + 1) =
    (leftAlone configurations es outputs inputs n).step
      (.generateOutputs (outputs n) (inputs n)) := by
  rw [leftAlone, leftAlone, run_append, run_append, run_callbacks]

variable (outputs) (ht : (run step (init configurations) es).InSession)
  (hinputs : Session sampleTime inputs)
include ht hinputs

theorem inSession (n : ℕ) : (leftAlone configurations es outputs inputs n).InSession := by
  induction n with
  | zero =>
      rw [leftAlone, run_append]
      exact ht
  | succ n ih =>
      rw [leftAlone_succ]
      exact ih.step (hinputs.statesOk n) (hinputs.firstMessage n) (outputs n)

theorem rank_step (n : ℕ) :
    (leftAlone configurations es outputs inputs (n + 1)).rank <
        (leftAlone configurations es outputs inputs n).rank ∨
      (leftAlone configurations es outputs inputs (n + 1)).control.next =
          (leftAlone configurations es outputs inputs n).control.next ∧
        (leftAlone configurations es outputs inputs (n + 1)).rank =
          (leftAlone configurations es outputs inputs n).rank ∧
        ((leftAlone configurations es outputs inputs n).rank = 0 ∨
          (leftAlone configurations es outputs inputs n).control.next = (.rampDown, .running)) := by
  have hn := inSession outputs ht hinputs n
  have h := (hn.decides (hinputs.statesOk n) (hinputs.firstMessage n) (outputs n)).rank hn.running
  rw [← leftAlone_succ] at h
  exact h

variable [IsStrictOrderedRing α] [Archimedean α]

/-- A ramp down ends, and every other state is left at once. -/
theorem rank_decreases (hpos : 0 < sampleTime) (n : ℕ)
    (hrank : (leftAlone configurations es outputs inputs n).rank ≠ 0) :
    ∃ m, n ≤ m ∧ (leftAlone configurations es outputs inputs m).rank <
      (leftAlone configurations es outputs inputs n).rank := by
  let state (k : ℕ) : TrajectoryMotion α := leftAlone configurations es outputs inputs k
  let duration := (state n).motionStep.interpolator.getDuration
  let passed (k : ℕ) : α := (state k).motionStep.data.timePassed
  let P (k : ℕ) : Prop := (state k).control.next = (.rampDown, .running) ∧
    (state k).rank = (state n).rank ∧ (state k).motionStep.interpolator.getDuration = duration
  let Q (k : ℕ) : Prop := (state (k + 1)).rank < (state n).rank
  -- a ramp down that is not over goes on
  have hstep (k : ℕ) (hP : P k) (hQ : ¬Q k) :
      (state k).motionStep.interpolationDurationReached = false ∧ P (k + 1) ∧
        passed (k + 1) = passed k + (inputs k).estimatedSampleTime := by
    obtain ⟨hnext, hrank', hduration⟩ := hP
    have hk := inSession outputs ht hinputs k
    rcases rank_step outputs ht hinputs k with hless | ⟨hsame, hkept, -⟩
    · exact absurd (hless.trans_eq hrank') hQ
    · have hv : (state k).stateManager.verifyState .normal .none = false :=
        Control.verifyState_of_next hk.legal (by rw [hnext]; simp)
      have hplace := (processed_session (hinputs.statesOk k) (hinputs.firstMessage k) hv).trans hnext
      have hnext' := hsame.trans hnext
      rw [leftAlone_succ] at hnext'
      obtain ⟨hover, -, hduration', htime⟩ := rampDown_continued hk.legal (hinputs.statesOk k)
        hplace (rampDown_active hnext) (outputs k) hnext'
      rw [← leftAlone_succ] at hduration' htime
      exact ⟨hover, ⟨hsame.trans hnext, hkept.trans hrank', hduration'.trans hduration⟩, htime⟩
  rcases rank_step outputs ht hinputs n with hless | ⟨hsame, hkept, hzero | hnext⟩
  · exact ⟨n + 1, Nat.le_succ n, hless⟩
  · exact absurd hzero hrank
  · have hunless : Unless P Q := fun k hP => or_iff_not_imp_left.mpr fun hQ => (hstep k hP hQ).2.1
    have hgrows (k : ℕ) (hP : P k) (hQ : ¬Q k) : passed k + sampleTime ≤ passed (k + 1) := by
      rw [(hstep k hP hQ).2.2]
      exact add_le_add_right (hinputs.sampleTime k) _
    obtain ⟨m, hnm, hQ | ⟨hP, hover⟩⟩ :=
      hunless.leadsTo_of_growth hpos hgrows duration n ⟨hnext, rfl, rfl⟩
    · exact ⟨m + 1, hnm.trans (Nat.le_succ m), hQ⟩
    · refine ⟨m + 1, hnm.trans (Nat.le_succ m), by_contra fun hQ => ?_⟩
      have hreached := (hstep m hP hQ).1
      have hlowest := Constants.lowestSampleTime_pos (α := α)
      rw [MotionStep.interpolationDurationReached, hP.2.2, decide_eq_false_iff_not] at hreached
      exact hreached (by linarith)

end run

/-- **The machine settles**: left alone in a session whose states stay ok and whose time passes, it comes
in finitely many callbacks to a state that it does not leave any more.  There it executes trajectories,
waits for a stop to be resumed, or holds a static goal. -/
theorem machine_settles [IsStrictOrderedRing α] [Archimedean α]
    (configurations : TrajectoryConfiguration α) (es : List (Action α)) (outputs : ℕ → Output α)
    (inputs : ℕ → InputContainer α) {sampleTime : α} (hpos : 0 < sampleTime)
    (hinputs : Session sampleTime inputs)
    (hsession : (run step (init configurations) es).InSession) :
    let state := leftAlone configurations es outputs inputs
    (∃ n, ∀ m, n ≤ m →
        (state m).control.next = (.normal, .running) ∧ (state m).events.doRampDown = false) ∨
      (∃ n, ∀ m, n ≤ m → (state m).control.next = (.rampDown, .finished) ∧
        (state m).events.doStop = true ∧ (state m).events.doResume = false) ∨
      ∃ n, ∀ m, n ≤ m → (state m).control.next = (.staticGoal, .running) ∧
        (state m).events.doStaticGoalFinish = false ∧ (state m).events.doRampDown = false := by
  intro state
  obtain ⟨n, -, hn⟩ := leadsTo_zero
    (fun k hk => rank_decreases outputs hsession hinputs hpos k hk) 0
  have hlast (m : ℕ) (hnm : n ≤ m) :
      (state m).rank = 0 ∧ (state m).control.next = (state n).control.next := by
    induction m, hnm using Nat.le_induction with
    | base => exact ⟨hn, rfl⟩
    | succ m hnm ih =>
        rcases rank_step outputs hsession hinputs m with hless | ⟨hsame, hkept, -⟩
        · exact absurd (hless.trans_eq ih.1) (Nat.not_lt_zero _)
        · exact ⟨hkept.trans ih.1, hsame.trans ih.2⟩
  have hcases (m : ℕ) (hnm : n ≤ m) := Control.rank_eq_zero (hlast m hnm).1
    (inSession outputs hsession hinputs m).running
  rcases hcases n le_rfl with ⟨hnext, -⟩ | ⟨hnext, -⟩ | ⟨hnext, -⟩
  · refine .inl ⟨n, fun m hnm => ?_⟩
    have hm := (hlast m hnm).2.trans hnext
    rcases hcases m hnm with h | ⟨h, -⟩ | ⟨h, -⟩
    · exact h
    · exact absurd (hm.symm.trans h) (by simp)
    · exact absurd (hm.symm.trans h) (by simp)
  · refine .inr (.inl ⟨n, fun m hnm => ?_⟩)
    have hm := (hlast m hnm).2.trans hnext
    rcases hcases m hnm with ⟨h, -⟩ | h | ⟨h, -⟩
    · exact absurd (hm.symm.trans h) (by simp)
    · exact h
    · exact absurd (hm.symm.trans h) (by simp)
  · refine .inr (.inr ⟨n, fun m hnm => ?_⟩)
    have hm := (hlast m hnm).2.trans hnext
    rcases hcases m hnm with ⟨h, -⟩ | ⟨h, -⟩ | h
    · exact absurd (hm.symm.trans h) (by simp)
    · exact absurd (hm.symm.trans h) (by simp)
    · exact h

/-- A stop is ordered while a trajectory is executed. -/
def stopOrdered : List (Action ℚ) :=
  pointsQueued ++ [.generateOutputs {} Evaluation.next, .call (.stopTrajectory false)]

theorem machine_settles_stopped :
    let state := leftAlone Evaluation.configurations stopOrdered (fun _ => {})
      fun _ => Evaluation.next
    (∃ n, ∀ m, n ≤ m →
        (state m).control.next = (.normal, .running) ∧ (state m).events.doRampDown = false) ∨
      (∃ n, ∀ m, n ≤ m → (state m).control.next = (.rampDown, .finished) ∧
        (state m).events.doStop = true ∧ (state m).events.doResume = false) ∨
      ∃ n, ∀ m, n ≤ m → (state m).control.next = (.staticGoal, .running) ∧
        (state m).events.doStaticGoalFinish = false ∧ (state m).events.doRampDown = false := by
  have hinputs : Session (1 : ℚ) fun _ => Evaluation.next :=
    ⟨fun _ => by decide +kernel, fun _ => by decide +kernel, fun _ => by decide +kernel⟩
  have hsession : (run step (init Evaluation.configurations) stopOrdered).InSession :=
    ⟨legal_run _ _, by decide +kernel⟩
  exact machine_settles Evaluation.configurations stopOrdered (fun _ => {})
    (fun _ => Evaluation.next) one_pos hinputs hsession

end TrajectoryMotion

end AbbWrapper
