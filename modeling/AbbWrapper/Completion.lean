import Mathlib.Algebra.Order.Archimedean.Basic
import AbbWrapper.PointOrder
import AbbWrapper.GoalFlags
import AbbWrapper.RemainingTime
import AbbWrapper.LeadsTo

/-! # Trajectories are executed to the end

A trajectory motion that is left alone in (Normal, Running) works through its trajectories.  With every
callback the time of the active goal passes; once it is over, and the robot is where a goal that has to be
reached wants it to be, the next goal is retrieved.

* `workload` is a measure of what is left: every update of the goal makes it smaller.
* `MotionStep.goalDone` says that the time of the goal is over, and that it is reached if it has to be.
* `Executing` is the invariant of a machine that has been ordered nothing else, and
  `Executing.callback` says what one callback with ok states makes of it.
* `callbacks f n` are the first `n` of infinitely many callbacks, and `Session` says that these belong to
  one session whose sample times do not get arbitrarily small.

If the robot always comes to where it has to be in the end, then every point is retrieved after finitely
many callbacks, in order and once, and the machine is idle from then on (`trajectories_completed`).  This
is a liveness property; its frame, with the workload as the variant, is in `LeadsTo.lean`. -/

namespace AbbWrapper

open Protobuf Runs Progress

variable {α : Type}

namespace Control

/-! ### What is left to do -/

/-- Every update of the goal takes a point from `p_current`, or gives up `p_current`. -/
def workload (c : Control α) : ℕ :=
  c.pCurrent.elim 0 (·.points.length + 1) + (c.primaryQueue.map (·.points.length + 1)).sum

def retrievedPoints (c : Control α) : List (PointGoal α) := c.trace.filterMap Call.point?

theorem workload_eq_zero {c : Control α} (h : c.workload = 0) :
    c.pCurrent = none ∧ c.primaryQueue = [] := by
  unfold workload at h
  obtain ⟨hcurrent, hqueue⟩ := Nat.add_eq_zero_iff.mp h
  constructor
  · cases hp : c.pCurrent with
    | none => rfl
    | some current => simp [hp] at hcurrent
  · cases hq : c.primaryQueue with
    | nil => rfl
    | cons next queue => simp [hq] at hqueue

/-- What an update of the goal retrieves is no longer queued. -/
structure Executes (c c' : Control α) : Prop where
  workload : c'.workload < c.workload
  points : c'.retrievedPoints ++ c'.queuedPoints = c.retrievedPoints ++ c.queuedPoints

theorem NextGoal.executes {c c' : Control α} (h : NextGoal c c') (hcurrent : c.pCurrent ≠ none) :
    c.Executes c' := by
  have hretrieved (points : List (PointGoal α)) :
      (points.map Call.retrieved).filterMap Call.point? = points := by
    induction points with
    | nil => rfl
    | cons point points ih => simp [Call.point?, ih]
  cases h with
  | empty h => exact absurd h hcurrent
  | found skipped goal points h =>
      refine ⟨?_, ?_⟩
      · simp only [workload, h, setGoal, log, Option.elim_some, List.length_append,
          List.length_cons]
        omega
      · simp [retrievedPoints, queuedPoints, h, setGoal, log, hretrieved, Call.point?]
  | exhausted points externalGoal h =>
      refine ⟨?_, ?_⟩
      · simp only [workload, h, setGoal, log, Option.elim_some, Option.elim_none]
        omega
      · simp [retrievedPoints, queuedPoints, h, setGoal, log, hretrieved]

/-- The trajectory that is taken from the queue is worked on next. -/
theorem NextGoal.executes_taken {c c' : Control α} {next : Trajectory α}
    {queue : List (Trajectory α)} (hcurrent : c.pCurrent = none)
    (hqueue : c.primaryQueue = next :: queue)
    (h : NextGoal ({ c with primaryQueue := queue, pCurrent := some next }.log [.taken next]) c') :
    c.Executes c' := by
  obtain ⟨hworkload, hpoints⟩ := h.executes (by simp [log])
  refine ⟨hworkload.trans_eq ?_, hpoints.trans ?_⟩
  · simp [workload, log, hcurrent, hqueue]
  · simp [retrievedPoints, queuedPoints, log, hcurrent, hqueue, Call.point?]

end Control

variable [Field α] [LinearOrder α]

/-- The goal's time is over, and it is where it has to be reached. -/
def MotionStep.goalDone (m : MotionStep α) : Bool :=
  m.interpolationDurationReached && (!m.internalGoal.reach.get || m.conditionMet)

theorem MotionStep.goalDone_of_passed [IsStrictOrderedRing α] {m : MotionStep α}
    (hpassed : m.interpolator.getDuration ≤ m.data.timePassed) (hmet : m.conditionMet = true) :
    m.goalDone = true := by
  have hlowest := Constants.lowestSampleTime_pos (α := α)
  rw [goalDone, hmet, Bool.or_true, Bool.and_true, interpolationDurationReached, decide_eq_true_eq]
  linarith

namespace TrajectoryMotion

variable [Cmath α]

/-! ### One callback -/

/-- Trajectories are executed, and nothing else has been ordered. -/
structure Executing (t : TrajectoryMotion α) : Prop where
  legal : Control.Legal t.stateManager
  next : t.control.next = (.normal, .running)
  ramp : t.events.doRampDown = false
  tracks : t.control.Tracks

/-- The queue of a state without a current trajectory. -/
def takeNext (t : TrajectoryMotion α) : List (Trajectory α) → TrajectoryMotion α
  | [] => t
  | next :: queue =>
      ({ t with trajectories := { t.trajectories with
        primaryQueue := queue
        pCurrent := some next } }.log [.taken next]).updateNormalGoal

theorem processNormalState_running {t : TrajectoryMotion α}
    (hsub : t.stateManager.currentSubState = .running) (hramp : t.events.doRampDown = false) :
    t.processNormalState =
      match t.trajectories.pCurrent with
      | some _ => if t.motionStep.goalDone then t.updateNormalGoal else t
      | none => t.takeNext t.trajectories.primaryQueue := by
  unfold processNormalState MotionStep.goalDone
  simp only [hsub, hramp, Bool.false_eq_true, if_false]
  cases t.trajectories.pCurrent with
  | none => cases t.trajectories.primaryQueue <;> rfl
  | some current =>
      cases t.motionStep.interpolationDurationReached <;>
        cases t.motionStep.internalGoal.reach.get <;> cases t.motionStep.conditionMet <;> rfl

variable [FloorRing α]

/-- What a callback of a session makes of the state before it processes Normal. -/
def entered (t : TrajectoryMotion α) (inputs : InputContainer α) : TrajectoryMotion α :=
  { (({ t with trace := [] }).receive inputs).setGoal false t.data.hasActiveGoal with
    stateManager := t.stateManager.updateState }

/-- What the processing does to the control part: the manager and the events are kept, no queued point is
lost, and the workload becomes less unless nothing is done. -/
structure Works (c c' : Control α) : Prop where
  manager : c'.manager = c.manager
  events : c'.events = c.events
  tracks : c'.Tracks
  points : c'.retrievedPoints ++ c'.queuedPoints = c.retrievedPoints ++ c.queuedPoints

omit [Field α] [LinearOrder α] [Cmath α] [FloorRing α] in
theorem Works.of_nextGoal {c d c' : Control α} (h : Control.NextGoal d c')
    (hmanager : d.manager = c.manager) (hevents : d.events = c.events) (hc : c.Executes c') :
    Works c c' := by
  obtain ⟨hmanager', hevents', -, -⟩ := h.frame
  exact ⟨hmanager'.trans hmanager, hevents'.trans hevents, h.tracks.2, hc.points⟩

omit [FloorRing α] in
theorem processNormalState_works {t : TrajectoryMotion α}
    (hsub : t.stateManager.currentSubState = .running) (hramp : t.events.doRampDown = false)
    (htracks : t.control.Tracks) :
    Works t.control t.processNormalState.control ∧
      (t.processNormalState.control.workload < t.control.workload ∨
        t.processNormalState = t ∧
          (t.trajectories.pCurrent ≠ none → t.motionStep.goalDone = false)) ∧
      (t.trajectories.pCurrent = none → t.trajectories.primaryQueue ≠ [] →
        t.processNormalState.control.workload < t.control.workload) := by
  have hsame : Works t.control t.control := ⟨rfl, rfl, htracks, rfl⟩
  rw [processNormalState_running hsub hramp]
  cases hcurrent : t.trajectories.pCurrent with
  | some current =>
      have hne : t.control.pCurrent ≠ none := by simp [control, hcurrent]
      cases hdone : t.motionStep.goalDone with
      | true =>
          have hgoal := t.updateNormalGoal_nextGoal
          have hexecutes := hgoal.executes hne
          exact ⟨.of_nextGoal hgoal rfl rfl hexecutes, .inl hexecutes.workload,
            fun h => by cases h⟩
      | false => exact ⟨hsame, .inr ⟨rfl, fun _ => rfl⟩, fun h => by cases h⟩
  | none =>
      cases hqueue : t.trajectories.primaryQueue with
      | nil => exact ⟨hsame, .inr ⟨rfl, fun h => absurd rfl h⟩, fun _ h => absurd rfl h⟩
      | cons next queue =>
          have hgoal := updateNormalGoal_nextGoal ({ t with
            trajectories := { t.trajectories with
              primaryQueue := queue
              pCurrent := some next } }.log [.taken next])
          have hexecutes := Control.NextGoal.executes_taken (c := t.control) hcurrent hqueue hgoal
          exact ⟨.of_nextGoal hgoal rfl rfl hexecutes, .inl hexecutes.workload,
            fun _ _ => hexecutes.workload⟩

section callback
variable {t : TrajectoryMotion α} {inputs : InputContainer α}

theorem Executing.process_eq (ht : t.Executing) (hok : inputs.statesOk = true)
    (hfirst : inputs.firstMessage = false) :
    (t.prepared inputs).process = (t.entered inputs).processNormalState := by
  have hv : t.stateManager.verifyState .normal .none = false :=
    Control.verifyState_of_next ht.legal (by rw [ht.next]; simp)
  have hv' : (({ t with trace := [] }).receive inputs).stateManager.verifyState .normal .none =
      false := hv
  have hprepared : t.prepared inputs =
      (({ t with trace := [] }).receive inputs).setGoal false t.data.hasActiveGoal := by
    unfold prepared prepare checkStates
    simp only [hfirst, hok, hv', Bool.false_eq_true, if_true, if_false]
    rfl
  have hstate : (({ t with trace := [] }.receive inputs).setGoal false
      t.data.hasActiveGoal).stateManager.updateState.currentState = .normal :=
    congrArg Prod.fst ht.next
  rw [hprepared]
  simp only [process, hstate]
  rfl

/-- While the goal is not done, only its time passes. -/
structure Continues (t : TrajectoryMotion α) (inputs : InputContainer α) (t' : TrajectoryMotion α) :
    Prop where
  undone : (t.receive inputs).motionStep.goalDone = false
  trajectories : t'.trajectories = t.trajectories
  internalGoal : t'.motionStep.internalGoal = t.motionStep.internalGoal
  interpolator : t'.motionStep.interpolator = t.motionStep.interpolator
  timePassed : t'.motionStep.data.timePassed =
    t.motionStep.data.timePassed + inputs.estimatedSampleTime

theorem entered_continues (outputs : Output α) (hactive : t.data.hasActiveGoal = true)
    (hdone : (t.entered inputs).motionStep.goalDone = false) {t' : TrajectoryMotion α}
    (htrajectories : t'.trajectories = ((t.entered inputs).executeGoal outputs).1.trajectories)
    (hmotion : t'.motionStep = ((t.entered inputs).executeGoal outputs).1.motionStep) :
    t.Continues inputs t' := by
  have hstart : (t.entered inputs).startGoal = t.entered inputs := rfl
  have heq := executeGoal_eq (t.entered inputs) outputs
  rw [hstart, if_pos (show (t.entered inputs).data.hasActiveGoal = true from hactive)] at heq
  have hrewrites := (Controller.calculate_frame (t.entered inputs).controller outputs
    (t.entered inputs).motionStep.evaluateInterpolator).2.eq
  rw [heq] at htrajectories hmotion
  simp only at htrajectories hmotion
  rw [hrewrites] at hmotion
  refine ⟨hdone, htrajectories, ?_, ?_, ?_⟩
  all_goals rw [hmotion]; rfl

/-- One callback with ok states that does not start a session. -/
theorem Executing.callback (ht : t.Executing) (hok : inputs.statesOk = true)
    (hfirst : inputs.firstMessage = false) (outputs : Output α) :
    let t' := t.step (.generateOutputs outputs inputs)
    t'.Executing ∧
      t'.control.retrievedPoints ++ t'.control.queuedPoints = t.control.queuedPoints ∧
      (t'.control.workload < t.control.workload ∨
        t.trajectories.pCurrent ≠ none ∧ t.Continues inputs t' ∨
        t.control.workload = 0 ∧ t'.control.workload = 0) := by
  intro t'
  have hnext : (t.entered inputs).control.next = (.normal, .running) :=
    (Control.next_updateState t.control).trans ht.next
  have hsub : (t.entered inputs).stateManager.currentSubState = .running :=
    congrArg Prod.snd ht.next
  have hcontrol : t'.control = (t.entered inputs).processNormalState.control := by
    change (t.generateOutputs outputs inputs).1.control = _
    unfold generateOutputs
    simp only [hok, if_true, control_updateExecutionProgress, control_executeGoal]
    exact congrArg TrajectoryMotion.control (ht.process_eq hok hfirst)
  obtain ⟨hworks, hless, htaken⟩ := processNormalState_works hsub ht.ramp ht.tracks
  have hlegal : Control.Legal t'.control.manager := by
    have hv : t.stateManager.verifyState .normal .none = false :=
      Control.verifyState_of_next ht.legal (by rw [ht.next]; simp)
    exact (generateOutputs_session outputs hok hfirst hv).legal (Control.updateState_hasPendingState _)
  rw [← hcontrol] at hworks hless htaken
  refine ⟨⟨hlegal, ?_, ?_, hworks.tracks⟩, hworks.points, ?_⟩
  · rw [← hnext, Control.next, Control.next, hworks.manager]
  · exact (congrArg PendingEvents.doRampDown hworks.events).trans ht.ramp
  · rcases hless with hless | ⟨hsame, hundone⟩
    · exact .inl hless
    · by_cases hcurrent : t.trajectories.pCurrent = none
      · by_cases hqueue : t.trajectories.primaryQueue = []
        · have hzero : t.control.workload = 0 := by
            simp [Control.workload, control, hcurrent, hqueue]
          rw [hcontrol, hsame]
          exact .inr (.inr ⟨hzero, hzero⟩)
        · exact .inl (htaken hcurrent hqueue)
      · have hprocess := (ht.process_eq hok hfirst).trans hsame
        have hdata : t' = (((t.prepared inputs).process.executeGoal outputs).1.updateExecutionProgress
            ((t.prepared inputs).process.executeGoal outputs).2 inputs) := by
          change (t.generateOutputs outputs inputs).1 = _
          unfold generateOutputs
          simp only [hok, if_true]
          rfl
        rw [hprocess] at hdata
        refine .inr (.inl ⟨hcurrent, entered_continues outputs (ht.tracks.mpr hcurrent)
          (hundone hcurrent) ?_ ?_⟩)
        · rw [hdata]
          rfl
        · rw [hdata]
          rfl

end callback

/-! ### Callbacks without end -/

/-- The first `n` of infinitely many callbacks. -/
def callbacks (outputs : ℕ → Output α) (inputs : ℕ → InputContainer α) (n : ℕ) :
    List (Action α) :=
  (List.range n).map fun k => .generateOutputs (outputs k) (inputs k)

/-- The points retrieved by a callback. -/
def retrieves (t : TrajectoryMotion α) (a : Action α) : List (PointGoal α) :=
  (t.step a).control.retrievedPoints

section run
variable {t : TrajectoryMotion α} {outputs : ℕ → Output α} {inputs : ℕ → InputContainer α}

theorem run_callbacks (n : ℕ) : run step t (callbacks outputs inputs (n + 1)) =
    (run step t (callbacks outputs inputs n)).step (.generateOutputs (outputs n) (inputs n)) := by
  rw [callbacks, List.range_succ, List.map_append, run_append]
  rfl

theorem collect_callbacks (n : ℕ) : collect step retrieves t (callbacks outputs inputs (n + 1)) =
    collect step retrieves t (callbacks outputs inputs n) ++
      (run step t (callbacks outputs inputs (n + 1))).control.retrievedPoints := by
  rw [run_callbacks, callbacks, List.range_succ, List.map_append, collect_append]
  simp [retrieves, callbacks]

/-- The callbacks of a session whose states stay ok, with sample times of at least `sampleTime`. -/
structure Session (sampleTime : α) (inputs : ℕ → InputContainer α) : Prop where
  statesOk (n : ℕ) : (inputs n).statesOk = true
  firstMessage (n : ℕ) : (inputs n).firstMessage = false
  sampleTime (n : ℕ) : sampleTime ≤ (inputs n).estimatedSampleTime

variable {sampleTime : α} (outputs) (ht : t.Executing) (hinputs : Session sampleTime inputs)
include ht hinputs

theorem Executing.run (n : ℕ) : (run step t (callbacks outputs inputs n)).Executing := by
  induction n with
  | zero => exact ht
  | succ n ih =>
      rw [run_callbacks]
      exact (ih.callback (hinputs.statesOk n) (hinputs.firstMessage n) (outputs n)).1

/-- The points retrieved so far, and those that are still queued. -/
theorem Executing.points_run (n : ℕ) : collect step retrieves t (callbacks outputs inputs n) ++
    (Runs.run step t (callbacks outputs inputs n)).control.queuedPoints =
      t.control.queuedPoints := by
  induction n with
  | zero => rfl
  | succ n ih =>
      have hstep := (ht.run outputs hinputs n).callback (hinputs.statesOk n)
        (hinputs.firstMessage n) (outputs n)
      rw [collect_callbacks, List.append_assoc, run_callbacks, hstep.2.1]
      exact ih

theorem Executing.workload_succ (n : ℕ) :
    (Runs.run step t (callbacks outputs inputs (n + 1))).control.workload ≤
      (Runs.run step t (callbacks outputs inputs n)).control.workload := by
  obtain ⟨-, -, hless | ⟨-, hwaits⟩ | ⟨-, hzero⟩⟩ :=
    (ht.run outputs hinputs n).callback (hinputs.statesOk n)
      (hinputs.firstMessage n) (outputs n)
  · rw [run_callbacks]
    exact hless.le
  · rw [run_callbacks]
    refine le_of_eq ?_
    have htrajectories := hwaits.trajectories
    simp only [Control.workload, control, htrajectories]
  · rw [run_callbacks, hzero]
    exact Nat.zero_le _

variable [IsStrictOrderedRing α] [Archimedean α]

/-- A goal that is active is done in the end, if the robot comes to where it has to be. -/
theorem Executing.advances (hpos : 0 < sampleTime)
    (hreached : Recurs fun n =>
      ((Runs.run step t (callbacks outputs inputs n)).receive (inputs n)).motionStep.conditionMet =
        true) (n : ℕ)
    (hworkload : (Runs.run step t (callbacks outputs inputs n)).control.workload ≠ 0) :
    ∃ m, n ≤ m ∧ (Runs.run step t (callbacks outputs inputs m)).control.workload <
      (Runs.run step t (callbacks outputs inputs n)).control.workload := by
  let state (k : ℕ) : TrajectoryMotion α := Runs.run step t (callbacks outputs inputs k)
  let P (k : ℕ) : Prop := (state k).trajectories = (state n).trajectories ∧
    (state k).motionStep.internalGoal = (state n).motionStep.internalGoal ∧
    (state k).motionStep.interpolator = (state n).motionStep.interpolator
  let Q (k : ℕ) : Prop := (state (k + 1)).control.workload < (state n).control.workload
  have hsame (k : ℕ) (hP : P k) : (state k).control.workload = (state n).control.workload := by
    simp only [Control.workload, control, hP.1]
  have hstep (k : ℕ) (hP : P k) : Q k ∨ (state k).Continues (inputs k) (state (k + 1)) := by
    obtain ⟨-, -, h⟩ := (ht.run outputs hinputs k).callback (hinputs.statesOk k)
      (hinputs.firstMessage k) (outputs k)
    rw [← run_callbacks] at h
    rcases h with hless | ⟨-, hwaits⟩ | ⟨hzero, -⟩
    · exact .inl (hless.trans_eq (hsame k hP))
    · exact .inr hwaits
    · exact absurd ((hsame k hP).symm.trans hzero) hworkload
  have hunless : Unless P Q := fun k hP => (hstep k hP).imp_right fun h =>
    ⟨h.trajectories.trans hP.1, h.internalGoal.trans hP.2.1, h.interpolator.trans hP.2.2⟩
  -- the time of the goal passes until it is over
  let duration := (state n).motionStep.interpolator.getDuration
  let passed (k : ℕ) : α := (state k).motionStep.data.timePassed
  have hgrows (k : ℕ) (hP : P k) (hQ : ¬Q k) : passed k + sampleTime ≤ passed (k + 1) := by
    have h := (hstep k hP).resolve_left hQ
    change (state k).motionStep.data.timePassed + sampleTime ≤
      (state (k + 1)).motionStep.data.timePassed
    rw [h.timePassed]
    exact add_le_add_right (hinputs.sampleTime k) _
  have hover := hunless.leadsTo_of_growth hpos hgrows duration
  -- and then it stays over until the robot is where it has to be
  have hstays : Unless (fun k => P k ∧ duration ≤ passed k) Q := by
    rintro k ⟨hP, hk⟩
    by_cases hQ : Q k
    · exact .inl hQ
    · refine .inr ⟨(hunless k hP).resolve_left hQ, hk.trans ?_⟩
      exact (le_add_of_nonneg_right hpos.le).trans (hgrows k hP hQ)
  have hmet := hstays.leadsTo_of_recurs hreached
  have hdone (k : ℕ) : (P k ∧ duration ≤ passed k) ∧
      ((state k).receive (inputs k)).motionStep.conditionMet = true → Q k := by
    rintro ⟨⟨hP, hk⟩, hcondition⟩
    refine (hstep k hP).resolve_right fun h => ?_
    have hundone := h.undone
    rw [MotionStep.goalDone_of_passed ?_ hcondition] at hundone
    · cases hundone
    · change (state k).motionStep.interpolator.getDuration ≤ passed k
      rw [hP.2.2]
      exact hk
  obtain ⟨m, hnm, hm⟩ := hover n ⟨rfl, rfl, rfl⟩
  rcases hm with hQ | hm
  · exact ⟨m + 1, hnm.trans (Nat.le_succ m), hQ⟩
  · obtain ⟨l, hml, hl⟩ := hmet m hm
    exact ⟨l + 1, (hnm.trans hml).trans (Nat.le_succ l), hl.elim id (hdone l)⟩

end run

/-- Where (Normal, Running) comes next in a reachable state, the flag of the goal is right. -/
theorem executing_of_next (configurations : TrajectoryConfiguration α) (es : List (Action α))
    (hnext : (run step (init configurations) es).control.next = (.normal, .running))
    (hramp : (run step (init configurations) es).events.doRampDown = false) :
    (run step (init configurations) es).Executing := by
  have hs := Recorded.consistent_run configurations es
  rw [Recorded.motion_run] at hs
  refine ⟨hs.legal, hnext, hramp, ?_⟩
  have hnormal : (run step (init configurations) es).control.next.1 = .normal :=
    congrArg Prod.fst hnext
  cases hstate : (run step (init configurations) es).control.manager.currentState with
  | normal => exact hs.normal hstate
  | staticGoal => exact absurd hnormal (Control.next_ne_normal hs.legal hstate)
  | rampDown =>
      cases hupdated : (run Recorded.step (Recorded.init configurations) es).updated with
      | true => exact (hs.ramped hupdated).2.2
      | false => exact absurd hnormal (hs.pending hstate hupdated)

/-- **Every queued point is retrieved in the end**, in order and once: if (Normal, Running) comes next
and no ramp down has been ordered, if then callbacks of the session follow in which the states stay ok and
time passes, and if the robot again and again is where the active goal wants it to be, then after finitely
many of them all points have been retrieved, and the machine stays idle. -/
theorem trajectories_completed [IsStrictOrderedRing α] [Archimedean α]
    (configurations : TrajectoryConfiguration α) (es : List (Action α)) (outputs : ℕ → Output α)
    (inputs : ℕ → InputContainer α) {sampleTime : α} (hpos : 0 < sampleTime)
    (hinputs : Session sampleTime inputs)
    (hnext : (run step (init configurations) es).control.next = (.normal, .running))
    (hramp : (run step (init configurations) es).events.doRampDown = false)
    (hreached : Recurs fun n => ((run step (run step (init configurations) es)
      (callbacks outputs inputs n)).receive (inputs n)).motionStep.conditionMet = true) :
    let t := run step (init configurations) es
    ∃ n, ∀ m, n ≤ m →
      (run step t (callbacks outputs inputs m)).trajectories.pCurrent = none ∧
        (run step t (callbacks outputs inputs m)).trajectories.primaryQueue = [] ∧
        (run step t (callbacks outputs inputs m)).data.hasActiveGoal = false ∧
        collect step retrieves t (callbacks outputs inputs m) = t.control.queuedPoints := by
  intro t
  have ht : t.Executing := executing_of_next configurations es hnext hramp
  obtain ⟨n, -, hn⟩ := leadsTo_zero (fun k hk => ht.advances outputs hinputs hpos hreached k hk) 0
  refine ⟨n, fun m hnm => ?_⟩
  have hzero : (run step t (callbacks outputs inputs m)).control.workload = 0 := by
    induction m, hnm using Nat.le_induction with
    | base => exact hn
    | succ m hnm ih => exact Nat.le_zero.mp ((ht.workload_succ outputs hinputs m).trans ih.le)
  obtain ⟨hcurrent, hqueue⟩ := Control.workload_eq_zero hzero
  have hexecuting := ht.run outputs hinputs m
  have hpoints := ht.points_run outputs hinputs m
  refine ⟨hcurrent, hqueue, ?_, ?_⟩
  · exact Bool.eq_false_iff.mpr fun hactive => hexecuting.tracks.mp hactive hcurrent
  · rw [← hpoints, Control.queuedPoints, hcurrent, hqueue]
    simp

/-- A point that is passed, and one at which the robot is already. -/
def twoPoints : List (PointGoal ℚ) :=
  [Evaluation.point 1 [1, 0, 0, 0, 0, 0], Evaluation.point 1 Evaluation.home]

def pointsQueued : List (Action ℚ) :=
  [.generateOutputs {} Evaluation.first, .call (.addTrajectory ⟨twoPoints⟩ false)]

/-- A robot that does not move. -/
def atRest (n : ℕ) : List (Action ℚ) := callbacks (fun _ => {}) (fun _ => Evaluation.next) n

theorem trajectories_completed_two_points :
    ∃ n, ∀ m, n ≤ m → collect step retrieves (run step (init Evaluation.configurations) pointsQueued)
      (atRest m) = twoPoints := by
  let t : TrajectoryMotion ℚ := run step (init Evaluation.configurations) pointsQueued
  have hsession : Session (1 : ℚ) fun _ => Evaluation.next :=
    ⟨fun _ => by decide +kernel, fun _ => by decide +kernel, fun _ => by decide +kernel⟩
  -- the fourth callback and all later ones change nothing
  have hidle (n : ℕ) : run step t (atRest (3 + n)) = run step t (atRest 3) := by
    induction n with
    | zero => rfl
    | succ n ih =>
        rw [← Nat.add_assoc, atRest, run_callbacks]
        rw [atRest] at ih
        rw [ih]
        decide +kernel
  have hreached : Recurs fun n =>
      ((run step t (atRest n)).receive Evaluation.next).motionStep.conditionMet = true := by
    intro n
    refine ⟨3 + n, Nat.le_add_left n 3, ?_⟩
    dsimp only
    rw [hidle]
    decide +kernel
  obtain ⟨n, hn⟩ := trajectories_completed Evaluation.configurations pointsQueued (fun _ => {})
    (fun _ => Evaluation.next) one_pos hsession (by decide +kernel) (by decide +kernel) hreached
  refine ⟨n, fun m hm => (hn m hm).2.2.2.trans ?_⟩
  decide +kernel

end TrajectoryMotion

end AbbWrapper
