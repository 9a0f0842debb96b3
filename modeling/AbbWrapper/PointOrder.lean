import Mathlib.Data.List.Infix
import AbbWrapper.QueueDiscard

/-! # The order of the trajectory points

The points that remain to be executed are those accepted last, in the order in which they were
accepted.  The active goal is stored back to the front of its trajectory when a ramp down starts
and when a session starts; as a ramp down is followed by the retrieval of a goal, the goal is
stored exactly while the next state to be processed lies between the two.  A session that starts
in between stores it a second time.

* Points are compared without their durations (`PointGoal.bare`), which are scaled and stored back.
* `remainingPoints` are the active goal, unless it has been stored back (`goalStored`), and then the
  points of `p_current` and of the trajectories in the primary queue.
* `Ordered` is the invariant: the remaining points are a suffix of those accepted so far.
* `WithoutDiscard` and `StoresOnce` are about single steps: states are ok and no command overrides or
  discards, and no session starts while a goal that has been stored back is in its trajectory.

No point is lost, duplicated or reordered along such steps (`points_in_order`); a session that starts
during a ramp down duplicates one (`point_duplicated`). -/

namespace AbbWrapper

open Protobuf Runs

variable {α : Type}

/-- A point without its duration. -/
def PointGoal.bare (p : PointGoal α) : PointGoal α := { p with duration := .absent }

namespace Control

/-- The active goal has been stored back, as (RampDown, None) was processed. -/
def goalStored (c : Control α) : Bool :=
  match c.next with
  | (.rampDown, .running) | (.rampDown, .finished) | (.staticGoal, _) => true
  | _ => false

/-- The active normal goal, unless it has been stored back. -/
def normalGoal (c : Control α) : List (PointGoal α) :=
  if c.pCurrent.isSome && c.hasActiveGoal && !c.goalStored then [c.externalGoal] else []

/-- The points of `p_current` and of the trajectories in the primary queue. -/
def queuedPoints (c : Control α) : List (PointGoal α) :=
  c.pCurrent.elim [] (·.points) ++ c.primaryQueue.flatMap (·.points)

/-- The points that remain to be executed, without their durations. -/
def remainingPoints (c : Control α) : List (PointGoal α) :=
  (c.normalGoal ++ c.queuedPoints).map PointGoal.bare

theorem queuedPoints_suffix (c : Control α) :
    c.queuedPoints.map PointGoal.bare <:+ c.remainingPoints := by
  rw [remainingPoints, List.map_append]
  exact List.suffix_append _ _

theorem remainingPoints_of_stored {c : Control α} (h : c.goalStored = true) :
    c.remainingPoints = c.queuedPoints.map PointGoal.bare := by
  simp [remainingPoints, normalGoal, h]

theorem remainingPoints_of_idle {c : Control α} (h : c.pCurrent = none) :
    c.remainingPoints = c.queuedPoints.map PointGoal.bare := by
  simp [remainingPoints, normalGoal, h]

/-- Storing back the active goal keeps the remaining points. -/
theorem store_queuedPoints (c : Control α) (duration : α) (hactive : c.hasActiveGoal = true)
    (hstored : c.goalStored = false) :
    (c.store duration).queuedPoints.map PointGoal.bare = c.remainingPoints := by
  unfold store
  split
  next h => rw [remainingPoints_of_idle h]
  next current h =>
    simp [remainingPoints, normalGoal, queuedPoints, h, hactive, hstored, PointGoal.bare,
      Trajectory.addTrajectoryPointFront]

@[simp] theorem pushCurrentFront_queuedPoints (c : Control α) :
    c.pushCurrentFront.queuedPoints = c.queuedPoints := by
  unfold pushCurrentFront
  split
  next h => rfl
  next current h => simp [queuedPoints, h]

/-- A turn that only moves on keeps the remaining points. -/
theorem remainingPoints_suffix {c c' : Control α} (hcurrent : c'.pCurrent = c.pCurrent)
    (hqueue : c'.primaryQueue = c.primaryQueue) (hgoal : c'.externalGoal = c.externalGoal)
    (hactive : c'.hasActiveGoal = c.hasActiveGoal)
    (hstored : c.goalStored = true → c'.goalStored = true) :
    c'.remainingPoints <:+ c.remainingPoints := by
  have hqueued : c'.queuedPoints = c.queuedPoints := by simp only [queuedPoints, hcurrent, hqueue]
  cases hs' : c'.goalStored with
  | true =>
      rw [remainingPoints_of_stored hs', hqueued]
      exact c.queuedPoints_suffix
  | false =>
      have hs : c.goalStored = false := by
        rw [Bool.eq_false_iff] at hs' ⊢
        exact fun h => hs' (hstored h)
      rw [remainingPoints, remainingPoints, hqueued]
      simp only [normalGoal, hcurrent, hactive, hgoal, hs, hs']
      exact List.suffix_refl _

/-- The next goal and the points after it are queued before, whatever state is requested then. -/
theorem NextGoal.points {c c' d : Control α} (h : NextGoal c c') (hcurrent : d.pCurrent = c'.pCurrent)
    (hqueue : d.primaryQueue = c'.primaryQueue) (hgoal : d.externalGoal = c'.externalGoal) :
    (c'.pCurrent ≠ none → c'.hasActiveGoal = true) ∧
      d.remainingPoints <:+ c.queuedPoints.map PointGoal.bare := by
  cases h with
  | empty h =>
      refine ⟨fun hne => absurd h hne, ?_⟩
      rw [remainingPoints_of_idle (hcurrent.trans h), queuedPoints, hcurrent, hqueue]
      exact List.suffix_refl _
  | found skipped goal points h =>
      refine ⟨fun _ => rfl, List.IsSuffix.map _ ?_⟩
      simp only [normalGoal, queuedPoints, h, hcurrent, hqueue, hgoal]
      split
      · exact ⟨skipped, by simp [setGoal, log]⟩
      · exact ⟨skipped ++ [goal], by simp [setGoal, log]⟩
  | exhausted points externalGoal h =>
      refine ⟨fun hne => absurd rfl hne, ?_⟩
      rw [remainingPoints_of_idle hcurrent]
      refine List.IsSuffix.map _ ?_
      simp only [queuedPoints, h, hcurrent, hqueue]
      exact ⟨points, by simp [setGoal, log]⟩

/-! ### One step -/

/-- The remaining points are those accepted last. -/
structure Ordered (accepted : List (PointGoal α)) (c : Control α) : Prop where
  legal : Legal c.manager
  discard : c.events.doDiscard = false
  active : c.pCurrent ≠ none → c.hasActiveGoal = true
  static : c.next.1 = .staticGoal → c.next.2 ≠ .none → c.pCurrent = none
  suffix : c.remainingPoints <:+ accepted.map PointGoal.bare

theorem Turn.remainingPoints {c c' : Control α} (h : Turn c c')
    (hp : c.manager.hasPendingState = false) (hdiscard : c.events.doDiscard = false)
    (hactive : c.pCurrent ≠ none → c.hasActiveGoal = true)
    (hstatic : c.next.1 = .staticGoal → c.next.2 ≠ .none → c.pCurrent = none) :
    (c'.pCurrent ≠ none → c'.hasActiveGoal = true) ∧
      (c.manager.currentState = .staticGoal → c'.pCurrent = none) ∧
      c'.remainingPoints <:+ c.remainingPoints := by
  have hnext := next_of_not_pending hp
  have hsame {c' : Control α} (hcurrent : c'.pCurrent = c.pCurrent)
      (hqueue : c'.primaryQueue = c.primaryQueue) (hgoal : c'.externalGoal = c.externalGoal)
      (hactive' : c'.hasActiveGoal = c.hasActiveGoal)
      (hidle : c.manager.currentState = .staticGoal → c.pCurrent = none)
      (hstored : c.goalStored = true → c'.goalStored = true) :
      (c'.pCurrent ≠ none → c'.hasActiveGoal = true) ∧
        (c.manager.currentState = .staticGoal → c'.pCurrent = none) ∧
        c'.remainingPoints <:+ c.remainingPoints := by
    rw [hcurrent, hactive']
    exact ⟨hactive, hidle, remainingPoints_suffix hcurrent hqueue hgoal hactive' hstored⟩
  have hempty {c' : Control α} (hidle : c.pCurrent = none) (hcurrent : c'.pCurrent = c.pCurrent)
      (hqueue : c'.primaryQueue = c.primaryQueue) :
      (c'.pCurrent ≠ none → c'.hasActiveGoal = true) ∧
        (c.manager.currentState = .staticGoal → c'.pCurrent = none) ∧
        c'.remainingPoints <:+ c.remainingPoints := by
    have hidle' := hcurrent.trans hidle
    refine ⟨fun hne => absurd hidle' hne, fun _ => hidle', ?_⟩
    rw [remainingPoints_of_idle hidle', remainingPoints_of_idle hidle, queuedPoints, queuedPoints,
      hcurrent, hqueue]
  cases h with
  | shouldNeverOccur hstate hsub =>
      exact hsame rfl rfl rfl rfl (by simp [hstate]) (by simp [goalStored, hnext, hstate])
  | interrupt hstate hsub hramp =>
      exact hsame rfl rfl rfl rfl (by simp [hstate]) (by simp [goalStored, hnext, hstate])
  | «continue» hstate hsub hramp =>
      exact hsame rfl rfl rfl rfl (by simp [hstate]) (by simp [goalStored, hnext, hstate])
  | advance c' hstate hsub hramp hcurrent hgoal =>
      obtain ⟨hactive', hpoints⟩ := hgoal.points rfl rfl rfl
      exact ⟨hactive', by simp [hstate], hpoints.trans c.queuedPoints_suffix⟩
  | take next queue c' hstate hsub hramp hcurrent hqueue hgoal =>
      obtain ⟨hactive', hpoints⟩ := hgoal.points rfl rfl rfl
      refine ⟨hactive', by simp [hstate], ?_⟩
      have hqueued : (({ c with primaryQueue := queue, pCurrent := some next } : Control α).log
          [.taken next]).queuedPoints = c.queuedPoints := by
        simp [queuedPoints, log, hcurrent, hqueue]
      rw [hqueued] at hpoints
      exact hpoints.trans c.queuedPoints_suffix
  | startRampDown duration hstate hsub =>
      refine ⟨fun _ => rfl, by simp [hstate], ?_⟩
      have hmanager : (if c.hasActiveGoal then c.store duration else c).manager = c.manager := by
        split <;> simp
      have hstored : (((if c.hasActiveGoal then c.store duration else c).setGoal true
          true).request .rampDown .running).goalStored = true := by
        rw [goalStored, next_request (by simp [StateManager.accepts, setGoal, hmanager, hstate,
          hsub])]
      have hqueued : ((if c.hasActiveGoal then c.store duration else c).queuedPoints).map
          PointGoal.bare <:+ c.remainingPoints := by
        split
        next h =>
          rw [store_queuedPoints c duration h (by simp [goalStored, hnext, hstate, hsub])]
        next => exact c.queuedPoints_suffix
      rw [remainingPoints_of_stored hstored]
      exact hqueued
  | continueRampDown hstate hsub =>
      exact hsame rfl rfl rfl rfl (by simp [hstate]) id
  | finishRampDown hstate hsub =>
      refine hsame rfl rfl rfl rfl (by simp [hstate]) fun _ => ?_
      rw [goalStored, next_request (by simp [StateManager.accepts, hstate, hsub])]
  | wait hstate hsub hstop hresume =>
      exact hsame (by simp [handle, hdiscard]) (by simp [handle, hdiscard]) rfl rfl
        (by simp [hstate]) id
  | enterStaticGoal hstate hsub hstop hresume hstatic =>
      refine hsame (by simp [handle, hdiscard, setEvents]) (by simp [handle, hdiscard, setEvents])
        rfl rfl (by simp [hstate]) fun _ => ?_
      rw [goalStored, next_request (by simp [StateManager.accepts, setEvents, handle, hstate, hsub])]
  | resume c' hstate hsub hstop hresume hstatic hgoal =>
      obtain ⟨hactive', hpoints⟩ := hgoal.points (d := c'.request .normal .running) rfl rfl rfl
      refine ⟨hactive', by simp [hstate], hpoints.trans ?_⟩
      have hqueued := c.queuedPoints_suffix
      simpa only [queuedPoints, setEvents, handle, hdiscard, Bool.false_eq_true, if_false] using hqueued
  | rampedDown c' hstate hsub hstop hgoal =>
      obtain ⟨hactive', hpoints⟩ := hgoal.points (d := c'.request .normal .running) rfl rfl rfl
      refine ⟨hactive', by simp [hstate], hpoints.trans ?_⟩
      have hqueued := c.queuedPoints_suffix
      simpa only [queuedPoints, setEvents, handle, hdiscard, Bool.false_eq_true, if_false] using hqueued
  | startStaticGoal hstate hsub =>
      refine ⟨fun hne => absurd (by simp [setGoal]) hne, fun _ => by simp [setGoal], ?_⟩
      rw [remainingPoints_of_idle (by simp [setGoal])]
      have hqueued := congrArg (List.map PointGoal.bare) c.pushCurrentFront_queuedPoints
      exact hqueued ▸ c.queuedPoints_suffix
  | executeStaticGoal hstate hsub =>
      have hidle : c.pCurrent = none := hstatic (by rw [hnext, hstate]) (by rw [hnext, hsub]; simp)
      split_ifs
      · exact hempty hidle (by simp) (by simp)
      · exact hempty hidle (by simp) (by simp)
      · exact hempty hidle (by simp) (by simp)
  | finishStaticGoal hstate hsub =>
      have hidle : c.pCurrent = none := hstatic (by rw [hnext, hstate]) (by rw [hnext, hsub]; simp)
      exact hempty hidle rfl rfl

theorem next_updateState (c : Control α) : c.updateState.next = c.next :=
  next_of_not_pending (updateState_hasPendingState _)

/-- StaticGoal is processed before its later sub-states come next. -/
theorem Decides.staticGoal {e e' : PendingEvents α} {s s' : States × SubStates}
    (h : Decides e s e' s') (hstate : s'.1 = .staticGoal) (hsub : s'.2 ≠ .none) :
    s.1 = .staticGoal := by
  cases h <;> first | rfl | exact absurd rfl hsub | cases hstate

theorem Ordered.turn {accepted : List (PointGoal α)} {c c' : Control α} (hc : Ordered accepted c)
    (h : Turn c.updateState c') : Ordered accepted c' := by
  have hp : c.updateState.manager.hasPendingState = false := updateState_hasPendingState _
  have hnext := c.next_updateState
  have hdecides : Decides c.events c.next c'.events c'.next := h.decides hp
  obtain ⟨hactive, hstatic, hsuffix⟩ := h.remainingPoints hp hc.discard hc.active
    (by rw [hnext]; exact hc.static)
  refine ⟨h.legal hp, ?_, hactive, fun hstate hsub => hstatic (hdecides.staticGoal hstate hsub), ?_⟩
  · obtain ⟨hother, hfinished⟩ := h.discard
    cases hv : c.updateState.manager.verifyState .rampDown .finished with
    | false => exact (hother hv).2.trans hc.discard
    | true => exact (hfinished hv).2.2
  · have hremaining : c.updateState.remainingPoints = c.remainingPoints := by
      simp only [Control.remainingPoints, normalGoal, goalStored, hnext]
      rfl
    exact (hremaining ▸ hsuffix).trans hc.suffix

/-- At a session's start, what is left of the current trajectory is put back. -/
theorem prepare_first (c : Control α) (duration : α) :
    (c.prepare true true duration).pCurrent = none ∧
      (c.prepare true true duration).queuedPoints = (c.store duration).queuedPoints := by
  have hreset : (c.reset duration).pCurrent = none ∧
      (c.reset duration).queuedPoints = (c.store duration).queuedPoints :=
    ⟨by simp, (c.store duration).pushCurrentFront_queuedPoints⟩
  unfold prepare checkStates
  simp only [if_true]
  split
  · exact hreset
  · exact hreset

/-- A session starts with the goal put back, unless it is in its trajectory already. -/
theorem Ordered.prepare {accepted : List (PointGoal α)} {c : Control α} (hc : Ordered accepted c)
    (firstMessage : Bool) (duration : α)
    (hfirst : firstMessage = true → c.goalStored = true → c.pCurrent = none) :
    Ordered accepted (c.prepare firstMessage true duration) := by
  have hlegal := legal_prepare hc.legal firstMessage true duration
  have hdiscard : (c.prepare firstMessage true duration).events.doDiscard = false := by
    simpa using hc.discard
  cases firstMessage with
  | true =>
      obtain ⟨hcurrent, hqueued⟩ := c.prepare_first duration
      refine ⟨hlegal, hdiscard, fun hne => absurd hcurrent hne, fun _ _ => hcurrent, ?_⟩
      have hstored : (c.store duration).queuedPoints.map PointGoal.bare = c.remainingPoints := by
        by_cases hidle : c.pCurrent = none
        · rw [remainingPoints_of_idle hidle, store, hidle]
        · refine store_queuedPoints c duration (hc.active hidle) (Bool.eq_false_iff.mpr fun h => ?_)
          exact hidle (hfirst rfl h)
      rw [remainingPoints_of_idle hcurrent, hqueued, hstored]
      exact hc.suffix
  | false =>
      cases hv : c.manager.verifyState .normal .none with
      | false =>
          rw [prepare_session c duration hv]
          exact ⟨hc.legal, hc.discard, hc.active, hc.static, hc.suffix⟩
      | true =>
          have hnext := next_prepare_start c hc.legal false duration (.inr hv)
          have hsame : c.prepare false true duration = Control.setGoal
              { c with manager := c.manager.activateStateManager } false c.hasActiveGoal := by
            simp [Control.prepare, checkStates, hv]
          have hinactive : c.goalStored = false := by
            simp [goalStored, next_of_inactive hc.legal hv]
          have hactive : (c.prepare false true duration).goalStored = false := by
            simp [goalStored, hnext]
          have hsuffix : (c.prepare false true duration).remainingPoints <:+ c.remainingPoints := by
            refine remainingPoints_suffix ?_ ?_ ?_ ?_ fun h => absurd h (by simp [hinactive])
            all_goals rw [hsame]; rfl
          refine ⟨hlegal, hdiscard, ?_, fun hstate => absurd hstate (by simp [hnext]),
            hsuffix.trans hc.suffix⟩
          rw [hsame]
          exact hc.active

end Control

/-- The commands that override or discard trajectories. -/
def TrajectoryCall.discards : TrajectoryCall α → Bool
  | .addTrajectory _ overrideTrajectories => overrideTrajectories
  | .stopTrajectory discardTrajectories => discardTrajectories
  | .startStaticGoal discardTrajectories => discardTrajectories
  | _ => false

/-- The points that a command adds if it is accepted. -/
def TrajectoryCall.points : TrajectoryCall α → List (PointGoal α)
  | .addTrajectory trajectory _ => trajectory.points
  | _ => []

namespace Control

variable [Field α] [LinearOrder α]

theorem order_doDiscard {call : TrajectoryCall α} (h : call.discards = false)
    {e : PendingEvents α} (he : e.doDiscard = false) : (order call e).doDiscard = false := by
  cases call with
  | addTrajectory trajectory override => cases override with
    | true => cases h
    | false => exact he
  | stopTrajectory discard => exact h
  | startStaticGoal discard => exact h
  | _ => exact he

/-- An accepted trajectory is queued last. -/
theorem call_points {c : Control α} {call : TrajectoryCall α} (h : call.discards = false)
    (hacc : call.acceptedIn c.manager = true) (hdiscard : c.events.doDiscard = false) :
    (c.call call).remainingPoints = c.remainingPoints ++ call.points.map PointGoal.bare := by
  obtain ⟨-, hcurrent, hgoal, -, hactive⟩ := c.call_frame call
  have hqueue : (c.call call).primaryQueue.flatMap (·.points) =
      c.primaryQueue.flatMap (·.points) ++ call.points := by
    rw [Control.call, if_pos hacc]
    cases call with
    | addTrajectory trajectory override => cases override with
      | true => cases h
      | false =>
          simp [enqueue, hdiscard, setEvents, TrajectoryCall.points, Trajectory.of_points]
    | _ => simp [enqueue, setEvents, TrajectoryCall.points]
  have hstored : (c.call call).goalStored = c.goalStored := by rw [goalStored, call_next, goalStored]
  have hnormal : (c.call call).normalGoal = c.normalGoal := by
    simp only [normalGoal, hcurrent, hgoal, hactive, hstored]
  simp only [Control.remainingPoints, hnormal, queuedPoints, hcurrent, hqueue, List.map_append,
    List.append_assoc]

theorem Ordered.call {accepted : List (PointGoal α)} {c : Control α} (hc : Ordered accepted c)
    {call : TrajectoryCall α} (h : call.discards = false) :
    Ordered (accepted ++ if call.acceptedIn c.manager then call.points else []) (c.call call) := by
  cases hacc : call.acceptedIn c.manager with
  | false =>
      rw [call_rejected hacc, if_neg (by simp), List.append_nil]
      exact hc
  | true =>
      obtain ⟨hmanager, hcurrent, -, -, hactive⟩ := c.call_frame call
      rw [if_pos rfl]
      refine ⟨hmanager ▸ hc.legal, ?_, ?_, ?_, ?_⟩
      · rw [call_events hacc]
        exact order_doDiscard h hc.discard
      · rw [hcurrent, hactive]
        exact hc.active
      · rw [call_next, hcurrent]
        exact hc.static
      · obtain ⟨lost, hlost⟩ := hc.suffix
        exact ⟨lost, by rw [call_points h hacc hc.discard, List.map_append, ← hlost,
          List.append_assoc]⟩

end Control

/-! ### Runs -/

namespace TrajectoryMotion

variable [Field α] [LinearOrder α] [Cmath α] [FloorRing α]

/-- A step without override and discard commands in which states are ok. -/
def WithoutDiscard : Action α → Prop
  | .generateOutputs _ inputs => inputs.statesOk = true
  | .call call => call.discards = false
  | .updateConfigurations _ => True

/-- No session starts while a goal that has been stored back is in its trajectory. -/
def StoresOnce (t : TrajectoryMotion α) : Action α → Prop
  | .generateOutputs _ inputs => inputs.firstMessage = true → t.control.goalStored = true →
      t.trajectories.pCurrent = none
  | _ => True

instance : ∀ a : Action α, Decidable (WithoutDiscard a)
  | .generateOutputs _ _ => inferInstanceAs (Decidable (_ = _))
  | .call _ => inferInstanceAs (Decidable (_ = _))
  | .updateConfigurations _ => .isTrue trivial

instance [DecidableEq α] (t : TrajectoryMotion α) : ∀ a, Decidable (t.StoresOnce a)
  | .generateOutputs _ _ => inferInstanceAs (Decidable (_ → _ → _))
  | .call _ => .isTrue trivial
  | .updateConfigurations _ => .isTrue trivial

/-- The points of the accepted trajectories, in the order of acceptance. -/
def acceptedPoints (t : TrajectoryMotion α) (es : List (Action α)) : List (PointGoal α) :=
  (collect step acceptedTrajectories t es).flatMap (·.points)

theorem ordered_step {accepted : List (PointGoal α)} {t : TrajectoryMotion α} {a : Action α}
    (ht : t.control.Ordered accepted) (ha : WithoutDiscard a) (ha' : t.StoresOnce a) :
    (t.step a).control.Ordered (accepted ++ t.acceptedPoints [a]) := by
  cases a with
  | updateConfigurations configurations =>
      rw [show t.acceptedPoints [.updateConfigurations configurations] = [] from rfl,
        List.append_nil]
      exact ht
  | call call =>
      have hcontrol : (t.step (.call call)).control = t.control.call call := t.control_call call
      have hpoints : t.acceptedPoints [.call call] =
          if call.acceptedIn t.stateManager then call.points else [] := by
        cases call with
        | addTrajectory trajectory override =>
            have hfst : (t.addTrajectory trajectory override).1 =
                TrajectoryCall.acceptedIn (.addTrajectory trajectory override) t.stateManager :=
              t.call_fst (.addTrajectory trajectory override) (by simp)
            simp only [acceptedPoints, collect_cons, collect_nil, acceptedTrajectories, hfst]
            split <;> simp [Trajectory.of_points, TrajectoryCall.points]
        | _ => simp [acceptedPoints, acceptedTrajectories, TrajectoryCall.points]
      rw [hcontrol, hpoints]
      exact ht.call ha
  | generateOutputs outputs inputs =>
      have hcleared : Control.Ordered accepted { t.control with trace := [] } :=
        ⟨ht.legal, ht.discard, ht.active, ht.static, ht.suffix⟩
      have hprepared := hcleared.prepare inputs.firstMessage t.remainingTime ha'
      rw [show t.acceptedPoints [.generateOutputs outputs inputs] = [] from rfl, List.append_nil]
      exact hprepared.turn (generateOutputs_ok t outputs inputs ha)

theorem ordered_run {accepted : List (PointGoal α)} {t : TrajectoryMotion α}
    {es : List (Action α)} (ht : t.control.Ordered accepted)
    (h : ∀ a ∈ es, WithoutDiscard a) (h' : Along step StoresOnce t es) :
    (run step t es).control.Ordered (accepted ++ t.acceptedPoints es) := by
  induction es generalizing t accepted with
  | nil => simpa [acceptedPoints] using ht
  | cons a es ih =>
      have hstep := ordered_step ht (h a (.head _)) h'.1
      have hrun := ih hstep (fun a ha => h a (.tail _ ha)) h'.2
      simpa [acceptedPoints] using hrun

/-- **No point is lost, duplicated or reordered** in a run without override and discard commands and
with ok states, if no session starts while a goal that has been stored back is in its trajectory:
the remaining points are the last of those accepted. -/
theorem points_in_order (configurations : TrajectoryConfiguration α) (es : List (Action α))
    (hes : ∀ a ∈ es, WithoutDiscard a) (hstarts : Along step StoresOnce (init configurations) es) :
    (run step (init configurations) es).control.remainingPoints <:+
      ((init configurations).acceptedPoints es).map PointGoal.bare := by
  have hinit : (init configurations).control.Ordered [] :=
    ⟨fun h => absurd h (by simp [init, control, StateManager.init]), rfl,
      fun hne => absurd rfl hne, fun _ _ => rfl, List.suffix_refl _⟩
  have hrun := ordered_run hinit hes hstarts
  exact hrun.suffix

/-- A trajectory of two points is being executed. -/
def executing : List (Action ℚ) := [.generateOutputs {} Evaluation.first,
  .call (.addTrajectory ⟨[Evaluation.point 10 [1, 0, 0, 0, 0, 0],
    Evaluation.point 10 [2, 0, 0, 0, 0, 0]]⟩ false), .generateOutputs {} Evaluation.next]

/-- A session starts while the first point is the active goal. -/
def continued : List (Action ℚ) := executing ++ [.generateOutputs {} Evaluation.first]

theorem points_in_order_session :
    (run step (init Evaluation.configurations) continued).control.remainingPoints <:+
      ((init Evaluation.configurations).acceptedPoints continued).map PointGoal.bare := by
  have hstates : ∀ a ∈ continued, WithoutDiscard a := by decide +kernel
  have hstarts : Along step StoresOnce (init Evaluation.configurations) continued := by
    decide +kernel
  exact points_in_order Evaluation.configurations continued hstates hstarts

/-- The execution is stopped, and a session starts during the ramp down. -/
def restarted : List (Action ℚ) := executing ++ [.call (.stopTrajectory false),
  .generateOutputs {} Evaluation.next, .generateOutputs {} Evaluation.next,
  .generateOutputs {} Evaluation.first]

/-- The goal has been stored back as the ramp down started, and is stored again: its point is
duplicated. -/
theorem point_duplicated :
    (∀ a ∈ restarted, WithoutDiscard a) ∧
    (run step (init Evaluation.configurations) restarted).control.remainingPoints.length = 3 ∧
    ¬ (run step (init Evaluation.configurations) restarted).control.remainingPoints <:+
      ((init Evaluation.configurations).acceptedPoints restarted).map PointGoal.bare := by
  decide +kernel

end TrajectoryMotion

end AbbWrapper
