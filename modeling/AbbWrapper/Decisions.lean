import AbbWrapper.Control

/-! # What the rules decide

The consequences of the rules of `Control.lean` that every invariant uses.

* What a turn leaves unchanged: one frame lemma for each operation (`NextGoal.frame`, `request_frame`,
  `store_frame`, …).
* `Legal` says that a pending state is one that `setPendingState` accepts in the current state; it holds
  after every step (`Step.legal`).  `next` is the state that the next callback with ok states processes.
* `Decides` is the relation from the events and the state that is processed to the events and the state
  that comes next.  Every turn is in it (`Turn.decides`), and most invariants are proved by cases on it.
* `quiet` turns retrieve neither points nor trajectories: these are retrieved only in, or on the way to,
  (Normal, Running) (`Turn.quiet`).
* `order`, `enqueue` and `call` are what the commands of the user write.

`Step` collects the rules and the commands into the transition relation of the control part. -/

namespace AbbWrapper

open Protobuf

variable {α : Type}

namespace Control

/-! ### What the rules leave unchanged -/

/-- `updateNormalGoal` writes to the goal and to `p_current` only. -/
theorem NextGoal.frame {c c' : Control α} (h : NextGoal c c') :
    c'.manager = c.manager ∧ c'.events = c.events ∧ c'.primaryQueue = c.primaryQueue ∧
      c'.temporaryQueue = c.temporaryQueue := by
  cases h <;> exact ⟨rfl, rfl, rfl, rfl⟩

/-- A request writes to the pending state only. -/
@[simp] theorem request_frame (c : Control α) (state : States) (subState : SubStates) :
    (c.request state subState).events = c.events ∧
      (c.request state subState).hasActiveGoal = c.hasActiveGoal ∧
      (c.request state subState).pCurrent = c.pCurrent ∧
      (c.request state subState).primaryQueue = c.primaryQueue ∧
      (c.request state subState).temporaryQueue = c.temporaryQueue ∧
      (c.request state subState).externalGoal = c.externalGoal ∧
      (c.request state subState).trace =
        c.trace ++ [.requested state subState (c.manager.accepts state subState)] :=
  ⟨rfl, rfl, rfl, rfl, rfl, rfl, rfl⟩

/-- `storeNormalGoal` writes to `p_current` and the external goal only. -/
@[simp] theorem store_frame (c : Control α) (duration : α) :
    (c.store duration).manager = c.manager ∧ (c.store duration).events = c.events ∧
      (c.store duration).primaryQueue = c.primaryQueue ∧
      (c.store duration).temporaryQueue = c.temporaryQueue ∧
      (c.store duration).trace = c.trace := by
  unfold store
  split <;> exact ⟨rfl, rfl, rfl, rfl, rfl⟩

/-- Putting `p_current` back writes to it and the primary queue only. -/
@[simp] theorem pushCurrentFront_frame (c : Control α) :
    c.pushCurrentFront.manager = c.manager ∧ c.pushCurrentFront.events = c.events ∧
      c.pushCurrentFront.temporaryQueue = c.temporaryQueue ∧
      c.pushCurrentFront.trace = c.trace ∧ c.pushCurrentFront.pCurrent = none := by
  unfold pushCurrentFront
  split
  · exact ⟨rfl, rfl, rfl, rfl, ‹_›⟩
  · exact ⟨rfl, rfl, rfl, rfl, rfl⟩

/-- A static goal does not touch the queues, nor the events of the ramp down. -/
@[simp] theorem applyStaticGoal_frame (c : Control α) :
    c.applyStaticGoal.manager = c.manager ∧
      c.applyStaticGoal.pCurrent = c.pCurrent ∧
      c.applyStaticGoal.primaryQueue = c.primaryQueue ∧
      c.applyStaticGoal.temporaryQueue = c.temporaryQueue ∧
      c.applyStaticGoal.events.doStop = c.events.doStop ∧
      c.applyStaticGoal.events.doResume = c.events.doResume ∧
      c.applyStaticGoal.events.doDiscard = c.events.doDiscard ∧
      c.applyStaticGoal.events.doStaticGoalStart = c.events.doStaticGoalStart ∧
      c.applyStaticGoal.events.doRampDown = c.events.doRampDown ∧
      c.applyStaticGoal.events.doStaticGoalFinish = c.events.doStaticGoalFinish := by
  unfold applyStaticGoal
  simp only
  split_ifs <;> exact ⟨rfl, rfl, rfl, rfl, rfl, rfl, rfl, rfl, rfl, rfl⟩

@[simp] theorem setPendingState_current (s : StateManager) (state : States)
    (subState : SubStates) :
    (s.setPendingState state subState).currentState = s.currentState ∧
      (s.setPendingState state subState).currentSubState = s.currentSubState := by
  unfold StateManager.setPendingState
  split <;> exact ⟨rfl, rfl⟩

/-- A request takes effect in the next callback. -/
@[simp] theorem request_current (c : Control α) (state : States) (subState : SubStates) :
    (c.request state subState).manager.currentState = c.manager.currentState ∧
      (c.request state subState).manager.currentSubState = c.manager.currentSubState :=
  setPendingState_current c.manager state subState

/-- The state that was processed is the state after the callback. -/
theorem Turn.current {c c' : Control α} (h : Turn c c') :
    c'.manager.currentState = c.manager.currentState ∧
      c'.manager.currentSubState = c.manager.currentSubState := by
  cases h with
  | advance _ _ _ _ _ hgoal => simp [hgoal.frame.1]
  | take _ _ _ _ _ _ _ _ hgoal => simp [hgoal.frame.1, log]
  | resume _ _ _ _ _ _ hgoal => simp [hgoal.frame.1, setEvents, handle]
  | rampedDown _ _ _ _ hgoal => simp [hgoal.frame.1, setEvents, handle]
  | startRampDown => split_ifs <;> simp [setGoal]
  | executeStaticGoal => split_ifs <;> simp
  | _ => simp [log, setGoal, setEvents, handle]

theorem Turn.verifyState {c c' : Control α} (h : Turn c c') (state : States)
    (subState : SubStates) :
    c'.manager.verifyState state subState = c.manager.verifyState state subState := by
  simp [StateManager.verifyState, h.current]

/-- A pending state is one that `setPendingState` accepts in the current state. -/
def Legal (s : StateManager) : Prop :=
  s.hasPendingState = true → s.accepts s.pendingState s.pendingSubState = true

/-- The state the next callback with ok states processes, unless a session starts. -/
def next (c : Control α) : States × SubStates :=
  (c.manager.updateState.currentState, c.manager.updateState.currentSubState)

theorem next_of_not_pending {c : Control α} (h : c.manager.hasPendingState = false) :
    c.next = (c.manager.currentState, c.manager.currentSubState) := by
  simp [next, StateManager.updateState, h]

theorem next_of_pending {c : Control α} (h : c.manager.hasPendingState = true) :
    c.next = (c.manager.pendingState, c.manager.pendingSubState) := by
  simp [next, StateManager.updateState, h]

theorem next_eq_iff {c : Control α} {state : States} {subState : SubStates} :
    c.next = (state, subState) ↔ c.updateState.manager.verifyState state subState = true := by
  rw [StateManager.verifyState, decide_eq_true_eq, next, Prod.mk.injEq]
  rfl

/-- An accepted request is what the next callback processes. -/
theorem next_request {c : Control α} {state : States} {subState : SubStates}
    (h : c.manager.accepts state subState = true) :
    (c.request state subState).next = (state, subState) := by
  simp [next, request, StateManager.setPendingState, StateManager.updateState, h]

/-- The next callback processes the state, or what it accepts of a request. -/
theorem next_cases {c : Control α} (h : Legal c.manager) {state : States} {subState : SubStates}
    (hv : c.manager.verifyState state subState = true) :
    c.next = (state, subState) ∨ c.manager.hasPendingState = true ∧
      c.next = (c.manager.pendingState, c.manager.pendingSubState) ∧
      { c.manager with currentState := state, currentSubState := subState }.accepts
        c.manager.pendingState c.manager.pendingSubState = true := by
  simp only [StateManager.verifyState, decide_eq_true_eq] at hv
  obtain ⟨rfl, rfl⟩ := hv
  cases hp : c.manager.hasPendingState with
  | false => exact .inl (next_of_not_pending hp)
  | true => exact .inr ⟨rfl, next_of_pending hp, h hp⟩

theorem next_of_inactive {c : Control α} (h : Legal c.manager)
    (hv : c.manager.verifyState .normal .none = true) : c.next = (.normal, .none) := by
  rcases next_cases h hv with hnext | ⟨-, -, haccepts⟩
  · exact hnext
  · simp [StateManager.accepts] at haccepts

theorem verifyState_of_next {c : Control α} (h : Legal c.manager) (hnext : c.next ≠ (.normal, .none)) :
    c.manager.verifyState .normal .none = false := by
  cases hv : c.manager.verifyState .normal .none with
  | false => rfl
  | true => exact absurd (next_of_inactive h hv) hnext

theorem next_of_normal {c : Control α} (h : Legal c.manager)
    (hv : c.manager.verifyState .normal .running = true) :
    c.next = (.normal, .running) ∨ c.next = (.rampDown, .none) := by
  rcases next_cases h hv with hnext | ⟨-, hnext, haccepts⟩
  · exact .inl hnext
  · simp only [StateManager.accepts, decide_eq_true_eq] at haccepts
    exact .inr (by rw [hnext, haccepts.1, haccepts.2])

theorem next_of_rampDown {c : Control α} (h : Legal c.manager)
    (hv : c.manager.verifyState .rampDown .finished = true) :
    c.next = (.rampDown, .finished) ∨ c.next = (.normal, .running) ∨
      c.next = (.staticGoal, .none) := by
  rcases next_cases h hv with hnext | ⟨-, hnext, haccepts⟩
  · exact .inl hnext
  · simp only [StateManager.accepts, decide_eq_true_eq] at haccepts
    rcases haccepts with ⟨hstate, hsub⟩ | ⟨hstate, hsub⟩
    · exact .inr (.inl (by rw [hnext, hstate, hsub]))
    · exact .inr (.inr (by rw [hnext, hstate, hsub]))

theorem next_of_staticGoal {c : Control α} (h : Legal c.manager)
    (hv : c.manager.verifyState .staticGoal .running = true) :
    c.next = (.staticGoal, .running) ∨ c.next = (.staticGoal, .finished) ∨
      c.next = (.rampDown, .none) ∧ c.manager.hasPendingState = true ∧
        c.manager.pendingState = .rampDown := by
  rcases next_cases h hv with hnext | ⟨hp, hnext, haccepts⟩
  · exact .inl hnext
  · simp only [StateManager.accepts, decide_eq_true_eq] at haccepts
    rcases haccepts with ⟨hstate, hsub⟩ | ⟨hstate, hsub⟩
    · exact .inr (.inl (by rw [hnext, hstate, hsub]))
    · exact .inr (.inr ⟨by rw [hnext, hstate, hsub], hp, hstate⟩)

/-- From StaticGoal no callback leads to Normal directly. -/
theorem next_ne_normal {c : Control α} (h : Legal c.manager)
    (hstate : c.manager.currentState = .staticGoal) : c.next.1 ≠ .normal := by
  cases hp : c.manager.hasPendingState with
  | false => simp [next_of_not_pending hp, hstate]
  | true =>
      have haccepts := h hp
      rw [next_of_pending hp]
      cases hsub : c.manager.currentSubState <;>
        simp only [StateManager.accepts, hstate, hsub, decide_eq_true_eq] at haccepts
      · simp [haccepts.1]
      · rcases haccepts with h | h <;> simp [h.1]
      · simp [haccepts.1]

theorem legal_setPendingState {s : StateManager} (h : Legal s) (state : States)
    (subState : SubStates) : Legal (s.setPendingState state subState) := by
  unfold StateManager.setPendingState
  split
  next hacc => exact fun _ => hacc
  next => exact h

theorem Turn.legal {c c' : Control α} (h : Turn c c')
    (hc : c.manager.hasPendingState = false) : Legal c'.manager := by
  have hlegal : Legal c.manager := fun h => absurd h (by simp [hc])
  have hrequest (d : Control α) (hd : d.manager = c.manager) (state : States)
      (subState : SubStates) : Legal (d.request state subState).manager :=
    legal_setPendingState (s := d.manager) (hd ▸ hlegal) state subState
  cases h with
  | shouldNeverOccur => exact hlegal
  | interrupt => exact hrequest c rfl _ _
  | «continue» => exact hlegal
  | advance _ _ _ _ _ hgoal => exact hgoal.frame.1 ▸ hlegal
  | take _ _ _ _ _ _ _ _ hgoal => exact hgoal.frame.1 ▸ hlegal
  | startRampDown => exact hrequest _ (by split_ifs <;> simp [setGoal]) _ _
  | continueRampDown => exact hlegal
  | finishRampDown => exact hrequest c rfl _ _
  | wait => exact hlegal
  | enterStaticGoal => exact hrequest _ rfl _ _
  | resume _ _ _ _ _ _ hgoal => exact hrequest _ hgoal.frame.1 _ _
  | rampedDown _ _ _ _ hgoal => exact hrequest _ hgoal.frame.1 _ _
  | startStaticGoal => exact hrequest _ (by simp [setGoal]) _ _
  | executeStaticGoal =>
      split_ifs
      · exact hrequest _ (by simp) _ _
      · exact hrequest _ (by simp) _ _
      · exact (applyStaticGoal_frame c).1 ▸ hlegal
  | finishStaticGoal => exact hrequest _ rfl _ _

@[simp] theorem updateState_hasPendingState (s : StateManager) :
    s.updateState.hasPendingState = false := by
  unfold StateManager.updateState
  split
  next => rfl
  next h => exact Bool.eq_false_iff.mpr h

@[simp] theorem reset_frame (c : Control α) (duration : α) :
    (c.reset duration).events = c.events ∧
      (c.reset duration).temporaryQueue = c.temporaryQueue ∧
      (c.reset duration).trace = c.trace ∧ (c.reset duration).manager = .init ∧
      (c.reset duration).pCurrent = none := by
  simp [reset, setGoal, StateManager.reset]

/-- `prepare` keeps the events whatever it resets. -/
@[simp] theorem prepare_frame (c : Control α) (firstMessage statesOk : Bool) (duration : α) :
    (c.prepare firstMessage statesOk duration).events = c.events ∧
      (c.prepare firstMessage statesOk duration).trace = c.trace := by
  unfold prepare checkStates setGoal
  cases firstMessage <;> cases statesOk <;> simp <;> split_ifs <;> simp

@[simp] theorem prepare_ok_temporaryQueue (c : Control α) (firstMessage : Bool) (duration : α) :
    (c.prepare firstMessage true duration).temporaryQueue = c.temporaryQueue := by
  unfold prepare checkStates setGoal
  cases firstMessage <;> simp <;> split_ifs <;> simp

theorem prepare_temporaryQueue (c : Control α) (firstMessage statesOk : Bool) (duration : α) :
    (c.prepare firstMessage statesOk duration).temporaryQueue = c.temporaryQueue ∨
      (c.prepare firstMessage statesOk duration).temporaryQueue = [] := by
  unfold prepare checkStates setGoal
  cases firstMessage <;> cases statesOk <;> simp <;> split_ifs <;> simp

/-- Within a session, `prepare` resets nothing. -/
theorem prepare_session (c : Control α) (duration : α)
    (h : c.manager.verifyState .normal .none = false) :
    c.prepare false true duration = c.setGoal false c.hasActiveGoal := by
  simp [prepare, checkStates, h]

/-- At a session's start, `prepare` leads to (Normal, Running). -/
theorem next_prepare_start (c : Control α) (h : Legal c.manager) (firstMessage : Bool)
    (duration : α) (hstart : firstMessage = true ∨ c.manager.verifyState .normal .none = true) :
    (c.prepare firstMessage true duration).next = (.normal, .running) := by
  cases firstMessage with
  | true =>
      simp [prepare, checkStates, StateManager.verifyState, StateManager.init, setGoal,
        StateManager.activateStateManager, next, StateManager.updateState]
  | false =>
      have hv : c.manager.verifyState .normal .none = true := by simpa using hstart
      have hp : c.manager.hasPendingState = false := by
        simp only [StateManager.verifyState, decide_eq_true_eq] at hv
        cases hp : c.manager.hasPendingState with
        | false => rfl
        | true =>
            have haccepts := h hp
            simp [StateManager.accepts, hv] at haccepts
      simp [prepare, checkStates, hv, setGoal, StateManager.activateStateManager, next,
        StateManager.updateState, hp]

theorem legal_prepare {c : Control α} (h : Legal c.manager) (firstMessage statesOk : Bool)
    (duration : α) : Legal (c.prepare firstMessage statesOk duration).manager := by
  have hinit : Legal StateManager.init := fun h => absurd h (by simp [StateManager.init])
  have hactivate {s : StateManager} (hs : Legal s) (hv : s.verifyState .normal .none = true) :
      Legal s.activateStateManager := by
    intro hpending
    simp only [StateManager.verifyState, decide_eq_true_eq] at hv
    have hfalse := hs hpending
    simp [StateManager.accepts, hv] at hfalse
  have hcheck {d : Control α} (hd : Legal d.manager) :
      Legal (d.checkStates statesOk duration).manager := by
    unfold checkStates
    split_ifs with hok hv hv
    · exact hactivate hd hv
    · exact hd
    · simpa using hinit
    · exact hd
  unfold prepare
  cases firstMessage with
  | true => exact hcheck (by simpa using hinit)
  | false => exact hcheck h

/-! ### Decisions

The events and the state alone decide what state comes next; the queues and the goals do not. -/

/-- The events after those of a finished ramp down are handled. -/
def handled (e : PendingEvents α) : PendingEvents α :=
  { e with doDurationFactorUpdate := false, doDiscard := false }

/-- The events after a stop has been resumed. -/
def resumed (e : PendingEvents α) : PendingEvents α :=
  { handled e with doRampDown := false, doStop := false, doResume := false }

/-- The events after a pending static goal has been applied. -/
def applied (e : PendingEvents α) : PendingEvents α :=
  if e.doStaticPositionGoalUpdate && !e.doRampDown then
    { e with staticPositionGoal := {}, doStaticPositionGoalUpdate := false }
  else if e.doStaticVelocityGoalUpdate && !e.doRampDown then
    { e with staticVelocityGoal := {}, doStaticVelocityGoalUpdate := false }
  else e

/-- The events after the static goals have been finished. -/
def left (e : PendingEvents α) : PendingEvents α :=
  { e with
    doStaticGoalStart := false
    doStaticGoalFinish := false
    doStaticPositionGoalUpdate := false
    doStaticVelocityGoalUpdate := false
    doRampDown := true
    doStop := true }

/-- From events and the state that is processed to events and the state that comes next. -/
inductive Decides (e : PendingEvents α) :
    States × SubStates → PendingEvents α → States × SubStates → Prop where
  | shouldNeverOccur (subState : SubStates) (h : subState ≠ .running) :
      Decides e (.normal, subState) e (.normal, subState)
  | interrupt (hramp : e.doRampDown = true) : Decides e (.normal, .running) e (.rampDown, .none)
  | execute (hramp : e.doRampDown = false) : Decides e (.normal, .running) e (.normal, .running)
  | startRampDown : Decides e (.rampDown, .none) e (.rampDown, .running)
  | continueRampDown : Decides e (.rampDown, .running) e (.rampDown, .running)
  | finishRampDown : Decides e (.rampDown, .running) e (.rampDown, .finished)
  | wait (hstop : e.doStop = true) (hresume : e.doResume = false) :
      Decides e (.rampDown, .finished) (handled e) (.rampDown, .finished)
  | enterStaticGoal (hstop : e.doStop = true) (hresume : e.doResume = true)
      (hstatic : e.doStaticGoalStart = true) :
      Decides e (.rampDown, .finished) (resumed e) (.staticGoal, .none)
  | resume (hstop : e.doStop = true) (hresume : e.doResume = true)
      (hstatic : e.doStaticGoalStart = false) :
      Decides e (.rampDown, .finished) (resumed e) (.normal, .running)
  | rampedDown (hstop : e.doStop = false) :
      Decides e (.rampDown, .finished) { handled e with doRampDown := false } (.normal, .running)
  | startStaticGoal : Decides e (.staticGoal, .none) e (.staticGoal, .running)
  | executeStaticGoal (hfinish : e.doStaticGoalFinish = false) (hramp : e.doRampDown = false) :
      Decides e (.staticGoal, .running) (applied e) (.staticGoal, .running)
  | interruptStaticGoal (hfinish : e.doStaticGoalFinish = false) (hramp : e.doRampDown = true) :
      Decides e (.staticGoal, .running) e (.rampDown, .none)
  | finishStaticGoal (hfinish : e.doStaticGoalFinish = true) :
      Decides e (.staticGoal, .running) (applied e) (.staticGoal, .finished)
  | leaveStaticGoal : Decides e (.staticGoal, .finished) (left e) (.rampDown, .none)

@[simp] theorem applied_frame (e : PendingEvents α) :
    (applied e).doStop = e.doStop ∧ (applied e).doResume = e.doResume ∧
      (applied e).doDiscard = e.doDiscard ∧ (applied e).doRampDown = e.doRampDown ∧
      (applied e).doStaticGoalStart = e.doStaticGoalStart ∧
      (applied e).doStaticGoalFinish = e.doStaticGoalFinish := by
  unfold applied
  split_ifs <;> exact ⟨rfl, rfl, rfl, rfl, rfl, rfl⟩

theorem applyStaticGoal_events (c : Control α) : c.applyStaticGoal.events = applied c.events := by
  unfold applyStaticGoal applied
  simp only
  split_ifs <;> rfl

/-- **A turn decides** by the events and the state it processes. -/
theorem Turn.decides {c c' : Control α} (h : Turn c c')
    (hp : c.manager.hasPendingState = false) :
    Decides c.events (c.manager.currentState, c.manager.currentSubState) c'.events c'.next := by
  cases h with
  | shouldNeverOccur hstate hsub =>
      rw [next_of_not_pending (by exact hp)]
      simp only [log, hstate]
      exact .shouldNeverOccur _ hsub
  | interrupt hstate hsub hramp =>
      rw [next_request (by simp [StateManager.accepts, hstate, hsub]), hstate, hsub]
      exact .interrupt hramp
  | «continue» hstate hsub hramp =>
      rw [next_of_not_pending hp, hstate, hsub]
      exact .execute hramp
  | advance c' hstate hsub hramp hne hgoal =>
      obtain ⟨hmanager, hevents, -⟩ := hgoal.frame
      rw [next_of_not_pending (hmanager ▸ hp), hmanager, hevents, hstate, hsub]
      exact .execute hramp
  | take next queue c' hstate hsub hramp hne hqueue hgoal =>
      obtain ⟨hmanager, hevents, -⟩ := hgoal.frame
      rw [next_of_not_pending (hmanager ▸ hp), hmanager, hevents]
      simp only [log, hstate, hsub]
      exact .execute hramp
  | startRampDown duration hstate hsub =>
      have hmanager : (if c.hasActiveGoal then c.store duration else c).manager = c.manager := by
        split <;> simp
      have hevents : (if c.hasActiveGoal then c.store duration else c).events = c.events := by
        split <;> simp
      rw [next_request (by simp [StateManager.accepts, setGoal, hmanager, hstate, hsub]), hstate,
        hsub]
      simp only [request_frame, setGoal, hevents]
      exact .startRampDown
  | continueRampDown hstate hsub =>
      rw [next_of_not_pending hp, hstate, hsub]
      exact .continueRampDown
  | finishRampDown hstate hsub =>
      rw [next_request (by simp [StateManager.accepts, hstate, hsub]), hstate, hsub]
      exact .finishRampDown
  | wait hstate hsub hstop hresume =>
      rw [next_of_not_pending (by exact hp)]
      simp only [handle, hstate, hsub]
      exact .wait hstop hresume
  | enterStaticGoal hstate hsub hstop hresume hstatic =>
      rw [next_request (by simp [StateManager.accepts, setEvents, handle, hstate, hsub]), hstate,
        hsub]
      exact .enterStaticGoal hstop hresume hstatic
  | resume c' hstate hsub hstop hresume hstatic hgoal =>
      obtain ⟨hmanager, hevents, -⟩ := hgoal.frame
      rw [next_request (by simp [StateManager.accepts, hmanager, setEvents, handle, hstate, hsub]),
        hstate, hsub, (request_frame _ _ _).1, hevents]
      exact .resume hstop hresume hstatic
  | rampedDown c' hstate hsub hstop hgoal =>
      obtain ⟨hmanager, hevents, -⟩ := hgoal.frame
      rw [next_request (by simp [StateManager.accepts, hmanager, setEvents, handle, hstate, hsub]),
        hstate, hsub, (request_frame _ _ _).1, hevents]
      exact .rampedDown hstop
  | startStaticGoal hstate hsub =>
      rw [next_request (by simp [StateManager.accepts, setGoal, hstate, hsub]), hstate, hsub]
      simp only [request_frame, setGoal, pushCurrentFront_frame]
      exact .startStaticGoal
  | executeStaticGoal hstate hsub =>
      rw [hstate, hsub]
      cases hfinish : c.events.doStaticGoalFinish with
      | true =>
          simp only [if_true]
          rw [next_request (by simp [StateManager.accepts, hstate, hsub]),
            (request_frame _ _ _).1, applyStaticGoal_events]
          exact .finishStaticGoal hfinish
      | false =>
          simp only [Bool.false_eq_true, if_false]
          cases hramp : c.events.doRampDown with
          | true =>
              simp only [if_true]
              rw [next_request (by simp [StateManager.accepts, hstate, hsub]),
                (request_frame _ _ _).1, applyStaticGoal_events,
                show applied c.events = c.events by simp [applied, hramp]]
              exact .interruptStaticGoal hfinish hramp
          | false =>
              simp only [Bool.false_eq_true, if_false]
              rw [next_of_not_pending (by simpa using hp), applyStaticGoal_events,
                (applyStaticGoal_frame c).1, hstate, hsub]
              exact .executeStaticGoal hfinish hramp
  | finishStaticGoal hstate hsub =>
      rw [next_request (by simp [StateManager.accepts, setEvents, hstate, hsub]), hstate, hsub]
      exact .leaveStaticGoal

theorem applyStaticGoal_quiet (c : Control α) :
    c.applyStaticGoal.trace.filterMap Call.point? = c.trace.filterMap Call.point? ∧
      c.applyStaticGoal.trace.filterMap Call.trajectory? =
        c.trace.filterMap Call.trajectory? := by
  unfold applyStaticGoal
  simp only
  split_ifs <;> simp [log, Call.point?, Call.trajectory?]

/-- **A quiet turn**: points and trajectories are retrieved only in or on the way to
(Normal, Running). -/
theorem Turn.quiet {c c' : Control α} (h : Turn c c') (hp : c.manager.hasPendingState = false)
    (hnext : c'.next ≠ (.normal, .running)) :
    c'.trace.filterMap Call.point? = c.trace.filterMap Call.point? ∧
      c'.trace.filterMap Call.trajectory? = c.trace.filterMap Call.trajectory? := by
  have hdecides := h.decides hp
  cases h with
  | shouldNeverOccur => simp [log, Call.point?, Call.trajectory?]
  | interrupt => simp [Call.point?, Call.trajectory?]
  | «continue» => exact ⟨rfl, rfl⟩
  | advance c' hstate hsub hramp hne hgoal =>
      rw [next_of_not_pending (hgoal.frame.1 ▸ hp), hgoal.frame.1, hstate, hsub] at hnext
      exact absurd rfl hnext
  | take next queue c' hstate hsub hramp hne hqueue hgoal =>
      rw [next_of_not_pending (hgoal.frame.1 ▸ hp), hgoal.frame.1] at hnext
      exact absurd (by simp [log, hstate, hsub]) hnext
  | startRampDown => split_ifs <;> simp [setGoal, Call.point?, Call.trajectory?]
  | continueRampDown => exact ⟨rfl, rfl⟩
  | finishRampDown => simp [Call.point?, Call.trajectory?]
  | wait => exact ⟨rfl, rfl⟩
  | enterStaticGoal => simp [setEvents, handle, Call.point?, Call.trajectory?]
  | resume c' hstate hsub hstop hresume hstatic hgoal =>
      refine absurd (next_request ?_) hnext
      simp [StateManager.accepts, hgoal.frame.1, setEvents, handle, hstate, hsub]
  | rampedDown c' hstate hsub hstop hgoal =>
      refine absurd (next_request ?_) hnext
      simp [StateManager.accepts, hgoal.frame.1, setEvents, handle, hstate, hsub]
  | startStaticGoal => simp [setGoal, Call.point?, Call.trajectory?]
  | executeStaticGoal =>
      have happly := applyStaticGoal_quiet c
      split_ifs <;> simp [Call.point?, Call.trajectory?, happly]
  | finishStaticGoal => simp [setEvents, Call.point?, Call.trajectory?]

/-! ### Commands and steps -/

section commands
variable [Field α] [LinearOrder α]

/-- What an accepted command writes to the events. -/
def order (call : TrajectoryCall α) (e : PendingEvents α) : PendingEvents α :=
  match call with
  | .addTrajectory _ override => if override then e.overrideTrajectories else e
  | .stopTrajectory discard => e.stopTrajectory discard
  | .resumeTrajectory => e.resumeTrajectory
  | .updateDurationFactor factor => e.updateDurationFactor factor
  | .startStaticGoal discard => e.startStaticGoal discard
  | .setStaticPositionGoal goal fast => e.setStaticPositionGoal goal fast
  | .setStaticVelocityGoal goal fast => e.setStaticVelocityGoal goal fast
  | .finishStaticGoal resume => e.finishStaticGoal resume
  | .retrieveExecutionProgress => e

omit [Field α] [LinearOrder α] in
/-- What an accepted command writes to the queues. -/
def enqueue (call : TrajectoryCall α) (c : Control α) : Control α :=
  match call with
  | .addTrajectory trajectory override =>
      if override then { c with temporaryQueue := [Trajectory.of trajectory] }
      else if c.events.doDiscard then
        { c with temporaryQueue := c.temporaryQueue ++ [Trajectory.of trajectory] }
      else { c with primaryQueue := c.primaryQueue ++ [Trajectory.of trajectory] }
  | _ => c

/-- A command, accepted or not. -/
def call (c : Control α) (call : TrajectoryCall α) : Control α :=
  if call.acceptedIn c.manager then (enqueue call c).setEvents (order call c.events) else c

/-- What can happen to the control part of a trajectory motion. -/
inductive Step (c : Control α) : Action α → Control α → Prop where
  | ok (outputs : Output α) (inputs : InputContainer α) (duration : α) (c' : Control α)
      (hok : inputs.statesOk = true)
      (hturn : Turn (({ c with trace := [] }.prepare inputs.firstMessage true
        duration).updateState) c') : Step c (.generateOutputs outputs inputs) c'
  | notOk (outputs : Output α) (inputs : InputContainer α) (duration : α)
      (hok : inputs.statesOk = false) : Step c (.generateOutputs outputs inputs)
        ({ c with trace := [] }.prepare inputs.firstMessage false duration)
  | call (call : TrajectoryCall α) : Step c (.call call) (c.call call)
  | updateConfigurations (configurations : TrajectoryConfiguration α) :
      Step c (.updateConfigurations configurations) c

omit [Field α] [LinearOrder α] in
theorem enqueue_frame (call : TrajectoryCall α) (c : Control α) :
    (enqueue call c).manager = c.manager ∧ (enqueue call c).pCurrent = c.pCurrent ∧
      (enqueue call c).externalGoal = c.externalGoal ∧ (enqueue call c).trace = c.trace ∧
      (enqueue call c).hasActiveGoal = c.hasActiveGoal := by
  unfold enqueue
  split
  · split_ifs <;> exact ⟨rfl, rfl, rfl, rfl, rfl⟩
  · exact ⟨rfl, rfl, rfl, rfl, rfl⟩

/-- A command writes to the events and the queues only. -/
@[simp] theorem call_frame (c : Control α) (call : TrajectoryCall α) :
    (c.call call).manager = c.manager ∧ (c.call call).pCurrent = c.pCurrent ∧
      (c.call call).externalGoal = c.externalGoal ∧ (c.call call).trace = c.trace ∧
      (c.call call).hasActiveGoal = c.hasActiveGoal := by
  unfold Control.call
  split
  · exact enqueue_frame call c
  · exact ⟨rfl, rfl, rfl, rfl, rfl⟩

theorem call_next (c : Control α) (call : TrajectoryCall α) : (c.call call).next = c.next := by
  simp only [next, call_frame]

theorem call_rejected {c : Control α} {call : TrajectoryCall α}
    (h : call.acceptedIn c.manager = false) : c.call call = c := by
  rw [Control.call, if_neg (by simp [h])]

theorem call_events {c : Control α} {call : TrajectoryCall α}
    (h : call.acceptedIn c.manager = true) : (c.call call).events = order call c.events := by
  rw [Control.call, if_pos h]
  rfl

/-- A pending state is always legal. -/
theorem Step.legal {c c' : Control α} {a : Action α} (h : Step c a c')
    (hc : Legal c.manager) : Legal c'.manager := by
  cases h with
  | ok outputs inputs duration c' hok hturn => exact hturn.legal (by simp [updateState])
  | notOk outputs inputs duration hok => exact legal_prepare (c := { c with trace := [] }) hc _ _ _
  | call call => simpa using hc
  | updateConfigurations configurations => exact hc

end commands

end Control

end AbbWrapper
