import AbbWrapper.Refinement

/-! # The transition graph of the state manager

`Edge` is the graph in which the state manager is meant to move.  The requests that
`setPendingState` accepts are exactly the edges out of the active states (`accepts_iff`), a pending
state is the target of an edge, and a step of the machine moves along one edge, resets, or stays
(`Moves`).

* A state of the graph is a state with its sub-state; `current` and `pending` are those of the manager.
* `Call.Sound` says of an entry of the trace that it is a request that is accepted, or a branch that may be
  taken: no request is dropped on the way, and no branch marked as never occurring is taken.
* `OnGraph` is the invariant of every reachable state.

`follows_transition_graph` puts these together, for every run. -/

namespace AbbWrapper

open Protobuf Runs

variable {α : Type}

/-- The transition graph. -/
inductive Edge : States × SubStates → States × SubStates → Prop where
  | activate : Edge (.normal, .none) (.normal, .running)
  | interrupt : Edge (.normal, .running) (.rampDown, .none)
  | startRampDown : Edge (.rampDown, .none) (.rampDown, .running)
  | finishRampDown : Edge (.rampDown, .running) (.rampDown, .finished)
  | resume : Edge (.rampDown, .finished) (.normal, .running)
  | enterStaticGoal : Edge (.rampDown, .finished) (.staticGoal, .none)
  | startStaticGoal : Edge (.staticGoal, .none) (.staticGoal, .running)
  | finishStaticGoal : Edge (.staticGoal, .running) (.staticGoal, .finished)
  | interruptStaticGoal : Edge (.staticGoal, .running) (.rampDown, .none)
  | leaveStaticGoal : Edge (.staticGoal, .finished) (.rampDown, .none)

namespace StateManager

/-- The current state and sub-state. -/
def current (s : StateManager) : States × SubStates := (s.currentState, s.currentSubState)

/-- The pending state and sub-state. -/
def pending (s : StateManager) : States × SubStates := (s.pendingState, s.pendingSubState)

/-- `setPendingState` accepts the edges of the graph, but for the activation. -/
theorem accepts_iff (s : StateManager) (state : States) (subState : SubStates) :
    s.accepts state subState = true ↔
      Edge s.current (state, subState) ∧ s.current ≠ (.normal, .none) := by
  obtain ⟨has, currentState, currentSubState, pendingState, pendingSubState⟩ := s
  change _ ↔ Edge (currentState, currentSubState) (state, subState) ∧
    (currentState, currentSubState) ≠ (.normal, .none)
  constructor
  · intro h
    cases currentState <;> cases currentSubState <;>
      simp only [accepts, decide_eq_true_eq, Bool.false_eq_true] at h
    case rampDown.finished | staticGoal.running =>
      rcases h with ⟨rfl, rfl⟩ | ⟨rfl, rfl⟩ <;> exact ⟨by constructor, by simp⟩
    all_goals
      obtain ⟨rfl, rfl⟩ := h
      exact ⟨by constructor, by simp⟩
  · rintro ⟨h, hne⟩
    cases h with
    | activate => exact absurd rfl hne
    | _ => simp [accepts]

end StateManager

/-- A request that is accepted, and a branch that may be taken. -/
def Call.Sound : Call α → Prop
  | .requested _ _ accepted => accepted = true
  | .shouldNeverOccur => False
  | _ => True

/-- Where a step may lead: along an edge, or by a reset to (Normal, None), which a callback with
ok states activates at once. -/
def Moves (a : Action α) (s s' : States × SubStates) : Prop :=
  match a with
  | .generateOutputs _ inputs =>
      if inputs.statesOk then
        if inputs.firstMessage then s' = (.normal, .running)
        else s' = s ∧ s ≠ (.normal, .none) ∨ Edge s s'
      else s' = (.normal, .none)
  | _ => s' = s

namespace Control

/-! ### One callback -/

/-- A pending state is the target of an edge. -/
theorem edge_of_legal {s : StateManager} (h : Legal s) (hp : s.hasPendingState = true) :
    Edge s.current s.pending ∧ s.current ≠ (.normal, .none) :=
  (s.accepts_iff _ _).mp (h hp)

theorem next_stays_or_moves {c : Control α} (h : Legal c.manager) :
    c.next = c.manager.current ∨ Edge c.manager.current c.next := by
  cases hp : c.manager.hasPendingState with
  | false => exact .inl (next_of_not_pending hp)
  | true =>
      rw [next_of_pending hp]
      exact .inr (edge_of_legal h hp).1

/-- The edges into Normal lead to (Normal, Running). -/
theorem next_normal {c : Control α} (h : Legal c.manager)
    (hc : c.manager.currentState = .normal → c.manager.currentSubState = .running) :
    c.next.1 = .normal → c.next.2 = .running := by
  intro hnext
  rcases next_stays_or_moves h with hstay | hmove
  · rw [hstay] at hnext ⊢
    exact hc hnext
  · generalize c.manager.current = s at hmove
    generalize c.next = s' at hmove hnext ⊢
    cases hmove <;> first | rfl | cases hnext

/-- Every request of a turn is accepted, and no branch is taken that should never occur. -/
theorem Turn.sound {c c' : Control α} (h : Turn c c')
    (hc : c.manager.currentState = .normal → c.manager.currentSubState = .running)
    (htrace : ∀ call ∈ c.trace, call.Sound) : ∀ call ∈ c'.trace, call.Sound := by
  have hlog (d : Control α) (calls : List (Call α)) (hd : ∀ call ∈ d.trace, call.Sound)
      (hcalls : ∀ call ∈ calls, call.Sound) : ∀ call ∈ (d.log calls).trace, call.Sound := by
    intro call hcall
    rcases List.mem_append.mp hcall with hcall | hcall
    · exact hd call hcall
    · exact hcalls call hcall
  have hrequest (d : Control α) (state : States) (subState : SubStates)
      (hd : ∀ call ∈ d.trace, call.Sound) (haccepts : d.manager.accepts state subState = true) :
      ∀ call ∈ (d.request state subState).trace, call.Sound := by
    apply hlog d _ hd
    intro call hcall
    rw [List.mem_singleton.mp hcall]
    exact haccepts
  have hretrieved (d d' : Control α) (hgoal : NextGoal d d') (hd : ∀ call ∈ d.trace, call.Sound) :
      ∀ call ∈ d'.trace, call.Sound := by
    have hpoints (points : List (PointGoal α)) :
        ∀ call ∈ points.map Call.retrieved, call.Sound := by
      intro call hcall
      obtain ⟨point, -, rfl⟩ := List.mem_map.mp hcall
      trivial
    cases hgoal with
    | empty => exact hd
    | found skipped goal points h => exact hlog d _ hd (hpoints _)
    | exhausted points externalGoal h => exact hlog d _ hd (hpoints _)
  cases h with
  | shouldNeverOccur hstate hsub => exact absurd (hc hstate) hsub
  | interrupt hstate hsub => exact hrequest c _ _ htrace (by simp [StateManager.accepts, hstate, hsub])
  | «continue» => exact htrace
  | advance c' hstate hsub hramp hne hgoal => exact hretrieved _ _ hgoal htrace
  | take next queue c' hstate hsub hramp hne hqueue hgoal =>
      apply hretrieved _ _ hgoal
      exact hlog _ _ htrace (by simp [Call.Sound])
  | startRampDown duration hstate hsub =>
      apply hrequest
      · intro call hcall
        apply htrace call
        simpa [setGoal, apply_ite Control.trace] using hcall
      · have hmanager : (if c.hasActiveGoal then c.store duration else c).manager = c.manager := by
          split <;> simp
        simp [StateManager.accepts, setGoal, hmanager, hstate, hsub]
  | continueRampDown => exact htrace
  | finishRampDown hstate hsub =>
      exact hrequest c _ _ htrace (by simp [StateManager.accepts, hstate, hsub])
  | wait => exact htrace
  | enterStaticGoal hstate hsub =>
      exact hrequest _ _ _ htrace (by simp [StateManager.accepts, setEvents, handle, hstate, hsub])
  | resume c' hstate hsub hstop hresume hstatic hgoal =>
      apply hrequest _ _ _ (hretrieved _ _ hgoal htrace)
      simp [StateManager.accepts, hgoal.frame.1, setEvents, handle, hstate, hsub]
  | rampedDown c' hstate hsub hstop hgoal =>
      apply hrequest _ _ _ (hretrieved _ _ hgoal htrace)
      simp [StateManager.accepts, hgoal.frame.1, setEvents, handle, hstate, hsub]
  | startStaticGoal hstate hsub =>
      apply hrequest
      · simpa [setGoal] using htrace
      · simp [StateManager.accepts, setGoal, hstate, hsub]
  | executeStaticGoal hstate hsub =>
      have happly : ∀ call ∈ c.applyStaticGoal.trace, call.Sound := by
        unfold applyStaticGoal
        simp only
        split_ifs
        · exact hlog c _ htrace (by simp [Call.Sound])
        · exact hlog c _ htrace (by simp [Call.Sound])
        · exact htrace
      split_ifs
      · exact hrequest _ _ _ happly (by simp [StateManager.accepts, hstate, hsub])
      · exact hrequest _ _ _ happly (by simp [StateManager.accepts, hstate, hsub])
      · exact happly
  | finishStaticGoal hstate hsub =>
      exact hrequest _ _ _ htrace (by simp [StateManager.accepts, setEvents, hstate, hsub])

/-! ### Runs -/

/-- What holds of every reachable state. -/
structure OnGraph (c : Control α) : Prop where
  legal : Legal c.manager
  place : c.manager.current ≠ (.normal, .finished)
  sound : ∀ call ∈ c.trace, call.Sound

/-- A session that is active, or starts: what is processed next is active. -/
theorem OnGraph.prepare {c : Control α} (hc : OnGraph c) (firstMessage : Bool) (duration : α)
    {d : Control α} (hd : d = { c with trace := [] }.prepare firstMessage true duration) :
    (d.next.1 = .normal → d.next.2 = .running) ∧
      if firstMessage then d.next = (.normal, .running)
      else d.next = c.manager.current ∧ c.manager.current ≠ (.normal, .none) ∨
        Edge c.manager.current d.next := by
  by_cases hstart : firstMessage = true ∨ c.manager.verifyState .normal .none = true
  · have hnext : d.next = (.normal, .running) :=
      hd ▸ next_prepare_start { c with trace := [] } hc.legal firstMessage duration hstart
    rw [hnext]
    refine ⟨fun _ => rfl, ?_⟩
    cases firstMessage with
    | true => rfl
    | false =>
        have hv : c.manager.verifyState .normal .none = true := by simpa using hstart
        simp only [StateManager.verifyState, decide_eq_true_eq] at hv
        rw [if_neg Bool.false_ne_true, StateManager.current, hv.1, hv.2]
        exact .inr .activate
  · obtain ⟨rfl, hv⟩ : firstMessage = false ∧ c.manager.verifyState .normal .none = false := by
      simpa using hstart
    have hnext : d.next = c.next := by
      rw [hd, prepare_session { c with trace := [] } duration hv]
      rfl
    have hne : c.manager.current ≠ (.normal, .none) := by
      intro h
      simp [StateManager.verifyState, (Prod.mk.inj h).1, (Prod.mk.inj h).2] at hv
    have hactive : c.manager.currentState = .normal → c.manager.currentSubState = .running := by
      intro hstate
      have hplace := hc.place
      cases hsub : c.manager.currentSubState with
      | none => exact absurd (by rw [StateManager.current, hstate, hsub]) hne
      | running => rfl
      | finished => exact absurd (by rw [StateManager.current, hstate, hsub]) hplace
    rw [hnext, if_neg Bool.false_ne_true]
    refine ⟨next_normal hc.legal hactive, ?_⟩
    rcases next_stays_or_moves hc.legal with hstay | hmove
    · exact .inl ⟨hstay, hne⟩
    · exact .inr hmove

/-- `prepare` with not-ok states leads to (Normal, None). -/
theorem prepare_inactive (c : Control α) (firstMessage : Bool) (duration : α) :
    (c.prepare firstMessage false duration).manager.current = (.normal, .none) := by
  have hcheck (d : Control α) :
      (d.checkStates false duration).manager.current = (.normal, .none) := by
    unfold checkStates
    cases hv : d.manager.verifyState .normal .none with
    | false => simp [StateManager.current, StateManager.init]
    | true =>
        simp only [StateManager.verifyState, decide_eq_true_eq] at hv
        simp [StateManager.current, hv]
  exact hcheck _

variable [Field α] [LinearOrder α]

theorem OnGraph.step {c c' : Control α} {a : Action α} (hc : OnGraph c) (h : Step c a c') :
    OnGraph c' ∧ Moves a c.manager.current c'.manager.current := by
  have hlegal := h.legal hc.legal
  cases h with
  | ok outputs inputs duration c' hok hturn =>
      obtain ⟨hactive, hmoves⟩ := hc.prepare inputs.firstMessage duration rfl
      have hcurrent := hturn.current
      generalize hd : { c with trace := [] }.prepare inputs.firstMessage true duration = d
        at hturn hactive hmoves hcurrent
      have htrace : d.trace = [] := hd ▸ (prepare_frame { c with trace := [] } _ true duration).2
      have hplace : c'.manager.current = d.next := Prod.ext hcurrent.1 hcurrent.2
      refine ⟨⟨hlegal, ?_, ?_⟩, ?_⟩
      · intro hfinished
        rw [hplace] at hfinished
        rw [hfinished] at hactive
        cases hactive rfl
      · apply hturn.sound hactive
        intro call hcall
        rw [show d.updateState.trace = [] from htrace] at hcall
        cases hcall
      · rw [hplace]
        simpa [Moves, hok] using hmoves
  | notOk outputs inputs duration hok =>
      have hplace := prepare_inactive { c with trace := [] } inputs.firstMessage duration
      refine ⟨⟨hlegal, ?_, ?_⟩, ?_⟩
      · rw [hplace]
        simp
      · intro call hcall
        rw [(prepare_frame { c with trace := [] } _ false duration).2] at hcall
        cases hcall
      · rw [hplace]
        simp [Moves, hok]
  | call call =>
      obtain ⟨hmanager, -, -, htrace, -⟩ := call_frame c call
      refine ⟨⟨hlegal, ?_, ?_⟩, ?_⟩
      · rw [hmanager]
        exact hc.place
      · rw [htrace]
        exact hc.sound
      · rw [hmanager]
        rfl
  | updateConfigurations configurations => exact ⟨hc, rfl⟩

end Control

namespace TrajectoryMotion

variable [Field α] [LinearOrder α] [Cmath α] [FloorRing α]

theorem onGraph_run (configurations : TrajectoryConfiguration α) (es : List (Action α)) :
    Control.OnGraph (run step (init configurations) es).control := by
  have hinit : Control.OnGraph (init configurations).control :=
    ⟨fun h => absurd h Bool.false_ne_true, by simp [control, init, StateManager.init,
      StateManager.current], fun call hcall => nomatch hcall⟩
  exact run_inv (I := fun t : TrajectoryMotion α => Control.OnGraph t.control)
    (fun t a ht => (ht.step (t.step_control a)).1) es hinit

/-- **The state manager follows its transition graph** in every reachable state: the current state
moves in callbacks only and along the graph, a pending state is the target of an edge, every
request has been accepted, and no branch has been taken that should never occur. -/
theorem follows_transition_graph (configurations : TrajectoryConfiguration α)
    (es : List (Action α)) (a : Action α) :
    let t := run step (init configurations) es
    Moves a t.stateManager.current (t.step a).stateManager.current ∧
      (t.stateManager.hasPendingState = true →
        Edge t.stateManager.current t.stateManager.pending) ∧
      ∀ call ∈ t.trace, call.Sound := by
  intro t
  have ht := onGraph_run configurations es
  refine ⟨(ht.step (t.step_control a)).2, ?_, ht.sound⟩
  intro hp
  exact (Control.edge_of_legal ht.legal hp).1

end TrajectoryMotion

end AbbWrapper
