import AbbWrapper.TransitionGraph

/-! # Orders of static goals

A static goal that is accepted is outstanding until (StaticGoal, Running) is processed while no
ramp down is ordered.  What a turn applies it takes from the outstanding orders, and only
(StaticGoal, Finished) drops them (`Control.Turn.account`).

* A `StaticOrder` is a static goal, for positions or for velocities, with the order for a fast transition;
  `outstanding` lists those that the events hold.
* `OnTheWay` is a table: what the events are as a state is processed while an order gets to its application
  without a further command; `Waiting` says that one order is outstanding and on its way.
* `Undisturbed` are the steps of a session without commands that take the place of the order, and
  `appliedOrders` lists what a step applies.

A callback either applies the order or leaves it waiting (`waiting_callback`), and other commands leave
it on its way (`Waiting.call`). -/

namespace AbbWrapper

open Protobuf Runs

variable {α : Type}

/-! ### Orders -/

/-- A static goal and the order for a fast transition. -/
inductive StaticOrder (α : Type) where
  | position (goal : StaticPositionGoal α) (fastTransition : Bool)
  | velocity (goal : StaticVelocityGoal α) (fastTransition : Bool)
deriving DecidableEq

namespace StaticOrder

def fastTransition : StaticOrder α → Bool
  | position _ fast => fast
  | velocity _ fast => fast

/-- The `setStaticGoal` that gives the order. -/
def command : StaticOrder α → TrajectoryCall α
  | position goal fast => .setStaticPositionGoal goal fast
  | velocity goal fast => .setStaticVelocityGoal goal fast

end StaticOrder

/-- The order a call of `prepareStaticGoal` applies. -/
def Call.order? : Call α → Option (StaticOrder α)
  | .preparedPosition goal fast => some (.position goal fast)
  | .preparedVelocity goal fast => some (.velocity goal fast)
  | _ => none

/-- A command that, once accepted, takes the place of a static goal that was set before. -/
def TrajectoryCall.supersedes : TrajectoryCall α → Bool
  | .setStaticPositionGoal _ _ => true
  | .setStaticVelocityGoal _ _ => true
  | .finishStaticGoal _ => true
  | _ => false

/-- The orders that are outstanding. -/
def PendingEvents.outstanding (e : PendingEvents α) : List (StaticOrder α) :=
  (if e.doStaticPositionGoalUpdate then
    [.position e.staticPositionGoal e.doStaticGoalFastUpdate] else []) ++
  if e.doStaticVelocityGoalUpdate then
    [.velocity e.staticVelocityGoal e.doStaticGoalFastUpdate] else []

namespace Control

/-- The orders that have been applied in the callback, and those that are still outstanding. -/
def account (c : Control α) : List (StaticOrder α) :=
  c.trace.filterMap Call.order? ++ c.events.outstanding

theorem account_request (c : Control α) (state : States) (subState : SubStates) :
    (c.request state subState).account = c.account := by
  simp [account, Call.order?]

theorem NextGoal.account {c c' : Control α} (h : NextGoal c c') : c'.account = c.account := by
  have hpoints (points : List (PointGoal α)) :
      (points.map Call.retrieved).filterMap Call.order? = [] := by
    induction points with
    | nil => rfl
    | cons point points ih => exact ih
  unfold Control.account
  rw [h.frame.2.1]
  cases h with
  | empty => rfl
  | found skipped goal points => simp [log, setGoal, hpoints, Call.order?]
  | exhausted points => simp [log, setGoal, hpoints]

/-- What is applied was outstanding. -/
theorem account_applyStaticGoal (c : Control α) : c.applyStaticGoal.account = c.account := by
  have happlied := applyStaticGoal_events c
  unfold account
  rw [happlied]
  unfold applyStaticGoal applied PendingEvents.outstanding
  simp only
  split_ifs with hposition hvelocity
  all_goals simp_all [log, Call.order?]

/-- The orders a turn drops: (StaticGoal, Finished) drops all of them. -/
def dropped (c : Control α) : List (StaticOrder α) :=
  if (c.manager.currentState, c.manager.currentSubState) = (.staticGoal, .finished) then
    c.events.outstanding
  else []

/-- **A turn accounts for every order**: it is applied, outstanding or dropped. -/
theorem Turn.account {c c' : Control α} (h : Turn c c') : c'.account ++ c.dropped = c.account := by
  have hkept {state : States} {subState : SubStates} (hstate : c.manager.currentState = state)
      (hsub : c.manager.currentSubState = subState)
      (hne : (state, subState) ≠ (.staticGoal, .finished)) (h : c'.account = c.account) :
      c'.account ++ c.dropped = c.account := by
    rw [dropped, hstate, hsub, if_neg hne, h, List.append_nil]
  cases h with
  | shouldNeverOccur hstate =>
      exact hkept hstate rfl (by simp) (by simp [Control.account, log, Call.order?])
  | interrupt hstate hsub => exact hkept hstate hsub (by simp) (account_request c _ _)
  | «continue» hstate hsub => exact hkept hstate hsub (by simp) rfl
  | advance c' hstate hsub hramp hne hgoal => exact hkept hstate hsub (by simp) hgoal.account
  | take next queue c' hstate hsub hramp hne hqueue hgoal =>
      apply hkept hstate hsub (by simp)
      rw [hgoal.account]
      simp [Control.account, log, Call.order?]
  | startRampDown duration hstate hsub =>
      apply hkept hstate hsub (by simp)
      rw [account_request]
      split <;> simp [Control.account, setGoal]
  | continueRampDown hstate hsub => exact hkept hstate hsub (by simp) rfl
  | finishRampDown hstate hsub => exact hkept hstate hsub (by simp) (account_request c _ _)
  | wait hstate hsub => exact hkept hstate hsub (by simp) rfl
  | enterStaticGoal hstate hsub => exact hkept hstate hsub (by simp) (account_request _ _ _)
  | resume c' hstate hsub hstop hresume hstatic hgoal =>
      apply hkept hstate hsub (by simp)
      rw [account_request, hgoal.account]
      rfl
  | rampedDown c' hstate hsub hstop hgoal =>
      apply hkept hstate hsub (by simp)
      rw [account_request, hgoal.account]
      rfl
  | startStaticGoal hstate hsub =>
      apply hkept hstate hsub (by simp)
      rw [account_request]
      simp [Control.account, setGoal]
  | executeStaticGoal hstate hsub =>
      apply hkept hstate hsub (by simp)
      split_ifs
      · rw [account_request, account_applyStaticGoal]
      · rw [account_request, account_applyStaticGoal]
      · exact account_applyStaticGoal c
  | finishStaticGoal hstate hsub =>
      rw [account_request, dropped, hstate, hsub, if_pos rfl]
      simp [Control.account, setEvents, PendingEvents.outstanding]

theorem dropped_of_next {c : Control α} (h : c.next ≠ (.staticGoal, .finished)) :
    c.updateState.dropped = [] := if_neg h

/-! ### The way to the application -/

/-- What the events are as a state is processed while an order gets to its application. -/
def OnTheWay (e : PendingEvents α) : States × SubStates → Prop
  | (.rampDown, _) => e.doStop = true ∧ e.doResume = true ∧ e.doStaticGoalStart = true
  | (.staticGoal, .none) => e.doRampDown = false
  | (.staticGoal, .running) => e.doRampDown = true →
      e.doStop = true ∧ e.doResume = true ∧ e.doStaticGoalStart = true ∧ e.doStaticGoalFinish = false
  | _ => False

/-- The order is applied as the state is processed. -/
def Applies (e : PendingEvents α) (s : States × SubStates) : Prop :=
  s = (.staticGoal, .running) ∧ e.doRampDown = false

theorem outstanding_applied {e : PendingEvents α} {o : StaticOrder α} (h : e.outstanding = [o])
    (hramp : e.doRampDown = false) : (applied e).outstanding = [] := by
  unfold applied PendingEvents.outstanding at *
  cases hposition : e.doStaticPositionGoalUpdate <;> cases hvelocity : e.doStaticVelocityGoalUpdate
  all_goals simp_all

/-- What applies an order leaves none, and nothing else leads off the way. -/
theorem OnTheWay.decides {e e' : PendingEvents α} {s s' : States × SubStates} {o : StaticOrder α}
    (hs : OnTheWay e s) (ho : e.outstanding = [o]) (h : Decides e s e' s') :
    Applies e s ∧ e'.outstanding = [] ∨ ¬Applies e s ∧ OnTheWay e' s' ∧ e'.outstanding = [o] := by
  cases h with
  | shouldNeverOccur => exact hs.elim
  | interrupt => exact hs.elim
  | execute => exact hs.elim
  | startRampDown => exact .inr ⟨nofun, hs, ho⟩
  | continueRampDown => exact .inr ⟨nofun, hs, ho⟩
  | finishRampDown => exact .inr ⟨nofun, hs, ho⟩
  | wait hstop hresume => exact absurd hs.2.1 (by simp [hresume])
  | enterStaticGoal => exact .inr ⟨nofun, rfl, ho⟩
  | resume hstop hresume hstatic => exact absurd hs.2.2 (by simp [hstatic])
  | rampedDown hstop => exact absurd hs.1 (by simp [hstop])
  | startStaticGoal => exact .inr ⟨nofun, fun h => absurd (Eq.trans (Eq.symm hs) h) (by simp), ho⟩
  | executeStaticGoal hfinish hramp => exact .inl ⟨⟨rfl, hramp⟩, outstanding_applied ho hramp⟩
  | interruptStaticGoal hfinish hramp =>
      obtain ⟨hstop, hresume, hstart, -⟩ := hs hramp
      exact .inr ⟨fun h => absurd h.2 (by simp [hramp]), ⟨hstop, hresume, hstart⟩, ho⟩
  | finishStaticGoal hfinish =>
      cases hramp : e.doRampDown with
      | false => exact .inl ⟨⟨rfl, hramp⟩, outstanding_applied ho hramp⟩
      | true => exact absurd (hs hramp).2.2.2 (by simp [hfinish])
  | leaveStaticGoal => exact hs.elim

/-- The order is outstanding, and gets to its application. -/
structure Waiting (o : StaticOrder α) (c : Control α) : Prop where
  legal : Legal c.manager
  outstanding : c.events.outstanding = [o]
  onTheWay : OnTheWay c.events c.next

theorem Waiting.congr {o : StaticOrder α} {c c' : Control α} (hc : Waiting o c)
    (hmanager : c'.manager = c.manager) (hevents : c'.events = c.events) : Waiting o c' := by
  refine ⟨hmanager ▸ hc.legal, hevents ▸ hc.outstanding, ?_⟩
  rw [hevents, show c'.next = c.next by simp only [next, hmanager]]
  exact hc.onTheWay

/-- A session is going on while an order waits. -/
theorem Waiting.verifyState {o : StaticOrder α} {c : Control α} (hc : Waiting o c) :
    c.manager.verifyState .normal .none = false := by
  cases hv : c.manager.verifyState .normal .none with
  | false => rfl
  | true =>
      have hnext := next_of_inactive hc.legal hv
      have hway := hc.onTheWay
      rw [hnext] at hway
      exact hway.elim

theorem Waiting.turn {o : StaticOrder α} {c c' : Control α} (hc : Waiting o c)
    (h : Turn c.updateState c') :
    Applies c.events c.next ∧ c'.events.outstanding = [] ∨
      ¬Applies c.events c.next ∧ Waiting o c' := by
  have hp : c.updateState.manager.hasPendingState = false := updateState_hasPendingState _
  have hdecides : Decides c.events c.next c'.events c'.next := h.decides hp
  rcases hc.onTheWay.decides hc.outstanding hdecides with hnow | ⟨hlater, hway, ho⟩
  · exact .inl hnow
  · exact .inr ⟨hlater, h.legal hp, ho, hway⟩

section commands
variable [Field α] [LinearOrder α]

/-- The other commands do not touch the orders. -/
theorem outstanding_order {call : TrajectoryCall α} (h : call.supersedes = false)
    (e : PendingEvents α) : (order call e).outstanding = e.outstanding := by
  cases call with
  | addTrajectory trajectory override => cases override <;> rfl
  | setStaticPositionGoal goal fast => cases h
  | setStaticVelocityGoal goal fast => cases h
  | finishStaticGoal resume => cases h
  | _ => rfl

/-- A command that does not supersede the order leaves it on its way. -/
theorem Waiting.call {o : StaticOrder α} {c : Control α} (hc : Waiting o c)
    {call : TrajectoryCall α} (h : call.supersedes = true → call.acceptedIn c.manager = false) :
    Waiting o (c.call call) := by
  cases hacc : call.acceptedIn c.manager with
  | false =>
      rw [call_rejected hacc]
      exact hc
  | true =>
      have hother : call.supersedes = false := by
        cases hs : call.supersedes with
        | false => rfl
        | true => exact absurd hacc (by simp [h hs])
      have hmanager := (call_frame c call).1
      refine ⟨hmanager ▸ hc.legal, ?_, ?_⟩
      · rw [call_events hacc, outstanding_order hother]
        exact hc.outstanding
      · rw [call_events hacc, call_next]
        have hway := hc.onTheWay
        -- the commands of (Normal, Running) find the ramp down pending
        have hnormal (hv : c.manager.verifyState .normal .running = true)
            (hstop : c.events.doStop = true → (order call c.events).doStop = true)
            (hresume : c.events.doResume = true → (order call c.events).doResume = true)
            (hstart : c.events.doStaticGoalStart = true →
              (order call c.events).doStaticGoalStart = true) :
            OnTheWay (order call c.events) c.next := by
          rcases next_of_normal hc.legal hv with hnext | hnext <;> rw [hnext] at hway ⊢
          · exact hway
          · exact ⟨hstop hway.1, hresume hway.2.1, hstart hway.2.2⟩
        cases call with
        | addTrajectory trajectory override =>
            cases override with
            | true => exact hnormal hacc (fun _ => rfl) (fun _ => rfl) id
            | false => exact hway
        | stopTrajectory discard => exact hnormal hacc (fun _ => rfl) id id
        | updateDurationFactor factor => exact hnormal hacc id id id
        | startStaticGoal discard => exact hnormal hacc (fun _ => rfl) (fun _ => rfl) fun _ => rfl
        | resumeTrajectory =>
            rcases next_of_rampDown hc.legal hacc with hnext | hnext | hnext <;>
              rw [hnext] at hway ⊢
            · exact ⟨hway.1, rfl, hway.2.2⟩
            · exact hway
            · exact hway
        | setStaticPositionGoal goal fast => cases hother
        | setStaticVelocityGoal goal fast => cases hother
        | finishStaticGoal resume => cases hother
        | retrieveExecutionProgress => cases hacc

/-- Where an order is applied, only the commands that supersede it are accepted. -/
theorem Legal.call_running {c : Control α} (hc : Legal c.manager)
    (hnext : c.next = (.staticGoal, .running)) {call : TrajectoryCall α}
    (h : call.supersedes = true → call.acceptedIn c.manager = false) : c.call call = c := by
  apply call_rejected
  have hnormal : c.manager.verifyState .normal .running = false := by
    cases hv : c.manager.verifyState .normal .running with
    | false => rfl
    | true => rcases next_of_normal hc hv with h | h <;> simp [hnext] at h
  cases call with
  | resumeTrajectory =>
      cases hv : c.manager.verifyState .rampDown .finished with
      | false => exact hv
      | true => rcases next_of_rampDown hc hv with h | h | h <;> simp [hnext] at h
  | setStaticPositionGoal goal fast => exact h rfl
  | setStaticVelocityGoal goal fast => exact h rfl
  | finishStaticGoal resume => exact h rfl
  | retrieveExecutionProgress => rfl
  | _ => exact hnormal

end commands

/-! ### Within StaticGoal -/

/-- `do_static_goal_start` is set from the request of (StaticGoal, None) on until
(StaticGoal, Finished) is processed. -/
structure Started (c : Control α) : Prop where
  legal : Legal c.manager
  start : c.manager.verifyState .staticGoal .running = true ∨ c.next = (.staticGoal, .none) ∨
    c.next = (.staticGoal, .running) → c.events.doStaticGoalStart = true

theorem Started.turn {c c' : Control α} (hc : Started c) (h : Turn c.updateState c') :
    Started c' := by
  have hp : c.updateState.manager.hasPendingState = false := updateState_hasPendingState _
  refine ⟨h.legal hp, ?_⟩
  have hdecides : Decides c.events c.next c'.events c'.next := h.decides hp
  have hstart := hc.start
  rw [h.verifyState, ← next_eq_iff]
  generalize c.next = s at hdecides hstart ⊢
  generalize c'.next = s' at hdecides ⊢
  generalize c'.events = e' at hdecides ⊢
  cases hdecides with
  | enterStaticGoal hstop hresume hstatic => exact fun _ => hstatic
  | startStaticGoal => exact fun _ => hstart (.inr (.inl rfl))
  | executeStaticGoal =>
      intro _
      simpa using hstart (.inr (.inr rfl))
  | interruptStaticGoal => exact fun _ => hstart (.inr (.inr rfl))
  | finishStaticGoal =>
      intro _
      simpa using hstart (.inr (.inr rfl))
  | _ => simp

variable [Field α] [LinearOrder α]

theorem doStaticGoalStart_order (call : TrajectoryCall α) {e : PendingEvents α}
    (h : e.doStaticGoalStart = true) : (order call e).doStaticGoalStart = true := by
  cases call with
  | addTrajectory trajectory override => cases override <;> exact h
  | startStaticGoal discard => rfl
  | _ => exact h

theorem Started.step {c c' : Control α} {a : Action α} (hc : Started c) (h : Step c a c') :
    Started c' := by
  have hlegal := h.legal hc.legal
  -- a session that starts or has ended is in Normal
  have hnormal (d : Control α) (hd : Legal d.manager) (hnext : d.next.1 = .normal) : Started d := by
    refine ⟨hd, ?_⟩
    rintro (hv | hplace | hplace)
    · simp only [StateManager.verifyState, decide_eq_true_eq] at hv
      exact absurd hnext (next_ne_normal hd hv.1)
    · rw [hplace] at hnext
      cases hnext
    · rw [hplace] at hnext
      cases hnext
  cases h with
  | ok outputs inputs duration c' hok hturn =>
      apply Started.turn _ hturn
      by_cases hstart : inputs.firstMessage = true ∨ c.manager.verifyState .normal .none = true
      · apply hnormal _ (legal_prepare (c := { c with trace := [] }) hc.legal _ _ _)
        rw [next_prepare_start { c with trace := [] } hc.legal inputs.firstMessage duration hstart]
      · obtain ⟨hfirst, hv⟩ : inputs.firstMessage = false ∧
            c.manager.verifyState .normal .none = false := by simpa using hstart
        rw [hfirst, prepare_session { c with trace := [] } duration hv]
        exact ⟨hc.legal, hc.start⟩
  | notOk outputs inputs duration hok =>
      apply hnormal _ hlegal
      have hplace := prepare_inactive { c with trace := [] } inputs.firstMessage duration
      rw [next_of_inactive hlegal]
      simpa [StateManager.verifyState, StateManager.current] using hplace
  | call call =>
      refine ⟨hlegal, ?_⟩
      rw [(call_frame c call).1, call_next]
      intro hplace
      have hstart := hc.start hplace
      cases hacc : call.acceptedIn c.manager with
      | false => rwa [call_rejected hacc]
      | true =>
          rw [call_events hacc]
          exact doStaticGoalStart_order call hstart
  | updateConfigurations configurations => exact hc

end Control

namespace TrajectoryMotion

variable [Field α] [LinearOrder α] [Cmath α] [FloorRing α]

/-! ### Callbacks -/

/-- The orders a step applies. -/
def appliedOrders (t : TrajectoryMotion α) : Action α → List (StaticOrder α)
  | .generateOutputs outputs inputs =>
      (t.generateOutputs outputs inputs).1.trace.filterMap Call.order?
  | _ => []

/-- A step of a session with ok states in which neither a `setStaticGoal` nor a `finishStaticGoal`
is accepted. -/
def Undisturbed (t : TrajectoryMotion α) : Action α → Prop
  | .generateOutputs _ inputs => inputs.statesOk = true ∧ inputs.firstMessage = false
  | .call call => call.supersedes = true → (t.call call).1 = false
  | .updateConfigurations _ => True

/-- A callback has a sample time that `estimateSampleTime` can return. -/
def Sampled (_ : TrajectoryMotion α) : Action α → Prop
  | .generateOutputs _ inputs => Constants.lowestSampleTime α ≤ inputs.estimatedSampleTime
  | _ => True

omit [Cmath α] [FloorRing α] in
theorem Undisturbed.acceptedIn {t : TrajectoryMotion α} {call : TrajectoryCall α}
    (h : t.Undisturbed (.call call)) (hs : call.supersedes = true) :
    call.acceptedIn t.stateManager = false := by
  rw [← t.call_fst call (by rintro rfl; cases hs)]
  exact h hs

/-- What a callback of a session does with the orders. -/
theorem callback_account {t : TrajectoryMotion α} (outputs : Output α) {inputs : InputContainer α}
    (ha : t.Undisturbed (.generateOutputs outputs inputs))
    (hv : t.stateManager.verifyState .normal .none = false) :
    t.appliedOrders (.generateOutputs outputs inputs) ++
        (t.step (.generateOutputs outputs inputs)).events.outstanding ++
        t.control.updateState.dropped = t.events.outstanding :=
  (generateOutputs_session outputs ha.1 ha.2 hv).account

/-- A callback either applies the order, or leaves it waiting. -/
theorem waiting_callback {o : StaticOrder α} {t : TrajectoryMotion α} {outputs : Output α}
    {inputs : InputContainer α} (ht : t.control.Waiting o)
    (ha : t.Undisturbed (.generateOutputs outputs inputs)) :
    Control.Applies t.events t.control.next ∧
        (t.step (.generateOutputs outputs inputs)).events.outstanding = [] ∧
        t.appliedOrders (.generateOutputs outputs inputs) = [o] ∨
      ¬Control.Applies t.events t.control.next ∧
        (t.step (.generateOutputs outputs inputs)).control.Waiting o ∧
        t.appliedOrders (.generateOutputs outputs inputs) = [] := by
  have hturn := generateOutputs_session outputs ha.1 ha.2 ht.verifyState
  have hprepared : Control.Waiting o (Control.setGoal { t.control with trace := [] } false
    t.control.hasActiveGoal) := ht.congr rfl rfl
  have hplace : t.control.next ≠ (.staticGoal, .finished) := by
    intro hnext
    have hway := ht.onTheWay
    rw [hnext] at hway
    exact hway
  have haccount := callback_account outputs ha ht.verifyState
  rw [Control.dropped_of_next hplace, List.append_nil,
    show t.events.outstanding = [o] from ht.outstanding] at haccount
  rcases hprepared.turn hturn with ⟨hnow, ho⟩ | ⟨hlater, hwaiting⟩
  · have ho : (t.step (.generateOutputs outputs inputs)).events.outstanding = [] := ho
    rw [ho, List.append_nil] at haccount
    exact .inl ⟨hnow, ho, haccount⟩
  · have ho : (t.step (.generateOutputs outputs inputs)).events.outstanding = [o] :=
      hwaiting.outstanding
    rw [ho] at haccount
    exact .inr ⟨hlater, hwaiting, List.append_left_eq_self.mp haccount⟩

/-- What is not outstanding is not applied. -/
theorem outstanding_step {t : TrajectoryMotion α} {a : Action α} (ht : t.events.outstanding = [])
    (ha : t.Undisturbed a) : (t.step a).events.outstanding = [] ∧ t.appliedOrders a = [] := by
  cases a with
  | updateConfigurations configurations => exact ⟨ht, rfl⟩
  | call call =>
      refine ⟨?_, rfl⟩
      have hcontrol : (t.step (.call call)).control = t.control.call call := t.control_call call
      rw [← control_events, hcontrol]
      cases hacc : call.acceptedIn t.stateManager with
      | false => rwa [Control.call_rejected hacc]
      | true =>
          have hother : call.supersedes = false := by
            cases hs : call.supersedes with
            | false => rfl
            | true => exact absurd hacc (by simp [ha.acceptedIn hs])
          rwa [Control.call_events hacc, Control.outstanding_order hother]
  | generateOutputs outputs inputs =>
      have haccount := (generateOutputs_ok t outputs inputs ha.1).account
      obtain ⟨hevents, htrace⟩ := Control.prepare_frame { t.control with trace := [] }
        inputs.firstMessage true t.remainingTime
      have hnone : (({ t.control with trace := [] }.prepare inputs.firstMessage true
          t.remainingTime).updateState).account = [] := by
        unfold Control.account Control.updateState
        rw [hevents, htrace]
        exact ht
      rw [hnone, List.append_eq_nil_iff, Control.account, List.append_eq_nil_iff] at haccount
      exact ⟨haccount.1.2, haccount.1.1⟩

end TrajectoryMotion

end AbbWrapper
