import AbbWrapper.StopResume

/-! # Static goals exclude trajectories

Between an accepted `startStaticGoal` and an accepted `finishStaticGoal` the machine makes round
trips StaticGoal → RampDown → StaticGoal for every static goal that is not fast.  A round trip is
steered by `do_stop`, `do_resume` and `do_static_goal_start`, which the commands write to while it
is pending: a fast goal clears `do_stop`, and a ramp down without a stop ends in (Normal, Running).
The exclusion therefore holds in runs in which `do_stop` is set whenever a ramp down that was
requested in StaticGoal starts.

* `StaticEvents` is the invariant of every run of sessions with ok states, and `Episode` the one between
  the two commands; its flag tells whether StaticGoal has been reached.
* `StaticReady` and `EpisodeReady` are their tables: what the events are as a state is processed.
* `KeepsStop` is the condition on a step, `Armed` what it means for a state.
* `ExcludesTrajectories` says of a step that it takes no trajectory, retrieves no point and does not end in
  (Normal, Running).

`static_goal_excludes` is about all runs; `fast_goal_leaves_static_goal` shows what happens otherwise. -/

namespace AbbWrapper

open Protobuf Runs

variable {α : Type}

namespace Control

/-! ### Outside of an episode -/

/-- What the events of static goals are as a state is processed: in Normal no finish is
outstanding, and what leads back from RampDown to StaticGoal is in place. -/
def StaticReady (e : PendingEvents α) : States × SubStates → Prop
  | (.normal, _) => e.doStaticGoalFinish = false
  | (.rampDown, _) =>
      e.doStaticGoalFinish = true → e.doStaticGoalStart = true ∧ e.doStop = true
  | (.staticGoal, .none) => e.doStaticGoalStart = true ∧ e.doRampDown = false
  | (.staticGoal, .running) =>
      e.doStaticGoalStart = true ∧ (e.doRampDown = true → e.doStop = true)
  | (.staticGoal, .finished) => True

/-- If a ramp down was requested in StaticGoal, then `do_stop` is set. -/
def Armed (c : Control α) : Prop :=
  c.manager.verifyState .staticGoal .running = true → c.next = (.rampDown, .none) →
    c.events.doStop = true

theorem armed_of_next {c : Control α} (h : c.next ≠ (.rampDown, .none)) : Armed c :=
  fun _ hnext => absurd hnext h

theorem armed_of_normal {c : Control α} (h : c.manager.verifyState .normal .running = true) :
    Armed c := by
  intro hv
  simp only [StateManager.verifyState, decide_eq_true_eq] at h hv
  simp [h.1] at hv

theorem armed_of_rampDown {c : Control α} (h : c.manager.verifyState .rampDown .finished = true) :
    Armed c := by
  intro hv
  simp only [StateManager.verifyState, decide_eq_true_eq] at h hv
  simp [h.1] at hv

/-- What holds of the events of static goals in every reachable state. -/
structure StaticEvents (c : Control α) : Prop where
  legal : Legal c.manager
  ready : Armed c → StaticReady c.events c.next
  start : c.manager.verifyState .staticGoal .running = true → c.next = (.rampDown, .none) →
    c.events.doStaticGoalStart = true
  finish : c.manager.verifyState .normal .running = true → c.events.doStaticGoalFinish = false

theorem StaticReady.decides {e e' : PendingEvents α} {s s' : States × SubStates}
    (hs : StaticReady e s) (h : Decides e s e' s') :
    StaticReady e' s' ∧ (s = (.staticGoal, .running) → s' = (.rampDown, .none) →
      e'.doStaticGoalStart = true) ∧ (s = (.normal, .running) → e'.doStaticGoalFinish = false) := by
  cases h with
  | shouldNeverOccur subState hsub => exact ⟨hs, by simp, fun _ => hs⟩
  | interrupt => exact ⟨fun h => absurd (hs.symm.trans h) (by simp), by simp, fun _ => hs⟩
  | execute => exact ⟨hs, by simp, fun _ => hs⟩
  | startRampDown => exact ⟨hs, by simp, by simp⟩
  | continueRampDown => exact ⟨hs, by simp, by simp⟩
  | finishRampDown => exact ⟨hs, by simp, by simp⟩
  | wait => exact ⟨hs, by simp, by simp⟩
  | enterStaticGoal hstop hresume hstatic => exact ⟨⟨hstatic, rfl⟩, by simp, by simp⟩
  | resume hstop hresume hstatic =>
      refine ⟨Bool.eq_false_iff.mpr fun h => ?_, by simp, by simp⟩
      simp [(hs h).1] at hstatic
  | rampedDown hstop =>
      refine ⟨Bool.eq_false_iff.mpr fun h => ?_, by simp, by simp⟩
      simp [(hs h).2] at hstop
  | startStaticGoal => exact ⟨⟨hs.1, fun h => absurd (hs.2.symm.trans h) (by simp)⟩, by simp, by simp⟩
  | executeStaticGoal =>
      refine ⟨?_, by simp, by simp⟩
      simpa [StaticReady] using hs
  | interruptStaticGoal hfinish hramp => exact ⟨fun _ => ⟨hs.1, hs.2 hramp⟩, fun _ _ => hs.1, by simp⟩
  | finishStaticGoal => exact ⟨trivial, by simp, by simp⟩
  | leaveStaticGoal => exact ⟨fun h => absurd h (by simp [left]), by simp, by simp⟩

theorem StaticEvents.turn {c c' : Control α} (hc : StaticEvents c) (harmed : Armed c)
    (h : Turn c.updateState c') : StaticEvents c' := by
  have hp : c.updateState.manager.hasPendingState = false := updateState_hasPendingState _
  have hdecides : Decides c.events c.next c'.events c'.next := h.decides hp
  obtain ⟨hready, hstart, hfinish⟩ := (hc.ready harmed).decides hdecides
  refine ⟨h.legal hp, fun _ => hready, fun hv => hstart ?_, fun hv => hfinish ?_⟩
  · rw [h.verifyState] at hv
    exact next_eq_iff.mpr hv
  · rw [h.verifyState] at hv
    exact next_eq_iff.mpr hv

theorem StaticEvents.of_events {c c' : Control α} (hc : StaticEvents c)
    (hmanager : c'.manager = c.manager) (hready : Armed c' → StaticReady c'.events c.next)
    (hstart : c.manager.verifyState .staticGoal .running = true → c.next = (.rampDown, .none) →
      c'.events.doStaticGoalStart = true)
    (hfinish : c.manager.verifyState .normal .running = true →
      c'.events.doStaticGoalFinish = false) : StaticEvents c' := by
  have hlegal := hc.legal
  have hnext : c'.next = c.next := by simp only [next, hmanager]
  rw [← hmanager] at hlegal hstart hfinish
  rw [← hnext] at hready hstart
  exact ⟨hlegal, hready, hstart, hfinish⟩

theorem Armed.congr {c c' : Control α} (h : Armed c) (hmanager : c'.manager = c.manager)
    (hevents : c'.events = c.events) : Armed c' := by
  unfold Armed at h ⊢
  rw [show c'.next = c.next by simp only [next, hmanager], hmanager, hevents]
  exact h

theorem StaticEvents.congr {c c' : Control α} (hc : StaticEvents c)
    (hmanager : c'.manager = c.manager) (hevents : c'.events = c.events) : StaticEvents c' :=
  hc.of_events hmanager
    (fun harmed => hevents ▸ hc.ready (harmed.congr hmanager.symm hevents.symm))
    (hevents ▸ hc.start) (hevents ▸ hc.finish)

/-- A session starts with no finish outstanding. -/
theorem StaticEvents.prepare {c : Control α} (hc : StaticEvents c) (firstMessage : Bool)
    (duration : α) (hfirst : firstMessage = true → c.events.doStaticGoalFinish = false) :
    StaticEvents (c.prepare firstMessage true duration) := by
  have hlegal := legal_prepare hc.legal firstMessage true duration
  by_cases hstart : firstMessage = true ∨ c.manager.verifyState .normal .none = true
  · have hnext := next_prepare_start c hc.legal firstMessage duration hstart
    have hfinish : c.events.doStaticGoalFinish = false := by
      rcases hstart with h | h
      · exact hfirst h
      · have hinactive := next_of_inactive hc.legal h
        have hready := hc.ready (armed_of_next (by simp [hinactive]))
        rwa [hinactive] at hready
    refine ⟨hlegal, fun _ => ?_, fun _ h => absurd (hnext.symm.trans h) (by simp), fun _ => ?_⟩
    · rw [hnext]
      simpa [StaticReady] using hfinish
    · simpa using hfinish
  · obtain ⟨hfirst, hv⟩ : firstMessage = false ∧ c.manager.verifyState .normal .none = false := by
      simpa using hstart
    rw [hfirst, prepare_session c duration hv]
    exact hc.congr rfl rfl

/-- A session starts without a pending ramp down, and nothing else is prepared. -/
theorem Armed.prepare {c : Control α} (harmed : Armed c) (h : Legal c.manager)
    (firstMessage : Bool) (duration : α) : Armed (c.prepare firstMessage true duration) := by
  by_cases hstart : firstMessage = true ∨ c.manager.verifyState .normal .none = true
  · exact armed_of_next (by simp [next_prepare_start c h firstMessage duration hstart])
  · obtain ⟨hfirst, hv⟩ : firstMessage = false ∧ c.manager.verifyState .normal .none = false := by
      simpa using hstart
    rw [hfirst, prepare_session c duration hv]
    exact harmed.congr rfl rfl

end Control

/-- The next callback starts a ramp down. -/
def StateManager.rampDownPending (s : StateManager) : Bool :=
  s.hasPendingState && s.pendingState = .rampDown

namespace Control

theorem rampDownPending_of_next {c : Control α} (h : Legal c.manager)
    (hv : c.manager.verifyState .staticGoal .running = true)
    (hnext : c.next = (.rampDown, .none)) : c.manager.rampDownPending = true := by
  rcases next_of_staticGoal h hv with h' | h' | ⟨-, h', h''⟩
  · simp [h'] at hnext
  · simp [h'] at hnext
  · simp [StateManager.rampDownPending, h', h'']

variable [Field α] [LinearOrder α]

/-- Commands keep the events of static goals. -/
theorem StaticEvents.call {c : Control α} (hc : StaticEvents c) (call : TrajectoryCall α) :
    StaticEvents (c.call call) := by
  cases hacc : call.acceptedIn c.manager with
  | false =>
      rw [call_rejected hacc]
      exact hc
  | true =>
      have hnormal (hv : c.manager.verifyState .normal .running = true) (e : PendingEvents α)
          (hfinish : e.doStaticGoalFinish = c.events.doStaticGoalFinish)
          (hstart : c.events.doStaticGoalStart = true → e.doStaticGoalStart = true)
          (hstop : c.events.doStop = true → e.doStop = true) : StaticReady e c.next := by
        have hready := hc.ready (armed_of_normal hv)
        rcases next_of_normal hc.legal hv with h | h <;> rw [h] at hready ⊢
        · exact hfinish.trans hready
        · intro h'
          obtain ⟨h₁, h₂⟩ := hready (hfinish.symm.trans h')
          exact ⟨hstart h₁, hstop h₂⟩
      have hstatic (hv : c.manager.verifyState .staticGoal .running = true) (e : PendingEvents α)
          (hstart : e.doStaticGoalStart = c.events.doStaticGoalStart)
          (hramp : c.next = (.staticGoal, .running) → e.doRampDown = true → e.doStop = true)
          (harmed : Armed { c with events := e }) : StaticReady e c.next := by
        rcases next_of_staticGoal hc.legal hv with h | h | ⟨h, -⟩
        · have hready := hc.ready (armed_of_next (by simp [h]))
          rw [h] at hready ⊢
          exact ⟨hstart.trans hready.1, hramp h⟩
        · rw [h]
          trivial
        · rw [h]
          exact fun _ => ⟨hstart.trans (hc.start hv h), harmed hv h⟩
      have hready (harmed : Armed { c with events := order call c.events }) :
          StaticReady (order call c.events) c.next := by
        cases call with
        | addTrajectory trajectory override =>
            cases override with
            | true => exact hnormal hacc _ rfl id fun _ => rfl
            | false => exact hnormal hacc _ rfl id id
        | stopTrajectory discard => exact hnormal hacc _ rfl id fun _ => rfl
        | updateDurationFactor factor => exact hnormal hacc _ rfl id id
        | startStaticGoal discard => exact hnormal hacc _ rfl (fun _ => rfl) fun _ => rfl
        | resumeTrajectory =>
            have hready := hc.ready (armed_of_rampDown hacc)
            rcases next_of_rampDown hc.legal hacc with h | h | h <;> rw [h] at hready ⊢ <;>
              exact hready
        | setStaticPositionGoal goal fast =>
            refine hstatic hacc _ rfl (fun _ hramp => ?_) harmed
            cases fast with
            | false => rfl
            | true => exact absurd hramp Bool.false_ne_true
        | setStaticVelocityGoal goal fast =>
            refine hstatic hacc _ rfl (fun _ hramp => ?_) harmed
            cases fast with
            | false => rfl
            | true => exact absurd hramp Bool.false_ne_true
        | finishStaticGoal resume =>
            refine hstatic hacc _ rfl (fun hnext => ?_) harmed
            have hready := hc.ready (armed_of_next (by simp [hnext]))
            rw [hnext] at hready
            exact hready.2
        | retrieveExecutionProgress => cases hacc
      have hstart (hv : c.manager.verifyState .staticGoal .running = true)
          (hnext : c.next = (.rampDown, .none)) :
          (order call c.events).doStaticGoalStart = true := by
        have hstart := hc.start hv hnext
        cases call with
        | addTrajectory trajectory override => cases override <;> exact hstart
        | startStaticGoal discard => rfl
        | _ => exact hstart
      have hfinish (hv : c.manager.verifyState .normal .running = true) :
          (order call c.events).doStaticGoalFinish = false := by
        have hfinish := hc.finish hv
        cases call with
        | addTrajectory trajectory override => cases override <;> exact hfinish
        | finishStaticGoal resume =>
            have hacc : c.manager.verifyState .staticGoal .running = true := hacc
            simp only [StateManager.verifyState, decide_eq_true_eq] at hv hacc
            simp [hv.1] at hacc
        | _ => exact hfinish
      have hevents := call_events hacc
      have hmanager := (call_frame c call).1
      refine hc.of_events hmanager (fun harmed => ?_) (hevents ▸ hstart)
        (hevents ▸ hfinish)
      rw [hevents]
      exact hready (harmed.congr hmanager.symm hevents.symm)

/-! ### Within an episode -/

omit [Field α] [LinearOrder α] in
/-- What the events are as a state is processed between `startStaticGoal` and
`finishStaticGoal`; `entered` says that StaticGoal has been reached. -/
def EpisodeReady (entered : Bool) (e : PendingEvents α) : States × SubStates → Prop
  | (.normal, .running) =>
      entered = false ∧ e.doRampDown = true ∧ e.doStop = true ∧ e.doResume = true
  | (.rampDown, _) => e.doStop = true ∧ e.doResume = true
  | (.staticGoal, .none) => e.doRampDown = false
  | (.staticGoal, .running) => e.doRampDown = true → e.doStop = true ∧ e.doResume = true
  | _ => False

/-- A machine between the two commands; `entered` once StaticGoal has been reached. -/
structure Episode (entered : Bool) (c : Control α) : Prop where
  legal : Legal c.manager
  start : c.events.doStaticGoalStart = true
  finish : c.events.doStaticGoalFinish = false
  ready : Armed c → EpisodeReady entered c.events c.next

omit [Field α] [LinearOrder α] in
theorem EpisodeReady.decides {entered : Bool} {e e' : PendingEvents α}
    {s s' : States × SubStates} (hs : EpisodeReady entered e s)
    (hstart : e.doStaticGoalStart = true) (hfinish : e.doStaticGoalFinish = false)
    (h : Decides e s e' s') :
    (e'.doStaticGoalStart = true ∧ e'.doStaticGoalFinish = false ∧ EpisodeReady entered e' s') ∧
      s' ≠ (.normal, .running) := by
  cases h with
  | shouldNeverOccur subState hsub => cases subState <;> first | exact hs.elim | exact absurd rfl hsub
  | interrupt => exact ⟨⟨hstart, hfinish, hs.2.2⟩, by simp⟩
  | execute hramp => exact absurd hs.2.1 (by simp [hramp])
  | startRampDown => exact ⟨⟨hstart, hfinish, hs⟩, by simp⟩
  | continueRampDown => exact ⟨⟨hstart, hfinish, hs⟩, by simp⟩
  | finishRampDown => exact ⟨⟨hstart, hfinish, hs⟩, by simp⟩
  | wait hstop hresume => exact absurd hs.2 (by simp [hresume])
  | enterStaticGoal => exact ⟨⟨hstart, hfinish, rfl⟩, by simp⟩
  | resume hstop hresume hstatic => exact absurd hstart (by simp [hstatic])
  | rampedDown hstop => exact absurd hs.1 (by simp [hstop])
  | startStaticGoal =>
      exact ⟨⟨hstart, hfinish, fun h => absurd (Eq.trans (Eq.symm hs) h) (by simp)⟩, by simp⟩
  | executeStaticGoal =>
      refine ⟨⟨by simpa using hstart, by simpa using hfinish, ?_⟩, by simp⟩
      simpa [EpisodeReady] using hs
  | interruptStaticGoal _ hramp => exact ⟨⟨hstart, hfinish, hs hramp⟩, by simp⟩
  | finishStaticGoal hfinish' => simp [hfinish] at hfinish'
  | leaveStaticGoal => exact hs.elim

omit [Field α] [LinearOrder α] in
theorem Episode.turn {entered : Bool} {c c' : Control α} (hc : Episode entered c)
    (harmed : Armed c) (h : Turn c.updateState c') :
    Episode entered c' ∧ c'.trace.filterMap Call.point? = c.trace.filterMap Call.point? ∧
      c'.trace.filterMap Call.trajectory? = c.trace.filterMap Call.trajectory? := by
  have hp : c.updateState.manager.hasPendingState = false := updateState_hasPendingState _
  have hdecides : Decides c.events c.next c'.events c'.next := h.decides hp
  obtain ⟨⟨hstart, hfinish, hready⟩, hnext⟩ :=
    (hc.ready harmed).decides hc.start hc.finish hdecides
  exact ⟨⟨h.legal hp, hstart, hfinish, fun _ => hready⟩, h.quiet hp hnext⟩

omit [Field α] [LinearOrder α] in
theorem Episode.verifyState {entered : Bool} {c : Control α} (hc : Episode entered c) :
    c.manager.verifyState .normal .none = false := by
  cases hv : c.manager.verifyState .normal .none with
  | false => rfl
  | true =>
      have hnext := next_of_inactive hc.legal hv
      have hready := hc.ready (armed_of_next (by simp [hnext]))
      rw [hnext] at hready
      exact hready.elim

omit [Field α] [LinearOrder α] in
theorem Episode.of_events {entered : Bool} {c c' : Control α} (hc : Episode entered c)
    (hmanager : c'.manager = c.manager) (hstart : c'.events.doStaticGoalStart = true)
    (hfinish : c'.events.doStaticGoalFinish = false)
    (hready : Armed c' → EpisodeReady entered c'.events c.next) : Episode entered c' := by
  have hlegal := hc.legal
  have hnext : c'.next = c.next := by simp only [next, hmanager]
  rw [← hmanager] at hlegal
  rw [← hnext] at hready
  exact ⟨hlegal, hstart, hfinish, hready⟩

omit [Field α] [LinearOrder α] in
theorem Episode.congr {entered : Bool} {c c' : Control α} (hc : Episode entered c)
    (hmanager : c'.manager = c.manager) (hevents : c'.events = c.events) : Episode entered c' :=
  hc.of_events hmanager (hevents ▸ hc.start) (hevents ▸ hc.finish)
    (fun harmed => hevents ▸ hc.ready (harmed.congr hmanager.symm hevents.symm))

omit [Field α] [LinearOrder α] in
/-- In StaticGoal the way back to Normal leads through a ramp down. -/
theorem Episode.entered {entered : Bool} {c : Control α} (hc : Episode entered c)
    (hstate : c.manager.currentState = .staticGoal) : Episode true c := by
  refine ⟨hc.legal, hc.start, hc.finish, fun harmed => ?_⟩
  have hne := next_ne_normal hc.legal hstate
  have hready := hc.ready harmed
  generalize c.next = s at hne hready ⊢
  match s, hready with
  | (.normal, .running), _ => exact absurd rfl hne
  | (.rampDown, _), h => exact h
  | (.staticGoal, .none), h => exact h
  | (.staticGoal, .running), h => exact h

omit [Field α] [LinearOrder α] in
theorem Episode.next_ne_normal {c : Control α} (hc : Episode true c) (harmed : Armed c) :
    c.next.1 ≠ .normal := by
  have hready := hc.ready harmed
  generalize c.next = s at hready ⊢
  match s, hready with
  | (.normal, .running), h => exact absurd h.1 (by simp)
  | (.rampDown, _), _ => simp
  | (.staticGoal, .none), _ => simp
  | (.staticGoal, .running), _ => simp

/-- The commands of an episode, in which no finish is accepted. -/
theorem Episode.call {entered : Bool} {c : Control α} (hc : Episode entered c)
    {call : TrajectoryCall α}
    (h : ∀ resume, call = .finishStaticGoal resume → call.acceptedIn c.manager = false) :
    Episode entered (c.call call) := by
  cases hacc : call.acceptedIn c.manager with
  | false =>
      rw [call_rejected hacc]
      exact hc
  | true =>
      have hnormal (hv : c.manager.verifyState .normal .running = true) (e : PendingEvents α)
          (hramp : c.events.doRampDown = true → e.doRampDown = true)
          (hstop : c.events.doStop = true → e.doStop = true)
          (hresume : c.events.doResume = true → e.doResume = true) :
          EpisodeReady entered e c.next := by
        have hready := hc.ready (armed_of_normal hv)
        rcases next_of_normal hc.legal hv with h | h <;> rw [h] at hready ⊢
        · obtain ⟨h₀, h₁, h₂, h₃⟩ := hready
          exact ⟨h₀, hramp h₁, hstop h₂, hresume h₃⟩
        · exact ⟨hstop hready.1, hresume hready.2⟩
      have hstatic (hv : c.manager.verifyState .staticGoal .running = true) (e : PendingEvents α)
          (hramp : e.doRampDown = true → e.doStop = true ∧ e.doResume = true)
          (hstop : e.doStop = true → e.doResume = true)
          (harmed : Armed { c with events := e }) : EpisodeReady entered e c.next := by
        rcases next_of_staticGoal hc.legal hv with h | h | ⟨h, -⟩
        · rw [h]
          exact hramp
        · have hready := hc.ready (armed_of_next (by simp [h]))
          rw [h] at hready
          exact hready.elim
        · rw [h]
          exact ⟨harmed hv h, hstop (harmed hv h)⟩
      have horder : (order call c.events).doStaticGoalStart = true ∧
          (order call c.events).doStaticGoalFinish = false ∧
          (Armed { c with events := order call c.events } →
            EpisodeReady entered (order call c.events) c.next) := by
        cases call with
        | addTrajectory trajectory override =>
            refine ⟨by cases override <;> exact hc.start, by cases override <;> exact hc.finish,
              fun _ => ?_⟩
            cases override with
            | true => exact hnormal hacc _ (fun _ => rfl) (fun _ => rfl) fun _ => rfl
            | false => exact hc.ready (armed_of_normal hacc)
        | stopTrajectory discard =>
            exact ⟨hc.start, hc.finish,
              fun _ => hnormal hacc _ (fun _ => rfl) (fun _ => rfl) id⟩
        | updateDurationFactor factor =>
            exact ⟨hc.start, hc.finish, fun _ => hnormal hacc _ (fun _ => rfl) id id⟩
        | startStaticGoal discard =>
            exact ⟨rfl, hc.finish,
              fun _ => hnormal hacc _ (fun _ => rfl) (fun _ => rfl) fun _ => rfl⟩
        | resumeTrajectory =>
            refine ⟨hc.start, hc.finish, fun _ => ?_⟩
            have hready := hc.ready (armed_of_rampDown hacc)
            rcases next_of_rampDown hc.legal hacc with h | h | h <;> rw [h] at hready ⊢
            · exact ⟨hready.1, rfl⟩
            · exact ⟨hready.1, hready.2.1, hready.2.2.1, rfl⟩
            · exact hready
        | setStaticPositionGoal goal fast =>
            refine ⟨hc.start, hc.finish, hstatic hacc _ (fun hramp => ⟨hramp, rfl⟩) fun _ => rfl⟩
        | setStaticVelocityGoal goal fast =>
            refine ⟨hc.start, hc.finish, hstatic hacc _ (fun hramp => ⟨hramp, rfl⟩) fun _ => rfl⟩
        | finishStaticGoal resume => exact absurd hacc (by simp [h resume rfl])
        | retrieveExecutionProgress => cases hacc
      have hevents := call_events hacc
      have hmanager := (call_frame c call).1
      refine hc.of_events hmanager (hevents ▸ horder.1) (hevents ▸ horder.2.1) fun harmed => ?_
      rw [hevents]
      exact horder.2.2 (harmed.congr hmanager.symm hevents.symm)

end Control

namespace TrajectoryMotion

variable [Field α] [LinearOrder α] [Cmath α] [FloorRing α]

/-! ### One step -/

/-- A callback that starts a ramp down requested in StaticGoal does so with `do_stop` set. -/
def KeepsStop (t : TrajectoryMotion α) : Action α → Prop
  | .generateOutputs _ _ => t.stateManager.verifyState .staticGoal .running = true →
      t.stateManager.rampDownPending = true → t.events.doStop = true
  | _ => True

/-- A callback has ok states, and starts a session only with no finish of static goals
outstanding. -/
def SessionOk (t : TrajectoryMotion α) : Action α → Prop
  | .generateOutputs _ inputs => inputs.statesOk = true ∧
      (inputs.firstMessage = true → t.events.doStaticGoalFinish = false)
  | _ => True

/-- A step of a session with ok states in which no `finishStaticGoal` is accepted. -/
def WithoutFinish (t : TrajectoryMotion α) : Action α → Prop
  | .generateOutputs _ inputs => inputs.statesOk = true ∧ inputs.firstMessage = false
  | .call (.finishStaticGoal resume) => (t.finishStaticGoal resume).1 = false
  | _ => True

/-- The trajectories a callback takes from the primary queue. -/
def takenTrajectories (t : TrajectoryMotion α) : Action α → List (Trajectory α)
  | .generateOutputs outputs inputs =>
      (t.generateOutputs outputs inputs).1.trace.filterMap Call.trajectory?
  | _ => []

/-- A step that takes no trajectory, retrieves no point and does not end in (Normal, Running). -/
def ExcludesTrajectories (t : TrajectoryMotion α) (a : Action α) : Prop :=
  t.takenTrajectories a = [] ∧ t.retrievedPoints a = [] ∧
    (t.step a).stateManager.verifyState .normal .running = false

instance (t : TrajectoryMotion α) : ∀ a, Decidable (t.KeepsStop a)
  | .generateOutputs _ _ => inferInstanceAs (Decidable (_ → _ → _))
  | .call _ => .isTrue trivial
  | .updateConfigurations _ => .isTrue trivial

instance (t : TrajectoryMotion α) : ∀ a, Decidable (t.SessionOk a)
  | .generateOutputs _ _ => inferInstanceAs (Decidable (_ ∧ (_ → _)))
  | .call _ => .isTrue trivial
  | .updateConfigurations _ => .isTrue trivial

instance (t : TrajectoryMotion α) : ∀ a, Decidable (t.WithoutFinish a)
  | .generateOutputs _ _ => inferInstanceAs (Decidable (_ ∧ _))
  | .call (.finishStaticGoal _) => inferInstanceAs (Decidable (_ = _))
  | .call (.addTrajectory _ _) | .call (.stopTrajectory _) | .call .resumeTrajectory
  | .call (.updateDurationFactor _) | .call (.startStaticGoal _)
  | .call (.setStaticPositionGoal _ _) | .call (.setStaticVelocityGoal _ _)
  | .call .retrieveExecutionProgress | .updateConfigurations _ => .isTrue trivial

instance (t : TrajectoryMotion α) (a : Action α) : Decidable (t.ExcludesTrajectories a) :=
  inferInstanceAs (Decidable (_ ∧ _ ∧ _))

omit [Field α] [LinearOrder α] [Cmath α] [FloorRing α] in
theorem KeepsStop.armed {t : TrajectoryMotion α} {outputs : Output α} {inputs : InputContainer α}
    (h : t.KeepsStop (.generateOutputs outputs inputs)) (hlegal : Control.Legal t.stateManager) :
    Control.Armed { t.control with trace := [] } :=
  fun hv hnext => h hv (Control.rampDownPending_of_next (c := t.control) hlegal hv hnext)

theorem staticEvents_step {t : TrajectoryMotion α} {a : Action α} (ht : t.control.StaticEvents)
    (ha : t.SessionOk a) (ha' : t.KeepsStop a) : (t.step a).control.StaticEvents := by
  cases a with
  | updateConfigurations configurations => exact ht
  | call call =>
      have hcontrol : (t.step (.call call)).control = t.control.call call := t.control_call call
      rw [hcontrol]
      exact ht.call call
  | generateOutputs outputs inputs =>
      have hcleared : Control.StaticEvents { t.control with trace := [] } := ht.congr rfl rfl
      have harmed := ha'.armed ht.legal
      exact (hcleared.prepare inputs.firstMessage t.remainingTime ha.2).turn
        (harmed.prepare ht.legal inputs.firstMessage t.remainingTime)
        (generateOutputs_ok t outputs inputs ha.1)

theorem episode_step {entered : Bool} {t : TrajectoryMotion α} {a : Action α}
    (ht : t.control.Episode entered) (ha : t.WithoutFinish a) (ha' : t.KeepsStop a) :
    (t.step a).control.Episode entered ∧ t.takenTrajectories a = [] ∧ t.retrievedPoints a = [] := by
  cases a with
  | updateConfigurations configurations => exact ⟨ht, rfl, rfl⟩
  | call call =>
      have hcontrol : (t.step (.call call)).control = t.control.call call := t.control_call call
      rw [hcontrol]
      refine ⟨ht.call ?_, rfl, rfl⟩
      rintro resume rfl
      exact (t.call_fst (.finishStaticGoal resume) (by simp)).symm.trans ha
  | generateOutputs outputs inputs =>
      have hprepared : Control.Episode entered (Control.setGoal { t.control with trace := [] }
        false t.control.hasActiveGoal) := ht.congr rfl rfl
      have harmed : Control.Armed (Control.setGoal { t.control with trace := [] } false
        t.control.hasActiveGoal) := (ha'.armed ht.legal).congr rfl rfl
      have hturn := generateOutputs_session outputs ha.1 ha.2 ht.verifyState
      obtain ⟨hepisode, hpoints, htrajectories⟩ := hprepared.turn harmed hturn
      exact ⟨hepisode, htrajectories, hpoints⟩

/-- Once StaticGoal has been reached, the machine does not get to Normal. -/
theorem episode_state {t : TrajectoryMotion α} {a : Action α} (ht : t.control.Episode true)
    (ha : t.WithoutFinish a) (ha' : t.KeepsStop a)
    (hstate : t.stateManager.currentState ≠ .normal) :
    (t.step a).stateManager.currentState ≠ .normal := by
  cases a with
  | updateConfigurations configurations => exact hstate
  | call call =>
      have hmanager : (t.step (.call call)).stateManager = t.stateManager :=
        (congrArg Control.manager (t.control_call call)).trans (Control.call_frame _ _).1
      rwa [hmanager]
  | generateOutputs outputs inputs =>
      have hcurrent : (t.generateOutputs outputs inputs).1.stateManager.currentState =
        t.control.next.1 :=
        (generateOutputs_session outputs ha.1 ha.2 ht.verifyState).current.1
      change (t.generateOutputs outputs inputs).1.stateManager.currentState ≠ .normal
      rw [hcurrent]
      exact ht.next_ne_normal ((ha'.armed ht.legal).congr rfl rfl)

/-! ### Runs -/

omit [Cmath α] [FloorRing α] in
/-- An accepted `startStaticGoal` begins an episode. -/
theorem episode_startStaticGoal {t : TrajectoryMotion α} (ht : t.control.StaticEvents)
    (discard : Bool) (haccepted : (t.startStaticGoal discard).1 = true) :
    (t.startStaticGoal discard).2.control.Episode false := by
  have hv : t.stateManager.verifyState .normal .running = true :=
    (t.call_fst (.startStaticGoal discard) (by simp)).symm.trans haccepted
  have hcontrol : (t.startStaticGoal discard).2.control =
      t.control.setEvents (t.events.startStaticGoal discard) := by
    simp [startStaticGoal, command, hv]
  rw [hcontrol]
  refine ⟨ht.legal, rfl, ht.finish hv, fun _ => ?_⟩
  change Control.EpisodeReady false (t.events.startStaticGoal discard) t.control.next
  rcases Control.next_of_normal (c := t.control) ht.legal hv with h | h <;> rw [h]
  · exact ⟨rfl, rfl, rfl, rfl⟩
  · exact ⟨rfl, rfl⟩

/-- **Static goals exclude trajectories** in a run in which every ramp down requested in StaticGoal
starts with `do_stop` set: from the callback that enters StaticGoal on, no trajectory is taken, no
point is retrieved and (Normal, Running) is not entered until `finishStaticGoal` is accepted. -/
theorem static_goal_excludes (configurations : TrajectoryConfiguration α)
    (before entering after : List (Action α)) (discard : Bool) (a : Action α)
    (hbefore : Along step SessionOk (init configurations) before)
    (hkeeps : Along step KeepsStop (init configurations)
      (before ++ .call (.startStaticGoal discard) :: (entering ++ a :: after)))
    (haccepted : ((run step (init configurations) before).startStaticGoal discard).1 = true)
    (hepisode : Along step WithoutFinish
      ((run step (init configurations) before).startStaticGoal discard).2 (entering ++ a :: after))
    (hentered : (run step ((run step (init configurations) before).startStaticGoal discard).2
      (entering ++ [a])).stateManager.currentState = .staticGoal) :
    Along step ExcludesTrajectories
      (run step ((run step (init configurations) before).startStaticGoal discard).2 entering)
      (a :: after) := by
  obtain ⟨hkeeps, -, hkeeps'⟩ := (along_append _ _ _).mp hkeeps
  have hstatic : (run step (init configurations) before).control.StaticEvents := by
    refine (hbefore.and hkeeps).run_inv (I := fun t => t.control.StaticEvents)
      (fun t a ht ha => staticEvents_step ht ha.1 ha.2) ?_
    exact ⟨fun h => absurd h (by simp [init, control, StateManager.init]), fun _ => rfl,
      fun h => absurd h (by simp [init, control, StateManager.init, StateManager.verifyState]),
      fun _ => rfl⟩
  generalize run step (init configurations) before = t at *
  have hstart := episode_startStaticGoal hstatic discard haccepted
  change Along step KeepsStop (t.startStaticGoal discard).2 _ at hkeeps'
  generalize (t.startStaticGoal discard).2 = u at *
  have hboth := hepisode.and hkeeps'
  obtain ⟨hentering, ha, hafter⟩ := (along_append _ _ _).mp hboth
  -- up to the callback that enters StaticGoal
  have hu := hentering.run_inv (I := fun t => t.control.Episode false)
    (fun t a ht ha => (episode_step ht ha.1 ha.2).1) hstart
  rw [run_append, run_cons, run_nil] at hentered
  generalize run step u entering = v at *
  obtain ⟨hv, htaken, hretrieved⟩ := episode_step hu ha.1 ha.2
  refine ⟨⟨htaken, hretrieved, ?_⟩, ?_⟩
  · simp [StateManager.verifyState, hentered]
  -- from there on
  refine hafter.of_inv (I := fun t => t.control.Episode true ∧
    t.stateManager.currentState ≠ .normal) (fun t a ht ha => ?_)
    ⟨hv.entered hentered, by simp [hentered]⟩
  obtain ⟨hepisode', htaken', hretrieved'⟩ := episode_step ht.1 ha.1 ha.2
  have hstate := episode_state ht.1 ha.1 ha.2 ht.2
  exact ⟨⟨hepisode', hstate⟩, htaken', hretrieved', by simp [StateManager.verifyState, hstate]⟩

/-- A callback one second after the last one. -/
def callback : Action ℚ := .generateOutputs {} Evaluation.next

/-- A session with one queued trajectory. -/
def queued : List (Action ℚ) := [.generateOutputs {} Evaluation.first,
  .call (.addTrajectory ⟨[Evaluation.point 1 Evaluation.home]⟩ false)]

/-- A static goal at the home position. -/
def homeGoal : StaticPositionGoal ℚ := { robot := .present { joints := .present ⟨Evaluation.home⟩ } }

/-- StaticGoal is entered in the fifth callback, and a goal is set that is not fast. -/
theorem static_goal_excludes_not_fast :
    Along step ExcludesTrajectories
      (run step ((run step (init Evaluation.configurations) queued).startStaticGoal false).2
        (.replicate 4 callback))
      (callback :: [callback, .call (.setStaticPositionGoal homeGoal false), callback, callback,
        callback, callback, callback]) :=
  static_goal_excludes Evaluation.configurations queued (.replicate 4 callback)
    [callback, .call (.setStaticPositionGoal homeGoal false), callback, callback, callback,
      callback, callback] false callback
    (by decide +kernel) (by decide +kernel) (by decide +kernel) (by decide +kernel)
    (by decide +kernel)

/-- A goal that is not fast and, in the window in which its ramp down is pending, a fast one: the
ramp down ends in (Normal, Running) and the queued trajectory is taken, no matter that
`finishStaticGoal` has not been called. -/
theorem fast_goal_leaves_static_goal :
    Along step SessionOk (init Evaluation.configurations) queued ∧
    ((run step (init Evaluation.configurations) queued).startStaticGoal false).1 = true ∧
    Along step WithoutFinish
      ((run step (init Evaluation.configurations) queued).startStaticGoal false).2
      (.replicate 4 callback ++ callback :: [callback, .call (.setStaticPositionGoal homeGoal false),
        callback, .call (.setStaticPositionGoal homeGoal true), callback, callback, callback,
        callback]) ∧
    (run step ((run step (init Evaluation.configurations) queued).startStaticGoal false).2
      (.replicate 4 callback ++ [callback])).stateManager.currentState = .staticGoal ∧
    ¬ Along step ExcludesTrajectories
      (run step ((run step (init Evaluation.configurations) queued).startStaticGoal false).2
        (.replicate 4 callback))
      (callback :: [callback, .call (.setStaticPositionGoal homeGoal false), callback,
        .call (.setStaticPositionGoal homeGoal true), callback, callback, callback, callback]) := by
  decide +kernel

end TrajectoryMotion

end AbbWrapper
