import AbbWrapper.ActivationStart
import AbbWrapper.RemainingTime

/-! # Divisions by the duration of a goal

`EGMInterpolator::update` clamps the duration of a goal from below, and the splines divide by the
clamped one.  `Slerp`, `SoftRamp` and the output controller divide by the duration as it was
prepared: for a trajectory point this is what the user asks for, or the estimate, times the duration
factor.  The ramps and the static goals have durations of their own, which are long enough.

* `distances` are the distances of a goal from the feedback, coordinate by coordinate, and `TakesTime`
  says of a point that the user has given it a duration, or that one of them is long enough.
* `updateDivisors`, `evaluateDivisors` and `divisors` list what is divided by, in an update, in an
  evaluation and in a whole `executeGoal`; `DividesSafely` says that all of these are positive and the
  same as the duration of the interpolator.
* `Timed` and `Clocked` are the invariants of a machine and of a run.

Along a run everything is divided safely exactly if every trajectory point that is activated takes some
time (`divides_iff`).  A point that is to be passed at once makes the controller divide by zero
(`divides_by_zero`). -/

namespace AbbWrapper

open Protobuf Runs

variable {α : Type} [Field α] [LinearOrder α] [Cmath α]

/-! ### Distances -/

omit [Cmath α] in
theorem le_foldl_max_iff {x a : α} {l : List α} : x ≤ l.foldl max a ↔ x ≤ a ∨ ∃ d ∈ l, x ≤ d := by
  induction l generalizing a with
  | nil => simp
  | cons d l ih =>
      rw [List.foldl_cons, ih, le_max_iff, List.exists_mem_cons_iff]
      exact or_assoc

def Joints.distances (j1 j2 : Joints α) : List α :=
  List.zipWith (fun a b => |a - b|) j1.values j2.values

def Cartesian.distances (c1 c2 : Cartesian α) : List α :=
  [|c1.x.val - c2.x.val|, |c1.y.val - c2.y.val|, |c1.z.val - c2.z.val|]

def Euler.distances (e1 e2 : Euler α) : List α :=
  [|e1.x.val - e2.x.val|, |e1.y.val - e2.y.val|, |e1.z.val - e2.z.val|]

namespace MotionStep

/-- The distances between the internal goal and the feedback, coordinate by coordinate. -/
def distances (m : MotionStep α) : List α :=
  let goal := m.internalGoal
  let feedback := m.data.feedback
  let external := goal.externalJoints.position.get.distances feedback.externalJoints.position.get
  match m.data.mode with
  | .egmJoint =>
      goal.robotJoints.position.get.distances feedback.robotJoints.position.get ++ external
  | .egmPose =>
      let goalPose := goal.robotCartesian.pose.get
      let feedbackPose := feedback.robotCartesian.pose.get
      goalPose.position.get.distances feedbackPose.position.get ++
        (goalPose.quaternion.get.convert {}).distances feedbackPose.euler.get ++ external

/-- The duration that the user has given to the point, or one of the distances to go, is as long as
the lowest sample time once it is multiplied by the duration factor. -/
def TakesTime (m : MotionStep α) : Prop :=
  if m.externalGoal.duration.has then
    Constants.lowestSampleTime α ≤ m.data.durationFactor * m.externalGoal.duration.val
  else ∃ d ∈ m.distances, Constants.lowestSampleTime α ≤ m.data.durationFactor * d

theorem le_estimateDuration_iff (m : MotionStep α) {x : α} (hx : 0 < x) :
    x ≤ m.estimateDuration ↔ ∃ d ∈ m.distances, x ≤ d := by
  have hjoints (j1 j2 : Joints α) :
      x ≤ j1.findMaxDifference j2 ↔ ∃ d ∈ j1.distances j2, x ≤ d := by
    rw [Joints.findMaxDifference, le_foldl_max_iff, or_iff_right (not_le.mpr hx)]
    rfl
  unfold estimateDuration distances
  simp only
  cases m.data.mode with
  | egmJoint =>
      rw [le_max_iff, le_max_iff, or_iff_right (not_le.mpr hx), hjoints, hjoints]
      simp only [List.mem_append, or_and_right, exists_or]
  | egmPose =>
      rw [le_max_iff, le_max_iff, hjoints]
      simp only [List.mem_append, or_and_right, exists_or, Cartesian.findMaxDifference,
        Cartesian.distances, Euler.findMaxDifference, Euler.distances, le_max_iff,
        List.mem_cons, List.not_mem_nil, or_false, exists_eq_left, or_assoc]

/-- The estimate depends on positions only. -/
theorem estimateDuration_resetVelocities (m : MotionStep α) (n : ℕ) (duration : Optional α) :
    { m with internalGoal := { m.internalGoal.resetVelocities n with
      duration := duration } }.estimateDuration = m.estimateDuration := by
  unfold estimateDuration
  cases m.data.mode <;> rfl

/-- The duration of a prepared goal. -/
theorem prepareNormalGoal_duration (m : MotionStep α) (lastPoint : Bool) :
    (m.prepareNormalGoal lastPoint).interpolatorConditions.duration =
      (m.prepareNormalGoal lastPoint).data.durationFactor *
        if (m.prepareNormalGoal lastPoint).externalGoal.duration.has then
          (m.prepareNormalGoal lastPoint).externalGoal.duration.val
        else (m.prepareNormalGoal lastPoint).estimateDuration := by
  -- the goal that the estimate is made for
  obtain ⟨u, hduration, hprepared⟩ : ∃ u : MotionStep α,
      (m.prepareNormalGoal lastPoint).interpolatorConditions.duration = m.data.durationFactor *
        (if m.externalGoal.duration.has then m.externalGoal.duration.val else u.estimateDuration) ∧
      (m.externalGoal.duration.has = false → m.prepareNormalGoal lastPoint =
        { u with
          internalGoal := { u.internalGoal.resetVelocities m.robotJoints with
            duration := (m.prepareNormalGoal lastPoint).internalGoal.duration }
          interpolatorConditions := (m.prepareNormalGoal lastPoint).interpolatorConditions }) := by
    refine ⟨_, rfl, fun hhas => ?_⟩
    unfold prepareNormalGoal
    simp only [hhas, Bool.false_eq_true, if_false]
  rw [hduration]
  cases hhas : m.externalGoal.duration.has with
  | true =>
      have hhas' : (m.prepareNormalGoal lastPoint).externalGoal.duration.has = true := hhas
      rw [if_pos rfl, if_pos hhas']
      rfl
  | false =>
      have hhas' : (m.prepareNormalGoal lastPoint).externalGoal.duration.has ≠ true := by
        exact Bool.eq_false_iff.mp hhas
      have hestimate : (m.prepareNormalGoal lastPoint).estimateDuration = u.estimateDuration := by
        rw [hprepared hhas]
        exact estimateDuration_resetVelocities u m.robotJoints _
      rw [if_neg Bool.false_ne_true, if_neg hhas', hestimate]
      rfl

variable [IsStrictOrderedRing α]

theorem prepareNormalGoal_lasts_iff {m : MotionStep α} {lastPoint : Bool}
    (hfactor : 0 < (m.prepareNormalGoal lastPoint).data.durationFactor) :
    Constants.lowestSampleTime α ≤ (m.prepareNormalGoal lastPoint).interpolatorConditions.duration ↔
      (m.prepareNormalGoal lastPoint).TakesTime := by
  rw [prepareNormalGoal_duration]
  generalize m.prepareNormalGoal lastPoint = n at *
  unfold TakesTime
  split
  · rfl
  · rw [← div_le_iff₀' hfactor,
      le_estimateDuration_iff n (div_pos Constants.lowestSampleTime_pos hfactor)]
    simp only [div_le_iff₀' hfactor]

end MotionStep

/-! ### Divisors -/

namespace EGMInterpolator

omit [LinearOrder α] [Cmath α] in
/-- The duration that `SplinePolynomial::update` divides by, once an update has stored its
conditions. -/
def updateDivisors (e : EGMInterpolator α) : List α :=
  match e.conditions.operation with
  | .normal | .rampDown => [(SplineConditions.init e.conditions).duration]
  | .rampInPosition | .rampInVelocity => []

omit [Field α] [LinearOrder α] [Cmath α] in
/-- The durations that `Slerp::evaluate` and `SoftRamp::evaluate` divide by. -/
def evaluateDivisors (e : EGMInterpolator α) : List α :=
  match e.conditions.operation, e.conditions.mode with
  | .normal, .egmJoint | .rampDown, .egmJoint => []
  | .normal, .egmPose => [e.slerp.duration]
  | .rampDown, .egmPose | .rampInPosition, _ | .rampInVelocity, _ => [e.softRamp.duration]

theorem duration_slerp_update (s : Slerp α) (start goal : Quaternion α) (c : Conditions α) :
    (s.update start goal c).duration = c.duration := by
  unfold Slerp.update
  simp only
  split_ifs <;> rfl

omit [Field α] [LinearOrder α] [Cmath α] in
theorem duration_softRamp_update (s : SoftRamp α) (start goal : PointGoal α) (c : Conditions α) :
    (s.update start goal c).duration = c.duration := by
  unfold SoftRamp.update
  simp only
  split <;> rfl

/-- The splines are given the clamped duration, `Slerp` and `SoftRamp` the one passed in. -/
theorem divisors_update (e : EGMInterpolator α) (start goal : PointGoal α) (c : Conditions α) :
    (∀ d ∈ (e.update start goal c).updateDivisors, d = (e.update start goal c).getDuration) ∧
      ∀ d ∈ (e.update start goal c).evaluateDivisors, d = c.duration := by
  obtain ⟨hconditions, -⟩ := e.update_frame start goal c
  obtain ⟨hslerp, hrampDown, hrampIn⟩ := e.update_parts start goal c
  constructor
  · intro d hd
    unfold updateDivisors at hd
    split at hd
    · exact List.mem_singleton.mp hd
    · exact List.mem_singleton.mp hd
    · cases hd
    · cases hd
  · intro d hd
    unfold evaluateDivisors at hd
    rw [hconditions] at hd
    change d ∈ (match c.operation, c.mode with
      | .normal, .egmJoint | .rampDown, .egmJoint => []
      | .normal, .egmPose => [_]
      | .rampDown, .egmPose | .rampInPosition, _ | .rampInVelocity, _ => [_]) at hd
    split at hd
    · cases hd
    · cases hd
    · next hoperation hmode =>
      rw [List.mem_singleton.mp hd, hslerp hoperation hmode, duration_slerp_update]
    · next hoperation hmode =>
      rw [List.mem_singleton.mp hd, hrampDown hoperation hmode, duration_softRamp_update]
    · next hoperation =>
      rw [List.mem_singleton.mp hd, hrampIn (.inl hoperation), duration_softRamp_update]
    · next hoperation =>
      rw [List.mem_singleton.mp hd, hrampIn (.inr hoperation), duration_softRamp_update]

end EGMInterpolator

/-- An active goal whose evaluation divides by one duration, which is long enough. -/
structure MotionStep.Timed (m : MotionStep α) : Prop where
  lowest : Constants.lowestSampleTime α ≤ m.interpolation.duration.val
  getDuration : m.interpolator.getDuration = m.interpolation.duration.val
  evaluate : ∀ d ∈ m.interpolator.evaluateDivisors, d = m.interpolation.duration.val

omit [Cmath α] in
theorem MotionStep.Timed.congr {m m' : MotionStep α} (hinterpolator : m'.interpolator = m.interpolator)
    (hinterpolation : m'.interpolation = m.interpolation) (h : m.Timed) : m'.Timed := by
  refine ⟨?_, ?_, ?_⟩
  · rw [hinterpolation]
    exact h.lowest
  · rw [hinterpolator, hinterpolation]
    exact h.getDuration
  · rw [hinterpolator, hinterpolation]
    exact h.evaluate

theorem MotionStep.updateInterpolator_timed {m : MotionStep α}
    (h : Constants.lowestSampleTime α ≤ m.interpolatorConditions.duration) :
    m.updateInterpolator.Timed := by
  refine ⟨h, ?_, (EGMInterpolator.divisors_update _ _ _ _).2⟩
  have hconditions := (m.interpolator.update_frame m.updateInterpolator.interpolation
    m.internalGoal m.interpolatorConditions).1
  exact (congrArg Conditions.duration hconditions).trans (max_eq_right h)

theorem MotionStep.duration_evaluateInterpolator (m : MotionStep α) :
    m.evaluateInterpolator.interpolation.duration = m.interpolation.duration := by
  change (m.interpolator.evaluate _ _ _).duration = _
  unfold EGMInterpolator.evaluate
  simp only
  split <;> rfl

namespace Controller

theorem duration_calculate (c : Controller α) (output : Output α) (m : MotionStep α) :
    (c.calculate output m).2.2.interpolation.duration = m.interpolation.duration := by
  have hcheck (c : Controller α) (references : PointGoal α) :
      (c.checkForVelocityTransition references).2.duration = references.duration := by
    unfold checkForVelocityTransition
    simp only
    generalize (if c.isNormalState = true then _ else c : Controller α) = d
    split <;> rfl
  unfold calculate
  simp only
  split
  · exact hcheck _ _
  · exact hcheck _ _

end Controller

namespace TrajectoryMotion

/-- What `executeGoal` divides by: the splines for a new goal, `Slerp`, `SoftRamp` and the output
controller for an active one. -/
def divisors (t : TrajectoryMotion α) : List α :=
  let m := t.startGoal.motionStep
  (if t.data.hasNewGoal then m.interpolator.updateDivisors else []) ++
    if t.data.hasActiveGoal then
      m.interpolator.evaluateDivisors ++ [m.evaluateInterpolator.interpolation.duration.val]
    else []

/-- All of them are positive, and the duration of the interpolator. -/
def DividesSafely (t : TrajectoryMotion α) : Prop :=
  ∀ d ∈ t.divisors, 0 < d ∧ d = t.startGoal.motionStep.interpolator.getDuration

/-- If a goal is active, then it is evaluated with a single duration. -/
def Timed (t : TrajectoryMotion α) : Prop :=
  t.data.hasActiveGoal = true → t.motionStep.Timed

theorem Timed.executeGoal {t : TrajectoryMotion α} (h : t.startGoal.Timed) (outputs : Output α) :
    (t.executeGoal outputs).1.Timed := by
  rw [executeGoal_eq]
  split
  · next hactive =>
    intro _
    obtain ⟨hlowest, hduration, hevaluate⟩ := h hactive
    have hinterpolator := congrArg MotionStep.interpolator (Controller.calculate_frame
      t.startGoal.controller outputs t.startGoal.motionStep.evaluateInterpolator).2.eq
    have hkept := (Controller.duration_calculate t.startGoal.controller outputs
      t.startGoal.motionStep.evaluateInterpolator).trans
        (MotionStep.duration_evaluateInterpolator _)
    refine ⟨?_, ?_, ?_⟩
    · simp only [hkept]
      exact hlowest
    · simp only [hkept, hinterpolator]
      exact hduration
    · simp only [hkept, hinterpolator]
      exact hevaluate
  · exact h

/-- The output controller divides by the duration of a new goal as it was prepared. -/
theorem DividesSafely.lowest {t : TrajectoryMotion α} (h : t.DividesSafely)
    (hnew : t.data.hasNewGoal = true) (hactive : t.data.hasActiveGoal = true) :
    Constants.lowestSampleTime α ≤ t.motionStep.interpolatorConditions.duration := by
  have hmem : t.motionStep.interpolatorConditions.duration ∈ t.divisors := by
    unfold divisors startGoal
    simp only [hnew, hactive, if_true, MotionStep.duration_evaluateInterpolator, List.mem_append,
      List.mem_singleton]
    exact .inr (.inr rfl)
  have hconditions := (t.motionStep.interpolator.update_frame
    t.motionStep.updateInterpolator.interpolation t.motionStep.internalGoal
    t.motionStep.interpolatorConditions).1
  have hduration : t.startGoal.motionStep.interpolator.getDuration =
      max (Constants.lowestSampleTime α) t.motionStep.interpolatorConditions.duration := by
    unfold startGoal
    rw [if_pos hnew]
    exact congrArg Conditions.duration hconditions
  have heq := (h _ hmem).2
  rw [hduration] at heq
  exact heq ▸ le_max_left _ _

variable [IsStrictOrderedRing α]

theorem Timed.dividesSafely {t : TrajectoryMotion α} (h : t.startGoal.Timed)
    (hactive : t.data.hasNewGoal = true → t.data.hasActiveGoal = true) : t.DividesSafely := by
  intro d hd
  have hgoal : t.data.hasActiveGoal = true := by
    by_contra hgoal
    have hnew : t.data.hasNewGoal ≠ true := fun hnew => hgoal (hactive hnew)
    unfold divisors at hd
    simp only [hgoal, hnew, Bool.false_eq_true, if_false, List.append_nil] at hd
    cases hd
  obtain ⟨hlowest, hduration, hevaluate⟩ := h (t.hasActiveGoal_startGoal.trans hgoal)
  have hpos := lt_of_lt_of_le Constants.lowestSampleTime_pos hlowest
  suffices d = t.startGoal.motionStep.interpolator.getDuration by
    rw [this, hduration]
    exact ⟨hpos, rfl⟩
  unfold divisors at hd
  simp only [hgoal, if_true, List.mem_append, List.mem_singleton,
    MotionStep.duration_evaluateInterpolator] at hd
  rcases hd with hd | hd | hd
  · split_ifs at hd with hnew
    · unfold startGoal at hd ⊢
      rw [if_pos hnew] at hd ⊢
      exact (EGMInterpolator.divisors_update _ _ _ _).1 d hd
    · cases hd
  · exact (hevaluate d hd).trans hduration.symm
  · exact hd.trans hduration.symm

variable [FloorRing α]

/-! ### Runs -/

/-- A callback divides safely. -/
def Divides (t : TrajectoryMotion α) : Action α → Prop
  | .generateOutputs _ inputs => inputs.statesOk = true → (t.prepared inputs).process.DividesSafely
  | _ => True

/-- A point that is activated takes some time. -/
def ActivatesLong (t : TrajectoryMotion α) : Action α → Prop
  | .generateOutputs _ inputs =>
      t.ActivatesNormalGoal inputs → (t.prepared inputs).process.motionStep.TakesTime
  | _ => True

omit [FloorRing α] in
theorem lowestSampleTime_le_of_newGoal {s : States × SubStates} {m : MotionStep α}
    (h : NewGoal s m) (hfactor : 1 ≤ m.data.durationFactor) :
    Constants.lowestSampleTime α ≤ m.interpolatorConditions.duration ↔
      (s = (.normal, .running) ∨ s = (.rampDown, .finished) → m.TakesTime) := by
  have hpos : 0 < m.data.durationFactor := lt_of_lt_of_le zero_lt_one hfactor
  have hbound {x : α} (hx : 4 / 1000 ≤ x) {p : Prop} (hs : ¬p) {q : Prop} :
      Constants.lowestSampleTime α ≤ x ↔ (p → q) :=
    iff_of_true hx fun h => absurd h hs
  cases h with
  | normal s hs m lastPoint =>
      rw [MotionStep.prepareNormalGoal_lasts_iff hpos]
      exact ⟨fun h _ => h, fun h => h hs⟩
  | rampDown m doStop externalGoal =>
      apply hbound
      · change (4 : α) / 1000 ≤ if doStop then 1 else 1 / 2
        split <;> norm_num
      · rintro (h | h) <;> cases h
  | staticPosition m positionGoal fast =>
      apply hbound
      · change (4 : α) / 1000 ≤ if fast then 1 / 10 else 5
        split <;> norm_num
      · rintro (h | h) <;> cases h
  | staticVelocity m velocityGoal fast =>
      apply hbound
      · change (4 : α) / 1000 ≤ if fast then 1 / 10 else 5
        split <;> norm_num
      · rintro (h | h) <;> cases h

/-- The invariant of a run. -/
structure Clocked (t : TrajectoryMotion α) : Prop where
  factor : t.FactorAtLeastOne
  timed : t.Timed

omit [Cmath α] [IsStrictOrderedRing α] in
theorem Timed.prepared {t : TrajectoryMotion α} (h : t.Timed) (inputs : InputContainer α) :
    (t.prepared inputs).Timed := by
  obtain ⟨hmotion, hactive⟩ := t.prepared_goal inputs
  intro hgoal
  rw [hactive, Bool.and_eq_true, Bool.not_eq_true'] at hgoal
  obtain ⟨hresets, hgoal⟩ := hgoal
  obtain ⟨hlowest, hduration, hevaluate⟩ := h hgoal
  rw [hmotion, hresets, if_neg Bool.false_ne_true]
  exact ⟨hlowest, hduration, hevaluate⟩

theorem Clocked.callback {t : TrajectoryMotion α} (h : t.Clocked) {inputs : InputContainer α}
    (hok : inputs.statesOk = true) (outputs : Output α) :
    ((t.prepared inputs).process.DividesSafely ↔ t.ActivatesLong (.generateOutputs outputs inputs)) ∧
      (t.ActivatesLong (.generateOutputs outputs inputs) →
        (t.step (.generateOutputs outputs inputs)).Timed) := by
  have hfactor : (t.prepared inputs).process.FactorAtLeastOne :=
    (FactorAtLeastOne.prepare (t := { t with trace := [] }) (h.factor.of_eq rfl rfl) inputs).process
  have hturn := (t.prepared inputs).process_turn
  have hprepared := h.timed.prepared inputs
  have hactive : (t.prepared inputs).process.data.hasNewGoal = true →
      (t.prepared inputs).process.data.hasActiveGoal = true := hturn.active rfl
  have hnew : (t.prepared inputs).process.data.hasNewGoal = true →
      (Constants.lowestSampleTime α ≤
          (t.prepared inputs).process.motionStep.interpolatorConditions.duration ↔
        t.ActivatesLong (.generateOutputs outputs inputs)) := by
    intro hnew
    rw [lowestSampleTime_le_of_newGoal (process_newGoal rfl hnew) hfactor.active]
    exact ⟨fun h hactivates => h hactivates.place, fun h hplace => h ⟨hok, hplace, hnew⟩⟩
  have hlong : t.ActivatesLong (.generateOutputs outputs inputs) →
      (t.prepared inputs).process.startGoal.Timed := fun hlong =>
    startGoal_active MotionStep.Timed.congr hprepared fun h =>
      MotionStep.updateInterpolator_timed ((hnew h).mpr hlong)
  have hstep : (t.step (.generateOutputs outputs inputs)).Timed ↔
      ((t.prepared inputs).process.executeGoal outputs).1.Timed := by
    rw [step, generateOutputs, hok]
    exact Iff.rfl
  refine ⟨⟨?_, ?_⟩, ?_⟩
  · intro hsafe hactivates
    exact (hnew hactivates.hasNewGoal).mp
      (hsafe.lowest hactivates.hasNewGoal (hactive hactivates.hasNewGoal)) hactivates
  · intro h
    exact (hlong h).dividesSafely hactive
  · intro h
    exact hstep.mpr ((hlong h).executeGoal outputs)

theorem Clocked.step {t : TrajectoryMotion α} (h : t.Clocked) (a : Action α) :
    (t.Divides a ↔ t.ActivatesLong a) ∧ (t.ActivatesLong a → (t.step a).Clocked) := by
  have hfactor := h.factor.step a
  cases a with
  | call call =>
      refine ⟨Iff.rfl, fun _ => ⟨hfactor, ?_⟩⟩
      intro hactive
      have hcontrol := congrArg Control.hasActiveGoal (t.control_call call)
      rw [TrajectoryMotion.step, t.call_motionStep call]
      exact h.timed (((Control.call_frame t.control call).2.2.2.2.symm.trans hcontrol.symm).trans
        hactive)
  | updateConfigurations configurations =>
      refine ⟨Iff.rfl, fun _ => ⟨hfactor, ?_⟩⟩
      intro hactive
      obtain ⟨hlowest, hduration, hevaluate⟩ := h.timed hactive
      exact ⟨hlowest, hduration, hevaluate⟩
  | generateOutputs outputs inputs =>
      cases hok : inputs.statesOk with
      | true =>
          obtain ⟨hiff, htimed⟩ := h.callback hok outputs
          exact ⟨⟨fun hd => hiff.mp (hd hok), fun ha _ => hiff.mpr ha⟩,
            fun ha => ⟨hfactor, htimed ha⟩⟩
      | false =>
          refine ⟨iff_of_true (fun hok' => ?_) fun hactivates => ?_, fun _ => ⟨hfactor, ?_⟩⟩
          · exact absurd (hok'.symm.trans hok) (by simp)
          · exact absurd (hactivates.statesOk.symm.trans hok) (by simp)
          · rw [TrajectoryMotion.step, generateOutputs, hok]
            exact h.timed.prepared inputs

/-- **All divisors are positive and the same exactly if** every trajectory point that is activated
asks for a duration, or is at a distance, that takes the lowest sample time at least. -/
theorem divides_iff (configurations : TrajectoryConfiguration α) (es : List (Action α)) :
    Along step Divides (init configurations) es ↔
      Along step ActivatesLong (init configurations) es := by
  have hinit : (init configurations).Clocked := by
    refine ⟨⟨le_rfl, le_rfl⟩, ?_⟩
    intro hactive
    cases hactive
  constructor
  · intro h
    apply h.of_inv (I := Clocked) _ hinit
    intro t a ht ha
    obtain ⟨hiff, hclocked⟩ := ht.step a
    exact ⟨hclocked (hiff.mp ha), hiff.mp ha⟩
  · intro h
    apply h.of_inv (I := Clocked) _ hinit
    intro t a ht ha
    obtain ⟨hiff, hclocked⟩ := ht.step a
    exact ⟨hclocked ha, hiff.mpr ha⟩

section evaluated

/-- A point that is to be passed in two seconds is added to an active machine, and activated. -/
def passedSlowly : List (Action ℚ) := [.generateOutputs {} Evaluation.first,
  .call (.addTrajectory ⟨[Evaluation.point 2 [10, 0, 0, 0, 0, 0]]⟩ false),
  .generateOutputs {} Evaluation.next]

theorem divides_slowly : Along step Divides (init Evaluation.configurations) passedSlowly := by
  refine (divides_iff Evaluation.configurations passedSlowly).mpr ⟨?_, trivial, ?_, trivial⟩
  · intro hactivates
    exact absurd hactivates.hasNewGoal (by decide +kernel)
  · intro _
    rw [MotionStep.TakesTime, if_pos (by decide +kernel)]
    decide +kernel

/-! ### A point without time -/

/-- A point that is to be passed at once is added to an active machine. -/
def passed : List (Action ℚ) := [.generateOutputs {} Evaluation.first,
  .call (.addTrajectory ⟨[Evaluation.point 0 [10, 0, 0, 0, 0, 0]]⟩ false)]

/-- **The output controller divides by zero** as it executes the point, while the splines divide by
the lowest sample time. -/
theorem divides_by_zero :
    ¬(∀ (configurations : TrajectoryConfiguration ℚ) (es : List (Action ℚ)),
      Along step Divides (init configurations) es) ∧
    ((run step (init Evaluation.configurations) passed).prepared Evaluation.next).process.divisors =
      [4 / 1000, 0] := by
  have hdivisors : ((run step (init Evaluation.configurations) passed).prepared
      Evaluation.next).process.divisors = [4 / 1000, 0] := by
    decide +kernel
  refine ⟨fun h => ?_, hdivisors⟩
  have hrun := h Evaluation.configurations (passed ++ [.generateOutputs {} Evaluation.next])
  have hdivides := ((along_append _ _ _).mp hrun).2.1
  have hsafe := hdivides (by decide +kernel) 0 (by rw [hdivisors]; simp)
  exact lt_irrefl 0 hsafe.1

end evaluated

end TrajectoryMotion

end AbbWrapper
