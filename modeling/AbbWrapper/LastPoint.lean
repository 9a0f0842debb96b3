import AbbWrapper.Agreement
import AbbWrapper.Evaluation

/-! # The last point of a trajectory

The last point of a trajectory is to be reached at rest, whatever the user asked for it.  Whether a
point is the last one is decided before the loop that skips points which are reached already, so
that the decision is about the first point the loop looks at, not about the one it ends with.

* `PointGoal.AtRest` says that a goal has no velocity and no acceleration, and `PointGoal.AsksForRest` that
  the user asks for none, for as many joints as are transferred.
* `transfer_atRest` and `prepareNormalGoal_atRest` say when one prepared goal is at rest.
* The loop ends with the last point that it retrieved, prepared as a last point or not as was decided
  before (`reachLoop_prepared`).
* `ActivatesLast` says that `updateNormalGoal` activates the last point, and `LastAsksForRest` that this
  point is the only one, or asks for rest itself.

The last point is told to end at rest exactly in that case (`last_point_at_rest_iff`); otherwise it is
passed with the velocity that the user gave it (`last_point_passed_on`). -/

namespace AbbWrapper

open Protobuf Runs

variable {α : Type}

section
variable [Field α]

/-! ### Goals at rest -/

def Joints.Zero (j : Joints α) : Prop := ∀ v ∈ j.values, v = 0

def Cartesian.Zero (c : Cartesian α) : Prop := c.x.val = 0 ∧ c.y.val = 0 ∧ c.z.val = 0

def Euler.Zero (e : Euler α) : Prop := e.x.val = 0 ∧ e.y.val = 0 ∧ e.z.val = 0

/-- Without velocity and acceleration. -/
def JointGoal.AtRest (j : JointGoal α) : Prop := j.velocity.get.Zero ∧ j.acceleration.get.Zero

/-- Without any velocity and acceleration; the Euler field holds the angular velocities. -/
structure PointGoal.AtRest (p : PointGoal α) : Prop where
  robot : p.robotJoints.AtRest
  linear : p.robotCartesian.velocity.get.Zero
  acceleration : p.robotCartesian.acceleration.get.Zero
  angular : p.robotCartesian.pose.get.euler.get.Zero
  external : p.externalJoints.AtRest

/-- The first `n` values are zero or left out. -/
def Joints.ZeroUpTo (n : ℕ) (j : Joints α) : Prop := ∀ i < n, j.value i = 0

/-- A user's goal for `n` joints that asks for no velocity and no acceleration. -/
def JointGoal.AsksForRest (n : ℕ) (j : JointGoal α) : Prop :=
  j.velocity.get.ZeroUpTo n ∧ j.acceleration.get.ZeroUpTo n

/-- A user's point that asks for no velocity and no acceleration. -/
def PointGoal.AsksForRest (n : ℕ) (p : PointGoal α) : Prop :=
  p.robotJoints.AsksForRest n ∧ p.externalJoints.AsksForRest n ∧
    p.robotCartesian.velocity.get.Zero ∧ p.robotCartesian.acceleration.get.Zero

theorem Joints.reset_zero (n : ℕ) : (Joints.reset n : Joints α).Zero :=
  fun _ hv => List.eq_of_mem_replicate hv

theorem Joints.zero_iff (j : Joints α) : j.Zero ↔ ∀ i < j.valuesSize, j.value i = 0 := by
  constructor
  · intro h i hi
    have hi' : i < j.values.length := hi
    apply h
    rw [Joints.value, List.getD_eq_getElem _ _ hi']
    exact List.getElem_mem hi'
  · intro h v hv
    obtain ⟨i, hi, rfl⟩ := List.getElem_of_mem hv
    rw [← List.getD_eq_getElem _ 0 hi]
    exact h i hi

/-- What is transferred over `n` zeros. -/
theorem Joints.copyPresent_zero (n : ℕ) (source : Joints α) :
    ((Joints.reset n).copyPresent source).Zero ↔ source.ZeroUpTo n := by
  have hsize : (Joints.reset n : Joints α).valuesSize = n := List.length_replicate
  have hvalue (i : ℕ) (hi : i < n) : ((Joints.reset n).copyPresent source).value i =
      source.value i := by
    rw [Joints.copyPresent, value_update _ _ _ (by rw [hsize]; exact hi), hsize]
    split_ifs with hlt
    · rfl
    · have hout : source.values.length ≤ i := by
        have : ¬i < min source.values.length n := hlt
        omega
      have hzero : (Joints.reset n : Joints α).value i = 0 := by
        simp [Joints.value, Joints.reset, hi]
      rw [hzero, Joints.value, List.getD_eq_default _ _ hout]
  have hcopied : ((Joints.reset n).copyPresent source).valuesSize = n := by
    rw [Joints.copyPresent, valuesSize_update, hsize]
  rw [Joints.zero_iff, hcopied]
  constructor
  · intro h i hi
    rw [← hvalue i hi]
    exact h i hi
  · intro h i hi
    exact (hvalue i hi).trans (h i hi)

theorem Cartesian.copyPresent_zero (source : Cartesian α) :
    ((Cartesian.reset : Cartesian α).copyPresent source).Zero ↔ source.Zero := by
  obtain ⟨x, y, z⟩ := source
  cases x <;> cases y <;> cases z <;> rfl

/-- Only the robot's and the external part count. -/
theorem PointGoal.AtRest.congr {p q : PointGoal α} (h : p.AtRest) (hrobot : q.robot = p.robot)
    (hexternal : q.external = p.external) : q.AtRest := by
  obtain ⟨d, robot, external, r⟩ := q
  subst hrobot hexternal
  exact ⟨h.robot, h.linear, h.acceleration, h.angular, h.external⟩

theorem PointGoal.resetVelocities_atRest (n : ℕ) (p : PointGoal α) :
    (p.resetVelocities n).AtRest where
  robot := ⟨Joints.reset_zero n, Joints.reset_zero n⟩
  linear := ⟨rfl, rfl, rfl⟩
  acceleration := ⟨rfl, rfl, rfl⟩
  angular := ⟨rfl, rfl, rfl⟩
  external := ⟨Joints.reset_zero n, Joints.reset_zero n⟩

end

namespace MotionStep

variable [Field α] [LinearOrder α] [Cmath α]

/-! ### One prepared goal -/

/-- No angular velocity is transferred for a goal in Cartesian space. -/
theorem transferOrientation_euler (source pose : CartesianPose α) :
    (transferOrientation source pose).euler = pose.euler := by
  unfold transferOrientation
  split_ifs <;> rfl

/-- A goal that is no last point gets the velocities it asks for. -/
theorem transfer_atRest (n : ℕ) (source goal : PointGoal α) :
    (transferExternalGoal source.external.get (transferRobotGoal source.robot.get
      (goal.resetVelocities n))).AtRest ↔ source.AsksForRest n := by
  have hjoints (j joints : JointGoal α) (hv : joints.velocity = .present (.reset n))
      (ha : joints.acceleration = .present (.reset n)) :
      (transferJoints j joints).AtRest ↔ j.AsksForRest n := by
    unfold transferJoints JointGoal.AtRest JointGoal.AsksForRest
    simp only [Optional.get_modify, hv, ha, Optional.get_present, Joints.copyPresent_zero]
  constructor
  · intro h
    refine ⟨(hjoints _ _ rfl rfl).mp h.robot, (hjoints _ _ rfl rfl).mp h.external, ?_, ?_⟩
    · exact (Cartesian.copyPresent_zero _).mp h.linear
    · exact (Cartesian.copyPresent_zero _).mp h.acceleration
  · rintro ⟨hrobot, hexternal, hlinear, hacceleration⟩
    refine ⟨(hjoints _ _ rfl rfl).mpr hrobot, (Cartesian.copyPresent_zero _).mpr hlinear,
      (Cartesian.copyPresent_zero _).mpr hacceleration, ?_, (hjoints _ _ rfl rfl).mpr hexternal⟩
    change (transferOrientation _ _).euler.get.Zero
    rw [transferOrientation_euler]
    exact ⟨rfl, rfl, rfl⟩

/-- Whether a goal is to be reached at rest. -/
theorem prepareNormalGoal_atRest (m : MotionStep α) (lastPoint : Bool) :
    ((m.prepareNormalGoal lastPoint).internalGoal.reach.get = true ∧
        (m.prepareNormalGoal lastPoint).internalGoal.AtRest) ↔
      (lastPoint = true ∨ m.externalGoal.reach.get = true ∧
        (m.externalGoal.duration.has = false ∨ m.externalGoal.AsksForRest m.robotJoints)) := by
  have hreach (o : Optional Bool) : (if o.has then o.get else false) = o.get := by
    cases o <;> rfl
  cases lastPoint with
  | true =>
      simp only [true_or, iff_true]
      cases hduration : m.externalGoal.duration.has with
      | true =>
          simp only [prepareNormalGoal, hduration, if_true]
          exact ⟨rfl, (PointGoal.resetVelocities_atRest _ _).congr rfl rfl⟩
      | false =>
          simp only [prepareNormalGoal, hduration, if_true, Bool.false_eq_true, if_false]
          exact ⟨rfl, (PointGoal.resetVelocities_atRest _ _).congr rfl rfl⟩
  | false =>
      simp only [Bool.false_eq_true, false_or]
      cases hduration : m.externalGoal.duration.has with
      | true =>
          simp only [prepareNormalGoal, hduration, if_true, Bool.false_eq_true, if_false, hreach,
            reduceCtorEq, false_or]
          have h := transfer_atRest m.robotJoints m.externalGoal m.internalGoal
          constructor
          · rintro ⟨hr, hrest⟩
            exact ⟨hr, h.mp (hrest.congr rfl rfl)⟩
          · rintro ⟨hr, hrest⟩
            exact ⟨hr, (h.mpr hrest).congr rfl rfl⟩
      | false =>
          simp only [prepareNormalGoal, hduration, Bool.false_eq_true, if_false, hreach, true_or,
            and_true]
          constructor
          · rintro ⟨hr, -⟩
            exact hr
          · intro hr
            exact ⟨hr, (PointGoal.resetVelocities_atRest _ _).congr rfl rfl⟩

end MotionStep

namespace TrajectoryMotion

variable [Field α] [LinearOrder α] [Cmath α]

/-! ### The loop -/

/-- What the loop ends with is prepared from the last point it retrieved, as a last point or not
as was decided before. -/
theorem reachLoop_prepared (m : MotionStep α) (lastPoint : Bool) (points : List (PointGoal α)) :
    ∃ m' : MotionStep α, (reachLoop m lastPoint points).1 = m'.prepareNormalGoal lastPoint ∧
      m'.externalGoal = (reachLoop m lastPoint points).1.externalGoal ∧
      m'.data.feedback = m.data.feedback ∧ m'.data.durationFactor = m.data.durationFactor := by
  induction points generalizing m with
  | nil => exact ⟨m, rfl, rfl, rfl, rfl⟩
  | cons point points ih =>
      unfold reachLoop
      simp only
      split
      · obtain ⟨m', hm', hexternal, hfeedback, hfactor⟩ :=
          ih { m.prepareNormalGoal lastPoint with externalGoal := point }
        exact ⟨m', hm', hexternal, hfeedback, hfactor⟩
      · exact ⟨m, rfl, rfl, rfl, rfl⟩

theorem nextGoal_prepared (m : MotionStep α) (point : PointGoal α) (points : List (PointGoal α)) :
    ∃ m' : MotionStep α, (nextGoal m (point :: points)).1 = m'.prepareNormalGoal points.isEmpty ∧
      m'.externalGoal = (nextGoal m (point :: points)).1.externalGoal ∧
      m'.data.feedback = m.data.feedback ∧ m'.data.durationFactor = m.data.durationFactor := by
  unfold nextGoal
  simp only
  split
  · exact reachLoop_prepared { m with externalGoal := point } points.isEmpty points
  · exact ⟨{ m with externalGoal := point }, rfl, rfl, rfl, rfl⟩

/-- `updateNormalGoal` activates the last point of the trajectory. -/
def ActivatesLast (t : TrajectoryMotion α) : Prop :=
  t.updateNormalGoal.data.hasActiveGoal = true ∧
    t.updateNormalGoal.trajectories.pCurrent = some ⟨[]⟩

/-- The last point of the current trajectory is the only one, or itself asks to be reached, and has
no duration or asks for no velocity. -/
def LastAsksForRest (t : TrajectoryMotion α) : Prop :=
  ∀ current ∈ t.trajectories.pCurrent, ∀ last ∈ current.points.getLast?,
    current.points.length = 1 ∨ last.reach.get = true ∧
      (last.duration.has = false ∨ last.AsksForRest t.motionStep.robotJoints)

/-- **The last point is told to end at rest exactly if** it is the first one that is looked at, or
asks for it itself. -/
theorem last_point_at_rest_iff (t : TrajectoryMotion α) (h : t.ActivatesLast) :
    (t.updateNormalGoal.motionStep.internalGoal.reach.get = true ∧
      t.updateNormalGoal.motionStep.internalGoal.AtRest) ↔ t.LastAsksForRest := by
  obtain ⟨hactive, hempty⟩ := h
  unfold LastAsksForRest
  unfold updateNormalGoal at hactive hempty ⊢
  cases hcurrent : t.trajectories.pCurrent with
  | none =>
      rw [hcurrent] at hactive
      cases hactive
  | some current =>
      obtain ⟨points⟩ := current
      simp only [hcurrent] at hactive hempty
      change (nextGoal t.motionStep points).2.1 = true at hactive
      have hleft : (nextGoal t.motionStep points).2.2.1 = [] := by
        change (if _ then none else some _) = some _ at hempty
        rw [hactive, Bool.not_true, Bool.false_and, if_neg Bool.false_ne_true] at hempty
        exact congrArg Trajectory.points (Option.some.inj hempty)
      cases points with
      | nil => cases hactive
      | cons point points =>
          obtain ⟨hpoints, -, hlast⟩ := nextGoal_points t.motionStep point points
          obtain ⟨m', hm', hexternal, hfeedback, -⟩ := nextGoal_prepared t.motionStep point points
          have hjoints : m'.robotJoints = t.motionStep.robotJoints := by
            simp only [MotionStep.robotJoints, hfeedback]
          -- the point that is activated is the last point of the trajectory
          rw [hleft, List.append_nil] at hpoints
          rw [hpoints, ← hexternal] at hlast
          have hone : (point :: points).length = 1 ↔ points.isEmpty = true := by simp
          simp only [Option.mem_def, Option.some.injEq, forall_eq', hlast, hone]
          rw [← hjoints, ← MotionStep.prepareNormalGoal_atRest, ← hm']
          rfl

namespace LastPoint

open Evaluation

/-- A point to be passed with some velocity. -/
def passing : PointGoal ℚ where
  duration := .present 1
  robot := .present { joints := .present {
    position := .present ⟨[10, 0, 0, 0, 0, 0]⟩
    velocity := .present ⟨[5, 0, 0, 0, 0, 0]⟩ } }

/-- First a point to be reached where the robot is. -/
def trajectory : TrajectoryGoal ℚ := ⟨[{ point 1 home with reach := .present true }, passing]⟩

/-- A session in which the trajectory is added. -/
def events : List (Action ℚ) :=
  [.generateOutputs {} first, .call (.addTrajectory trajectory false)]

/-- The state in which the callback after `events` looks for a goal. -/
def taken : TrajectoryMotion ℚ :=
  (run step (init Evaluation.configurations) events).setCurrent (some (Trajectory.of trajectory))

/-- A point to be reached that asks for no velocity, after one that is reached already. -/
def resting : Trajectory ℚ :=
  ⟨[{ point 1 home with reach := .present true },
    { point 1 [10, 0, 0, 0, 0, 0] with reach := .present true }]⟩

/-- The second point is activated, and told to end at rest. -/
theorem second_point_at_rest :
    let t := taken.setCurrent (some resting)
    t.ActivatesLast ∧ t.updateNormalGoal.motionStep.internalGoal.robotJoints.position.get.value 0 = 10 ∧
      t.updateNormalGoal.motionStep.internalGoal.reach.get = true ∧
      t.updateNormalGoal.motionStep.internalGoal.AtRest := by
  have h : (taken.setCurrent (some resting)).ActivatesLast := ⟨by decide +kernel, by decide +kernel⟩
  refine ⟨h, by decide +kernel, (last_point_at_rest_iff _ h).mpr ?_⟩
  rintro current ⟨⟩ last hlast
  obtain rfl := Option.some.inj hlast
  refine .inr ⟨rfl, .inr ⟨⟨fun i _ => rfl, fun i _ => rfl⟩, ⟨fun i _ => rfl, fun i _ => rfl⟩, ?_, ?_⟩⟩
  · exact ⟨rfl, rfl, rfl⟩
  · exact ⟨rfl, rfl, rfl⟩

/-- **The last point is not always told to end at rest**: the first point is reached already, and
the second and last one is activated to be passed with 5 degrees per second. -/
theorem last_point_passed_on :
    ¬(∀ t : TrajectoryMotion ℚ, t.ActivatesLast →
        t.updateNormalGoal.motionStep.internalGoal.reach.get = true ∧
          t.updateNormalGoal.motionStep.internalGoal.AtRest) ∧
      (let t := run step (init Evaluation.configurations) (events ++ [.generateOutputs {} next])
       t.data.hasActiveGoal = true ∧ t.trajectories.pCurrent = some ⟨[]⟩ ∧
         t.motionStep.internalGoal.reach.get = false ∧
         t.motionStep.internalGoal.robotJoints.velocity.get.value 0 = 5) := by
  refine ⟨fun h => ?_, by decide +kernel⟩
  have hreach := (h taken ⟨by decide +kernel, by decide +kernel⟩).1
  revert hreach
  decide +kernel

end LastPoint

end TrajectoryMotion

end AbbWrapper
