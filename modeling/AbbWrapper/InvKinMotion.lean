import AbbWrapper.DampedLeastSquares
import AbbWrapper.Evaluation
import AbbWrapper.InverseKinematics

/-! # The motions of the inverse kinematics

`pseudo_inverse` damps the singular values, and makes of every update a step of damped least squares.
The numbers are exact; the Jacobian, its decomposition and the solver of the kinematics are any.

* `direction` are the joint velocities of an update without the gain, and `LeastSquares` says what they
  are: the only minimum of the damped error, in a direction that does not lead away from the desired pose,
  and bounded (`update_leastSquares`, with the library of `DampedLeastSquares.lean`).
* `Watch` sees what the node receives since it was started or reset: the latest joint positions, and
  whether a pose is desired.  `Held` is the node beside the watch, and `Consistent` their invariant.
* `Publishes` is what a round publishes, as the watch tells.

A node that was started or reset publishes nothing before joint positions have come, and then holds these
until a pose is desired, for any number of updates (`holds_still`). -/

namespace AbbWrapper

open DampedLeastSquares Matrix Runs

variable {n : ℕ} {α : Type} [Field α]

/-! ### Damped steps -/

/-- `lambda_`. -/
def lambda (damped : Bool) : α := if damped then 0.2 else 0

/-- `pseudo_inverse`, of a matrix that was decomposed. -/
def pseudoInverse {M : Matrix (Fin 6) (Fin n) α} (svd : Svd M) (damped : Bool) :
    Matrix (Fin n) (Fin 6) α :=
  svd.V * (rectDiagonal 6 n fun i =>
    svd.σ i / (svd.σ i * svd.σ i + lambda damped * lambda damped))ᵀ * svd.Uᵀ

namespace OneTaskInvKin

variable [LinearOrder α] [Cmath α]

section update
variable [IsStrictOrderedRing α] {kinematics : Kinematics n α}

/-- The joint velocities of an update, without the gain. -/
def direction (kinematics : Kinematics n α) (s : OneTaskInvKin n α) : Fin n → α :=
  kinematics.pseudoInverse (kinematics.jntToJac s.q) *ᵥ s.taskError kinematics

omit [Cmath α] in
theorem lambda_pos : (0 : α) < lambda true * lambda true := by
  have hlambda : (0 : α) < lambda true := by
    unfold lambda
    norm_num
  exact mul_pos hlambda hlambda

/-- What an update commands. -/
structure LeastSquares (kinematics : Kinematics n α) (s : OneTaskInvKin n α) : Prop where
  command : (s.update kinematics).2.jointCmd = s.q + s.dt • (20 : α) • s.direction kinematics
  /-- No other direction leaves less of the error, when its own square counts by a twenty-fifth. -/
  least : ∀ x ≠ s.direction kinematics,
    cost (kinematics.jntToJac s.q) (lambda true * lambda true) (s.taskError kinematics)
        (s.direction kinematics) <
      cost (kinematics.jntToJac s.q) (lambda true * lambda true) (s.taskError kinematics) x
  /-- The tip does not move away from the desired pose. -/
  approaches : 0 ≤ s.taskError kinematics ⬝ᵥ kinematics.jntToJac s.q *ᵥ s.direction kinematics
  /-- Also in a singular position. -/
  bounded : 4 * (lambda true * lambda true) * normSq (s.direction kinematics) ≤
    normSq (s.taskError kinematics)

/-- **Every update is a step of damped least squares**, with the gain 20. -/
theorem update_leastSquares {s : OneTaskInvKin n α} (svd : Svd (kinematics.jntToJac s.q))
    (hsvd : kinematics.pseudoInverse (kinematics.jntToJac s.q) = pseudoInverse svd true) :
    s.LeastSquares kinematics := by
  have hnormal : Normal (kinematics.jntToJac s.q) (lambda true * lambda true)
      (s.taskError kinematics) (s.direction kinematics) := by
    rw [direction, hsvd]
    exact svd.normal_damped lambda_pos _
  refine ⟨?_, ?_, ?_, hnormal.length_le⟩
  · rw [direction, ← smul_mulVec]
    rfl
  · intro x hx
    exact hnormal.cost_lt lambda_pos hx
  · rw [hnormal.dotProduct_image]
    exact add_nonneg (normSq_nonneg _) (mul_nonneg lambda_pos.le (normSq_nonneg _))

/-- A chain of one sliding joint. -/
def slidingJoint : Matrix (Fin 6) (Fin 1) ℚ := rectDiagonal 6 1 fun _ => 1

def slidingJointSvd : Svd slidingJoint where
  U := 1
  V := 1
  σ _ := 1
  orthogonalU := by rw [transpose_one, Matrix.one_mul]
  orthogonalV := by rw [transpose_one, Matrix.one_mul]
  decomposes := by rw [transpose_one, Matrix.one_mul, Matrix.mul_one, slidingJoint]

def slidingKinematics : Kinematics 1 ℚ where
  jntToCart q := ⟨![q (Fin.last 0), 0, 0], 1⟩
  jntToJac _ := slidingJoint
  ofMatrix _ := ⟨1, 0, 0, 0⟩
  pseudoInverse _ := pseudoInverse slidingJointSvd true

/-- Half a unit away from the desired position. -/
def slidingNode : OneTaskInvKin 1 ℚ where
  qMsr := ![0]
  q := ![0]
  posD := ![1 / 2, 0, 0]
  quatD := ⟨1, 0, 0, 0⟩
  quatOld := ⟨1, 0, 0, 0⟩
  stepNumber := 1
  flagJointMsr := true
  firstQuat := false
  dt := 1 / 250

theorem update_leastSquares_sliding : slidingNode.LeastSquares slidingKinematics :=
  update_leastSquares slidingJointSvd rfl

end update

/-! ### Holding still -/

/-- What was received since the node was started or reset: the latest joint positions, whether a round
has taken up the work from such, and the positions that are to be held while no pose is desired. -/
structure Watch (n : ℕ) (α : Type) where
  latest : Option (Fin n → α) := none
  started : Bool := false
  position : Option (Fin n → α) := none

def Watch.step (w : Watch n α) : InvKinEvent n α → Watch n α
  | .run =>
      match w.started, w.latest with
      | false, some position => { w with started := true, position := some position }
      | _, _ => w
  | .jointStates position => { w with latest := some position }
  | .desPose _ _ => { w with position := none }
  | .invKin => {}

/-- The node beside the watch. -/
structure Held (n : ℕ) (α : Type) where
  node : OneTaskInvKin n α
  watch : Watch n α := {}

namespace Held

variable (kinematics : Kinematics n α)

def step (s : Held n α) (e : InvKinEvent n α) : Held n α where
  node := s.node.step kinematics e
  watch := s.watch.step e

/-- The desired pose is that of the joint positions. -/
structure Holds (node : OneTaskInvKin n α) (position : Fin n → α) : Prop where
  stepNumber : node.stepNumber = 1
  joints : node.q = position
  posD : node.posD = (kinematics.jntToCart position).p
  quatD : ∃ sign : α, node.quatD = (kinematics.ofMatrix (kinematics.jntToCart position).M).scale sign

/-- The node has seen what the watch has. -/
structure Consistent (s : Held n α) : Prop where
  flag : s.node.flagJointMsr = s.watch.latest.isSome
  joints : ∀ position ∈ s.watch.latest, s.node.qMsr = position
  ready : s.watch.started = true → s.watch.latest.isSome = true
  stepNumber : s.node.stepNumber =
    if s.watch.started then 1 else if s.watch.latest.isSome then 0 else 2
  holds : ∀ position ∈ s.watch.position, Holds kinematics s.node position

/-- What a round publishes: one command, which keeps what is held; nothing without a start. -/
structure Publishes (s : Held n α) : Prop where
  idle : s.watch.started = false → s.node.published kinematics .run = []
  started : s.watch.started = true → ∃ command, s.node.published kinematics .run = [command] ∧
    ∀ position ∈ s.watch.position, command.jointCmd = position ∧ command.orientError = 0

/-- A node as it is constructed: what is not set there is any. -/
def start (qMsr q : Fin n → α) (posD : Fin 3 → α) (quatD quatOld : Quaterniond α) (dt : α) :
    Held n α where
  node :=
    { qMsr := qMsr
      q := q
      posD := posD
      quatD := quatD
      quatOld := quatOld
      stepNumber := 2
      flagJointMsr := false
      firstQuat := true
      dt := dt }

end Held

end OneTaskInvKin

namespace Quaterniond

theorem scale_scale (quat : Quaterniond α) (factor factor' : α) :
    (quat.scale factor).scale factor' = quat.scale (factor * factor') := by
  simp only [scale, mul_assoc]

theorem scale_one (quat : Quaterniond α) : quat.scale 1 = quat := by
  simp only [scale, mul_one]

/-- Between multiples of a quaternion there is no error. -/
theorem orientationError_scale (quat : Quaterniond α) (factor factor' : α) :
    orientationError (quat.scale factor) (quat.scale factor') = 0 := by
  ext i
  fin_cases i <;>
    simp [orientationError, skewSymmetric, vec, scale] <;> ring

variable [LinearOrder α]

theorem exists_continued_normalize [Cmath α] (quat quatOld : Quaterniond α) :
    ∃ factor, quat.normalize.continued quatOld = quat.scale factor := by
  have hnormalize : ∃ factor, quat.normalize = quat.scale factor := by
    unfold normalize
    split
    · exact ⟨(Cmath.sqrt (signCheck quat quat))⁻¹, by simp only [scale, div_eq_mul_inv]⟩
    · exact ⟨1, quat.scale_one.symm⟩
  obtain ⟨factor, hfactor⟩ := hnormalize
  unfold continued
  rw [hfactor]
  split
  · exact ⟨factor * -1, quat.scale_scale _ _⟩
  · exact ⟨factor, rfl⟩

end Quaterniond

namespace OneTaskInvKin

variable [LinearOrder α] [Cmath α] {kinematics : Kinematics n α}

namespace Held

section node
variable {node : OneTaskInvKin n α} {position : Fin n → α}

theorem Holds.eQuat_eq_zero (h : Holds kinematics node position) :
    eQuat (node.current kinematics) node.quatD = 0 := by
  obtain ⟨-, hjoints, -, sign, hquatD⟩ := h
  obtain ⟨factor, hfactor⟩ := Quaterniond.exists_continued_normalize
    (kinematics.ofMatrix (kinematics.jntToCart node.q).M)
    (if node.firstQuat then node.measured kinematics else node.quatOld)
  have hcurrent : node.current kinematics =
      (kinematics.ofMatrix (kinematics.jntToCart node.q).M).scale factor := hfactor
  rw [eQuat, hcurrent, hquatD, hjoints, Quaterniond.corrected, Quaterniond.scale_scale,
    Quaterniond.orientationError_scale]

theorem Holds.nextJoints_eq (h : Holds kinematics node position) :
    node.nextJoints kinematics = position := by
  have herror : node.taskError kinematics = 0 := by
    unfold taskError
    rw [h.eQuat_eq_zero, h.posD, h.joints, sub_self]
    ext i
    refine Fin.addCases (fun i => ?_) (fun i => ?_) i
    · rw [Fin.append_left]
      rfl
    · rw [Fin.append_right]
      rfl
  simp only [nextJoints, herror, mulVec_zero, smul_zero, add_zero]
  exact h.joints

theorem Holds.update (h : Holds kinematics node position) :
    Holds kinematics (node.update kinematics).1 position := by
  obtain ⟨sign, hquatD⟩ := h.quatD
  refine ⟨h.stepNumber, h.nextJoints_eq, h.posD,
    sign * (Quaterniond.signCurrDes (node.current kinematics) node.quatD : α), ?_⟩
  rw [← Quaterniond.scale_scale, ← hquatD]
  rfl

omit [LinearOrder α] [Cmath α] in
theorem holds_init (node : OneTaskInvKin n α) :
    Holds kinematics { node.init kinematics with stepNumber := 1 } node.qMsr :=
  ⟨rfl, rfl, rfl, 1, (Quaterniond.scale_one _).symm⟩

end node

theorem Consistent.run {s : Held n α} (h : s.Consistent kinematics) :
    (s.step kinematics .run).Consistent kinematics := by
  obtain ⟨node, latest, started, position⟩ := s
  obtain ⟨hflag, hjoints, hready, hstep, hholds⟩ := h
  cases started with
  | true =>
      have hone : node.stepNumber = 1 := hstep
      have hnode : node.step kinematics .run = (node.update kinematics).1 := by
        simp only [OneTaskInvKin.step, OneTaskInvKin.run, hone]
      simp only [step, Watch.step, hnode]
      exact ⟨hflag, hjoints, hready, hstep,
        fun position hposition => (hholds position hposition).update⟩
  | false =>
      cases latest with
      | some latest =>
          have hzero : node.stepNumber = 0 := hstep
          have hnode : node.step kinematics .run = { node.init kinematics with stepNumber := 1 } := by
            simp only [OneTaskInvKin.step, OneTaskInvKin.run, hzero]
          have hlatest : node.qMsr = latest := hjoints latest rfl
          simp only [step, Watch.step, hnode]
          refine ⟨hflag, hjoints, fun _ => rfl, rfl, fun position hposition => ?_⟩
          cases hposition
          rw [← hlatest]
          exact holds_init node
      | none =>
          have htwo : node.stepNumber = 2 := hstep
          have hnode : node.step kinematics .run = node := by
            simp only [OneTaskInvKin.step, OneTaskInvKin.run, htwo]
          simp only [step, Watch.step, hnode]
          exact ⟨hflag, hjoints, hready, hstep, hholds⟩

theorem Consistent.jointStates {s : Held n α} (h : s.Consistent kinematics) (position : Fin n → α) :
    (s.step kinematics (.jointStates position)).Consistent kinematics := by
  obtain ⟨node, latest, started, held⟩ := s
  obtain ⟨hflag, hjoints, hready, hstep, hholds⟩ := h
  have hlatest : ∀ position' ∈ some position, position = position' :=
    fun _ hposition => Option.some.inj hposition
  cases latest with
  | some latest =>
      have hnode : node.callbackJointStates position = { node with qMsr := position } := if_pos hflag
      simp only [step, OneTaskInvKin.step, Watch.step, hnode]
      refine ⟨hflag, hlatest, fun _ => rfl, hstep, fun position' hposition => ?_⟩
      obtain ⟨hone, hq, hposD, hquatD⟩ := hholds position' hposition
      exact ⟨hone, hq, hposD, hquatD⟩
  | none =>
      cases started with
      | true => exact absurd (hready rfl) Bool.false_ne_true
      | false =>
          have hnot : ¬node.flagJointMsr = true := by
            rw [show node.flagJointMsr = false from hflag]
            exact Bool.false_ne_true
          have hnode : node.callbackJointStates position =
              { node with qMsr := position, stepNumber := 0, flagJointMsr := true } := if_neg hnot
          simp only [step, OneTaskInvKin.step, Watch.step, hnode]
          refine ⟨rfl, hlatest, fun _ => rfl, rfl, fun position' hposition => ?_⟩
          have hone : node.stepNumber = 1 := (hholds position' hposition).stepNumber
          have htwo : node.stepNumber = 2 := hstep
          omega

theorem Consistent.step {s : Held n α} (h : s.Consistent kinematics) (e : InvKinEvent n α) :
    (s.step kinematics e).Consistent kinematics := by
  cases e with
  | run => exact h.run
  | jointStates position => exact h.jointStates position
  | desPose position orientation =>
      exact ⟨h.flag, h.joints, h.ready, h.stepNumber, fun _ hposition => by cases hposition⟩
  | invKin =>
      exact ⟨rfl, fun _ hlatest => (by cases hlatest), fun h => absurd h Bool.false_ne_true, rfl,
        fun _ hposition => (by cases hposition)⟩

theorem Consistent.published_run {s : Held n α} (h : s.Consistent kinematics) :
    s.node.published kinematics .run =
      if s.watch.started then [(s.node.update kinematics).2] else [] := by
  have hstep := h.stepNumber
  unfold published OneTaskInvKin.run
  cases hstarted : s.watch.started with
  | true =>
      rw [hstarted, if_pos rfl] at hstep
      simp only [hstep, if_true]
  | false =>
      rw [hstarted, if_neg Bool.false_ne_true] at hstep
      split at hstep <;> simp only [hstep, if_false, Bool.false_eq_true]

theorem Consistent.publishes {s : Held n α} (h : s.Consistent kinematics) :
    s.Publishes kinematics := by
  have hrun := h.published_run
  refine ⟨fun hidle => ?_, fun hstarted => ?_⟩
  · rw [hrun, hidle]
    rfl
  · rw [hrun, hstarted]
    refine ⟨_, rfl, fun position hposition => ?_⟩
    exact ⟨(h.holds position hposition).nextJoints_eq, (h.holds position hposition).eQuat_eq_zero⟩

end Held

/-- **The node holds still until a pose is desired**: in every run a round publishes exactly if the work
was taken up, and then the joint positions from which it was taken up and no error of the orientation,
unless a pose has been desired since. -/
theorem holds_still (kinematics : Kinematics n α) (qMsr q : Fin n → α) (posD : Fin 3 → α)
    (quatD quatOld : Quaterniond α) (dt : α) (es : List (InvKinEvent n α)) :
    (Runs.run (Held.step kinematics) (Held.start qMsr q posD quatD quatOld dt) es).Publishes
      kinematics := by
  have hstart : (Held.start qMsr q posD quatD quatOld dt).Consistent kinematics :=
    ⟨rfl, fun _ hlatest => (by cases hlatest), fun h => absurd h Bool.false_ne_true, rfl,
      fun _ hposition => (by cases hposition)⟩
  have hrun := Runs.run_inv (I := Held.Consistent kinematics) (fun s e h => h.step e) es hstart
  exact hrun.publishes

end OneTaskInvKin

end AbbWrapper
