import Mathlib.LinearAlgebra.Matrix.Notation
import Mathlib.LinearAlgebra.CrossProduct
import AbbWrapper.Common
import AbbWrapper.Runs

/-! # Inverse kinematics of one task

`OneTaskInvKin`: its callbacks, and the three steps of `run`.

* The solvers of the KDL library, the conversion of a rotation matrix to a quaternion of the Eigen
  library, and the pseudo-inverse, which is computed from a singular value decomposition of that library,
  are given, as the fields of `Kinematics`.  Nothing is presupposed of them here.
* `current` is the quaternion of the tip after the flip that keeps it close to the one before (`quat_`),
  and `corrected` is `quat_d_` after its sign was corrected.
* `orientationError` is the formula of `e_quat`, with the cross product written as a skew-symmetric
  matrix; `eQuat` is the error with the desired quaternion in the hemisphere of the current one.
* `update` returns the node with what it publishes: the joint positions to go to, and the orientation
  error.
* `step` is one callback or one round, and `published` what it publishes. -/

namespace AbbWrapper

open Matrix

/-- `Eigen::Quaterniond`. -/
structure Quaterniond (α : Type) where
  w : α
  x : α
  y : α
  z : α
deriving DecidableEq, Repr

/-- `KDL::Frame`. -/
structure Frame (α : Type) where
  p : Fin 3 → α
  M : Matrix (Fin 3) (Fin 3) α

/-- The functions of the libraries, for a chain of `n` joints. -/
structure Kinematics (n : ℕ) (α : Type) where
  jntToCart : (Fin n → α) → Frame α
  jntToJac : (Fin n → α) → Matrix (Fin 6) (Fin n) α
  ofMatrix : Matrix (Fin 3) (Fin 3) α → Quaterniond α
  pseudoInverse : Matrix (Fin 6) (Fin n) α → Matrix (Fin n) (Fin 6) α

namespace Quaterniond

variable {α : Type} [Field α]

def vec (quat : Quaterniond α) : Fin 3 → α := ![quat.x, quat.y, quat.z]

/-- `w() = w() * factor` and `vec() = vec() * factor`. -/
def scale (quat : Quaterniond α) (factor : α) : Quaterniond α :=
  ⟨quat.w * factor, quat.x * factor, quat.y * factor, quat.z * factor⟩

/-- `sign_check`. -/
def signCheck (quat quat' : Quaterniond α) : α :=
  quat.w * quat'.w + quat.x * quat'.x + quat.y * quat'.y + quat.z * quat'.z

variable [LinearOrder α]

/-- A quaternion of length zero is left as it is. -/
def normalize [Cmath α] (quat : Quaterniond α) : Quaterniond α :=
  if 0 < signCheck quat quat then
    ⟨quat.w / Cmath.sqrt (signCheck quat quat), quat.x / Cmath.sqrt (signCheck quat quat),
      quat.y / Cmath.sqrt (signCheck quat quat), quat.z / Cmath.sqrt (signCheck quat quat)⟩
  else quat

/-- The sign flip that keeps the quaternion close to the one before. -/
def continued (quat quatOld : Quaterniond α) : Quaterniond α :=
  if signCheck quat quatOld < 0 then quat.scale (-1) else quat

/-- `sign_curr_des_`, of the current and the desired quaternion. -/
def signCurrDes (quat quatD : Quaterniond α) : ℤ := if signCheck quat quatD < 0 then -1 else 1

/-- `quat_d_` after its sign was corrected. -/
def corrected (quat quatD : Quaterniond α) : Quaterniond α :=
  quatD.scale (signCurrDes quat quatD : α)

end Quaterniond

section skew
variable {α : Type} [Field α]

def skewSymmetric (v : Fin 3 → α) : Matrix (Fin 3) (Fin 3) α :=
  !![0, -v 2, v 1; v 2, 0, -v 0; -v 1, v 0, 0]

/-- `e_quat`, of the current quaternion and of the desired one in its hemisphere. -/
def orientationError (quat quatD : Quaterniond α) : Fin 3 → α :=
  quat.w • quatD.vec - quatD.w • quat.vec - skewSymmetric quatD.vec *ᵥ quat.vec

/-- `e_quat`, of the current quaternion and of the desired one. -/
def eQuat [LinearOrder α] (quat quatD : Quaterniond α) : Fin 3 → α :=
  orientationError quat (Quaterniond.corrected quat quatD)

end skew

/-- `q_` is `q_eig_` as well. -/
structure OneTaskInvKin (n : ℕ) (α : Type) where
  qMsr : Fin n → α
  q : Fin n → α
  posD : Fin 3 → α
  quatD : Quaterniond α
  quatOld : Quaterniond α
  stepNumber : ℕ
  flagJointMsr : Bool
  firstQuat : Bool
  dt : α

/-- A round of the main loop, or a callback of a topic or of the service. -/
inductive InvKinEvent (n : ℕ) (α : Type) where
  /-- A round of the main loop. -/
  | run
  | jointStates (position : Fin n → α)
  | desPose (position : Fin 3 → α) (orientation : Quaterniond α)
  | invKin

/-- What `update` publishes. -/
structure JointCommand (n : ℕ) (α : Type) where
  orientError : Fin 3 → α
  jointCmd : Fin n → α

namespace OneTaskInvKin

variable {n : ℕ} {α : Type}

def callbackJointStates (s : OneTaskInvKin n α) (position : Fin n → α) : OneTaskInvKin n α :=
  if s.flagJointMsr then { s with qMsr := position }
  else { s with qMsr := position, stepNumber := 0, flagJointMsr := true }

def callbackDesPose (s : OneTaskInvKin n α) (position : Fin 3 → α) (orientation : Quaterniond α) :
    OneTaskInvKin n α :=
  { s with posD := position, quatD := orientation }

def callbackInvKin (s : OneTaskInvKin n α) : OneTaskInvKin n α :=
  { s with stepNumber := 2, flagJointMsr := false, firstQuat := true }

variable (kinematics : Kinematics n α)

def init (s : OneTaskInvKin n α) : OneTaskInvKin n α :=
  let x := kinematics.jntToCart s.qMsr
  { s with q := s.qMsr, posD := x.p, quatD := kinematics.ofMatrix x.M }

variable [Field α] [LinearOrder α] [Cmath α]

/-- The normalized quaternion of the tip. -/
def measured (s : OneTaskInvKin n α) : Quaterniond α :=
  (kinematics.ofMatrix (kinematics.jntToCart s.q).M).normalize

/-- The quaternion of the tip after the continuity flip. -/
def current (s : OneTaskInvKin n α) : Quaterniond α :=
  (s.measured kinematics).continued (if s.firstQuat then s.measured kinematics else s.quatOld)

/-- `e`: the error of the position, and that of the orientation. -/
def taskError (s : OneTaskInvKin n α) : Fin 6 → α :=
  Fin.append (s.posD - (kinematics.jntToCart s.q).p) (eQuat (s.current kinematics) s.quatD)

/-- The commands of the next joint positions: the gain is 20 for every joint. -/
def nextJoints (s : OneTaskInvKin n α) : Fin n → α :=
  let qdot := ((20 : α) • kinematics.pseudoInverse (kinematics.jntToJac s.q)) *ᵥ
    s.taskError kinematics
  s.q + s.dt • qdot

def update (s : OneTaskInvKin n α) : OneTaskInvKin n α × JointCommand n α :=
  let quat := s.current kinematics
  ({ s with
      q := s.nextJoints kinematics
      quatD := quat.corrected s.quatD
      quatOld := quat
      firstQuat := false },
    { orientError := eQuat quat s.quatD
      jointCmd := s.nextJoints kinematics })

def run (s : OneTaskInvKin n α) : OneTaskInvKin n α × List (JointCommand n α) :=
  match s.stepNumber with
  | 0 => ({ s.init kinematics with stepNumber := 1 }, [])
  | 1 => ((s.update kinematics).1, [(s.update kinematics).2])
  | _ => (s, [])

def step (s : OneTaskInvKin n α) : InvKinEvent n α → OneTaskInvKin n α
  | .run => (s.run kinematics).1
  | .jointStates position => s.callbackJointStates position
  | .desPose position orientation => s.callbackDesPose position orientation
  | .invKin => s.callbackInvKin

/-- What an event makes the node publish. -/
def published (s : OneTaskInvKin n α) : InvKinEvent n α → List (JointCommand n α)
  | .run => (s.run kinematics).2
  | _ => []

end OneTaskInvKin

end AbbWrapper
