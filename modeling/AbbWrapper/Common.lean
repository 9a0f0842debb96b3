import Mathlib.Algebra.Field.Defs
import Mathlib.Algebra.Order.Field.Basic
import Mathlib.Algebra.Order.Group.Unbundled.Abs
import Mathlib.Algebra.Order.Ring.Defs
import Mathlib.Data.List.GetD
import Mathlib.Tactic.NormNum
import Mathlib.Tactic.Positivity
import AbbWrapper.Messages

/-! # Constants, configurations and arithmetic

`egm_common.h` and the math functions of `egm_common_auxiliary.cpp`.

The program computes with `double`; here a number is an element of an ordered field `α`, and the
functions of `<cmath>` are those of a class `Cmath α`, so that one definition serves both the exact real
numbers and the rational numbers on which a run is evaluated.  Division by zero gives zero, as in every
field of Mathlib; where the program divides, and by what, is the subject of `Divisors.lean`.

* `RobotAxes`, `EGMModes`, `BaseConfiguration`, `SplineMethod` and `TrajectoryConfiguration` are the
  types of the header, with the fields that the modelled functions read.
* `Joints` are lists of values; `value` is zero behind the end, and `update` writes at every index below
  a bound, as the loops of the source do.
* `multiply`, `dotProduct`, `euclideanNorm`, `normalize` and the three functions `convert` are the
  formulas of the source, component by component.  Angles are in degrees, as they are there. -/

namespace AbbWrapper

open Protobuf

/-! ### The literals of the program's formulas

Each has one named proof, which every formula shares. -/

scoped instance atLeastTwo_2 : Nat.AtLeastTwo 2 := ⟨by norm_num⟩
scoped instance atLeastTwo_3 : Nat.AtLeastTwo 3 := ⟨by norm_num⟩
scoped instance atLeastTwo_4 : Nat.AtLeastTwo 4 := ⟨by norm_num⟩
scoped instance atLeastTwo_5 : Nat.AtLeastTwo 5 := ⟨by norm_num⟩
scoped instance atLeastTwo_6 : Nat.AtLeastTwo 6 := ⟨by norm_num⟩
scoped instance atLeastTwo_8 : Nat.AtLeastTwo 8 := ⟨by norm_num⟩
scoped instance atLeastTwo_10 : Nat.AtLeastTwo 10 := ⟨by norm_num⟩
scoped instance atLeastTwo_12 : Nat.AtLeastTwo 12 := ⟨by norm_num⟩
scoped instance atLeastTwo_20 : Nat.AtLeastTwo 20 := ⟨by norm_num⟩
scoped instance atLeastTwo_60 : Nat.AtLeastTwo 60 := ⟨by norm_num⟩
scoped instance atLeastTwo_90 : Nat.AtLeastTwo 90 := ⟨by norm_num⟩
scoped instance atLeastTwo_180 : Nat.AtLeastTwo 180 := ⟨by norm_num⟩
scoped instance atLeastTwo_200 : Nat.AtLeastTwo 200 := ⟨by norm_num⟩
scoped instance atLeastTwo_1000 : Nat.AtLeastTwo 1000 := ⟨by norm_num⟩
scoped instance atLeastTwo_1000000 : Nat.AtLeastTwo 1000000 := ⟨by norm_num⟩

/-- The constants and functions of `<cmath>` the program uses. -/
class Cmath (α : Type) where
  pi : α
  sqrt : α → α
  sin : α → α
  cos : α → α
  asin : α → α
  acos : α → α
  atan2 : α → α → α

/-! ### `egm_common.h` -/

/-- `RobotAxes`: how many axes the robot has. -/
inductive RobotAxes where
  | six | seven
deriving DecidableEq, Repr, Inhabited

/-- `EGMModes`: whether joints or poses are commanded. -/
inductive EGMModes where
  | egmJoint | egmPose
deriving DecidableEq, Repr, Inhabited

/-- `BaseConfiguration`: what the user can choose for every interface. -/
structure BaseConfiguration (α : Type) where
  axes : RobotAxes
  useDemoOutputs : Bool
  useVelocityOutputs : Bool
  useLogging : Bool
  maxLoggingDuration : α
deriving DecidableEq, Repr

/-- `TrajectoryConfiguration::SplineMethod`: the degree of the interpolation. -/
inductive SplineMethod where
  | linear | square | cubic | quintic
deriving DecidableEq, Repr, Inhabited

/-- `TrajectoryConfiguration`: what the user can choose for a trajectory interface. -/
structure TrajectoryConfiguration (α : Type) where
  base : BaseConfiguration α
  splineMethod : SplineMethod
deriving DecidableEq, Repr

namespace Constants

def defaultNumberOfRobotJoints : ℕ := 6
def defaultNumberOfExternalJoints : ℕ := 6

section
variable (α : Type) [Field α]

/-- 0.004 s. -/
def lowestSampleTime : α := 4 / 1000
/-- 0.001. -/
def msToS : α := 1 / 1000

variable [Cmath α]

def radToDeg : α := 180 / Cmath.pi
def degToRad : α := Cmath.pi / 180

end

theorem lowestSampleTime_pos {α : Type} [Field α] [LinearOrder α] [IsStrictOrderedRing α] :
    0 < lowestSampleTime α := by
  unfold lowestSampleTime
  positivity

theorem lowestSampleTime_le_one {α : Type} [Field α] [LinearOrder α] [IsStrictOrderedRing α] :
    lowestSampleTime α ≤ 1 := by
  unfold lowestSampleTime
  norm_num

end Constants

/-! ### Joint values -/

namespace Joints

variable {α : Type}

def valuesSize (p : Joints α) : ℕ := p.values.length

/-- `values(i)`. -/
def value [Zero α] (p : Joints α) (i : ℕ) : α := p.values.getD i 0

/-- Write `f i (values i)` at every index `i < n`: the loops
`for (int i = 0; i < n; ++i) p->set_values(i, …)`. -/
def update (p : Joints α) (n : ℕ) (f : ℕ → α → α) : Joints α :=
  ⟨p.values.mapIdx fun i v => if i < n then f i v else v⟩

@[simp] theorem valuesSize_update (p : Joints α) (n : ℕ) (f : ℕ → α → α) :
    (p.update n f).valuesSize = p.valuesSize := by
  simp [update, valuesSize]

theorem value_update [Zero α] (p : Joints α) (n : ℕ) (f : ℕ → α → α) {i : ℕ}
    (hi : i < p.valuesSize) :
    (p.update n f).value i = if i < n then f i (p.value i) else p.value i := by
  have hi' : i < p.values.length := hi
  simp [update, value, hi']

theorem value_update_of_le [Zero α] (p : Joints α) {n i : ℕ} (f : ℕ → α → α) (hi : n ≤ i) :
    (p.update n f).value i = p.value i := by
  by_cases hsize : i < p.valuesSize
  · rw [value_update _ _ _ hsize, if_neg (not_lt.mpr hi)]
  · have hsize' : ¬i < (p.update n f).valuesSize := by rwa [valuesSize_update]
    unfold value
    rw [List.getD_eq_default _ _ (not_lt.mp hsize), List.getD_eq_default _ _ (not_lt.mp hsize')]

end Joints

variable {α : Type} [Field α]

/-! ### Math functions -/

def saturate [LinearOrder α] (value lower upper : α) : α :=
  if value < lower then lower else if upper < value then upper else value

/-- All components written. -/
def Cartesian.of (x y z : α) : Cartesian α := ⟨.present x, .present y, .present z⟩

/-- All components written. -/
def Euler.of (x y z : α) : Euler α := ⟨.present x, .present y, .present z⟩

/-- All components written. -/
def Quaternion.of (u0 u1 u2 u3 : α) : Quaternion α :=
  ⟨.present u0, .present u1, .present u2, .present u3⟩

def Joints.multiply (j : Joints α) (factor : α) : Joints α :=
  j.update j.valuesSize fun _ v => v * factor

def Cartesian.multiply (c : Cartesian α) (factor : α) : Cartesian α :=
  .of (c.x.val * factor) (c.y.val * factor) (c.z.val * factor)

def Quaternion.multiplyFactor (q : Quaternion α) (factor : α) : Quaternion α :=
  .of (q.u0.val * factor) (q.u1.val * factor) (q.u2.val * factor) (q.u3.val * factor)

def Quaternion.multiply (q1 q2 : Quaternion α) : Quaternion α :=
  .of (q1.u0.val * q2.u0.val - q1.u1.val * q2.u1.val - q1.u2.val * q2.u2.val
        - q1.u3.val * q2.u3.val)
    (q1.u0.val * q2.u1.val + q1.u1.val * q2.u0.val + q1.u2.val * q2.u3.val
        - q1.u3.val * q2.u2.val)
    (q1.u0.val * q2.u2.val + q1.u2.val * q2.u0.val + q1.u3.val * q2.u1.val
        - q1.u1.val * q2.u3.val)
    (q1.u0.val * q2.u3.val + q1.u3.val * q2.u0.val + q1.u1.val * q2.u2.val
        - q1.u2.val * q2.u1.val)

def dotProduct (q1 q2 : Quaternion α) : α :=
  q1.u0.val * q2.u0.val + q1.u1.val * q2.u1.val + q1.u2.val * q2.u2.val + q1.u3.val * q2.u3.val

section cmath
variable [Cmath α]

def euclideanNorm (q : Quaternion α) : α := Cmath.sqrt (dotProduct q q)

variable [LinearOrder α]

/-- A quaternion of norm zero is left as it is. -/
def normalize (q : Quaternion α) : Quaternion α :=
  let norm := euclideanNorm q
  if norm ≠ 0 then .of (q.u0.val / norm) (q.u1.val / norm) (q.u2.val / norm) (q.u3.val / norm)
  else q

/-- `convert(Quaternion*, Euler)`: ZYX Euler angles in degrees to a quaternion. -/
def Euler.convert (e : Euler α) : Quaternion α :=
  let z := e.z.val * Constants.degToRad α
  let y := e.y.val * Constants.degToRad α
  let x := e.x.val * Constants.degToRad α
  let cx := Cmath.cos (1 / 2 * x)
  let sx := Cmath.sin (1 / 2 * x)
  let cy := Cmath.cos (1 / 2 * y)
  let sy := Cmath.sin (1 / 2 * y)
  let cz := Cmath.cos (1 / 2 * z)
  let sz := Cmath.sin (1 / 2 * z)
  normalize (.of (sx * sy * sz + cx * cy * cz) (-cx * sy * sz + sx * cy * cz)
    (sx * cy * sz + cx * sy * cz) (cx * cy * sz - sx * sy * cz))

/-- `convert(Euler*, Quaternion)`: the target is untouched when the norm is zero. -/
def Quaternion.convert (q : Quaternion α) (target : Euler α) : Euler α :=
  if euclideanNorm q ≠ 0 then
    let u0 := q.u0.val
    let u1 := q.u1.val
    let u2 := q.u2.val
    let u3 := q.u3.val
    let threshold : α := 1 / 1000000
    let singularityCheck := u0 * u2 - u1 * u3
    let deg (x y z : α) : Euler α :=
      .of (x * Constants.radToDeg α) (y * Constants.radToDeg α) (z * Constants.radToDeg α)
    if |singularityCheck - 1 / 2| ≤ threshold then
      -- y is close to 90 degrees
      deg (2 * Cmath.atan2 u1 u0) (Cmath.pi / 2) 0
    else if |singularityCheck + 1 / 2| ≤ threshold then
      -- y is close to -90 degrees
      deg (2 * Cmath.atan2 u1 u0) (-(Cmath.pi / 2)) 0
    else
      deg (Cmath.atan2 (2 * (u0 * u1 + u2 * u3)) (1 - 2 * (u1 * u1 + u2 * u2)))
        (Cmath.asin (2 * (u0 * u2 - u1 * u3)))
        (Cmath.atan2 (2 * (u0 * u3 + u1 * u2)) (1 - 2 * (u2 * u2 + u3 * u3)))
  else target

omit [LinearOrder α] in
/-- `convert(Quaternion*, Quaternion, Euler)`: the derivative of a quaternion under an angular
velocity in degrees per second. -/
def Euler.derivative (previousQ : Quaternion α) (av : Euler α) : Quaternion α :=
  let temp := Quaternion.of 0 (av.x.val * Constants.degToRad α) (av.y.val * Constants.degToRad α)
    (av.z.val * Constants.degToRad α)
  (temp.multiply previousQ).multiplyFactor (1 / 2)

end cmath

end AbbWrapper
