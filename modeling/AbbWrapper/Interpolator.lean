import AbbWrapper.Auxiliary

/-! # The interpolator

`EGMInterpolator` with its three parts: spline polynomials for joints and positions, `Slerp` for
the orientation of normal goals, `SoftRamp` for static goals and for ramping down an angular
velocity.

* The polynomials are a list of `maxNumberOfSplines` elements: those of the robot joints or of the axes
  come first, and those of the external joints behind them, from `offset` on.  A write behind the end of
  the list is lost, and a polynomial behind it is that of a new interpolator.
* The Euler field of a Cartesian goal's pose holds an angular velocity.
* The duration given to the splines is clamped from below (`EGMInterpolator.update`); `Slerp` and
  `SoftRamp` receive the conditions as they were passed in.
* The two switches of `SoftRamp` have a case without `break`, which is executed together with the next
  one: `evaluateJoints` and `evaluateCartesian` do what the source does there.
* `update` reads nothing of the old coefficients, and `evaluate` writes to the references that it is
  given; what it does not write stays as it is. -/

namespace AbbWrapper

open Protobuf

variable {α : Type}

/-! ### Opening nested fields of a goal for writing -/

def PointGoal.modifyRobotJoints (f : JointGoal α → JointGoal α) (p : PointGoal α) : PointGoal α :=
  { p with robot := p.robot.modify fun r => { r with joints := r.joints.modify f } }

def PointGoal.modifyRobotCartesian (f : CartesianGoal α → CartesianGoal α) (p : PointGoal α) :
    PointGoal α :=
  { p with robot := p.robot.modify fun r => { r with cartesian := r.cartesian.modify f } }

def PointGoal.modifyExternalJoints (f : JointGoal α → JointGoal α) (p : PointGoal α) :
    PointGoal α :=
  { p with external := p.external.modify fun e => { e with joints := e.joints.modify f } }

/-- `goal.robot().joints()`. -/
def PointGoal.robotJoints (p : PointGoal α) : JointGoal α := p.robot.get.joints.get

/-- `goal.robot().cartesian()`. -/
def PointGoal.robotCartesian (p : PointGoal α) : CartesianGoal α := p.robot.get.cartesian.get

/-- `goal.external().joints()`. -/
def PointGoal.externalJoints (p : PointGoal α) : JointGoal α := p.external.get.joints.get

def CartesianGoal.modifyPose (f : CartesianPose α → CartesianPose α) (c : CartesianGoal α) :
    CartesianGoal α :=
  { c with pose := c.pose.modify f }

/-- `EGMInterpolator::Operation`: what a goal is interpolated for. -/
inductive Operation where
  | normal | rampDown | rampInPosition | rampInVelocity
deriving DecidableEq, Repr, Inhabited

/-- `EGMInterpolator::Conditions`: what an update is asked for, besides start and goal. -/
structure Conditions (α : Type) where
  duration : α
  mode : EGMModes
  operation : Operation
  rampDownFactor : α
  splineMethod : SplineMethod
deriving DecidableEq, Repr

variable [Field α]

def Conditions.init : Conditions α := ⟨0, .egmJoint, .normal, 0, .quintic⟩

/-! ### Spline polynomials -/

/-- The axes of a position. -/
inductive Axis where
  | x | y | z
deriving DecidableEq, Repr

/-- `SplineConditions`: position, velocity and acceleration at the start (`alfa`) and at the goal (`beta`) of
one coordinate. -/
structure SplineConditions (α : Type) where
  duration : α
  alfa : α
  dAlfa : α
  ddAlfa : α
  beta : α
  dBeta : α
  ddBeta : α
  splineMethod : SplineMethod
  doRampDown : Bool
  rampDownFactor : α

def SplineConditions.init (c : Conditions α) : SplineConditions α :=
  ⟨c.duration, 0, 0, 0, 0, 0, 0, c.splineMethod, c.operation = .rampDown, c.rampDownFactor⟩

def SplineConditions.setJointConditions (s : SplineConditions α) (index : ℕ)
    (start goal : JointGoal α) : SplineConditions α :=
  { s with
    alfa := start.position.get.value index
    dAlfa := start.velocity.get.value index
    ddAlfa := start.acceleration.get.value index
    beta := goal.position.get.value index
    dBeta := goal.velocity.get.value index
    ddBeta := goal.acceleration.get.value index }

/-- The component of a Cartesian vector along an axis. -/
def Cartesian.component (c : Cartesian α) : Axis → α
  | .x => c.x.val
  | .y => c.y.val
  | .z => c.z.val

def SplineConditions.setCartesianConditions (s : SplineConditions α) (axis : Axis)
    (start goal : CartesianGoal α) : SplineConditions α :=
  { s with
    alfa := start.pose.get.position.get.component axis
    dAlfa := start.velocity.get.component axis
    ddAlfa := start.acceleration.get.component axis
    beta := goal.pose.get.position.get.component axis
    dBeta := goal.velocity.get.component axis
    ddBeta := goal.acceleration.get.component axis }

/-- `A + B*t + C*t^2 + D*t^3 + E*t^4 + F*t^5`. -/
structure SplinePolynomial (α : Type) where
  a : α
  b : α
  c : α
  d : α
  e : α
  f : α
deriving DecidableEq, Repr

namespace SplinePolynomial

def init : SplinePolynomial α := ⟨0, 0, 0, 0, 0, 0⟩

/-- The new coefficients; none of the old ones is read. -/
def update [LinearOrder α] (s : SplineConditions α) : SplinePolynomial α :=
  let T := s.duration
  let K := saturate s.rampDownFactor 0 1
  if s.doRampDown then
    let c := ((K - 1) * s.dAlfa) / T
    ⟨s.alfa, s.dAlfa, c, (-c) / (3 * T), 0, 0⟩
  else
    match s.splineMethod with
    | .linear => ⟨s.alfa, (s.beta - s.alfa) / T, 0, 0, 0, 0⟩
    | .square => ⟨s.alfa, s.dAlfa, (s.beta - s.alfa - s.dAlfa * T) / T ^ 2, 0, 0, 0⟩
    | .cubic =>
        let c1 := s.beta - s.alfa - s.dAlfa * T
        let c2 := s.dBeta - s.dAlfa
        let c := 3 * c1 / T ^ 2 - c2 / T
        ⟨s.alfa, s.dAlfa, c, c1 / T ^ 3 - c / T, 0, 0⟩
    | .quintic =>
        let c1 := s.beta - s.alfa - s.dAlfa * T - (s.ddAlfa / 2) * T ^ 2
        let c2 := s.dBeta - s.dAlfa - s.ddAlfa * T
        let c3 := s.ddBeta - s.ddAlfa
        let d := 10 * c1 / T ^ 3 - 4 * c2 / T ^ 2 + c3 / (2 * T)
        let e := 5 * c1 / T ^ 4 - c2 / T ^ 3 - 2 * d / T
        ⟨s.alfa, s.dAlfa, s.ddAlfa / 2, d, e, c1 / T ^ 5 - d / T ^ 2 - e / T⟩

variable (p : SplinePolynomial α) (t : α)

def calculatePosition : α := p.a + p.b * t + p.c * t ^ 2 + p.d * t ^ 3 + p.e * t ^ 4 + p.f * t ^ 5

def calculateVelocity : α :=
  p.b + 2 * p.c * t + 3 * p.d * t ^ 2 + 4 * p.e * t ^ 3 + 5 * p.f * t ^ 4

def calculateAcceleration : α := 2 * p.c + 6 * p.d * t + 12 * p.e * t ^ 2 + 20 * p.f * t ^ 3

end SplinePolynomial

/-- The loop over `SplinePolynomial::evaluate(JointGoal*, …)`: the joints `i < n` are evaluated
with the polynomials `splines i`. -/
def JointGoal.evaluate (output : JointGoal α) (n : ℕ) (splines : ℕ → SplinePolynomial α) (t : α) :
    JointGoal α where
  position := output.position.modify (·.update n fun i _ => (splines i).calculatePosition t)
  velocity := output.velocity.modify (·.update n fun i _ => (splines i).calculateVelocity t)
  acceleration :=
    output.acceleration.modify (·.update n fun i _ => (splines i).calculateAcceleration t)

/-- `SplinePolynomial::evaluate(CartesianGoal*, …)` for the three axes. -/
def CartesianGoal.evaluate (output : CartesianGoal α) (splines : Axis → SplinePolynomial α)
    (t : α) : CartesianGoal α where
  pose := output.pose.modify fun pose => { pose with
    position := .present (.of ((splines .x).calculatePosition t)
      ((splines .y).calculatePosition t) ((splines .z).calculatePosition t)) }
  velocity := .present (.of ((splines .x).calculateVelocity t) ((splines .y).calculateVelocity t)
    ((splines .z).calculateVelocity t))
  acceleration := .present (.of ((splines .x).calculateAcceleration t)
    ((splines .y).calculateAcceleration t) ((splines .z).calculateAcceleration t))

/-! ### Slerp -/

/-- `Slerp`: the interpolation from the orientation `q0` to `q1`. -/
structure Slerp (α : Type) where
  duration : α
  omega : α
  q0 : Quaternion α
  q1 : Quaternion α
  useLinear : Bool
deriving DecidableEq, Repr

namespace Slerp

def init : Slerp α := ⟨0, 0, { u0 := .present 1 }, { u0 := .present 1 }, false⟩

/-- `DOT_PRODUCT_THRESHOLD`, 0.9995. -/
def dotProductThreshold : α := 9995 / 10000

variable [LinearOrder α] [Cmath α]

/-- `omega_` and the sign of the goal are left as they are in the linear case. -/
def update (s : Slerp α) (start goal : Quaternion α) (conditions : Conditions α) : Slerp α :=
  let q0 := normalize start
  let q1 := normalize goal
  let dot := dotProduct q0 q1
  let s := { s with
    duration := conditions.duration
    q0 := q0
    q1 := q1
    useLinear := decide (dotProductThreshold < |dot|) }
  if s.useLinear then s
  else if dot < 0 then
    { s with q1 := q1.multiplyFactor (-1), omega := Cmath.acos (saturate (-dot) (-1) 1) }
  else { s with omega := Cmath.acos (saturate dot (-1) 1) }

def evaluate (s : Slerp α) (output : CartesianGoal α) (t : α) : CartesianGoal α :=
  let k := 1 / Cmath.sin s.omega
  let t := saturate (t / s.duration) 0 1
  let a := if s.useLinear then 1 - t else k * Cmath.sin ((1 - t) * s.omega)
  let b := if s.useLinear then t else k * Cmath.sin (t * s.omega)
  let c := if s.useLinear then -1 else -s.omega * k * Cmath.cos ((1 - t) * s.omega) / s.duration
  let d := if s.useLinear then 1 else s.omega * k * Cmath.cos (t * s.omega) / s.duration
  let q := normalize (.of (a * s.q0.u0.val + b * s.q1.u0.val) (a * s.q0.u1.val + b * s.q1.u1.val)
    (a * s.q0.u2.val + b * s.q1.u2.val) (a * s.q0.u3.val + b * s.q1.u3.val))
  let conjQ := Quaternion.of q.u0.val (-q.u1.val) (-q.u2.val) (-q.u3.val)
  let dQ := Quaternion.of (c * s.q0.u0.val + d * s.q1.u0.val) (c * s.q0.u1.val + d * s.q1.u1.val)
    (c * s.q0.u2.val + d * s.q1.u2.val) (c * s.q0.u3.val + d * s.q1.u3.val)
  let multQ := dQ.multiply conjQ
  let av := Euler.of (2 * multQ.u1.val * Constants.radToDeg α)
    (2 * multQ.u2.val * Constants.radToDeg α) (2 * multQ.u3.val * Constants.radToDeg α)
  output.modifyPose fun pose => { pose with quaternion := .present q, euler := .present av }

end Slerp

/-! ### Soft ramp -/

/-- `SoftRamp`: the ramp to a static goal. -/
structure SoftRamp (α : Type) where
  duration : α
  operation : Operation
  start : PointGoal α
  startAngularVelocity : Euler α
  goal : PointGoal α
deriving DecidableEq, Repr

namespace SoftRamp

def init : SoftRamp α := ⟨0, .rampDown, {}, {}, {}⟩

def update (s : SoftRamp α) (start goal : PointGoal α) (conditions : Conditions α) : SoftRamp α :=
  let s := { s with duration := conditions.duration, operation := conditions.operation }
  match conditions.operation with
  | .normal => s
  | .rampDown => { s with startAngularVelocity := start.robotCartesian.pose.get.euler.get }
  | .rampInPosition | .rampInVelocity => { s with start := start, goal := goal }

/-- The number of joints the two loops of `evaluate` write. -/
def loopBound (output : JointGoal α) (start goal : Joints α) : ℕ :=
  min output.position.get.valuesSize (min output.velocity.get.valuesSize
    (min output.acceleration.get.valuesSize (min start.valuesSize goal.valuesSize)))

/-- The joints written by `case RampInPosition`. -/
def rampInPosition (output : JointGoal α) (start goal : Joints α) (ramp dRamp : α) :
    JointGoal α :=
  let n := loopBound output start goal
  { position := output.position.modify
      (·.update n fun i _ => start.value i + ramp * (goal.value i - start.value i))
    velocity := output.velocity.modify
      (·.update n fun i _ => dRamp * (goal.value i - start.value i))
    acceleration := output.acceleration.modify (·.update n fun _ _ => 0) }

/-- The joints written by `case RampInVelocity`: the new velocity is integrated once. -/
def rampInVelocity (output : JointGoal α) (start goal : Joints α) (sampleTime ramp : α) :
    JointGoal α :=
  let n := loopBound output start goal
  let velocity i := start.value i + ramp * (goal.value i - start.value i)
  { position := output.position.modify (·.update n fun i v => v + sampleTime * velocity i)
    velocity := output.velocity.modify (·.update n fun i _ => velocity i)
    acceleration := output.acceleration.modify (·.update n fun _ _ => 0) }

variable [LinearOrder α] [Cmath α] (s : SoftRamp α)

/-- From 0 to 1. -/
def rampInFactor (t : α) : α := 1 / 2 * Cmath.cos (Cmath.pi * t + Cmath.pi) + 1 / 2

def dRampInFactor (t : α) : α :=
  -(1 / 2) * Cmath.pi / s.duration * Cmath.sin (Cmath.pi * t + Cmath.pi)

/-- `evaluate(JointGoal*, …)`; `joints` selects the robot or the external joints. -/
def evaluateJoints (output : JointGoal α) (joints : PointGoal α → JointGoal α) (sampleTime t : α) :
    JointGoal α :=
  let t := saturate (t / s.duration) 0 1
  let ramp := rampInFactor t
  let startJoints := joints s.start
  let goalJoints := joints s.goal
  match s.operation with
  | .normal | .rampDown => output
  | .rampInPosition =>
      -- the case has no break: the velocity case below it runs as well
      let output := rampInPosition output startJoints.position.get goalJoints.position.get ramp
        (s.dRampInFactor t)
      rampInVelocity output startJoints.velocity.get goalJoints.velocity.get sampleTime ramp
  | .rampInVelocity =>
      rampInVelocity output startJoints.velocity.get goalJoints.velocity.get sampleTime ramp

/-- A quaternion moved by its derivative. -/
def integrate (q dQ : Quaternion α) (sampleTime : α) : Quaternion α :=
  normalize (.of (q.u0.val + sampleTime * dQ.u0.val) (q.u1.val + sampleTime * dQ.u1.val)
    (q.u2.val + sampleTime * dQ.u2.val) (q.u3.val + sampleTime * dQ.u3.val))

/-- A vector on the way from `start` to `goal`. -/
def blend (start goal : Cartesian α) (ramp : α) : Cartesian α :=
  .of (start.x.val + ramp * (goal.x.val - start.x.val))
    (start.y.val + ramp * (goal.y.val - start.y.val))
    (start.z.val + ramp * (goal.z.val - start.z.val))

/-- The Cartesian fields written by `case RampInPosition`. -/
def rampInPositionCartesian (output : CartesianGoal α) (previousQ : Quaternion α)
    (sampleTime ramp dRamp : α) : CartesianGoal α :=
  let startPose := s.start.robotCartesian.pose.get
  let goalPose := s.goal.robotCartesian.pose.get
  let startP := startPose.position.get
  let goalP := goalPose.position.get
  let startQ := startPose.quaternion.get
  let goalQ := goalPose.quaternion.get
  let q := normalize (.of (startQ.u0.val + ramp * (goalQ.u0.val - startQ.u0.val))
    (startQ.u1.val + ramp * (goalQ.u1.val - startQ.u1.val))
    (startQ.u2.val + ramp * (goalQ.u2.val - startQ.u2.val))
    (startQ.u3.val + ramp * (goalQ.u3.val - startQ.u3.val)))
  { pose := output.pose.modify fun pose => { pose with
      position := .present (blend startP goalP ramp)
      quaternion := .present q
      euler := .present ((q.estimateVelocities previousQ sampleTime).getD pose.euler.get) }
    velocity := .present (.of (dRamp * (goalP.x.val - startP.x.val))
      (dRamp * (goalP.y.val - startP.y.val)) (dRamp * (goalP.z.val - startP.z.val)))
    acceleration := .present .reset }

/-- The Cartesian fields written by `case RampInVelocity`. -/
def rampInVelocityCartesian (output : CartesianGoal α) (previousQ : Quaternion α)
    (sampleTime ramp : α) : CartesianGoal α :=
  let v := blend s.start.robotCartesian.velocity.get s.goal.robotCartesian.velocity.get ramp
  let startAv := s.start.robotCartesian.pose.get.euler.get
  let goalAv := s.goal.robotCartesian.pose.get.euler.get
  let av := Euler.of (startAv.x.val + ramp * (goalAv.x.val - startAv.x.val))
    (startAv.y.val + ramp * (goalAv.y.val - startAv.y.val))
    (startAv.z.val + ramp * (goalAv.z.val - startAv.z.val))
  { pose := output.pose.modify fun pose =>
      let p := pose.position.get
      { position := .present (.of (p.x.val + sampleTime * v.x.val) (p.y.val + sampleTime * v.y.val)
          (p.z.val + sampleTime * v.z.val))
        euler := .present av
        quaternion := .present
          (integrate pose.quaternion.get (av.derivative previousQ) sampleTime) }
    velocity := .present v
    acceleration := .present .reset }

/-- `evaluate(CartesianGoal*, …)`. -/
def evaluateCartesian (output : CartesianGoal α) (sampleTime t : α) : CartesianGoal α :=
  let output := output.modifyPose id
  let previousQ := output.pose.get.quaternion.get
  let t := saturate (t / s.duration) 0 1
  match s.operation with
  | .normal => output
  | .rampDown =>
      let ramp := 1 / 2 * Cmath.cos (Cmath.pi * t) + 1 / 2
      let av := Euler.of (ramp * s.startAngularVelocity.x.val)
        (ramp * s.startAngularVelocity.y.val) (ramp * s.startAngularVelocity.z.val)
      output.modifyPose fun pose => { pose with
        euler := .present av
        quaternion := .present (integrate pose.quaternion.get (av.derivative previousQ) sampleTime) }
  | .rampInPosition =>
      -- as for the joints, the velocity case below runs as well
      let output := s.rampInPositionCartesian output previousQ sampleTime (rampInFactor t)
        (s.dRampInFactor t)
      s.rampInVelocityCartesian output previousQ sampleTime (rampInFactor t)
  | .rampInVelocity => s.rampInVelocityCartesian output previousQ sampleTime (rampInFactor t)

end SoftRamp

/-! ### The interpolator -/

/-- `MAX_NUMBER_OF_SPLINES_`. -/
def maxNumberOfSplines : ℕ := 12

/-- `EGMInterpolator`: one polynomial for each coordinate, and the interpolations of the orientation. -/
structure EGMInterpolator (α : Type) where
  offset : ℕ
  splinePolynomials : List (SplinePolynomial α)
  slerp : Slerp α
  softRamp : SoftRamp α
  conditions : Conditions α
deriving DecidableEq, Repr

namespace EGMInterpolator

/-- `offset_` has no initial value in the source; it is written before it is read. -/
def init : EGMInterpolator α :=
  ⟨0, List.replicate maxNumberOfSplines .init, .init, .init, .init⟩

def getDuration (e : EGMInterpolator α) : α := e.conditions.duration

/-- Replace the polynomials `offset, …, offset + n - 1`. -/
def setSplines (e : EGMInterpolator α) (offset n : ℕ) (f : ℕ → SplinePolynomial α) :
    EGMInterpolator α :=
  { e with splinePolynomials := e.splinePolynomials.mapIdx fun j p =>
      if offset ≤ j ∧ j < offset + n then f (j - offset) else p }

def spline (e : EGMInterpolator α) (i : ℕ) : SplinePolynomial α :=
  e.splinePolynomials.getD i .init

/-- The position of an axis in the array of polynomials. -/
def axisIndex : Axis → ℕ
  | .x => 0
  | .y => 1
  | .z => 2

/-- The axis whose polynomial stands at a position of the array. -/
def axisAt : ℕ → Axis
  | 0 => .x
  | 1 => .y
  | _ => .z

/-- The number of joints a loop over the polynomials handles. -/
def splineBound (goal : JointGoal α) : ℕ := min goal.position.get.valuesSize maxNumberOfSplines

section update
variable [LinearOrder α]

def updateJoints (e : EGMInterpolator α) (offset : ℕ) (start goal : JointGoal α) :
    EGMInterpolator α :=
  e.setSplines offset (splineBound start) fun i =>
    .update ((SplineConditions.init e.conditions).setJointConditions i start goal)

def updateAxes (e : EGMInterpolator α) (start goal : CartesianGoal α) : EGMInterpolator α :=
  e.setSplines 0 3 fun i =>
    .update ((SplineConditions.init e.conditions).setCartesianConditions (axisAt i) start goal)

variable [Cmath α]

def update (e : EGMInterpolator α) (start goal : PointGoal α) (conditions : Conditions α) :
    EGMInterpolator α :=
  let e := { e with conditions := { conditions with
    duration := max (Constants.lowestSampleTime α) conditions.duration } }
  match conditions.operation with
  | .normal | .rampDown =>
      let e := { e with offset := start.robotJoints.position.get.valuesSize }
      match conditions.mode with
      | .egmJoint =>
          (e.updateJoints 0 start.robotJoints goal.robotJoints).updateJoints e.offset
            start.externalJoints goal.externalJoints
      | .egmPose =>
          let e := e.updateAxes start.robotCartesian goal.robotCartesian
          let startQ := start.robotCartesian.pose.get.quaternion.get
          let goalQ := goal.robotCartesian.pose.get.quaternion.get
          let e := if conditions.operation = .normal then
            { e with slerp := e.slerp.update startQ goalQ conditions }
            else { e with softRamp := e.softRamp.update start goal conditions }
          e.updateJoints e.offset start.externalJoints goal.externalJoints
  | .rampInPosition | .rampInVelocity =>
      { e with softRamp := e.softRamp.update start goal conditions }

end update

def evaluateExternal (e : EGMInterpolator α) (output : PointGoal α) (t : α) : PointGoal α :=
  output.modifyExternalJoints fun joints =>
    joints.evaluate (splineBound joints) (fun i => e.spline (i + e.offset)) t

variable [LinearOrder α] [Cmath α]

def evaluate (e : EGMInterpolator α) (output : PointGoal α) (sampleTime t : α) : PointGoal α :=
  let t := saturate t 0 e.conditions.duration
  match e.conditions.operation, e.conditions.mode with
  | .normal, .egmJoint | .rampDown, .egmJoint =>
      e.evaluateExternal (output.modifyRobotJoints fun joints =>
        joints.evaluate (splineBound joints) e.spline t) t
  | .normal, .egmPose =>
      e.evaluateExternal (output.modifyRobotCartesian fun cartesian =>
        e.slerp.evaluate (cartesian.evaluate (fun axis => e.spline (axisIndex axis)) t) t) t
  | .rampDown, .egmPose =>
      e.evaluateExternal (output.modifyRobotCartesian fun cartesian =>
        e.softRamp.evaluateCartesian (cartesian.evaluate (fun axis => e.spline (axisIndex axis)) t)
          sampleTime t) t
  | .rampInPosition, .egmJoint | .rampInVelocity, .egmJoint =>
      (output.modifyRobotJoints fun joints =>
        e.softRamp.evaluateJoints joints PointGoal.robotJoints sampleTime t).modifyExternalJoints
          fun joints => e.softRamp.evaluateJoints joints PointGoal.externalJoints sampleTime t
  | .rampInPosition, .egmPose | .rampInVelocity, .egmPose =>
      (output.modifyRobotCartesian fun cartesian =>
        e.softRamp.evaluateCartesian cartesian sampleTime t).modifyExternalJoints
          fun joints => e.softRamp.evaluateJoints joints PointGoal.externalJoints sampleTime t

end EGMInterpolator

end AbbWrapper
