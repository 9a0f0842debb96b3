import AbbWrapper.EulerAngles
import AbbWrapper.Odometry
import AbbWrapper.OrientationSigns
import AbbWrapper.RepeatedCopy

/-! # The motion of the demo outputs

The demo outputs follow cosine curves around the feedback of the first message of a session.  They begin
where the robot is, and no message of the session leads them out of a fixed envelope around this place:
five degrees for a joint, at most `4π/3` degrees a second, and 200 and 50 millimetres for the pose.

* `Near` is the envelope, for joints, a pose and the outputs, and `Rests` says that they stand still at
  the feedback they started from.
* `demoQuaternion` is the orientation that is sent.  It is on the arc from the orientation of the feedback
  to a fixed one, or to its negative (`demoQuaternion_arc`), so that it is a unit quaternion, unless the
  orientation of the feedback is on one line with the fixed one.
* `BeginsDemo` is a message that begins a session with demo outputs, `StaysInSession` an event that does
  not begin another session, and `ShowsDemo` the invariant of such a session.

The numbers are the exact real numbers.  `demo_stays` is about every continuation of a session: messages,
rejected ones too, calls of the user and changes of the configuration. -/

namespace AbbWrapper

open Protobuf Runs Spherical

variable {β κ μ υ : Type}

/-! ### The envelope -/

/-- Positions near those at the start, and slow velocities. -/
structure JointSpace.Near (start j : JointSpace ℝ) : Prop where
  position : ∀ i < j.position.get.valuesSize,
    |j.position.get.value i - start.position.get.value i| ≤ 5
  velocity : ∀ i < j.velocity.get.valuesSize, |j.velocity.get.value i| ≤ 4 * Real.pi / 3

/-- The orientation that `generateDemoQuaternions` goes to. -/
noncomputable def demoOrientation : Quaternion ℝ := (Euler.of (-90 : ℝ) 0 180).convert

/-- The envelope of a pose, in millimetres: `x` and `y` go the same way. -/
structure CartesianPose.Near (start pose : CartesianPose ℝ) : Prop where
  way : ∃ way, 0 ≤ way ∧ way ≤ 200 ∧
    pose.position.get.x.val = start.position.get.x.val + way ∧
    pose.position.get.y.val = start.position.get.y.val + way
  height : |pose.position.get.z.val - start.position.get.z.val| ≤ 50
  orientation : dotProduct start.quaternion.get start.quaternion.get = 1 →
    |dotProduct start.quaternion.get demoOrientation| ≠ 1 →
      dotProduct pose.quaternion.get pose.quaternion.get = 1

/-- Outputs near the feedback at the start. -/
structure Output.Near (start : Feedback ℝ) (o : Output ℝ) : Prop where
  robot : start.robotJoints.Near o.robotJoints
  pose : start.robotCartesian.pose.get.Near o.robotCartesian.pose.get
  external : start.externalJoints.Near o.externalJoints

/-- The joints are at the place they started from, and their velocities are zero. -/
structure JointSpace.Rests (start j : JointSpace ℝ) : Prop where
  position : j.position.get = start.position.get
  velocity : ∀ i, j.velocity.get.value i = 0

/-- The pose is the one it started from; the orientation is, if it was a unit quaternion that is not on
one line with the fixed one. -/
structure CartesianPose.Rests (start pose : CartesianPose ℝ) : Prop where
  x : pose.position.get.x.val = start.position.get.x.val
  y : pose.position.get.y.val = start.position.get.y.val
  z : pose.position.get.z.val = start.position.get.z.val
  orientation : dotProduct start.quaternion.get start.quaternion.get = 1 →
    |dotProduct start.quaternion.get demoOrientation| ≠ 1 →
      pose.quaternion.get.vec = start.quaternion.get.vec

/-- Outputs at rest at the feedback; the orientation is kept where it can be interpolated. -/
structure Output.RestsAt (start : Feedback ℝ) (o : Output ℝ) : Prop where
  robot : start.robotJoints.Rests o.robotJoints
  pose : start.robotCartesian.pose.get.Rests o.robotCartesian.pose.get
  velocity : o.robotCartesian.velocity.get = ⟨.present .reset, .present .reset⟩
  external : start.externalJoints.Rests o.externalJoints

theorem Output.Near.of_sameValues {start start' : Feedback ℝ} (hsame : start.SameValues start')
    {o : Output ℝ} (h : o.Near start) : o.Near start' := by
  obtain ⟨hrobot, hpose, hexternal, -⟩ := hsame
  exact ⟨⟨hrobot ▸ h.robot.position, h.robot.velocity⟩, hpose ▸ h.pose,
    ⟨hexternal ▸ h.external.position, h.external.velocity⟩⟩

theorem Output.RestsAt.of_sameValues {start start' : Feedback ℝ} (hsame : start.SameValues start')
    {o : Output ℝ} (h : o.RestsAt start) : o.RestsAt start' := by
  obtain ⟨hrobot, hpose, hexternal, -⟩ := hsame
  exact ⟨⟨hrobot ▸ h.robot.position, h.robot.velocity⟩, hpose ▸ h.pose, h.velocity,
    ⟨hexternal ▸ h.external.position, h.external.velocity⟩⟩

theorem JointSpace.Rests.near {start j : JointSpace ℝ} (h : start.Rests j) : start.Near j := by
  constructor
  · intro i _
    rw [h.position, sub_self, abs_zero]
    norm_num
  · intro i _
    rw [h.velocity i, abs_zero]
    positivity

/-! ### One callback -/

theorem JointSpace.Near.follow {start j : JointSpace ℝ} (h : start.Near j) {dist speed : ℝ}
    (hdist : |dist| ≤ 5) (hspeed : |speed| ≤ 4 * Real.pi / 3) (n m : ℕ) :
    start.Near
      { position := j.position.modify (·.update n fun i _ => start.position.get.value i + dist)
        velocity := j.velocity.modify (·.update m fun _ _ => speed) } := by
  constructor
  · intro i hi
    rw [Optional.get_modify, Joints.valuesSize_update] at hi
    rw [Optional.get_modify, Joints.value_update _ _ _ hi]
    split
    · rwa [add_sub_cancel_left]
    · exact h.position i hi
  · intro i hi
    rw [Optional.get_modify, Joints.valuesSize_update] at hi
    rw [Optional.get_modify, Joints.value_update _ _ _ hi]
    split
    · exact hspeed
    · exact h.velocity i hi

theorem JointSpace.Rests.follow {start j : JointSpace ℝ} (h : start.Rests j) {dist speed : ℝ}
    (hdist : dist = 0) (hspeed : speed = 0) (n m : ℕ) :
    start.Rests
      { position := j.position.modify (·.update n fun i _ => start.position.get.value i + dist)
        velocity := j.velocity.modify (·.update m fun _ _ => speed) } := by
  constructor
  · rw [Optional.get_modify, h.position, hdist]
    refine congrArg Joints.mk (List.ext_getElem (List.length_mapIdx) fun i hi hi' => ?_)
    rw [List.getElem_mapIdx]
    split
    · change start.position.get.value i + 0 = start.position.get.values[i]
      rw [add_zero]
      exact List.getD_eq_getElem _ _ hi'
    · rfl
  · intro i
    rw [Optional.get_modify]
    rcases lt_or_ge i j.velocity.get.valuesSize with hi | hi
    · rw [Joints.value_update _ _ _ hi, hspeed, h.velocity i, ite_self]
    · have hsize : (j.velocity.get.update m fun _ _ => speed).valuesSize ≤ i := by
        rwa [Joints.valuesSize_update]
      exact List.getD_eq_default _ _ hsize

/-- While the demo is ramped in, and afterwards. -/
theorem abs_demoDistance_le (rampedIn : Bool) (x y : ℝ) :
    |if rampedIn = true then -2 * (5 / 2) * Real.cos x else 5 / 2 * Real.cos y - 5 / 2| ≤ 5 := by
  have hx := abs_le.mp (Real.abs_cos_le_one x)
  have hy := abs_le.mp (Real.abs_cos_le_one y)
  rw [abs_le]
  split
  · constructor <;> linarith
  · constructor <;> linarith

theorem abs_demoSpeed_le (rampedIn : Bool) (TS x y : ℝ) :
    |if rampedIn = true then 2 * (5 / 2 * (Real.pi * TS / 3)) * (8 / 10) * Real.sin x / TS
      else -(5 / 2 * (Real.pi * TS / 3)) * Real.sin y / TS| ≤ 4 * Real.pi / 3 := by
  have hpi := Real.pi_pos
  -- the sample time cancels
  have hscaled (c z : ℝ) (hc : |c| ≤ 4) : |c * (Real.pi / 3) * TS * Real.sin z / TS| ≤
      4 * Real.pi / 3 := by
    have hsin := Real.abs_sin_le_one z
    have hratio : |TS / TS| ≤ 1 := by
      rcases eq_or_ne TS 0 with hzero | hne
      · rw [hzero, div_zero, abs_zero]
        exact zero_le_one
      · rw [div_self hne, abs_one]
    calc
      |c * (Real.pi / 3) * TS * Real.sin z / TS| = |c| * (Real.pi / 3) * |Real.sin z| * |TS / TS| := by
        rw [show c * (Real.pi / 3) * TS * Real.sin z / TS =
          c * (Real.pi / 3) * Real.sin z * (TS / TS) by ring, abs_mul, abs_mul, abs_mul,
          abs_of_pos (by positivity : 0 < Real.pi / 3)]
      _ ≤ 4 * (Real.pi / 3) * 1 * 1 := by gcongr
      _ = 4 * Real.pi / 3 := by ring
  split
  · convert hscaled 4 x (by norm_num) using 2
    ring
  · convert hscaled (-(5 / 2)) y (by norm_num) using 2
    ring

theorem demoOrientation_unit : dotProduct demoOrientation demoOrientation = 1 := by
  unfold demoOrientation
  rw [Euler.convert_eq]
  exact Quaternion.ofAngles_unit _ _ _

/-- The quaternion that `generateDemoQuaternions` sets. -/
noncomputable def demoQuaternion (q1 : Quaternion ℝ) (t : ℝ) : Quaternion ℝ :=
  let q2 := if dotProduct demoOrientation q1 < 0 then
    Quaternion.of (-demoOrientation.u0.val) (-demoOrientation.u1.val) (-demoOrientation.u2.val)
      (-demoOrientation.u3.val) else demoOrientation
  let ω := Real.arccos (dotProduct q1 q2)
  let q3 := Slerp.combine (Real.sin ((1 - t) * ω) * (1 / Real.sin ω))
    (Real.sin (t * ω) * (1 / Real.sin ω)) q1 q2
  .of (q3.u0.val / euclideanNorm q3) (q3.u1.val / euclideanNorm q3) (q3.u2.val / euclideanNorm q3)
    (q3.u3.val / euclideanNorm q3)

/-- It is on the arc to the demo orientation or to its negative. -/
theorem demoQuaternion_arc {q1 : Quaternion ℝ} (hunit : dotProduct q1 q1 = 1)
    (hline : |dotProduct q1 demoOrientation| ≠ 1) (t : ℝ) :
    ‖(demoQuaternion q1 t).vec‖ = 1 ∧ ∃ (ω : ℝ) (goal : EuclideanSpace ℝ (Fin 4)),
      Real.sin ω ≠ 0 ∧ (demoQuaternion q1 t).vec = arc ω t q1.vec goal := by
  have hq1 := Quaternion.norm_vec_unit hunit
  have hdemo := Quaternion.norm_vec_unit demoOrientation_unit
  unfold demoQuaternion
  simp only
  obtain ⟨q2, hq2⟩ : ∃ q2, q2 = if dotProduct demoOrientation q1 < 0 then
      Quaternion.of (-demoOrientation.u0.val) (-demoOrientation.u1.val) (-demoOrientation.u2.val)
        (-demoOrientation.u3.val) else demoOrientation := ⟨_, rfl⟩
  rw [← hq2]
  have hvec : q2.vec = demoOrientation.vec ∨ q2.vec = -demoOrientation.vec := by
    rw [hq2]
    split
    · right
      ext i
      fin_cases i <;> simp [Quaternion.vec, Quaternion.of]
    · exact .inl rfl
  have hgoal : ‖q2.vec‖ = 1 := by
    rcases hvec with h | h
    · rw [h, hdemo]
    · rw [h, norm_neg, hdemo]
  have hinner : |dotProduct q1 q2| ≠ 1 := by
    rw [← Quaternion.inner_vec] at hline ⊢
    rcases hvec with h | h
    · rwa [h]
    · rwa [h, inner_neg_right, abs_neg]
  have hle : |dotProduct q1 q2| ≤ 1 := by
    rw [← Quaternion.inner_vec]
    exact abs_inner_le_one hq1 hgoal
  obtain ⟨hlower, hupper⟩ := abs_le.mp hle
  have hcos : inner ℝ q1.vec q2.vec = Real.cos (Real.arccos (dotProduct q1 q2)) := by
    rw [Real.cos_arccos hlower hupper, Quaternion.inner_vec]
  have hsin : Real.sin (Real.arccos (dotProduct q1 q2)) ≠ 0 := by
    rw [Real.sin_arccos]
    have hlt : dotProduct q1 q2 ^ 2 < 1 := (sq_lt_one_iff_abs_lt_one _).mpr (lt_of_le_of_ne hle hinner)
    exact (Real.sqrt_pos.mpr (sub_pos.mpr hlt)).ne'
  generalize Real.arccos (dotProduct q1 q2) = ω at hcos hsin
  obtain ⟨q3, hq3⟩ : ∃ q3, q3 = Slerp.combine (Real.sin ((1 - t) * ω) * (1 / Real.sin ω))
      (Real.sin (t * ω) * (1 / Real.sin ω)) q1 q2 := ⟨_, rfl⟩
  rw [← hq3]
  have harc : q3.vec = arc ω t q1.vec q2.vec := by
    rw [hq3, Quaternion.vec_combine, mul_one_div, mul_one_div]
    rfl
  have hnorm : ‖q3.vec‖ = 1 := by
    rw [harc]
    exact norm_arc hq1 hgoal hcos hsin
  have hnormalized : (Quaternion.of (q3.u0.val / euclideanNorm q3) (q3.u1.val / euclideanNorm q3)
      (q3.u2.val / euclideanNorm q3) (q3.u3.val / euclideanNorm q3)).vec = q3.vec := by
    rw [← Quaternion.norm_vec, hnorm]
    ext i
    fin_cases i <;> simp [Quaternion.vec, Quaternion.of]
  rw [hnormalized]
  exact ⟨hnorm, ω, q2.vec, hsin, harc⟩

namespace OutputContainer

/-- Joints that are near the start stay there; the pose is set anew. -/
theorem near_generateDemoOutputs (o : OutputContainer ℝ) (inputs : InputContainer ℝ)
    (hrobot : inputs.initial.feedback.get.robotJoints.Near o.current.robotJoints)
    (hexternal : inputs.initial.feedback.get.externalJoints.Near o.current.externalJoints) :
    (o.generateDemoOutputs inputs).current.Near inputs.initial.feedback.get := by
  have hway (x : ℝ) : 0 ≤ 200 / 2 * (Real.cos x + 1) ∧ 200 / 2 * (Real.cos x + 1) ≤ 200 := by
    have hcos := abs_le.mp (Real.abs_cos_le_one x)
    constructor <;> linarith
  refine ⟨?_, ⟨⟨_, (hway _).1, (hway _).2, rfl, rfl⟩, ?_, fun hunit hline => ?_⟩, ?_⟩
  · exact hrobot.follow (abs_demoDistance_le _ _ _) (abs_demoSpeed_le _ _ _ _) _ _
  · have hheight (z x : ℝ) : |z + 200 / 2 / 2 * Real.cos x - z| ≤ 50 := by
      have hcos := abs_le.mp (Real.abs_cos_le_one x)
      rw [add_sub_cancel_left, abs_le]
      constructor <;> linarith
    exact hheight _ _
  · exact (Quaternion.norm_vec_eq_one_iff _).mp (demoQuaternion_arc hunit hline _).1
  · exact hexternal.follow (abs_demoDistance_le _ _ _) (abs_demoSpeed_le _ _ _ _) _ _

/-- With the sequence number zero nothing moves. -/
theorem restsAt_generateDemoOutputs (o : OutputContainer ℝ) (inputs : InputContainer ℝ)
    (hnumber : o.sequenceNumber = 0)
    (hrobot : inputs.initial.feedback.get.robotJoints.Rests o.current.robotJoints)
    (hvelocity : o.current.robotCartesian.velocity.get = ⟨.present .reset, .present .reset⟩)
    (hexternal : inputs.initial.feedback.get.externalJoints.Rests o.current.externalJoints) :
    (o.generateDemoOutputs inputs).current.RestsAt inputs.initial.feedback.get := by
  have hzero : ((o.sequenceNumber.toNat : ℕ) : ℝ) = 0 := by rw [hnumber]; exact Nat.cast_zero
  have hramp (E : UInt32) : decide (E + 1 < o.sequenceNumber) = false := by
    rw [hnumber, decide_eq_false_iff_not]
    exact Nat.not_lt_zero _
  have hdist (E : UInt32) (x b : ℝ) : (if decide (E + 1 < o.sequenceNumber) = true then
      -2 * (5 / 2) * Real.cos x else 5 / 2 * Real.cos (b * (o.sequenceNumber.toNat : ℝ)) - 5 / 2) =
        0 := by
    rw [hramp, if_neg Bool.false_ne_true, hzero, mul_zero, Real.cos_zero]
    ring
  have hspeed (E : UInt32) (x b c TS : ℝ) : (if decide (E + 1 < o.sequenceNumber) = true then
      x else c * Real.sin (b * (o.sequenceNumber.toNat : ℝ)) / TS) = 0 := by
    rw [hramp, if_neg Bool.false_ne_true, hzero, mul_zero, Real.sin_zero, mul_zero, zero_div]
  have hway (start b : ℝ) : start + 200 / 2 * (Real.cos (1 / 4 * b * (o.sequenceNumber.toNat : ℝ) *
      (2 / 10) + Real.pi) + 1) = start := by
    rw [hzero, mul_zero, zero_mul, zero_add, Real.cos_pi]
    ring
  have hheight (start b : ℝ) : start + 200 / 2 / 2 * Real.cos (1 / 2 * b *
      (o.sequenceNumber.toNat : ℝ) * (2 / 10) + 3 / 2 * Real.pi) = start := by
    have hcos : Real.cos (3 / 2 * Real.pi) = 0 := by
      rw [show 3 / 2 * Real.pi = Real.pi / 2 + Real.pi by ring, Real.cos_add_pi, Real.cos_pi_div_two,
        neg_zero]
    rw [hzero, mul_zero, zero_mul, zero_add, hcos, mul_zero, add_zero]
  have hbegin (b : ℝ) : 1 / 2 * (Real.cos (1 / 4 * b * (o.sequenceNumber.toNat : ℝ) * (2 / 10) +
      Real.pi) + 1) = 0 := by
    rw [hzero, mul_zero, zero_mul, zero_add, Real.cos_pi]
    ring
  refine ⟨?_, ⟨hway _ _, hway _ _, hheight _ _, fun hunit hline => ?_⟩, hvelocity, ?_⟩
  · exact hrobot.follow (hdist _ _ _) (hspeed _ _ _ _ _) _ _
  · obtain ⟨-, ω, goal, hsin, harc⟩ := demoQuaternion_arc hunit hline 0
    change (demoQuaternion _ _).vec = _
    rw [cmath_cos, cmath_pi, hbegin, harc, arc, sub_zero, one_mul, zero_mul, Real.sin_zero, zero_div,
      zero_smul, add_zero, div_self hsin, one_smul]
  · exact hexternal.follow (hdist _ _ _) (hspeed _ _ _ _ _) _ _

/-- The joints and the velocities at the first message. -/
theorem prepareOutputs_rests (o : OutputContainer ℝ) {inputs : InputContainer ℝ}
    (hfirst : inputs.firstMessage = true)
    (hsame : inputs.initial.feedback.get.SameValues inputs.current.feedback.get) :
    (o.prepareOutputs inputs).sequenceNumber = 0 ∧
      inputs.initial.feedback.get.robotJoints.Rests (o.prepareOutputs inputs).current.robotJoints ∧
      (o.prepareOutputs inputs).current.robotCartesian.velocity.get =
        ⟨.present .reset, .present .reset⟩ ∧
      inputs.initial.feedback.get.externalJoints.Rests
        (o.prepareOutputs inputs).current.externalJoints := by
  have hzero (n : ℕ) (j : JointSpace ℝ) (i : ℕ) : (j.zeroVelocity n).velocity.get.value i = 0 := by
    unfold JointSpace.zeroVelocity
    split
    · rfl
    · change (List.replicate n (0 : ℝ)).getD i 0 = 0
      rw [List.getD_eq_getElem?_getD]
      exact List.getElem?_getD_replicate_default_eq _ _ _
  obtain ⟨hrobot, -, hexternal, -⟩ := hsame
  unfold prepareOutputs
  simp only [hfirst, if_true]
  refine ⟨trivial, ⟨?_, fun i => hzero _ _ i⟩, rfl, ⟨?_, fun i => hzero _ _ i⟩⟩
  · rw [hrobot]
    rfl
  · rw [hexternal]
    rfl

end OutputContainer

/-! ### Sessions -/

/-- Events that do not begin another session. -/
def Event.StaysInSession (ParseFromArray : β → Bool × EgmRobot ℝ) : Event κ υ β → Prop
  | .datagram data _ => ∀ m ∈ parsedMessage ParseFromArray data, m.header.get.seqno.get ≠ 0
  | .user _ | .setConfiguration _ => True

namespace EGMInterface
variable (h : Handler κ μ υ ℝ) (ParseFromArray : β → Bool × EgmRobot ℝ)

/-- A datagram that begins a session with demo outputs. -/
structure BeginsDemo (s : EGMInterface κ μ ℝ) (data : Option β) : Prop where
  accepted : s.accepts h ParseFromArray data = true
  firstMessage : (s.inputs.parseFromArray ParseFromArray data).2.firstMessage = true
  demo : (h.base (s.initializeCallback h ParseFromArray data).2.configuration.active).useDemoOutputs =
    true

/-- A session with demo outputs that began at `start`. -/
structure ShowsDemo (start : Feedback ℝ) (s : EGMInterface κ μ ℝ) : Prop where
  firstCall : s.inputs.firstCall = false
  demo : (h.base s.configuration.active).useDemoOutputs = true
  initial : s.inputs.initial.feedback.get = start
  near : s.outputs.current.Near start

variable {h ParseFromArray} {s : EGMInterface κ μ ℝ} {data : Option β}

/-- The outputs after an accepted message. -/
theorem callback_demo (haccepted : s.accepts h ParseFromArray data = true)
    (hdemo : (h.base (s.initializeCallback h ParseFromArray data).2.configuration.active).useDemoOutputs =
      true) (mid : List υ) :
    (s.callback h ParseFromArray data mid).outputs.current =
        ((s.initializeCallback h ParseFromArray data).2.outputs.generateDemoOutputs
          (s.initializeCallback h ParseFromArray data).2.inputs).current ∧
      (s.callback h ParseFromArray data mid).inputs =
        (s.initializeCallback h ParseFromArray data).2.inputs.updatePrevious ∧
      (s.callback h ParseFromArray data mid).configuration =
        (s.initializeCallback h ParseFromArray data).2.configuration := by
  rw [callback_of_accepted h ParseFromArray haccepted]
  obtain ⟨hinputs, -, hconfiguration, -⟩ :=
    execute_kept (h := h) (s.initializeCallback h ParseFromArray data).2 mid
  refine ⟨?_, congrArg InputContainer.updatePrevious hinputs, hconfiguration⟩
  change (OutputContainer.constructReply _ _).current = _
  rw [OutputContainer.constructReply_current]
  unfold execute
  simp only [hdemo, if_true]

theorem ShowsDemo.rejected {start : Feedback ℝ} (hs : ShowsDemo h start s)
    (hrejected : s.accepts h ParseFromArray data = false)
    (hfirst : (s.initializeCallback h ParseFromArray data).2.inputs.firstCall = false)
    (hconfiguration : (s.initializeCallback h ParseFromArray data).2.configuration = s.configuration)
    (houtputs : (s.initializeCallback h ParseFromArray data).2.outputs = s.outputs.clearReply)
    (mid : List υ) : ShowsDemo h start (s.callback h ParseFromArray data mid) := by
  have hinitial := (MeasuredInterface.kept_rejected (s := ⟨s, ⟨false, 0⟩⟩) hrejected mid).1
  have hcallback := callback_of_rejected h ParseFromArray hrejected mid
  refine ⟨?_, ?_, ?_, ?_⟩
  · rw [hcallback]
    exact hfirst
  · rw [hcallback]
    exact hconfiguration ▸ hs.demo
  · exact (congrArg (·.feedback.get) hinitial).trans hs.initial
  · rw [hcallback]
    exact (congrArg OutputContainer.current houtputs) ▸ hs.near

theorem ShowsDemo.datagram {start : Feedback ℝ} (hs : ShowsDemo h start s) (mid : List υ)
    (hdata : ∀ m ∈ parsedMessage ParseFromArray data, m.header.get.seqno.get ≠ 0) :
    ShowsDemo h start (s.callback h ParseFromArray data mid) := by
  cases hparsed : parsedMessage ParseFromArray data with
  | none =>
      obtain ⟨hrejected, hfirst, hconfiguration, houtputs, -⟩ :=
        initializeCallback_unreceived (h := h) (s := s) hparsed
      exact hs.rejected hrejected (hfirst.trans hs.firstCall) hconfiguration houtputs mid
  | some m =>
      have hreceived := initializeCallback_received (h := h) (s := s) hparsed
      have hseqno : (m.header.get.seqno.get == 0) = false := beq_eq_false_iff_ne.mpr (hdata m hparsed)
      have hconfiguration := hreceived.configuration
      rw [hs.firstCall, hseqno, Bool.false_or, Bool.false_and, if_neg Bool.false_ne_true]
        at hconfiguration
      have hparse := parseFromArray_of_some (i := s.inputs) hparsed
      obtain ⟨haccepts, hinputs, houtputs⟩ := initializeCallback_of_parsed h ParseFromArray
        (show (s.inputs.parseFromArray ParseFromArray data).1 = true by rw [hparse]) rfl
      cases haccepted : s.accepts h ParseFromArray data with
      | false =>
          rw [haccepted, if_neg Bool.false_ne_true] at houtputs
          exact hs.rejected haccepted hreceived.firstCall hconfiguration houtputs mid
      | true =>
          rw [haccepted, if_pos rfl] at houtputs
          have hdemo := hs.demo
          rw [← hconfiguration] at hdemo
          obtain ⟨hcurrent, hcallback, hsame⟩ := callback_demo haccepted hdemo mid
          have hlater : (s.inputs.parseFromArray ParseFromArray data).2.firstMessage = false := by
            rw [hparse]
            exact (congrArg₂ or hs.firstCall hseqno :)
          have hmessage := (InputContainer.extractParsedInformation_firstMessage _
            (h.base (s.initializeCallback h ParseFromArray data).2.configuration.active).axes).trans hlater
          have hinitial : (s.initializeCallback h ParseFromArray data).2.inputs.initial.feedback.get =
              start := by
            rw [hinputs, InputContainer.initial_extractParsedInformation (.inl hlater),
              (s.inputs.parseFromArray_kept ParseFromArray data).1, hs.initial]
          have hkept : (s.initializeCallback h ParseFromArray data).2.outputs.current =
              s.outputs.current := by
            rw [houtputs, OutputContainer.prepareOutputs, hmessage]
            rfl
          have hnear := OutputContainer.near_generateDemoOutputs
            (s.initializeCallback h ParseFromArray data).2.outputs
            (s.initializeCallback h ParseFromArray data).2.inputs
          rw [hinitial, hkept] at hnear
          refine ⟨?_, ?_, ?_, ?_⟩
          · rw [hcallback]
            exact hreceived.firstCall
          · rw [hsame]
            exact hdemo
          · rw [hcallback]
            exact hinitial
          · rw [hcurrent]
            exact hnear hs.near.robot hs.near.external

theorem BeginsDemo.showsDemo (hs : s.BeginsDemo h ParseFromArray data) (mid : List υ) :
    ShowsDemo h (s.callback h ParseFromArray data mid).inputs.initial.feedback.get
        (s.callback h ParseFromArray data mid) ∧
      (s.callback h ParseFromArray data mid).inputs.initial.feedback.get.SameValues
        (s.callback h ParseFromArray data mid).inputs.current.feedback.get ∧
      (s.callback h ParseFromArray data mid).outputs.current.RestsAt
        (s.callback h ParseFromArray data mid).inputs.initial.feedback.get := by
  obtain ⟨hcurrent, hcallback, hconfiguration⟩ := callback_demo hs.accepted hs.demo mid
  have hparsed := parsed_of_accepts hs.accepted
  obtain ⟨haccepts, hinputs, houtputs⟩ := initializeCallback_of_parsed h ParseFromArray hparsed rfl
  have hfirst : (s.initializeCallback h ParseFromArray data).2.inputs.firstCall = false := by
    cases hmessage : parsedMessage ParseFromArray data with
    | none =>
        have hrejected := (initializeCallback_unreceived (h := h) (s := s) hmessage).1
        exact absurd (hrejected.symm.trans hs.accepted) Bool.false_ne_true
    | some m => exact (initializeCallback_received hmessage).firstCall
  obtain ⟨hmessage, ⟨-, hsame, -⟩, -⟩ :=
    InputContainer.extractParsedInformation_first (haccepts.symm.trans hs.accepted) hs.firstMessage
  rw [← hinputs] at houtputs hmessage hsame
  rw [hs.accepted, if_pos rfl] at houtputs
  have hrests := OutputContainer.restsAt_generateDemoOutputs
    (s.initializeCallback h ParseFromArray data).2.outputs
    (s.initializeCallback h ParseFromArray data).2.inputs
  have hnear := OutputContainer.near_generateDemoOutputs
    (s.initializeCallback h ParseFromArray data).2.outputs
    (s.initializeCallback h ParseFromArray data).2.inputs
  rw [← hcurrent, houtputs] at hrests hnear
  obtain ⟨hnumber, hrobot, hvelocity, hexternal⟩ :=
    s.outputs.clearReply.prepareOutputs_rests hmessage hsame
  have hdemo := hs.demo
  rw [← hconfiguration] at hdemo
  generalize s.callback h ParseFromArray data mid = s' at *
  rw [hcallback]
  exact ⟨⟨by rw [hcallback]; exact hfirst, hdemo, by rw [hcallback],
    hnear hrobot.near hexternal.near⟩, hsame, hrests hnumber hrobot hvelocity hexternal⟩

/-- **The demo begins where the robot is, and stays near it** until another session begins, whatever the
messages, the calls of the user and the changes of the configuration are. -/
theorem demo_stays (hs : s.BeginsDemo h ParseFromArray data) (mid : List υ)
    {later : List (Event κ υ β)} (hlater : ∀ e ∈ later, e.StaysInSession ParseFromArray) :
    let first := s.callback h ParseFromArray data mid
    first.outputs.current.RestsAt first.inputs.current.feedback.get ∧
      (run (step h ParseFromArray) first later).outputs.current.Near
        first.inputs.current.feedback.get := by
  intro first
  obtain ⟨hshows, hsame, hrests⟩ := hs.showsDemo mid
  have hlast : ShowsDemo h first.inputs.initial.feedback.get
      (run (step h ParseFromArray) first later) :=
    Along.run_inv (H := fun _ e => e.StaysInSession ParseFromArray) (fun _ e hs he => by
      cases e with
      | datagram data mid => exact hs.datagram mid he
      | user call => exact ⟨hs.firstCall, hs.demo, hs.initial, hs.near⟩
      | setConfiguration configuration => exact ⟨hs.firstCall, hs.demo, hs.initial, hs.near⟩)
      (Along.of_forall (fun e he _ => hlater e he) first) hshows
  exact ⟨hrests.of_sameValues hsame, hlast.near.of_sameValues hsame⟩

/-- A base interface with demo outputs. -/
def demoing : BaseConfiguration ℝ := ⟨.six, true, false, false, 60⟩

theorem demo_stays_stands :
    let first := (init demoing () : EGMInterface (BaseConfiguration ℝ) Unit ℝ).callback baseHandler
      received (some (stands 0)) []
    first.outputs.current.RestsAt first.inputs.current.feedback.get ∧
      (run (step baseHandler received) first [.datagram (some (stands 1)) [],
        .datagram (some (stands 2)) []]).outputs.current.Near first.inputs.current.feedback.get := by
  have hconfiguration : ((init demoing () : EGMInterface (BaseConfiguration ℝ) Unit ℝ).initializeCallback
      baseHandler received (some (stands 0))).2.configuration = ⟨demoing, demoing, false⟩ := by
    rw [initializeCallback_configuration]
    rfl
  have hbegins : (init demoing () : EGMInterface (BaseConfiguration ℝ) Unit ℝ).BeginsDemo baseHandler
      received (some (stands 0)) := by
    refine ⟨?_, rfl, by rw [hconfiguration]; rfl⟩
    rw [(initializeCallback_of_parsed baseHandler received (s := init demoing ()) rfl rfl).1,
      hconfiguration]
    exact (InputContainer.extractParsedInformation_fst _ _).trans rfl
  have hlater : ∀ e ∈ ([.datagram (some (stands 1)) [], .datagram (some (stands 2)) []] :
      List (Event (BaseConfiguration ℝ) Empty (EgmRobot ℝ))), e.StaysInSession received := by
    have hstays (seqno : UInt32) (hseqno : seqno ≠ 0) : ∀ m ∈ parsedMessage received
        (some (stands seqno)), m.header.get.seqno.get ≠ 0 := by
      rintro m hm
      obtain rfl := Option.some.inj hm
      exact hseqno
    rintro e he
    rcases List.mem_cons.mp he with rfl | he
    · exact hstays 1 (by decide)
    · obtain rfl := List.mem_singleton.mp he
      exact hstays 2 (by decide)
  exact demo_stays hbegins [] hlater

end EGMInterface

end AbbWrapper
