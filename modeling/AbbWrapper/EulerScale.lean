import AbbWrapper.Auxiliary
import AbbWrapper.EulerAngles

/-! # Quaternions that are not of length one

`convert` admits every quaternion whose norm is not zero, but its formulas are those of a unit
quaternion.  Read as a function of the squared norm (`anglesAt`) they give the angles of the
normalized quaternion at the right value (`anglesAt_normalize`) and those of `convert` at `1`.

* `tiltX`, `tiltZ`, `turnX` and `turnZ` are the sines and cosines of which the two arctangents are taken,
  up to a factor.
* `Upper` and `Lower` say that the second angle is taken for a right angle, `InDomain` that `asin` is
  called within its domain.
* `ScaleFree` lists the quaternions for which the length does not matter: those of length one, those in
  the same singular branch before and after the normalization, and multiples of a basis quaternion.

The Euler angles of a quaternion are those of the normalized one exactly if it is `ScaleFree`
(`convert_scaleFree_iff`).  The orientation `(1, 0, 1, 0)`, which a message may hold, makes the program
call `asin` with `2` (`convert_asin_two`). -/

namespace AbbWrapper

open Protobuf

/-! ### What `asin` is called with -/

section asin
variable {α : Type} [Field α] [LinearOrder α] [Cmath α]

def Quaternion.asinArguments (q : Quaternion α) : List α :=
  let singularityCheck := q.u0.val * q.u2.val - q.u1.val * q.u3.val
  if euclideanNorm q ≠ 0 then
    if |singularityCheck - 1 / 2| ≤ 1 / 1000000 then []
    else if |singularityCheck + 1 / 2| ≤ 1 / 1000000 then []
    else [2 * singularityCheck]
  else []

end asin

/-! ### Arguments of complex numbers -/

theorem arg_div (x y : ℝ) {n : ℝ} (hn : 0 < n) :
    Complex.arg ⟨x / n, y / n⟩ = Complex.arg ⟨x, y⟩ := by
  have hscale : (⟨x / n, y / n⟩ : ℂ) = (n⁻¹ : ℝ) * ⟨x, y⟩ := by
    apply Complex.ext
    · rw [Complex.re_ofReal_mul, div_eq_inv_mul]
    · rw [Complex.im_ofReal_mul]
      exact div_eq_inv_mul y n
  rw [hscale, Complex.arg_real_mul _ (inv_pos.mpr hn)]

/-- Off the real axis the argument and the imaginary part determine the number. -/
theorem re_eq_of_arg_eq {x x' y : ℝ} (hy : y ≠ 0)
    (h : Complex.arg ⟨x, y⟩ = Complex.arg ⟨x', y⟩) : x = x' := by
  have hne {a : ℝ} : (⟨a, y⟩ : ℂ) ≠ 0 := fun hzero => hy (congrArg Complex.im hzero)
  rw [Complex.arg_eq_arg_iff hne hne, ← Complex.ofReal_div] at h
  have him := congrArg Complex.im h
  have hre := congrArg Complex.re h
  rw [Complex.im_ofReal_mul] at him
  rw [Complex.re_ofReal_mul] at hre
  have hone := mul_right_cancel₀ hy (him.trans (one_mul y).symm)
  rw [hone, one_mul] at hre
  exact hre

theorem arg_real (x : ℝ) : Complex.arg ⟨x, 0⟩ = if 0 ≤ x then 0 else Real.pi := by
  change Complex.arg (x : ℂ) = _
  split
  · rename_i h
    exact Complex.arg_ofReal_of_nonneg h
  · rename_i h
    exact Complex.arg_ofReal_of_neg (not_le.mp h)

namespace Quaternion
variable {q : Quaternion ℝ}

/-! ### The three angles -/

/-- Half of the sines and cosines of the first and the last angle, for a unit quaternion. -/
def tiltX (q : Quaternion ℝ) : ℝ := q.u1.val * q.u1.val + q.u2.val * q.u2.val
def tiltZ (q : Quaternion ℝ) : ℝ := q.u2.val * q.u2.val + q.u3.val * q.u3.val
def turnX (q : Quaternion ℝ) : ℝ := q.u0.val * q.u1.val + q.u2.val * q.u3.val
def turnZ (q : Quaternion ℝ) : ℝ := q.u0.val * q.u3.val + q.u1.val * q.u2.val

/-- The angles in radians, of `q` divided by the square root of `n`. -/
noncomputable def anglesAt (q : Quaternion ℝ) (n : ℝ) : ℝ × ℝ × ℝ :=
  if |q.singularity / n - 1 / 2| ≤ 1 / 1000000 then
    (2 * Complex.arg ⟨q.u0.val, q.u1.val⟩, Real.pi / 2, 0)
  else if |q.singularity / n + 1 / 2| ≤ 1 / 1000000 then
    (2 * Complex.arg ⟨q.u0.val, q.u1.val⟩, -(Real.pi / 2), 0)
  else (Complex.arg ⟨n - 2 * q.tiltX, 2 * q.turnX⟩, Real.arcsin (2 * (q.singularity / n)),
    Complex.arg ⟨n - 2 * q.tiltZ, 2 * q.turnZ⟩)

noncomputable def degrees (angles : ℝ × ℝ × ℝ) : Euler ℝ :=
  .of (angles.1 * Constants.radToDeg ℝ) (angles.2.1 * Constants.radToDeg ℝ)
    (angles.2.2 * Constants.radToDeg ℝ)

theorem degrees_injective : Function.Injective degrees := by
  have hfactor : Constants.radToDeg ℝ ≠ 0 := by
    unfold Constants.radToDeg
    rw [cmath_pi]
    exact div_ne_zero (by norm_num) Real.pi_ne_zero
  rintro ⟨x, y, z⟩ ⟨x', y', z'⟩ h
  simp only [degrees, Euler.of, Euler.mk.injEq, Optional.present.injEq,
    mul_left_inj' hfactor] at h
  obtain ⟨rfl, rfl, rfl⟩ := h
  rfl

theorem convert_eq (hq : euclideanNorm q ≠ 0) (target : Euler ℝ) :
    q.convert target = degrees (q.anglesAt 1) := by
  unfold Quaternion.convert anglesAt
  rw [if_pos hq, div_one]
  change (if |q.singularity - 1 / 2| ≤ _ then _ else
    if |q.singularity + 1 / 2| ≤ _ then _ else _ : Euler ℝ) = _
  split
  · rfl
  · split
    · rfl
    · rfl

section scaled
variable (hq : euclideanNorm q ≠ 0)

include hq

theorem dotProduct_self_pos : 0 < dotProduct q q := by
  unfold euclideanNorm at hq
  rw [cmath_sqrt, ne_eq, Real.sqrt_eq_zero', not_le] at hq
  exact hq

theorem dotProduct_normalize : dotProduct (normalize q) (normalize q) = 1 := by
  have hvec : ‖q.vec‖ ≠ 0 := by rwa [norm_vec]
  rw [← norm_vec_eq_one_iff, vec_normalize, norm_smul, norm_inv, norm_norm, inv_mul_cancel₀ hvec]

/-- The formulas at the squared norm are those of the normalized quaternion. -/
theorem anglesAt_normalize : (normalize q).anglesAt 1 = q.anglesAt (dotProduct q q) := by
  have hpos := dotProduct_self_pos hq
  have hroot : 0 < √(dotProduct q q) := Real.sqrt_pos.mpr hpos
  have hsquare : √(dotProduct q q) * √(dotProduct q q) = dotProduct q q :=
    Real.mul_self_sqrt hpos.le
  have hnormalize : normalize q = .of (q.u0.val / √(dotProduct q q)) (q.u1.val / √(dotProduct q q))
      (q.u2.val / √(dotProduct q q)) (q.u3.val / √(dotProduct q q)) := by
    unfold normalize
    exact if_pos hq
  have hproduct (a b : ℝ) : a / √(dotProduct q q) * (b / √(dotProduct q q)) =
      a * b / dotProduct q q := by
    rw [div_mul_div_comm, hsquare]
  have hsingularity : (normalize q).singularity = q.singularity / dotProduct q q := by
    simp only [singularity, hnormalize, Quaternion.of, Optional.val_present, hproduct, sub_div]
  have htilt {x y : ℝ} : Complex.arg ⟨1 - 2 * (x / dotProduct q q), 2 * (y / dotProduct q q)⟩ =
      Complex.arg ⟨dotProduct q q - 2 * x, 2 * y⟩ := by
    rw [← arg_div (dotProduct q q - 2 * x) (2 * y) hpos, sub_div, div_self hpos.ne', mul_div_assoc,
      mul_div_assoc]
  unfold anglesAt
  rw [hsingularity, div_one]
  simp only [tiltX, tiltZ, turnX, turnZ, hnormalize, Quaternion.of, Optional.val_present, hproduct,
    ← add_div, htilt, arg_div _ _ hroot]

theorem convert_normalize_iff : (∀ target, q.convert target = (normalize q).convert target) ↔
    q.anglesAt 1 = q.anglesAt (dotProduct q q) := by
  have hunit := euclideanNorm_unit (dotProduct_normalize hq)
  have hnormalize (target : Euler ℝ) :
      (normalize q).convert target = degrees (q.anglesAt (dotProduct q q)) := by
    rw [convert_eq hunit, anglesAt_normalize hq]
  simp only [convert_eq hq, hnormalize, degrees_injective.eq_iff, forall_const]

end scaled

/-! ### When the length does not matter -/

/-- A multiple of a basis quaternion: of the first one, or of another one that is long enough. -/
def OneCoordinate (q : Quaternion ℝ) : Prop :=
  q.u1.val = 0 ∧ q.u2.val = 0 ∧ q.u3.val = 0 ∨
  q.u0.val = 0 ∧ q.u2.val = 0 ∧ q.u3.val = 0 ∧ 1 < 2 * (q.u1.val * q.u1.val) ∨
  q.u0.val = 0 ∧ q.u1.val = 0 ∧ q.u3.val = 0 ∧ 1 < 2 * (q.u2.val * q.u2.val) ∨
  q.u0.val = 0 ∧ q.u1.val = 0 ∧ q.u2.val = 0 ∧ 1 < 2 * (q.u3.val * q.u3.val)

/-- Of length one, close to the same singularity before and after the division by the norm, or with
one coordinate. -/
def ScaleFree (q : Quaternion ℝ) : Prop :=
  dotProduct q q = 1 ∨
  |q.singularity - 1 / 2| ≤ 1 / 1000000 ∧
    |q.singularity / dotProduct q q - 1 / 2| ≤ 1 / 1000000 ∨
  |q.singularity + 1 / 2| ≤ 1 / 1000000 ∧
    |q.singularity / dotProduct q q + 1 / 2| ≤ 1 / 1000000 ∨
  q.OneCoordinate

/-- By the inequality of the arithmetic and the geometric mean. -/
theorem abs_singularity_le_half (q : Quaternion ℝ) : |2 * q.singularity| ≤ dotProduct q q := by
  rw [abs_le]
  unfold singularity dotProduct
  constructor
  · nlinarith only [sq_nonneg (q.u0.val + q.u2.val), sq_nonneg (q.u1.val - q.u3.val)]
  · nlinarith only [sq_nonneg (q.u0.val - q.u2.val), sq_nonneg (q.u1.val + q.u3.val)]

theorem oneCoordinate_of_turns (hs : q.singularity = 0) (hx : q.turnX = 0) (hz : q.turnZ = 0) :
    q.u1.val = 0 ∧ q.u2.val = 0 ∧ q.u3.val = 0 ∨
    q.u0.val = 0 ∧ q.u2.val = 0 ∧ q.u3.val = 0 ∨
    q.u0.val = 0 ∧ q.u1.val = 0 ∧ q.u3.val = 0 ∨
    q.u0.val = 0 ∧ q.u1.val = 0 ∧ q.u2.val = 0 := by
  unfold singularity at hs
  unfold turnX at hx
  unfold turnZ at hz
  by_cases h0 : q.u0.val = 0
  · rw [h0] at hs hx hz
    have h13 : q.u1.val * q.u3.val = 0 := by linarith
    have h23 : q.u2.val * q.u3.val = 0 := by linarith
    have h12 : q.u1.val * q.u2.val = 0 := by linarith
    rcases mul_eq_zero.mp h13 with h1 | h3
    · rcases mul_eq_zero.mp h23 with h2 | h3
      · exact .inr (.inr (.inr ⟨h0, h1, h2⟩))
      · exact .inr (.inr (.inl ⟨h0, h1, h3⟩))
    · rcases mul_eq_zero.mp h12 with h1 | h2
      · exact .inr (.inr (.inl ⟨h0, h1, h3⟩))
      · exact .inr (.inl ⟨h0, h2, h3⟩)
  · left
    have hpos : 0 < q.u0.val * q.u0.val + q.u3.val * q.u3.val :=
      add_pos_of_pos_of_nonneg (mul_self_pos.mpr h0) (mul_self_nonneg _)
    have h1 : q.u1.val = 0 := by
      have hproduct : q.u1.val * (q.u0.val * q.u0.val + q.u3.val * q.u3.val) = 0 := by
        linear_combination q.u0.val * hx - q.u3.val * hs
      exact (mul_eq_zero.mp hproduct).resolve_right hpos.ne'
    rw [h1] at hs hz
    have h2 : q.u0.val * q.u2.val = 0 := by linarith
    have h3 : q.u0.val * q.u3.val = 0 := by linarith
    exact ⟨h1, (mul_eq_zero.mp h2).resolve_left h0, (mul_eq_zero.mp h3).resolve_left h0⟩

/-! ### The branches -/

/-- The second angle is taken for a right angle. -/
def Upper (q : Quaternion ℝ) (n : ℝ) : Prop := |q.singularity / n - 1 / 2| ≤ 1 / 1000000

def Lower (q : Quaternion ℝ) (n : ℝ) : Prop := |q.singularity / n + 1 / 2| ≤ 1 / 1000000

/-- Where `asin` is called, its argument is in its domain. -/
def InDomain (q : Quaternion ℝ) (n : ℝ) : Prop :=
  ¬q.Upper n → ¬q.Lower n → |2 * (q.singularity / n)| ≤ 1

theorem inDomain_one_iff (hq : euclideanNorm q ≠ 0) :
    q.InDomain 1 ↔ ∀ a ∈ q.asinArguments, |a| ≤ 1 := by
  have harguments : q.asinArguments = if |q.singularity - 1 / 2| ≤ 1 / 1000000 then []
      else if |q.singularity + 1 / 2| ≤ 1 / 1000000 then [] else [2 * q.singularity] :=
    if_pos hq
  unfold InDomain Upper Lower
  rw [harguments, div_one]
  split
  · rename_i hupper
    exact iff_of_true (fun h => absurd hupper h) (List.forall_mem_nil _)
  · split
    · rename_i hlower
      exact iff_of_true (fun _ h => absurd hlower h) (List.forall_mem_nil _)
    · rename_i hupper hlower
      rw [List.forall_mem_singleton]
      exact ⟨fun h => h hupper hlower, fun h _ _ => h⟩

theorem inDomain_dotProduct (hq : euclideanNorm q ≠ 0) : q.InDomain (dotProduct q q) := by
  have hpos := dotProduct_self_pos hq
  intro _ _
  rw [← mul_div_assoc, abs_div, abs_of_pos hpos, div_le_one hpos]
  exact q.abs_singularity_le_half

section branches
variable {n : ℝ}

theorem not_lower_of_upper (h : q.Upper n) : ¬q.Lower n := by
  intro h'
  have hupper := (abs_le.mp h).1
  have hlower := (abs_le.mp h').2
  norm_num at hupper hlower
  linarith

theorem anglesAt_of_upper (h : q.Upper n) :
    q.anglesAt n = (2 * Complex.arg ⟨q.u0.val, q.u1.val⟩, Real.pi / 2, 0) := if_pos h

theorem anglesAt_of_lower (h : q.Lower n) :
    q.anglesAt n = (2 * Complex.arg ⟨q.u0.val, q.u1.val⟩, -(Real.pi / 2), 0) := by
  have hupper : ¬q.Upper n := fun h' => not_lower_of_upper h' h
  unfold anglesAt
  exact (if_neg hupper).trans (if_pos h)

theorem anglesAt_regular (hupper : ¬q.Upper n) (hlower : ¬q.Lower n) : q.anglesAt n =
    (Complex.arg ⟨n - 2 * q.tiltX, 2 * q.turnX⟩, Real.arcsin (2 * (q.singularity / n)),
      Complex.arg ⟨n - 2 * q.tiltZ, 2 * q.turnZ⟩) := by
  unfold anglesAt
  exact (if_neg hupper).trans (if_neg hlower)

/-- The second angle tells the branches apart. -/
theorem upper_iff (hdomain : q.InDomain n) :
    (q.anglesAt n).2.1 = Real.pi / 2 ↔ q.Upper n := by
  constructor
  · intro h
    by_contra hupper
    have hpi := Real.pi_pos
    by_cases hlower : q.Lower n
    · rw [anglesAt_of_lower hlower] at h
      dsimp only at h
      linarith
    · rw [anglesAt_regular hupper hlower] at h
      have hone := (abs_le.mp (hdomain hupper hlower)).2
      have hone' : 1 ≤ 2 * (q.singularity / n) := Real.arcsin_eq_pi_div_two.mp h
      have hhalf : q.singularity / n = 1 / 2 := by linarith
      apply hupper
      unfold Upper
      rw [hhalf]
      norm_num
  · intro h
    rw [anglesAt_of_upper h]

theorem lower_iff (hdomain : q.InDomain n) :
    (q.anglesAt n).2.1 = -(Real.pi / 2) ↔ q.Lower n := by
  constructor
  · intro h
    by_contra hlower
    have hpi := Real.pi_pos
    by_cases hupper : q.Upper n
    · rw [anglesAt_of_upper hupper] at h
      dsimp only at h
      linarith
    · rw [anglesAt_regular hupper hlower] at h
      have hone := (abs_le.mp (hdomain hupper hlower)).1
      have hone' : 2 * (q.singularity / n) ≤ -1 := Real.arcsin_eq_neg_pi_div_two.mp h
      have hhalf : q.singularity / n = -(1 / 2) := by linarith
      apply hlower
      unfold Lower
      rw [hhalf]
      norm_num
  · intro h
    rw [anglesAt_of_lower h]

end branches

/-! ### The regular branch -/

theorem arg_shift_iff (t n : ℝ) : Complex.arg ⟨1 - 2 * t, 0⟩ = Complex.arg ⟨n - 2 * t, 0⟩ ↔
    (2 * t ≤ 1 ↔ 2 * t ≤ n) := by
  rw [arg_real, arg_real]
  simp only [sub_nonneg]
  by_cases h : 2 * t ≤ 1
  · by_cases h' : 2 * t ≤ n
    · simp [h, h']
    · simp [h, h', Real.pi_ne_zero.symm]
  · by_cases h' : 2 * t ≤ n
    · simp [h, h', Real.pi_ne_zero]
    · simp [h, h']

theorem turn_eq_zero {t u n : ℝ} (hn : n ≠ 1)
    (h : Complex.arg ⟨1 - 2 * t, 2 * u⟩ = Complex.arg ⟨n - 2 * t, 2 * u⟩) : u = 0 := by
  by_contra hu
  have hre := re_eq_of_arg_eq (mul_ne_zero two_ne_zero hu) h
  exact hn (by linarith)

theorem oneCoordinate_of_regular (hpos : 0 < dotProduct q q) (hn : dotProduct q q ≠ 1)
    (hs : q.singularity = 0)
    (hx : Complex.arg ⟨1 - 2 * q.tiltX, 2 * q.turnX⟩ =
      Complex.arg ⟨dotProduct q q - 2 * q.tiltX, 2 * q.turnX⟩)
    (hz : Complex.arg ⟨1 - 2 * q.tiltZ, 2 * q.turnZ⟩ =
      Complex.arg ⟨dotProduct q q - 2 * q.tiltZ, 2 * q.turnZ⟩) : q.OneCoordinate := by
  have hturnX := turn_eq_zero hn hx
  have hturnZ := turn_eq_zero hn hz
  rw [hturnX, mul_zero, arg_shift_iff] at hx
  rw [hturnZ, mul_zero, arg_shift_iff] at hz
  unfold tiltX at hx
  unfold tiltZ at hz
  unfold dotProduct at hx hz hpos
  rcases oneCoordinate_of_turns hs hturnX hturnZ with ⟨h1, h2, h3⟩ | ⟨h0, h2, h3⟩ | ⟨h0, h1, h3⟩ |
    ⟨h0, h1, h2⟩
  · exact .inl ⟨h1, h2, h3⟩
  · refine .inr (.inl ⟨h0, h2, h3, not_le.mp fun h => ?_⟩)
    simp only [h0, h2, h3, mul_zero, zero_add, add_zero] at hx hpos
    linarith [hx.mp h]
  · refine .inr (.inr (.inl ⟨h0, h1, h3, not_le.mp fun h => ?_⟩))
    simp only [h0, h1, h3, mul_zero, zero_add, add_zero] at hx hpos
    linarith [hx.mp h]
  · refine .inr (.inr (.inr ⟨h0, h1, h2, not_le.mp fun h => ?_⟩))
    simp only [h0, h1, h2, mul_zero, zero_add, add_zero] at hz hpos
    linarith [hz.mp h]

/-- With one coordinate all the formulas are those of the real axis. -/
theorem OneCoordinate.anglesAt_eq (hpos : 0 < dotProduct q q) (h : q.OneCoordinate) :
    q.singularity = 0 ∧ q.anglesAt 1 = q.anglesAt (dotProduct q q) := by
  have hturns : q.singularity = 0 ∧ q.turnX = 0 ∧ q.turnZ = 0 := by
    unfold singularity turnX turnZ
    rcases h with ⟨h1, h2, h3⟩ | ⟨h0, h2, h3, -⟩ | ⟨h0, h1, h3, -⟩ | ⟨h0, h1, h2, -⟩
    · simp [h1, h2, h3]
    · simp [h0, h2, h3]
    · simp [h0, h1, h3]
    · simp [h0, h1, h2]
  obtain ⟨hs, hx, hz⟩ := hturns
  have htilts : (2 * q.tiltX ≤ 1 ↔ 2 * q.tiltX ≤ dotProduct q q) ∧
      (2 * q.tiltZ ≤ 1 ↔ 2 * q.tiltZ ≤ dotProduct q q) := by
    unfold tiltX tiltZ
    unfold dotProduct at hpos ⊢
    rcases h with ⟨h1, h2, h3⟩ | ⟨h0, h2, h3, hlong⟩ | ⟨h0, h1, h3, hlong⟩ | ⟨h0, h1, h2, hlong⟩
    · simp only [h1, h2, h3, mul_zero, add_zero] at hpos ⊢
      exact ⟨⟨fun _ => hpos.le, fun _ => zero_le_one⟩, ⟨fun _ => hpos.le, fun _ => zero_le_one⟩⟩
    · simp only [h0, h2, h3, mul_zero, zero_add, add_zero] at hpos ⊢
      exact ⟨⟨fun _ => by linarith, fun _ => by linarith⟩,
        ⟨fun _ => hpos.le, fun _ => zero_le_one⟩⟩
    · simp only [h0, h1, h3, mul_zero, zero_add, add_zero] at hpos ⊢
      exact ⟨⟨fun _ => by linarith, fun _ => by linarith⟩, ⟨fun _ => by linarith, fun _ => by linarith⟩⟩
    · simp only [h0, h1, h2, mul_zero, zero_add, add_zero] at hpos ⊢
      exact ⟨⟨fun _ => hpos.le, fun _ => zero_le_one⟩,
        ⟨fun _ => by linarith, fun _ => by linarith⟩⟩
  have hregular {n : ℝ} : ¬q.Upper n ∧ ¬q.Lower n := by
    unfold Upper Lower
    rw [hs, zero_div]
    norm_num
  refine ⟨hs, ?_⟩
  rw [anglesAt_regular hregular.1 hregular.2, anglesAt_regular hregular.1 hregular.2, hs, hx, hz,
    zero_div, zero_div, mul_zero, (arg_shift_iff _ _).mpr htilts.1, (arg_shift_iff _ _).mpr htilts.2]

/-! ### Every length -/

theorem ScaleFree.anglesAt_eq (hq : euclideanNorm q ≠ 0) (h : q.ScaleFree) :
    q.InDomain 1 ∧ q.anglesAt 1 = q.anglesAt (dotProduct q q) := by
  rcases h with hunit | ⟨hupper, hupper'⟩ | ⟨hlower, hlower'⟩ | hone
  · have hdomain := inDomain_dotProduct hq
    rw [hunit] at hdomain ⊢
    exact ⟨hdomain, rfl⟩
  · rw [← div_one q.singularity] at hupper
    have hone : q.Upper 1 := hupper
    exact ⟨fun h => absurd hone h, (anglesAt_of_upper hone).trans (anglesAt_of_upper hupper').symm⟩
  · rw [← div_one q.singularity] at hlower
    have hone : q.Lower 1 := hlower
    exact ⟨fun _ h => absurd hone h, (anglesAt_of_lower hone).trans (anglesAt_of_lower hlower').symm⟩
  · obtain ⟨hs, hangles⟩ := hone.anglesAt_eq (dotProduct_self_pos hq)
    refine ⟨fun _ _ => ?_, hangles⟩
    rw [hs, zero_div, mul_zero, abs_zero]
    exact zero_le_one

theorem scaleFree_of_anglesAt (hq : euclideanNorm q ≠ 0) (hdomain : q.InDomain 1)
    (h : q.anglesAt 1 = q.anglesAt (dotProduct q q)) : q.ScaleFree := by
  have hpos := dotProduct_self_pos hq
  have hdomain' := inDomain_dotProduct hq
  have hupper : q.Upper 1 ↔ q.Upper (dotProduct q q) := by
    rw [← upper_iff hdomain, ← upper_iff hdomain', h]
  have hlower : q.Lower 1 ↔ q.Lower (dotProduct q q) := by
    rw [← lower_iff hdomain, ← lower_iff hdomain', h]
  by_cases hup : q.Upper 1
  · have hone := hup
    unfold Upper at hone
    rw [div_one] at hone
    exact .inr (.inl ⟨hone, hupper.mp hup⟩)
  by_cases hlow : q.Lower 1
  · have hone := hlow
    unfold Lower at hone
    rw [div_one] at hone
    exact .inr (.inr (.inl ⟨hone, hlower.mp hlow⟩))
  -- both in the branch of the formulas: the sines agree only where they are zero
  have hup' := fun h => hup (hupper.mpr h)
  have hlow' := fun h => hlow (hlower.mpr h)
  rw [anglesAt_regular hup hlow, anglesAt_regular hup' hlow', Prod.mk.injEq, Prod.mk.injEq] at h
  obtain ⟨hx, hsine, hz⟩ := h
  by_cases hn : dotProduct q q = 1
  · exact .inl hn
  refine .inr (.inr (.inr ?_))
  have hrange := abs_le.mp (hdomain hup hlow)
  have hrange' := abs_le.mp (hdomain' hup' hlow')
  have hsine' := (Real.arcsin_inj hrange.1 hrange.2 hrange'.1 hrange'.2).mp hsine
  have hs : q.singularity = 0 := by
    have hscaled : q.singularity * (dotProduct q q - 1) = 0 := by
      field_simp at hsine'
      linear_combination hsine'
    exact (mul_eq_zero.mp hscaled).resolve_right (sub_ne_zero.mpr hn)
  exact oneCoordinate_of_regular hpos hn hs hx hz

/-- **When Euler angles do not depend on the length of the quaternion**: of every quaternion that
`convert` admits, exactly then is `asin` called in its domain and the result that of the quaternion
divided by its norm. -/
theorem convert_scaleFree_iff (q : Quaternion ℝ) (hq : euclideanNorm q ≠ 0) :
    ((∀ a ∈ q.asinArguments, |a| ≤ 1) ∧
      ∀ target, q.convert target = (normalize q).convert target) ↔ q.ScaleFree := by
  rw [convert_normalize_iff hq, ← inDomain_one_iff hq]
  constructor
  · rintro ⟨hdomain, hangles⟩
    exact scaleFree_of_anglesAt hq hdomain hangles
  · intro h
    exact h.anglesAt_eq hq

/-- A multiple of the unit. -/
theorem convert_scaleFree_two :
    (Quaternion.of 2 0 0 0 : Quaternion ℝ).convert {} =
      (normalize (Quaternion.of 2 0 0 0 : Quaternion ℝ)).convert {} := by
  have hnorm : euclideanNorm (Quaternion.of 2 0 0 0 : Quaternion ℝ) ≠ 0 := by
    simp [euclideanNorm, dotProduct, Quaternion.of]
  refine ((convert_scaleFree_iff _ hnorm).mpr (.inr (.inr (.inr (.inl ?_))))).2 {}
  simp [Quaternion.of]

/-- A pose that the robot sends with the orientation `(1, 0, 1, 0)` is parsed as it is, and `asin` is
called with `2`. -/
theorem convert_asin_two :
    ({ pos := .present ⟨.present 0, .present 0, .present 0⟩
       orient := .present ⟨.present 1, .present 0, .present 1, .present 0⟩ } :
        EgmPose ℝ).parse.2.quaternion = .present (.of 1 0 1 0) ∧
    (Quaternion.of 1 0 1 0 : Quaternion ℝ).asinArguments = [2] ∧
    ¬∀ q : Quaternion ℝ, euclideanNorm q ≠ 0 → (∀ a ∈ q.asinArguments, |a| ≤ 1) ∧
      ∀ target, q.convert target = (normalize q).convert target := by
  have hnorm : euclideanNorm (Quaternion.of 1 0 1 0 : Quaternion ℝ) ≠ 0 := by
    simp [euclideanNorm, dotProduct, Quaternion.of]
  have harguments : (Quaternion.of 1 0 1 0 : Quaternion ℝ).asinArguments = [2] := by
    unfold asinArguments
    rw [if_pos hnorm]
    norm_num [Quaternion.of]
  refine ⟨rfl, harguments, ?_⟩
  intro hall
  have hdomain := (hall _ hnorm).1
  rw [harguments, List.forall_mem_singleton] at hdomain
  norm_num at hdomain

end Quaternion

end AbbWrapper
