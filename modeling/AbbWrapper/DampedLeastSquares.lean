import Mathlib.Data.Matrix.Mul
import Mathlib.LinearAlgebra.Matrix.DotProduct
import Mathlib.Tactic.Abel
import Mathlib.Tactic.FieldSimp
import Mathlib.Tactic.Linarith
import Mathlib.Tactic.LinearCombination

/-! # Damped least squares

Of a matrix `A`, a vector `e` and a damping `μ > 0` the damped least squares solution minimizes
`|A x - e|² + μ |x|²`.  Nothing is presupposed of `A`: where it is singular, the damping alone makes the
solution unique.

* `cost` is what is minimized, and `Normal` the normal equation `Aᵀ A x + μ x = Aᵀ e`.
* A solution of the normal equation is the only minimum (`Normal.cost_lt`): the cost grows with the
  distance from it (`Normal.cost_add`).
* The image of the solution does not point away from `e` (`Normal.dotProduct_image`), and its length is
  bounded whatever `A` is (`Normal.length_le`).
* `Svd` is a singular value decomposition of `A`.  With it the solution has a closed form (`damped`,
  `normal_damped`), in which a singular value `σ` is inverted as `σ / (σ² + μ)`. -/

namespace DampedLeastSquares

open Matrix

section normal
variable {ι κ 𝕜 : Type*} [Fintype ι] [Fintype κ] [Field 𝕜] {A : Matrix ι κ 𝕜} {μ : 𝕜} {e : ι → 𝕜}
  {x : κ → 𝕜}

/-- The square of the length. -/
def normSq (v : ι → 𝕜) : 𝕜 := v ⬝ᵥ v

theorem normSq_add (v w : ι → 𝕜) : normSq (v + w) = normSq v + 2 * (v ⬝ᵥ w) + normSq w := by
  unfold normSq
  rw [add_dotProduct, dotProduct_add, dotProduct_add, dotProduct_comm w v]
  ring

/-- What is minimized. -/
def cost (A : Matrix ι κ 𝕜) (μ : 𝕜) (e : ι → 𝕜) (x : κ → 𝕜) : 𝕜 :=
  normSq (A *ᵥ x - e) + μ * normSq x

/-- The normal equation. -/
def Normal (A : Matrix ι κ 𝕜) (μ : 𝕜) (e : ι → 𝕜) (x : κ → 𝕜) : Prop :=
  Aᵀ *ᵥ (A *ᵥ x) + μ • x = Aᵀ *ᵥ e

theorem dotProduct_mulVec_transpose (v : ι → 𝕜) (w : κ → 𝕜) : v ⬝ᵥ A *ᵥ w = Aᵀ *ᵥ v ⬝ᵥ w := by
  rw [dotProduct_mulVec, mulVec_transpose]

theorem Normal.cross (h : Normal A μ e x) (d : κ → 𝕜) :
    (A *ᵥ x - e) ⬝ᵥ A *ᵥ d + μ * (x ⬝ᵥ d) = 0 := by
  rw [dotProduct_mulVec_transpose, mulVec_sub, ← h, ← smul_eq_mul, ← smul_dotProduct,
    ← add_dotProduct, sub_add_cancel_left, neg_add_cancel, zero_dotProduct]

/-- The cost grows with the distance from the solution. -/
theorem Normal.cost_add (h : Normal A μ e x) (d : κ → 𝕜) :
    cost A μ e (x + d) = cost A μ e x + (normSq (A *ᵥ d) + μ * normSq d) := by
  have hcross := h.cross d
  have hsplit : A *ᵥ (x + d) - e = (A *ᵥ x - e) + A *ᵥ d := by
    rw [mulVec_add]
    abel
  unfold cost
  rw [hsplit, normSq_add, normSq_add]
  linear_combination 2 * hcross

/-- The image of the solution, seen from `e`. -/
theorem Normal.dotProduct_image (h : Normal A μ e x) :
    e ⬝ᵥ A *ᵥ x = normSq (A *ᵥ x) + μ * normSq x := by
  rw [dotProduct_mulVec_transpose, ← h, add_dotProduct, smul_dotProduct, ← dotProduct_mulVec_transpose]
  rfl

variable [LinearOrder 𝕜] [IsStrictOrderedRing 𝕜]

theorem normSq_nonneg (v : ι → 𝕜) : 0 ≤ normSq v :=
  Finset.sum_nonneg fun i _ => mul_self_nonneg (v i)

theorem normSq_pos {v : ι → 𝕜} (h : v ≠ 0) : 0 < normSq v := by
  refine lt_of_le_of_ne (normSq_nonneg v) fun hzero => h ?_
  exact dotProduct_self_eq_zero.mp hzero.symm

/-- **The solution of the normal equation is the only minimum.** -/
theorem Normal.cost_lt (h : Normal A μ e x) (hμ : 0 < μ) {y : κ → 𝕜} (hy : y ≠ x) :
    cost A μ e x < cost A μ e y := by
  have hcost := h.cost_add (y - x)
  rw [add_sub_cancel] at hcost
  rw [hcost]
  have himage := normSq_nonneg (A *ᵥ (y - x))
  have hdistance := mul_pos hμ (normSq_pos (sub_ne_zero.mpr hy))
  linarith

/-- The damping bounds the solution. -/
theorem Normal.length_le (h : Normal A μ e x) : 4 * μ * normSq x ≤ normSq e := by
  have himage := h.dotProduct_image
  have hnonneg := normSq_nonneg (e + (-2 : 𝕜) • A *ᵥ x)
  have hscale : normSq ((-2 : 𝕜) • A *ᵥ x) = 4 * normSq (A *ᵥ x) := by
    unfold normSq
    rw [smul_dotProduct, dotProduct_smul, smul_eq_mul, smul_eq_mul]
    ring
  rw [normSq_add, dotProduct_smul, smul_eq_mul, hscale, himage] at hnonneg
  linarith

end normal

/-! ### Singular value decompositions -/

section svd
variable {m n : ℕ} {𝕜 : Type*} [Field 𝕜]

/-- The matrix with the values `σ 0`, `σ 1`, … on its diagonal. -/
def rectDiagonal (m n : ℕ) (σ : ℕ → 𝕜) : Matrix (Fin m) (Fin n) 𝕜 :=
  Matrix.of fun i j => if i.val = j.val then σ i else 0

theorem rectDiagonal_transpose (σ : ℕ → 𝕜) : (rectDiagonal m n σ)ᵀ = rectDiagonal n m σ := by
  ext j i
  simp only [rectDiagonal, transpose_apply, of_apply]
  by_cases h : i.val = j.val
  · rw [if_pos h, if_pos h.symm, h]
  · rw [if_neg h, if_neg (Ne.symm h)]

theorem rectDiagonal_mul_apply {κ : Type*} (σ : ℕ → 𝕜) (B : Matrix (Fin n) κ 𝕜) (i : Fin m) (k : κ) :
    (rectDiagonal m n σ * B) i k = if h : i.val < n then σ i * B ⟨i, h⟩ k else 0 := by
  rw [mul_apply]
  split
  next h =>
    rw [Finset.sum_eq_single ⟨i.val, h⟩]
    · simp [rectDiagonal]
    · intro j _ hj
      have hne : i.val ≠ j.val := fun heq => hj (Fin.ext heq.symm)
      simp [rectDiagonal, hne]
    · intro hmem
      exact absurd (Finset.mem_univ _) hmem
  next h =>
    apply Finset.sum_eq_zero
    intro j _
    have hne : i.val ≠ j.val := by
      have hlt := j.isLt
      omega
    simp [rectDiagonal, hne]

/-- `A` in singular values, with rotations of its image and its domain. -/
structure Svd (A : Matrix (Fin m) (Fin n) 𝕜) where
  U : Matrix (Fin m) (Fin m) 𝕜
  V : Matrix (Fin n) (Fin n) 𝕜
  σ : ℕ → 𝕜
  orthogonalU : Uᵀ * U = 1
  orthogonalV : Vᵀ * V = 1
  decomposes : A = U * rectDiagonal m n σ * Vᵀ

namespace Svd

variable {A : Matrix (Fin m) (Fin n) 𝕜} (svd : Svd A) (μ : 𝕜)

/-- The inverse, with damped singular values. -/
def damped : Matrix (Fin n) (Fin m) 𝕜 :=
  svd.V * (rectDiagonal m n fun i => svd.σ i / (svd.σ i * svd.σ i + μ))ᵀ * svd.Uᵀ

variable {μ} [LinearOrder 𝕜] [IsStrictOrderedRing 𝕜]

/-- On the diagonals. -/
theorem rectDiagonal_damped (hμ : 0 < μ) (σ : ℕ → 𝕜) :
    rectDiagonal n m σ * (rectDiagonal m n σ * rectDiagonal n m fun i => σ i / (σ i * σ i + μ)) +
      μ • rectDiagonal n m (fun i => σ i / (σ i * σ i + μ)) = rectDiagonal n m σ := by
  ext j i
  rw [Matrix.add_apply, rectDiagonal_mul_apply, Matrix.smul_apply]
  by_cases h : j.val = i.val
  · have hj : j.val < m := h ▸ i.isLt
    have hi : i.val < n := h ▸ j.isLt
    have hpos : 0 < σ i * σ i + μ := add_pos_of_nonneg_of_pos (mul_self_nonneg _) hμ
    rw [dif_pos hj, rectDiagonal_mul_apply, dif_pos j.isLt]
    simp only [rectDiagonal, of_apply, h, if_true, smul_eq_mul]
    field_simp
  · have hzero (τ : ℕ → 𝕜) : rectDiagonal n m τ j i = 0 := if_neg h
    rw [hzero, hzero, smul_zero, add_zero]
    split
    next hj =>
      rw [rectDiagonal_mul_apply, dif_pos j.isLt]
      simp only [hzero, mul_zero]
    next => rfl

/-- **The damped inverse solves the normal equation.** -/
theorem normal_damped (hμ : 0 < μ) (e : Fin m → 𝕜) : Normal A μ e (svd.damped μ *ᵥ e) := by
  have htranspose : Aᵀ = svd.V * rectDiagonal n m svd.σ * svd.Uᵀ := by
    refine (congrArg transpose svd.decomposes).trans ?_
    rw [transpose_mul, transpose_mul, transpose_transpose, rectDiagonal_transpose, Matrix.mul_assoc]
  have hdamped : svd.damped μ =
      svd.V * rectDiagonal n m (fun i => svd.σ i / (svd.σ i * svd.σ i + μ)) * svd.Uᵀ := by
    rw [damped, rectDiagonal_transpose]
  have himage : A * svd.damped μ = svd.U * (rectDiagonal m n svd.σ *
      rectDiagonal n m fun i => svd.σ i / (svd.σ i * svd.σ i + μ)) * svd.Uᵀ := by
    rw [hdamped]
    refine (congrArg (· * _) svd.decomposes).trans ?_
    simp only [Matrix.mul_assoc]
    rw [← Matrix.mul_assoc svd.Vᵀ, svd.orthogonalV, Matrix.one_mul]
  have hnormal : Aᵀ * (A * svd.damped μ) + μ • svd.damped μ = Aᵀ := by
    rw [himage, htranspose, hdamped]
    simp only [Matrix.mul_assoc]
    rw [← Matrix.mul_assoc svd.Uᵀ, svd.orthogonalU, Matrix.one_mul, ← Matrix.mul_smul,
      ← Matrix.mul_add, ← Matrix.smul_mul]
    refine congrArg (svd.V * ·) ?_
    have hdiagonal := congrArg (· * svd.Uᵀ) (rectDiagonal_damped (m := m) (n := n) hμ svd.σ)
    simpa only [Matrix.add_mul, Matrix.mul_assoc] using hdiagonal
  unfold Normal
  rw [mulVec_mulVec, mulVec_mulVec, Matrix.mul_assoc, ← smul_mulVec, ← add_mulVec, hnormal]

end Svd

end svd

end DampedLeastSquares
