import Mathlib.Algebra.Order.Archimedean.Defs
import Mathlib.Algebra.Order.Field.Basic
import Mathlib.Tactic.Linarith

/-! # What comes about in time

Properties `P : ℕ → Prop` of the moments of an infinite run.  Nothing is presupposed of the run; a system
enters with the facts about single steps that the rules ask for.

* `LeadsTo P Q` says that whenever `P` holds, `Q` holds then or later.
* `Unless P Q` says that `P` stays until `Q` comes about.
* `Recurs P` says that at every moment `P` will hold then or later.

The rules: what stays meets every event that recurs (`Unless.leadsTo_of_recurs`); a quantity that grows
by at least a fixed amount as long as `P` stays reaches every bound (`Unless.leadsTo_of_growth`); and a
natural number that can always be made less, as long as it is not zero, becomes zero (`leadsTo_zero`),
which is the rule for a variant. -/

namespace Progress

def LeadsTo (P Q : ℕ → Prop) : Prop := ∀ n, P n → ∃ m, n ≤ m ∧ Q m

def Unless (P Q : ℕ → Prop) : Prop := ∀ n, P n → Q n ∨ P (n + 1)

/-- At every moment, it will happen. -/
def Recurs (F : ℕ → Prop) : Prop := ∀ n, ∃ m, n ≤ m ∧ F m

variable {P Q F : ℕ → Prop}

/-- As long as `Q` has not come about, `P` is still there. -/
theorem Unless.stays (h : Unless P Q) {n m : ℕ} (hnm : n ≤ m) (hP : P n)
    (hQ : ∀ k, n ≤ k → ¬Q k) : P m := by
  induction m, hnm using Nat.le_induction with
  | base => exact hP
  | succ m hnm ih => exact (h m ih).resolve_left (hQ m hnm)

theorem Unless.leadsTo_of_recurs (h : Unless P Q) (hF : Recurs F) :
    LeadsTo P fun n => Q n ∨ P n ∧ F n := by
  intro n hP
  by_cases hQ : ∃ k, n ≤ k ∧ Q k
  · obtain ⟨k, hnk, hk⟩ := hQ
    exact ⟨k, hnk, .inl hk⟩
  · obtain ⟨m, hnm, hm⟩ := hF n
    exact ⟨m, hnm, .inr ⟨h.stays hnm hP fun k hk hQk => hQ ⟨k, hk, hQk⟩, hm⟩⟩

section growth
variable {α : Type*} [Field α] [LinearOrder α] [IsStrictOrderedRing α]

/-- What grows by at least `δ` with every step, has grown by `k * δ` after `k` steps. -/
theorem growth {x : ℕ → α} {δ : α} {n : ℕ} (hx : ∀ k, n ≤ k → x k + δ ≤ x (k + 1)) (k : ℕ) :
    x n + k * δ ≤ x (n + k) := by
  induction k with
  | zero => simp
  | succ k ih =>
      have hstep := hx (n + k) (Nat.le_add_right n k)
      rw [← add_assoc]
      push_cast
      linarith

variable [Archimedean α]

theorem Unless.leadsTo_of_growth (h : Unless P Q) {x : ℕ → α} {δ : α} (hδ : 0 < δ)
    (hx : ∀ n, P n → ¬Q n → x n + δ ≤ x (n + 1)) (bound : α) :
    LeadsTo P fun n => Q n ∨ P n ∧ bound ≤ x n := by
  intro n hP
  by_cases hQ : ∃ k, n ≤ k ∧ Q k
  · obtain ⟨k, hnk, hk⟩ := hQ
    exact ⟨k, hnk, .inl hk⟩
  · have hnot (k : ℕ) (hk : n ≤ k) : ¬Q k := fun hQk => hQ ⟨k, hk, hQk⟩
    have hstays (k : ℕ) (hk : n ≤ k) : P k := h.stays hk hP hnot
    obtain ⟨k, hk⟩ := exists_nat_ge ((bound - x n) / δ)
    have hgrown := growth (fun k hk => hx k (hstays k hk) (hnot k hk)) k
    have hbound : bound - x n ≤ k * δ := (div_le_iff₀ hδ).mp hk
    exact ⟨n + k, Nat.le_add_right n k, .inr ⟨hstays _ (Nat.le_add_right n k), by linarith⟩⟩

end growth

/-- What can always be made less, as long as it is not zero, becomes zero. -/
theorem leadsTo_zero {v : ℕ → ℕ} (h : ∀ n, v n ≠ 0 → ∃ m, n ≤ m ∧ v m < v n) :
    Recurs fun n => v n = 0 := by
  intro n
  induction hv : v n using Nat.strong_induction_on generalizing n with
  | _ k ih =>
      by_cases hk : k = 0
      · exact ⟨n, le_rfl, hv.trans hk⟩
      · obtain ⟨m, hnm, hless⟩ := h n (by rw [hv]; exact hk)
        obtain ⟨l, hml, hl⟩ := ih (v m) (by rw [← hv]; exact hless) m rfl
        exact ⟨l, hnm.trans hml, hl⟩

end Progress
