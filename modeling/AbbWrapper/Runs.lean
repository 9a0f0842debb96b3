import Mathlib.Data.List.Basic
import Mathlib.Data.List.Induction
import Mathlib.Tactic.Common

/-! # Runs of a transition function

A system is a total step function `step : σ → ε → σ` on states `σ` and events `ε`; a run is
the list of its events.  `run` is the state a run ends in, `Along P` says that `P` holds of the
state and the event of every single step, and `collect` gathers what the steps emit.

The rules:

* what one step preserves holds at the end of every run (`Along.run_inv`, `run_inv`);
* what an invariant gives at one step holds along the whole run (`Along.of_inv`), and exactly
  along the runs in which a condition holds at every step (`along_iff`);
* two systems that stay related step by step end related and emit the same (`run_rel`,
  `collect_forall₂`), and so does a run some of whose events are replaced (`collect_skip`);
* what only some events change is as the last of them left it (`run_last`).

Steps of a system that is not reliable may fail.  `Outcome` is the relation between the states
before and after a run in which a step that fails may have its effect or none; what only steps
that came off change is then as in the run in which all come off (`Outcome.agree`). -/

namespace Runs

variable {σ σ' ε ο : Type*} {step : σ → ε → σ} {step' : σ' → ε → σ'}

/-- The state in which the run `es` from `s` ends. -/
def run (step : σ → ε → σ) : σ → List ε → σ
  | s, [] => s
  | s, e :: es => run step (step s e) es

@[simp] theorem run_nil (s : σ) : run step s [] = s := rfl

@[simp] theorem run_cons (s : σ) (e : ε) (es : List ε) :
    run step s (e :: es) = run step (step s e) es := rfl

theorem run_append (s : σ) (es es' : List ε) :
    run step s (es ++ es') = run step (run step s es) es' := by
  induction es generalizing s with
  | nil => rfl
  | cons e es ih => exact ih (step s e)

/-- `P` holds of the state before and the event of every step of the run. -/
def Along (step : σ → ε → σ) (P : σ → ε → Prop) : σ → List ε → Prop
  | _, [] => True
  | s, e :: es => P s e ∧ Along step P (step s e) es

@[simp] theorem along_nil {P : σ → ε → Prop} (s : σ) : Along step P s [] := trivial

@[simp] theorem along_cons {P : σ → ε → Prop} (s : σ) (e : ε) (es : List ε) :
    Along step P s (e :: es) ↔ P s e ∧ Along step P (step s e) es := Iff.rfl

theorem along_append {P : σ → ε → Prop} (s : σ) (es es' : List ε) :
    Along step P s (es ++ es') ↔ Along step P s es ∧ Along step P (run step s es) es' := by
  induction es generalizing s with
  | nil => simp
  | cons e es ih => simp [ih, and_assoc]

instance Along.decidable {P : σ → ε → Prop} [∀ s e, Decidable (P s e)] :
    ∀ (s : σ) (es : List ε), Decidable (Along step P s es)
  | _, [] => .isTrue trivial
  | s, e :: es =>
      have : Decidable (Along step P (step s e) es) := Along.decidable (step s e) es
      inferInstanceAs (Decidable (P s e ∧ Along step P (step s e) es))

theorem Along.of_forall {P : σ → ε → Prop} {es : List ε} (h : ∀ e ∈ es, ∀ s, P s e) (s : σ) :
    Along step P s es := by
  induction es generalizing s with
  | nil => trivial
  | cons e es ih =>
      exact ⟨h e List.mem_cons_self s, ih (fun e' he' => h e' (List.mem_cons_of_mem e he')) _⟩

theorem Along.mono {P Q : σ → ε → Prop} (hPQ : ∀ s e, P s e → Q s e) {s : σ} {es : List ε}
    (h : Along step P s es) : Along step Q s es := by
  induction es generalizing s with
  | nil => trivial
  | cons e es ih => exact ⟨hPQ s e h.1, ih h.2⟩

theorem Along.and {P Q : σ → ε → Prop} {s : σ} {es : List ε}
    (hP : Along step P s es) (hQ : Along step Q s es) :
    Along step (fun s e => P s e ∧ Q s e) s es := by
  induction es generalizing s with
  | nil => trivial
  | cons e es ih => exact ⟨⟨hP.1, hQ.1⟩, ih hP.2 hQ.2⟩

/-- **Invariant rule**: what every step allowed by `H` preserves holds at the end of the run. -/
theorem Along.run_inv {H : σ → ε → Prop} {I : σ → Prop}
    (hstep : ∀ s e, I s → H s e → I (step s e)) {s : σ} {es : List ε}
    (h : Along step H s es) (hs : I s) : I (run step s es) := by
  induction es generalizing s with
  | nil => exact hs
  | cons e es ih => exact ih h.2 (hstep s e hs h.1)

/-- What the invariant gives for one step allowed by `H` holds along the whole run. -/
theorem Along.of_inv {H G : σ → ε → Prop} {I : σ → Prop}
    (hstep : ∀ s e, I s → H s e → I (step s e) ∧ G s e) {s : σ} {es : List ε}
    (h : Along step H s es) (hs : I s) : Along step G s es := by
  induction es generalizing s with
  | nil => trivial
  | cons e es ih =>
      obtain ⟨hinv, hG⟩ := hstep s e hs h.1
      exact ⟨hG, ih h.2 hinv⟩

/-- **Exact rule**: where the invariant is kept by the steps that `H` allows, and these are the steps of
which `G` holds, `G` holds along a run exactly if `H` does. -/
theorem along_iff {H G : σ → ε → Prop} {I : σ → Prop} (hiff : ∀ s e, I s → (G s e ↔ H s e))
    (hstep : ∀ s e, I s → H s e → I (step s e)) {s : σ} {es : List ε} (hs : I s) :
    Along step G s es ↔ Along step H s es := by
  induction es generalizing s with
  | nil => exact Iff.rfl
  | cons e es ih =>
      rw [along_cons, along_cons, hiff s e hs]
      constructor
      · rintro ⟨he, hes⟩
        exact ⟨he, (ih (hstep s e hs he)).mp hes⟩
      · rintro ⟨he, hes⟩
        exact ⟨he, (ih (hstep s e hs he)).mpr hes⟩

/-- Of the events alone. -/
theorem along_forall {P : ε → Prop} {s : σ} {es : List ε} :
    Along step (fun _ e => P e) s es ↔ ∀ e ∈ es, P e := by
  induction es generalizing s with
  | nil => simp
  | cons e es ih => rw [along_cons, List.forall_mem_cons, ih]

/-- Along a run is at every position of it. -/
theorem along_iff_positions {P : σ → ε → Prop} {s : σ} {es : List ε} :
    Along step P s es ↔
      ∀ before e after, es = before ++ e :: after → P (run step s before) e := by
  constructor
  · rintro h before e after rfl
    exact ((along_append _ _ _).mp h).2.1
  · intro h
    induction es generalizing s with
    | nil => trivial
    | cons e es ih =>
        refine ⟨h [] e es rfl, ih ?_⟩
        intro before e' after heq
        exact h (e :: before) e' after (by rw [heq]; rfl)

/-- An invariant of every step holds in every state that some run reaches. -/
theorem run_inv {I : σ → Prop} (hstep : ∀ s e, I s → I (step s e)) {s : σ}
    (es : List ε) (hs : I s) : I (run step s es) := by
  induction es generalizing s with
  | nil => exact hs
  | cons e es ih => exact ih (hstep s e hs)

/-- What only some of the events change is as the last one of them left it. -/
theorem run_last {P : ε → Bool} {f : σ → ο} (hkept : ∀ s e, P e = false → f (step s e) = f s)
    (s : σ) (es : List ε) :
    ((∀ e ∈ es, P e = false) ∧ f (run step s es) = f s) ∨
      ∃ before e after, es = before ++ e :: after ∧ P e = true ∧ (∀ e' ∈ after, P e' = false) ∧
        f (run step s es) = f (step (run step s before) e) := by
  induction es using List.reverseRecOn with
  | nil =>
      left
      exact ⟨fun e he => (by cases he), rfl⟩
  | append_singleton es e ih =>
      rw [run_append, run_cons, run_nil]
      cases he : P e with
      | true =>
          right
          exact ⟨es, e, [], rfl, he, fun e' he' => (by cases he'), rfl⟩
      | false =>
          rw [hkept _ e he]
          rcases ih with ⟨hes, hf⟩ | ⟨before, e', after, hes, he', hafter, hf⟩
          · left
            refine ⟨fun e' he' => ?_, hf⟩
            rcases List.mem_append.mp he' with h | h
            · exact hes e' h
            · rw [List.mem_singleton.mp h]
              exact he
          · right
            refine ⟨before, e', after ++ [e], by rw [hes, List.append_assoc, List.cons_append], he',
              fun e'' he'' => ?_, hf⟩
            rcases List.mem_append.mp he'' with h | h
            · exact hafter e'' h
            · rw [List.mem_singleton.mp h]
              exact he

/-- What the single steps of a run emit, in order. -/
def collect (step : σ → ε → σ) (emit : σ → ε → List ο) : σ → List ε → List ο
  | _, [] => []
  | s, e :: es => emit s e ++ collect step emit (step s e) es

section emits
variable {emit : σ → ε → List ο} {emit' : σ' → ε → List ο}

@[simp] theorem collect_nil (s : σ) : collect step emit s [] = [] := rfl

@[simp] theorem collect_cons (s : σ) (e : ε) (es : List ε) :
    collect step emit s (e :: es) = emit s e ++ collect step emit (step s e) es := rfl

theorem collect_append (s : σ) (es es' : List ε) :
    collect step emit s (es ++ es') =
      collect step emit s es ++ collect step emit (run step s es) es' := by
  induction es generalizing s with
  | nil => rfl
  | cons e es ih => simp [ih]

end emits

/-- **Lock-step rule**: related states that every step keeps related end related. -/
theorem run_rel {R : σ → σ' → Prop} (hstep : ∀ s s' e, R s s' → R (step s e) (step' s' e))
    {s : σ} {s' : σ'} (es : List ε) (h : R s s') : R (run step s es) (run step' s' es) := by
  induction es generalizing s s' with
  | nil => exact h
  | cons e es ih => exact ih (hstep s s' e h)

/-- Systems in lock step under events that are related one by one, as long as `H` holds. -/
theorem collect_forall₂ {ε' : Type*} {step' : σ' → ε' → σ'} {R : σ → σ' → Prop} {E : ε → ε' → Prop}
    {H : σ → ε → Prop} {emit : σ → ε → List ο} {emit' : σ' → ε' → List ο}
    (hstep : ∀ s s' e e', R s s' → E e e' → H s e →
      R (step s e) (step' s' e') ∧ emit s e = emit' s' e')
    {s : σ} {s' : σ'} {es : List ε} {es' : List ε'} (hes : Along step H s es)
    (hE : List.Forall₂ E es es') (h : R s s') :
    collect step emit s es = collect step' emit' s' es' := by
  induction hE generalizing s s' with
  | nil => rfl
  | cons he _ ih =>
      obtain ⟨hR, hemit⟩ := hstep s s' _ _ h he hes.1
      rw [collect_cons, collect_cons, hemit, ih hes.2 hR]

/-- **Skipping rule**: if the run in which every event `e` is replaced by the events `keep s e` stays
related to the original run, and the replacement emits what `e` does, both emit the same. -/
theorem collect_skip {R : σ → σ → Prop} {H : σ → ε → Prop} {emit : σ → ε → List ο}
    {keep : σ → ε → List ε}
    (hstep : ∀ s s' e, R s s' → H s e → R (step s e) (run step s' (keep s e)) ∧
      collect step emit s' (keep s e) = emit s e)
    {s s' : σ} {es : List ε} (hes : Along step H s es) (h : R s s') :
    collect step emit s' (collect step keep s es) = collect step emit s es := by
  induction es generalizing s s' with
  | nil => rfl
  | cons e es ih =>
      obtain ⟨hR, he⟩ := hstep s s' e h hes.1
      rw [collect_cons, collect_cons, collect_append, he, ih hes.2 hR]

/-! ### Steps that may fail -/

/-- The run can end in `s'` if a step that fails may have no effect. -/
inductive Outcome (step : σ → ε → σ) (fails : ε → Prop) : σ → List ε → σ → Prop
  | nil (s : σ) : Outcome step fails s [] s
  | done {s s' : σ} {e : ε} {es : List ε} (h : Outcome step fails (step s e) es s') :
      Outcome step fails s (e :: es) s'
  | failed {s s' : σ} {e : ε} {es : List ε} (he : fails e) (h : Outcome step fails s es s') :
      Outcome step fails s (e :: es) s'

namespace Outcome

variable {fails : ε → Prop} {s s' : σ} {es es' : List ε}

theorem split (h : Outcome step fails s (es ++ es') s') :
    ∃ t, Outcome step fails s es t ∧ Outcome step fails t es' s' := by
  induction es generalizing s with
  | nil => exact ⟨s, .nil s, h⟩
  | cons e es ih =>
      cases h with
      | done h =>
          obtain ⟨t, ht, ht'⟩ := ih h
          exact ⟨t, .done ht, ht'⟩
      | failed he h =>
          obtain ⟨t, ht, ht'⟩ := ih h
          exact ⟨t, .failed he ht, ht'⟩

theorem inv {I : σ → Prop} (h : Outcome step fails s es s')
    (hstep : ∀ s, ∀ e ∈ es, I s → I (step s e)) (hs : I s) : I s' := by
  induction h with
  | nil s => exact hs
  | done h ih =>
      exact ih (fun s e he => hstep s e (List.mem_cons_of_mem _ he)) (hstep _ _ List.mem_cons_self hs)
  | failed he h ih => exact ih (fun s e he => hstep s e (List.mem_cons_of_mem _ he)) hs

/-- What a step that did not fail brings about, and no later step undoes, holds in the end. -/
theorem last {I : σ → Prop} {e : ε} (h : Outcome step fails s (es ++ e :: es') s') (he : ¬fails e)
    (hset : ∀ s, I (step s e)) (hkept : ∀ s, ∀ e ∈ es', I s → I (step s e)) : I s' := by
  obtain ⟨t, -, ht⟩ := h.split
  cases ht with
  | done ht => exact ht.inv hkept (hset t)
  | failed he' _ => exact absurd he' he

/-- **Agreement rule**: what only steps that did not fail change is as if none had failed. -/
theorem agree {f : σ → ο} {t : σ} (h : Outcome step fails s es s')
    (hstep : ∀ s t e, f s = f t → f (step s e) = f (step t e))
    (hkept : ∀ s, ∀ e ∈ es, fails e → f (step s e) = f s) (hst : f s = f t) :
    f s' = f (run step t es) := by
  induction h generalizing t with
  | nil s => exact hst
  | done h ih =>
      exact ih (fun s e he => hkept s e (List.mem_cons_of_mem _ he)) (hstep _ _ _ hst)
  | failed he h ih =>
      refine ih (fun s e he => hkept s e (List.mem_cons_of_mem _ he)) ?_
      rw [hst, hkept t _ List.mem_cons_self he]

end Outcome

end Runs
