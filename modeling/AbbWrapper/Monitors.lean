import AbbWrapper.Exchanges
import AbbWrapper.Runs

/-! # Monitored programs

A monitor follows what a program exchanges with its environment: its state is updated after every
exchange.  `Monitored step P s p Q` says that `P` holds of the state of the monitor and of each
exchange of `p`, if the monitor is in the state `s` before, and that `Q` holds of the result and of the
state in which the monitor is left, whatever the environment answers.

* These are triples with the state of the monitor as a ghost state; there is a rule for each construct of
  a program (`Monitored.bind`, `Monitored.request`, …) and one for the calls of a list
  (`Monitored.foldlM`).
* A program may also stop with an error; of such a program `MonitoredOk` says that `Q` holds unless it
  stops. -/

namespace Exchanges

open Runs

variable {ρ α β γ ι σ τ : Type} {step : σ → ρ × α → σ} {P : σ → ρ × α → Prop}

def Monitored (step : σ → ρ × α → σ) (P : σ → ρ × α → Prop) (s : σ) (p : Program ρ α β)
    (Q : β → σ → Prop) : Prop :=
  Ensures p fun b exchanged => Along step P s exchanged ∧ Q b (run step s exchanged)

namespace Monitored

variable {s : σ} {p : Program ρ α β} {f : β → Program ρ α γ} {Q Q' : β → σ → Prop}
  {R : γ → σ → Prop}

theorem mono (h : Monitored step P s p Q) (hQ : ∀ b s', Q b s' → Q' b s') :
    Monitored step P s p Q' :=
  Ensures.mono h fun _ _ hresult => ⟨hresult.1, hQ _ _ hresult.2⟩

theorem pure {b : β} (h : Q b s) : Monitored step P s (Pure.pure b) Q :=
  Ensures.pure ⟨trivial, h⟩

theorem request {r : ρ} {Q : α → σ → Prop} (h : ∀ a, P s (r, a) ∧ Q a (step s (r, a))) :
    Monitored step P s (Program.request r) Q :=
  Ensures.request fun a => ⟨⟨(h a).1, trivial⟩, (h a).2⟩

/-- What comes first leaves the monitor in a state from which the rest is monitored. -/
theorem bind (hp : Monitored step P s p Q)
    (hf : ∀ b s', Q b s' → Monitored step P s' (f b) R) : Monitored step P s (p >>= f) R := by
  refine Ensures.bind hp ?_
  rintro b first ⟨hfirst, hb⟩
  refine Ensures.mono (hf b _ hb) ?_
  rintro c exchanged ⟨hexchanged, hc⟩
  exact ⟨(along_append _ _ _).mpr ⟨hfirst, hexchanged⟩, by rw [run_append]; exact hc⟩

theorem request_bind {r : ρ} {f : α → Program ρ α γ}
    (h : ∀ a, P s (r, a) ∧ Monitored step P (step s (r, a)) (f a) R) :
    Monitored step P s (Program.request r >>= f) R := by
  refine bind (Q := fun a s' => s' = step s (r, a)) (request fun a => ⟨(h a).1, rfl⟩) ?_
  rintro a s' rfl
  exact (h a).2

theorem ite {c : Prop} [Decidable c] {p q : Program ρ α β} (hp : c → Monitored step P s p Q)
    (hq : ¬c → Monitored step P s q Q) : Monitored step P s (if c then p else q) Q :=
  Ensures.ite hp hq

/-- **Call rule**: what every call keeps of its own state and of the monitor's, a list of calls does. -/
theorem foldlM {call : τ → ι → Program ρ α τ} {I : τ → σ → Prop} (calls : List ι)
    (hcall : ∀ t, ∀ i ∈ calls, ∀ s, I t s → Monitored step P s (call t i) I) {t : τ} (ht : I t s) :
    Monitored step P s (calls.foldlM call t) I := by
  induction calls generalizing t s with
  | nil => exact pure ht
  | cons i calls ih =>
      refine bind (hcall t i List.mem_cons_self s ht) fun t' s' ht' => ?_
      exact ih (fun t i hi => hcall t i (List.mem_cons_of_mem _ hi)) ht'

end Monitored

/-! ### Programs that may stop -/

def MonitoredOk {ε : Type} (step : σ → ρ × α → σ) (P : σ → ρ × α → Prop) (s : σ)
    (p : ExceptT ε (Program ρ α) β) (Q : β → σ → Prop) : Prop :=
  Monitored step P s p.run fun result s' => ∀ b, result = .ok b → Q b s'

namespace MonitoredOk

variable {ε : Type} {s : σ} {p : ExceptT ε (Program ρ α) β} {f : β → ExceptT ε (Program ρ α) γ}
  {Q Q' : β → σ → Prop} {R : γ → σ → Prop}

theorem pure {b : β} (h : Q b s) :
    MonitoredOk step P s (Pure.pure b : ExceptT ε (Program ρ α) β) Q := by
  refine Monitored.pure ?_
  rintro b' hb'
  cases hb'
  exact h

theorem throw {e : ε} : MonitoredOk step P s (throw e : ExceptT ε (Program ρ α) β) Q := by
  refine Monitored.pure ?_
  rintro b hb
  cases hb

theorem lift {p : Program ρ α β} (h : Monitored step P s p Q) :
    MonitoredOk step P s (liftM p : ExceptT ε (Program ρ α) β) Q := by
  refine Monitored.bind h fun b s' hb => Monitored.pure ?_
  rintro b' hb'
  cases hb'
  exact hb

theorem bind (hp : MonitoredOk step P s p Q)
    (hf : ∀ b s', Q b s' → MonitoredOk step P s' (f b) R) : MonitoredOk step P s (p >>= f) R := by
  refine Monitored.bind (f := ExceptT.bindCont f) hp fun result s' hresult => ?_
  cases result with
  | ok b => exact hf b s' (hresult b rfl)
  | error e =>
      refine Monitored.pure ?_
      rintro c hc
      cases hc

theorem ite {c : Prop} [Decidable c] {p q : ExceptT ε (Program ρ α) β}
    (hp : c → MonitoredOk step P s p Q) (hq : ¬c → MonitoredOk step P s q Q) :
    MonitoredOk step P s (if c then p else q) Q := by
  split
  next h => exact hp h
  next h => exact hq h

end MonitoredOk

end Exchanges
