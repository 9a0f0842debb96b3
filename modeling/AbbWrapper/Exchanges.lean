import Mathlib.Data.List.Basic
import Mathlib.Tactic.Common

/-! # Programs that talk to an environment

A program sends requests of a type `ρ`, one at a time, and each is answered by an element of `α`
before the program goes on.  The environment is any function that answers a request, knowing
everything that was exchanged before.

* A `History` lists requests with their answers, in order.  A `Program` is run against an environment
  from a history, to which it appends what it exchanges; `request` sends one request.
* `Ensures p Q` says that `Q` holds of the result of `p` and of what `p` itself exchanged, whatever the
  environment and the history.

There is a rule for each construct of a program: `Ensures.pure`, `Ensures.request`, and `Ensures.bind`,
in which what was exchanged before comes first.  `Ensures.and` joins two results about one program. -/

namespace Exchanges

variable {ρ α β γ : Type}

/-- Requests with their answers, in order. -/
abbrev History (ρ α : Type) := List (ρ × α)

abbrev Environment (ρ α : Type) := History ρ α → ρ → α

/-- The result of a program, and the history after it. -/
def Program (ρ α β : Type) := Environment ρ α → History ρ α → β × History ρ α

namespace Program

instance : Monad (Program ρ α) where
  pure b := fun _ history => (b, history)
  bind p f := fun environment history =>
    f (p environment history).1 environment (p environment history).2

/-- Sends a request and returns the answer. -/
def request (r : ρ) : Program ρ α α := fun environment history =>
  (environment history r, history ++ [(r, environment history r)])

end Program

/-- `Q` holds of the result of the program and of what it exchanges. -/
def Ensures (p : Program ρ α β) (Q : β → History ρ α → Prop) : Prop :=
  ∀ environment history, ∃ exchanged, (p environment history).2 = history ++ exchanged ∧
    Q (p environment history).1 exchanged

namespace Ensures

variable {p : Program ρ α β} {f : β → Program ρ α γ} {P P' : β → History ρ α → Prop}
  {Q : γ → History ρ α → Prop}

theorem mono (h : Ensures p P) (hP : ∀ b exchanged, P b exchanged → P' b exchanged) :
    Ensures p P' := by
  intro environment history
  obtain ⟨exchanged, hhistory, hresult⟩ := h environment history
  exact ⟨exchanged, hhistory, hP _ _ hresult⟩

theorem and (h : Ensures p P) (h' : Ensures p P') :
    Ensures p fun b exchanged => P b exchanged ∧ P' b exchanged := by
  intro environment history
  obtain ⟨exchanged, hhistory, hresult⟩ := h environment history
  obtain ⟨exchanged', hhistory', hresult'⟩ := h' environment history
  obtain rfl : exchanged = exchanged' := List.append_cancel_left (hhistory.symm.trans hhistory')
  exact ⟨exchanged, hhistory, hresult, hresult'⟩

theorem pure {b : β} (h : P b []) : Ensures (Pure.pure b) P := by
  intro environment history
  exact ⟨[], (List.append_nil history).symm, h⟩

theorem request {r : ρ} {P : α → History ρ α → Prop} (h : ∀ a, P a [(r, a)]) :
    Ensures (Program.request r) P := by
  intro environment history
  exact ⟨[(r, environment history r)], rfl, h _⟩

/-- What is exchanged before comes first. -/
theorem bind (hp : Ensures p P)
    (hf : ∀ b first, P b first → Ensures (f b) (fun c exchanged => Q c (first ++ exchanged))) :
    Ensures (p >>= f) Q := by
  intro environment history
  obtain ⟨first, hfirst, hb⟩ := hp environment history
  obtain ⟨exchanged, hhistory, hc⟩ := hf _ _ hb environment (p environment history).2
  refine ⟨first ++ exchanged, ?_, hc⟩
  rw [← List.append_assoc, ← hfirst]
  exact hhistory

theorem ite {c : Prop} [Decidable c] {p q : Program ρ α β} (hp : c → Ensures p P)
    (hq : ¬c → Ensures q P) : Ensures (if c then p else q) P := by
  split
  next h => exact hp h
  next h => exact hq h

/-- A request and what is done with its answer. -/
theorem request_bind {r : ρ} {f : α → Program ρ α γ}
    (hf : ∀ a, Ensures (f a) (fun c exchanged => Q c ((r, a) :: exchanged))) :
    Ensures (Program.request r >>= f) Q := by
  refine bind (P := fun a exchanged => exchanged = [(r, a)]) (request fun a => rfl) ?_
  rintro a first rfl
  exact hf a

end Ensures

end Exchanges
