import Mathlib.Data.Set.Function
import AbbWrapper.Runs

/-! # Waiting for a condition

Threads share an object whose methods exclude each other, and wait on a condition variable until it is
ready.  A thread that waits sleeps, or has been woken and has yet to look again; it may be woken for no
reason, and its time may run out at any moment.  The threads are scheduled in any order.

* `Guarded` is the object: its methods, the condition, and the methods that notify.
* `Phase` says where a thread is in its wait, and `System` has the object with the phases of all threads,
  of which there may be any number.
* `Event` is what a scheduler can choose; `step` is total, and an event that is not possible in a state
  changes nothing.
* `returns` is the thread that an event lets go on, and whether it saw the condition.

If every method that makes the object ready notifies, no wake-up is lost: a thread sleeps only while the
object is not ready (`run_alert`), so that a thread that waits for an object that is ready goes on when
it is scheduled (`Alert.returns`). -/

namespace ConditionVariable

open Runs

variable {θ σ μ : Type}

/-- An object with its methods, the condition for which threads wait, and which methods notify all of
them. -/
structure Guarded (σ μ : Type) where
  ready : σ → Bool
  exec : σ → μ → σ
  notifies : μ → Bool

/-- Where a thread is: it runs, sleeps in a wait, or has been woken and has not looked again. -/
inductive Phase where
  | running
  | sleeping
  | awake
deriving DecidableEq, Repr

/-- What the threads share, and where each of them is. -/
structure System (θ σ : Type) where
  shared : σ
  phase : θ → Phase

/-- A step of the system: a call of a method, or a step of one of the threads that wait. -/
inductive Event (θ μ : Type) where
  | call (method : μ)
  /-- A thread starts to wait. -/
  | wait (thread : θ)
  /-- A thread is woken, without being notified. -/
  | wake (thread : θ)
  /-- A thread that was woken looks again. -/
  | resume (thread : θ)
  | timeOut (thread : θ)

/-- A notified thread does not sleep on. -/
def Phase.notified : Phase → Phase
  | running => running
  | _ => awake

theorem Phase.notified_ne (phase : Phase) : phase.notified ≠ .sleeping := by
  cases phase <;> nofun

namespace System
variable [DecidableEq θ]

def setPhase (s : System θ σ) (thread : θ) (phase : Phase) : System θ σ :=
  { s with phase := Function.update s.phase thread phase }

theorem setPhase_self (s : System θ σ) (thread : θ) (phase : Phase) :
    (s.setPhase thread phase).phase thread = phase := Function.update_self _ _ _

theorem setPhase_of_ne (s : System θ σ) {thread thread' : θ} (h : thread' ≠ thread) (phase : Phase) :
    (s.setPhase thread phase).phase thread' = s.phase thread' := Function.update_of_ne h _ _

variable (guarded : Guarded σ μ)

/-- The condition is looked at: the thread goes on, or sleeps. -/
def look (s : System θ σ) (thread : θ) : System θ σ :=
  s.setPhase thread (if guarded.ready s.shared then .running else .sleeping)

def step (s : System θ σ) : Event θ μ → System θ σ
  | .call method =>
      { shared := guarded.exec s.shared method
        phase := if guarded.notifies method then fun thread => (s.phase thread).notified else s.phase }
  | .wait thread => if s.phase thread = .running then s.look guarded thread else s
  | .wake thread => if s.phase thread = .sleeping then s.setPhase thread .awake else s
  | .resume thread => if s.phase thread = .awake then s.look guarded thread else s
  | .timeOut thread => if s.phase thread = .running then s else s.setPhase thread .running

omit [DecidableEq θ] in
/-- The thread that an event lets go on, and whether the condition held for it. -/
def returns (s : System θ σ) : Event θ μ → Option (θ × Bool)
  | .wait thread =>
      if s.phase thread = .running ∧ guarded.ready s.shared = true then some (thread, true) else none
  | .resume thread =>
      if s.phase thread = .awake ∧ guarded.ready s.shared = true then some (thread, true) else none
  | .timeOut thread => if s.phase thread = .running then none else some (thread, false)
  | _ => none

omit [DecidableEq θ] in
/-- No thread sleeps while the object is ready. -/
def Alert (s : System θ σ) : Prop :=
  ∀ thread, s.phase thread = .sleeping → guarded.ready s.shared = false

variable {guarded}

omit [DecidableEq θ] in
theorem returns_ready {s : System θ σ} {e : Event θ μ} {thread : θ}
    (h : s.returns guarded e = some (thread, true)) : guarded.ready s.shared = true := by
  cases e with
  | call method => cases h
  | wait thread' =>
      simp only [returns] at h
      split at h
      next hready => exact hready.2
      next => cases h
  | wake thread' => cases h
  | resume thread' =>
      simp only [returns] at h
      split at h
      next hready => exact hready.2
      next => cases h
  | timeOut thread' =>
      simp only [returns] at h
      split at h <;> cases h

/-- Only a method changes the object. -/
theorem step_shared (s : System θ σ) (e : Event θ μ) (h : ∀ method, e ≠ .call method) :
    (s.step guarded e).shared = s.shared := by
  cases e with
  | call method => exact absurd rfl (h method)
  | wait thread =>
      simp only [step]
      split <;> rfl
  | wake thread =>
      simp only [step]
      split <;> rfl
  | resume thread =>
      simp only [step]
      split <;> rfl
  | timeOut thread =>
      simp only [step]
      split <;> rfl

theorem setPhase_alert {s : System θ σ} (h : Alert guarded s) {thread : θ} {phase : Phase}
    (hphase : phase = .sleeping → guarded.ready s.shared = false) :
    Alert guarded (s.setPhase thread phase) := by
  intro thread' hsleeps
  by_cases heq : thread' = thread
  · subst heq
    rw [setPhase_self] at hsleeps
    exact hphase hsleeps
  · rw [setPhase_of_ne s heq] at hsleeps
    exact h thread' hsleeps

theorem look_alert {s : System θ σ} (h : Alert guarded s) (thread : θ) :
    Alert guarded (s.look guarded thread) := by
  apply setPhase_alert h
  intro hsleeps
  cases hready : guarded.ready s.shared with
  | false => rfl
  | true =>
      rw [hready] at hsleeps
      cases hsleeps

theorem step_alert
    (hnotifies : ∀ x method, guarded.ready (guarded.exec x method) = true →
      guarded.ready x = true ∨ guarded.notifies method = true)
    {s : System θ σ} (h : Alert guarded s) (e : Event θ μ) : Alert guarded (s.step guarded e) := by
  cases e with
  | call method =>
      intro thread hsleeps
      simp only [step] at hsleeps
      split at hsleeps
      next => exact absurd hsleeps (Phase.notified_ne _)
      next hnot =>
        by_contra hready
        rcases hnotifies s.shared method (Bool.not_eq_false _ ▸ hready) with hwas | hnotified
        · rw [h thread hsleeps] at hwas
          cases hwas
        · exact hnot hnotified
  | wait thread =>
      simp only [step]
      split
      · exact look_alert h thread
      · exact h
  | wake thread =>
      simp only [step]
      split
      · exact setPhase_alert h nofun
      · exact h
  | resume thread =>
      simp only [step]
      split
      · exact look_alert h thread
      · exact h
  | timeOut thread =>
      simp only [step]
      split
      · exact h
      · exact setPhase_alert h nofun

/-- **No wake-up is lost.** -/
theorem run_alert
    (hnotifies : ∀ x method, guarded.ready (guarded.exec x method) = true →
      guarded.ready x = true ∨ guarded.notifies method = true)
    {s : System θ σ} (h : Alert guarded s) (es : List (Event θ μ)) :
    Alert guarded (run (step guarded) s es) :=
  run_inv (I := Alert guarded) (fun _ e h => step_alert hnotifies h e) es h

omit [DecidableEq θ] in
/-- A thread that waits for an object that is ready has been woken, and goes on when it looks again. -/
theorem Alert.returns {s : System θ σ} (h : Alert guarded s) (hready : guarded.ready s.shared = true)
    {thread : θ} (hwaits : s.phase thread ≠ .running) :
    s.phase thread = .awake ∧ s.returns guarded (.resume thread) = some (thread, true) := by
  have hawake : s.phase thread = .awake := by
    cases hphase : s.phase thread with
    | running => exact absurd hphase hwaits
    | sleeping =>
        rw [h thread hphase] at hready
        cases hready
    | awake => rfl
  exact ⟨hawake, if_pos ⟨hawake, hready⟩⟩

end System

end ConditionVariable
