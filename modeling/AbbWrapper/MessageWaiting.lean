import AbbWrapper.ConditionVariables
import AbbWrapper.ExactReals
import AbbWrapper.Interfaces

/-! # Waiting for a message

`EGMControllerInterface` hands the inputs of every callback over to threads that wait for them with
`waitForMessage` and then `read` them: over any number of threads, in any order of their steps, with
woken threads that find nothing and waits that time out.

* `guardedMotion` is `ControllerMotion` as an object with a condition variable, in the sense of
  `ConditionVariables.lean`: the condition is that there is new data, and `writeInputs` notifies.
* `WaitingSystem` has the system with the messages that were made available, and with the last message
  that each thread has read; both are there for the statements only.
* `Fresh` is the invariant: what is available is newer than what any thread has read.

A thread that waits while a message is there has been woken and will see it (`waiting_alert`); and a
thread that reads what it has waited for reads the newest message, which is newer than the one it read
before (`waiting_newer`). -/

namespace AbbWrapper

open ConditionVariable (Guarded System)
open Runs

variable {θ α : Type}

/-- The methods of `ControllerMotion`; `read` and `write` are called by the threads, the others by the
callback. -/
inductive MotionMethod (θ α : Type) where
  | initializeMotion (firstMessage : Bool)
  | writeInputs (inputs : Input α)
  | readOutputs (outputs : Output α)
  | read (thread : θ)
  | write (outputs : Output α)

abbrev WaitingEvent (θ α : Type) := ConditionVariable.Event θ (MotionMethod θ α)

section motion
variable [Field α] [LinearOrder α] [Cmath α]

/-- `read_condition_variable_`, with what it is waited for. -/
def guardedMotion (θ α : Type) [Field α] [LinearOrder α] [Cmath α] :
    Guarded (ControllerMotion α) (MotionMethod θ α) where
  ready motion := motion.readDataReady
  exec motion
    | .initializeMotion firstMessage => motion.initializeMotion firstMessage
    | .writeInputs inputs => motion.writeInputs inputs
    | .readOutputs outputs => (motion.readOutputs outputs).1
    | .read _ => motion.readInputs.1
    | .write outputs => motion.writeOutputs outputs
  notifies
    | .writeInputs _ => true
    | _ => false

/-- The system, with the messages that were made available.  Of each thread it is known how many of
them there were when it last read, and whether it has waited with success since. -/
structure WaitingSystem (θ α : Type) where
  system : System θ (ControllerMotion α)
  messages : List (Input α)
  lastRead : θ → ℕ
  waited : θ → Bool

namespace WaitingSystem

def init : WaitingSystem θ α where
  system := { shared := ControllerMotion.init, phase := fun _ => .running }
  messages := []
  lastRead := fun _ => 0
  waited := fun _ => false

variable [DecidableEq θ]

def nextMessages (s : WaitingSystem θ α) : WaitingEvent θ α → List (Input α)
  | .call (.writeInputs inputs) => s.messages ++ [inputs]
  | _ => s.messages

def nextLastRead (s : WaitingSystem θ α) : WaitingEvent θ α → θ → ℕ
  | .call (.read thread) => Function.update s.lastRead thread s.messages.length
  | _ => s.lastRead

def readWaited (s : WaitingSystem θ α) : WaitingEvent θ α → θ → Bool
  | .call (.read thread) => Function.update s.waited thread false
  | _ => s.waited

/-- A thread has waited until it reads, or waits again. -/
def nextWaited (s : WaitingSystem θ α) (e : WaitingEvent θ α) : θ → Bool :=
  match s.system.returns (guardedMotion θ α) e with
  | some (thread, success) => Function.update (s.readWaited e) thread success
  | none => s.readWaited e

def step (s : WaitingSystem θ α) (e : WaitingEvent θ α) : WaitingSystem θ α where
  system := s.system.step (guardedMotion θ α) e
  messages := s.nextMessages e
  lastRead := s.nextLastRead e
  waited := s.nextWaited e

end WaitingSystem

/-! ### No wake-up is lost -/

theorem guardedMotion_notifies (motion : ControllerMotion α) (method : MotionMethod θ α)
    (h : (guardedMotion θ α).ready ((guardedMotion θ α).exec motion method) = true) :
    (guardedMotion θ α).ready motion = true ∨ (guardedMotion θ α).notifies method = true := by
  cases method with
  | initializeMotion firstMessage =>
      cases firstMessage with
      | true => cases h
      | false => exact .inl h
  | writeInputs inputs => exact .inr rfl
  | readOutputs outputs => exact .inl h
  | read thread => cases h
  | write outputs => exact .inl h

namespace WaitingSystem
variable [DecidableEq θ]

theorem run_system (s : WaitingSystem θ α) (es : List (WaitingEvent θ α)) :
    (run step s es).system = run (System.step (guardedMotion θ α)) s.system es := by
  induction es generalizing s with
  | nil => rfl
  | cons e es ih => exact ih (s.step e)

/-- **No wake-up is lost**: a thread that waits while a message is there has been woken, and if it looks
again before the message is gone, its wait succeeds. -/
theorem waiting_alert (es : List (WaitingEvent θ α)) (thread : θ)
    (hready : (run step init es).system.shared.readDataReady = true)
    (hwaits : (run step init es).system.phase thread ≠ .running) :
    (run step init es).system.phase thread = .awake ∧
      (run step init es).system.returns (guardedMotion θ α) (.resume thread) = some (thread, true) := by
  rw [run_system] at hready hwaits ⊢
  have halert : System.Alert (guardedMotion θ α)
      (run (System.step (guardedMotion θ α)) (init : WaitingSystem θ α).system es) :=
    System.run_alert guardedMotion_notifies nofun es
  exact halert.returns hready hwaits

/-- A thread that waits before the first message. -/
theorem waiting_alert_first :
    (run step init [.wait (), .call (.writeInputs {})] : WaitingSystem Unit ℝ).system.phase () = .awake ∧
      (run step init [.wait (), .call (.writeInputs {})] : WaitingSystem Unit ℝ).system.returns
        (guardedMotion Unit ℝ) (.resume ()) = some ((), true) :=
  waiting_alert [.wait (), .call (.writeInputs {})] () rfl nofun

/-! ### No message is read twice -/

/-- What is known of the messages and the threads. -/
structure Fresh (s : WaitingSystem θ α) : Prop where
  newest : s.messages.getLast? = some s.system.shared.inputs ∨
    s.messages = [] ∧ s.system.shared.readDataReady = false
  bounded : ∀ thread, s.lastRead thread ≤ s.messages.length
  ready : s.system.shared.readDataReady = true → ∀ thread, s.lastRead thread < s.messages.length
  waited : ∀ thread, s.waited thread = true → s.lastRead thread < s.messages.length

omit [Field α] [LinearOrder α] [Cmath α] [DecidableEq θ] in
theorem Fresh.of_shared {s s' : WaitingSystem θ α} (h : s.Fresh)
    (hshared : s'.system.shared = s.system.shared) (hmessages : s'.messages = s.messages)
    (hlastRead : s'.lastRead = s.lastRead)
    (hwaited : ∀ thread, s'.waited thread = true →
      s.waited thread = true ∨ s.system.shared.readDataReady = true) : s'.Fresh := by
  refine ⟨?_, ?_, ?_, ?_⟩
  · rw [hshared, hmessages]
    exact h.newest
  · rw [hmessages, hlastRead]
    exact h.bounded
  · rw [hshared, hmessages, hlastRead]
    exact h.ready
  · rw [hmessages, hlastRead]
    intro thread hthread
    rcases hwaited thread hthread with hwaited | hready
    · exact h.waited thread hwaited
    · exact h.ready hready thread

omit [Field α] [LinearOrder α] [Cmath α] in
theorem readWaited_le {s : WaitingSystem θ α} {e : WaitingEvent θ α} {thread : θ}
    (h : s.readWaited e thread = true) : s.waited thread = true := by
  unfold readWaited at h
  split at h
  next thread' =>
    by_cases heq : thread = thread'
    · rw [heq, Function.update_self] at h
      cases h
    · rwa [Function.update_of_ne heq] at h
  next => exact h

/-- A wait succeeds only while a message is there. -/
theorem nextWaited_ready {s : WaitingSystem θ α} {e : WaitingEvent θ α} {thread : θ}
    (h : s.nextWaited e thread = true) :
    s.waited thread = true ∨ s.system.shared.readDataReady = true := by
  cases hreturns : s.system.returns (guardedMotion θ α) e with
  | none =>
      simp only [nextWaited, hreturns] at h
      exact .inl (readWaited_le h)
  | some returned =>
      obtain ⟨thread', success⟩ := returned
      simp only [nextWaited, hreturns] at h
      by_cases heq : thread = thread'
      · rw [heq, Function.update_self] at h
        rw [h] at hreturns
        exact .inr (System.returns_ready hreturns)
      · rw [Function.update_of_ne heq] at h
        exact .inl (readWaited_le h)

/-- What is made available is newer than what any thread has read. -/
theorem step_fresh {s : WaitingSystem θ α} (h : s.Fresh) (e : WaitingEvent θ α) : (s.step e).Fresh := by
  have hsame (hcall : ∀ method, e ≠ .call method) (hmessages : s.nextMessages e = s.messages)
      (hlastRead : s.nextLastRead e = s.lastRead) : (s.step e).Fresh :=
    h.of_shared (System.step_shared s.system e hcall) hmessages hlastRead fun _ => nextWaited_ready
  cases e with
  | wait thread => exact hsame (fun _ h => by cases h) rfl rfl
  | wake thread => exact hsame (fun _ h => by cases h) rfl rfl
  | resume thread => exact hsame (fun _ h => by cases h) rfl rfl
  | timeOut thread => exact hsame (fun _ h => by cases h) rfl rfl
  | call method =>
      cases method with
      | initializeMotion firstMessage =>
          cases firstMessage with
          | true =>
              exact ⟨h.newest.imp id (fun h => ⟨h.1, rfl⟩), h.bounded,
                fun h => absurd h Bool.false_ne_true, h.waited⟩
          | false => exact h.of_shared rfl rfl rfl fun _ h => .inl h
      | readOutputs outputs => exact ⟨h.newest, h.bounded, h.ready, h.waited⟩
      | write outputs => exact ⟨h.newest, h.bounded, h.ready, h.waited⟩
      | writeInputs inputs =>
          have hmessages : (s.step (.call (.writeInputs inputs))).messages = s.messages ++ [inputs] := rfl
          refine ⟨?_, ?_, ?_, ?_⟩
          · rw [hmessages, List.getLast?_concat]
            exact .inl rfl
          · intro thread
            rw [hmessages, List.length_append]
            exact Nat.le_add_right_of_le (h.bounded thread)
          · intro _ thread
            rw [hmessages, List.length_append]
            exact Nat.lt_succ_of_le (h.bounded thread)
          · intro thread _
            rw [hmessages, List.length_append]
            exact Nat.lt_succ_of_le (h.bounded thread)
      | read thread =>
          have hlastRead : (s.step (.call (.read thread))).lastRead =
              Function.update s.lastRead thread s.messages.length := rfl
          refine ⟨?_, ?_, fun h => absurd h Bool.false_ne_true, ?_⟩
          · exact h.newest.imp id (fun h => ⟨h.1, rfl⟩)
          · intro thread'
            rw [hlastRead]
            by_cases heq : thread' = thread
            · rw [heq, Function.update_self]
              exact le_refl _
            · rw [Function.update_of_ne heq]
              exact h.bounded thread'
          · intro thread' hthread'
            have hwaited : (s.step (.call (.read thread))).waited =
                Function.update s.waited thread false := rfl
            rw [hwaited] at hthread'
            by_cases heq : thread' = thread
            · rw [heq, Function.update_self] at hthread'
              cases hthread'
            · rw [Function.update_of_ne heq] at hthread'
              rw [hlastRead, Function.update_of_ne heq]
              exact h.waited thread' hthread'

omit [Field α] [LinearOrder α] [Cmath α] [DecidableEq θ] in
theorem init_fresh : (init : WaitingSystem θ α).Fresh :=
  ⟨.inr ⟨rfl, rfl⟩, fun _ => le_refl 0, fun h => absurd h Bool.false_ne_true,
    fun _ h => absurd h Bool.false_ne_true⟩

/-- **No message is read twice**: a thread that reads after it has waited with success reads the newest
message, and one that is newer than what it read before. -/
theorem waiting_newer (es : List (WaitingEvent θ α)) :
    Along step (fun s e => ∀ thread, e = .call (.read thread) → s.waited thread = true →
      s.messages.getLast? = some s.system.shared.readInputs.2 ∧
        s.lastRead thread < s.messages.length) init es := by
  have hall : Along step (fun _ _ => True) (init : WaitingSystem θ α) es :=
    Along.of_forall (fun _ _ _ => trivial) init
  refine hall.of_inv (I := Fresh) ?_ init_fresh
  intro s e h _
  refine ⟨step_fresh h e, ?_⟩
  rintro thread rfl hwaited
  have hnewer := h.waited thread hwaited
  refine ⟨?_, hnewer⟩
  rcases h.newest with hnewest | ⟨hnone, -⟩
  · exact hnewest
  · rw [hnone] at hnewer
    cases hnewer

end WaitingSystem

end motion

end AbbWrapper
