import AbbWrapper.IOSignals
import AbbWrapper.Runs

/-! # Vacuum and blow-off

`VacuumOn`, `VacuumOff`, `BlowOn` and `BlowOff` of `Services::SG`, over an I/O system on which a
command takes effect and every status signal reports the level that was commanded.

* An `IOSystem` has any states and any signals besides; its laws are its fields.
* The signals are put together from their names and the number of the valve (`ofValve`), so that signals
  are the same exactly if their texts are.
* `VacuumOn` and `BlowOn` are one definition with their signals, `switchOn`.  It reads a status until the
  other command is low; a call that would wait for ever has no result.
* `Interlocked` says that for no valve both commands are high; `Done` is what a call promises.

Each operation but `BlowOff` keeps the two commands of every valve from being high together
(`done_of_levels`); `BlowOff` sets the blow-off command high (`not_done_blowOff`).  `interlock_iff` is
about all runs. -/

namespace AbbWrapper

open Runs SystemConstants

/-! ### Signals -/

/-- `std::to_string`. -/
def Text.ofNat (n : ℕ) : Text := Nat.toDigits 10 n

theorem Text.ofNat_inj {n m : ℕ} : Text.ofNat n = Text.ofNat m ↔ n = m := by
  constructor
  · intro h
    have hvalue := congrArg (fun digits => Nat.ofDigitChars 10 digits 0) h
    simpa only [Text.ofNat, Nat.ofDigitChars_ten_toDigits] using hvalue
  · intro h
    rw [h]

namespace IOSignals

/-- `SG_CMD_VACUUM`. -/
def sgCmdVacuum : Text := "EtherNetIP/Hand/hand_CmdVacuum".toList
/-- `SG_CMD_BLOW`. -/
def sgCmdBlow : Text := "EtherNetIP/Hand/hand_CmdBlowoff".toList
/-- `SG_STATUS_VACUUM`. -/
def sgStatusVacuum : Text := "EtherNetIP/Hand/hand_StatusVacuum".toList
/-- `SG_STATUS_BLOW`. -/
def sgStatusBlow : Text := "EtherNetIP/Hand/hand_StatusBlowoff".toList

end IOSignals

open IOSignals

/-- The signal of a valve. -/
def ofValve (iosignal : Text) (numValve : ℕ) : Text := iosignal ++ Text.ofNat numValve

@[simp] theorem ofValve_inj {iosignal : Text} {n m : ℕ} :
    ofValve iosignal n = ofValve iosignal m ↔ n = m := by
  rw [ofValve, ofValve, List.append_cancel_left_eq, Text.ofNat_inj]

theorem take_ofValve {iosignal : Text} {k : ℕ} (hk : k ≤ iosignal.length) (n : ℕ) :
    (ofValve iosignal n).take k = iosignal.take k := by
  rw [ofValve, List.take_append_of_le_length hk]

/-- The names of the two commands differ in their 25th character. -/
@[simp] theorem ofValve_ne (n m : ℕ) : ofValve sgCmdVacuum n ≠ ofValve sgCmdBlow m := by
  intro h
  have hprefix := congrArg (List.take 25) h
  rw [take_ofValve (by decide), take_ofValve (by decide)] at hprefix
  exact absurd hprefix (by decide)

@[simp] theorem ofValve_ne' (n m : ℕ) : ofValve sgCmdBlow n ≠ ofValve sgCmdVacuum m :=
  (ofValve_ne m n).symm

/-- A command signal of some valve. -/
def IsCommand (iosignal : Text) : Prop :=
  ∃ n, iosignal = ofValve sgCmdVacuum n ∨ iosignal = ofValve sgCmdBlow n

/-- An I/O system on which commands take effect, and the status of a valve reports them. -/
structure IOSystem (σ : Type) where
  getIOSignal : σ → Text → Text
  setIOSignal : σ → Text → Text → σ
  takesEffect : ∀ s iosignal iosignal' value, IsCommand iosignal → IsCommand iosignal' →
    getIOSignal (setIOSignal s iosignal value) iosignal' =
      if iosignal' = iosignal then value else getIOSignal s iosignal'
  statusVacuum : ∀ s n,
    getIOSignal s (ofValve sgStatusVacuum n) = getIOSignal s (ofValve sgCmdVacuum n)
  statusBlow : ∀ s n,
    getIOSignal s (ofValve sgStatusBlow n) = getIOSignal s (ofValve sgCmdBlow n)

namespace SG

variable {σ : Type} (io : IOSystem σ)

/-- `VacuumOn` and `BlowOn`, with the signals that they concatenate.  Reading changes nothing, so the
waiting loop ends at once or never (`none`). -/
def switchOn (sgStatusOther sgCmdOther sgCmd : Text) (s : σ) : Option (Bool × σ) :=
  let s := if io.getIOSignal s sgStatusOther = high then io.setIOSignal s sgCmdOther low else s
  if io.getIOSignal s sgStatusOther ≠ low then none
  else some (true, io.setIOSignal s sgCmd high)

def vacuumOn (numValve : ℕ) (s : σ) : Option (Bool × σ) :=
  switchOn io (ofValve sgStatusBlow numValve) (ofValve sgCmdBlow numValve)
    (ofValve sgCmdVacuum numValve) s

def vacuumOff (numValve : ℕ) (s : σ) : Option (Bool × σ) :=
  some (true, io.setIOSignal s (ofValve sgCmdVacuum numValve) low)

def blowOn (numValve : ℕ) (s : σ) : Option (Bool × σ) :=
  switchOn io (ofValve sgStatusVacuum numValve) (ofValve sgCmdVacuum numValve)
    (ofValve sgCmdBlow numValve) s

/-- The level is HIGH in the source as well. -/
def blowOff (numValve : ℕ) (s : σ) : Option (Bool × σ) :=
  some (true, io.setIOSignal s (ofValve sgCmdBlow numValve) high)

/-- A call, with the valve it is for. -/
inductive Call where
  | vacuumOn (numValve : ℕ)
  | vacuumOff (numValve : ℕ)
  | blowOn (numValve : ℕ)
  | blowOff (numValve : ℕ)
deriving DecidableEq, Repr

def Call.exec (s : σ) : Call → Option (Bool × σ)
  | .vacuumOn numValve => SG.vacuumOn io numValve s
  | .vacuumOff numValve => SG.vacuumOff io numValve s
  | .blowOn numValve => SG.blowOn io numValve s
  | .blowOff numValve => SG.blowOff io numValve s

/-- The state after a call; a call that never returns leaves none, and `s` stands for it. -/
def step (s : σ) (call : Call) : σ := ((call.exec io s).map Prod.snd).getD s

/-- The level of the vacuum command of a valve. -/
def vacuum (s : σ) (numValve : ℕ) : Text := io.getIOSignal s (ofValve sgCmdVacuum numValve)

/-- The level of the blow-off command of a valve. -/
def blow (s : σ) (numValve : ℕ) : Text := io.getIOSignal s (ofValve sgCmdBlow numValve)

/-! ### The effect of a call -/

theorem vacuum_set_vacuum (s : σ) (n m : ℕ) (value : Text) :
    vacuum io (io.setIOSignal s (ofValve sgCmdVacuum n) value) m =
      if m = n then value else vacuum io s m := by
  rw [vacuum, io.takesEffect s _ _ value ⟨n, .inl rfl⟩ ⟨m, .inl rfl⟩]
  simp [vacuum]

theorem vacuum_set_blow (s : σ) (n m : ℕ) (value : Text) :
    vacuum io (io.setIOSignal s (ofValve sgCmdBlow n) value) m = vacuum io s m := by
  rw [vacuum, io.takesEffect s _ _ value ⟨n, .inr rfl⟩ ⟨m, .inl rfl⟩]
  simp [vacuum]

theorem blow_set_blow (s : σ) (n m : ℕ) (value : Text) :
    blow io (io.setIOSignal s (ofValve sgCmdBlow n) value) m =
      if m = n then value else blow io s m := by
  rw [blow, io.takesEffect s _ _ value ⟨n, .inr rfl⟩ ⟨m, .inr rfl⟩]
  simp [blow]

theorem blow_set_vacuum (s : σ) (n m : ℕ) (value : Text) :
    blow io (io.setIOSignal s (ofValve sgCmdVacuum n) value) m = blow io s m := by
  rw [blow, io.takesEffect s _ _ value ⟨n, .inl rfl⟩ ⟨m, .inr rfl⟩]
  simp [blow]

attribute [simp] vacuum_set_vacuum vacuum_set_blow blow_set_blow blow_set_vacuum

theorem high_ne_low : high ≠ low := by decide

/-- A command that is high is set low first; then the waiting ends. -/
theorem vacuumOn_eq {s : σ} {n : ℕ} (h : blow io s n = low ∨ blow io s n = high) :
    vacuumOn io n s = some (true, io.setIOSignal
      (if blow io s n = high then io.setIOSignal s (ofValve sgCmdBlow n) low else s)
      (ofValve sgCmdVacuum n) high) := by
  unfold vacuumOn switchOn
  simp only [io.statusBlow]
  change (if blow io (if blow io s n = high then _ else s) n ≠ low then none else some (true,
    io.setIOSignal (if blow io s n = high then _ else s) _ high)) = _
  rcases h with h | h
  · have hnot : blow io s n ≠ high := by
      rw [h]
      exact high_ne_low.symm
    rw [if_neg hnot, if_neg (by simpa using h)]
  · rw [if_pos h, if_neg (by simp)]

theorem blowOn_eq {s : σ} {n : ℕ} (h : vacuum io s n = low ∨ vacuum io s n = high) :
    blowOn io n s = some (true, io.setIOSignal
      (if vacuum io s n = high then io.setIOSignal s (ofValve sgCmdVacuum n) low else s)
      (ofValve sgCmdBlow n) high) := by
  unfold blowOn switchOn
  simp only [io.statusVacuum]
  change (if vacuum io (if vacuum io s n = high then _ else s) n ≠ low then none else some (true,
    io.setIOSignal (if vacuum io s n = high then _ else s) _ high)) = _
  rcases h with h | h
  · have hnot : vacuum io s n ≠ high := by
      rw [h]
      exact high_ne_low.symm
    rw [if_neg hnot, if_neg (by simpa using h)]
  · rw [if_pos h, if_neg (by simp)]

/-! ### The interlock -/

/-- For no valve are both commands high. -/
def Interlocked (s : σ) : Prop := ∀ n, ¬(vacuum io s n = high ∧ blow io s n = high)

/-- What a call promises: it returns, the valves are interlocked after it, and a command that it
switches off is low. -/
structure Done (s : σ) (call : Call) : Prop where
  returns : (call.exec io s).isSome
  interlocked : Interlocked io (step io s call)
  vacuumOff : ∀ n, call = .vacuumOff n → vacuum io (step io s call) n = low
  blowOff : ∀ n, call = .blowOff n → blow io (step io s call) n = low

/-- Every command is at one of the two levels, and the valves are interlocked. -/
structure Levels (s : σ) : Prop where
  vacuum : ∀ n, vacuum io s n = low ∨ vacuum io s n = high
  blow : ∀ n, blow io s n = low ∨ blow io s n = high
  interlocked : Interlocked io s

/-- All commands are low. -/
def AllLow (s : σ) : Prop := ∀ n, vacuum io s n = low ∧ blow io s n = low

variable {io}

theorem Levels.of_allLow {s : σ} (h : AllLow io s) : Levels io s where
  vacuum n := .inl (h n).1
  blow n := .inl (h n).2
  interlocked n hboth := high_ne_low (hboth.1.symm.trans (h n).1)

section effect
variable {s : σ} (hs : Levels io s) (n m : ℕ)
include hs

theorem vacuum_step_vacuumOn : vacuum io (step io s (.vacuumOn n)) m =
    if m = n then high else vacuum io s m := by
  rw [step, Call.exec, vacuumOn_eq io (hs.blow n)]
  simp only [Option.map_some, Option.getD_some, vacuum_set_vacuum]
  congr 1
  split
  · exact vacuum_set_blow io s n m low
  · rfl

theorem blow_step_vacuumOn : blow io (step io s (.vacuumOn n)) m =
    if m = n then low else blow io s m := by
  rw [step, Call.exec, vacuumOn_eq io (hs.blow n)]
  simp only [Option.map_some, Option.getD_some, blow_set_vacuum]
  rcases hs.blow n with h | h
  · have hnot : blow io s n ≠ high := by
      rw [h]
      exact high_ne_low.symm
    rw [if_neg hnot]
    by_cases hm : m = n
    · rw [if_pos hm, hm, h]
    · rw [if_neg hm]
  · rw [if_pos h, blow_set_blow]

theorem blow_step_blowOn : blow io (step io s (.blowOn n)) m =
    if m = n then high else blow io s m := by
  rw [step, Call.exec, blowOn_eq io (hs.vacuum n)]
  simp only [Option.map_some, Option.getD_some, blow_set_blow]
  congr 1
  split
  · exact blow_set_vacuum io s n m low
  · rfl

theorem vacuum_step_blowOn : vacuum io (step io s (.blowOn n)) m =
    if m = n then low else vacuum io s m := by
  rw [step, Call.exec, blowOn_eq io (hs.vacuum n)]
  simp only [Option.map_some, Option.getD_some, vacuum_set_blow]
  rcases hs.vacuum n with h | h
  · have hnot : vacuum io s n ≠ high := by
      rw [h]
      exact high_ne_low.symm
    rw [if_neg hnot]
    by_cases hm : m = n
    · rw [if_pos hm, hm, h]
    · rw [if_neg hm]
  · rw [if_pos h, vacuum_set_vacuum]

end effect

/-- Switching a command of one valve, with the other command of that valve low. -/
theorem Levels.update {s s' : σ} (hs : Levels io s) {n : ℕ} {level level' : Text}
    (hlevel : level = low ∨ level = high) (hlevel' : level' = low ∨ level' = high)
    (hlow : level = low ∨ level' = low)
    (hvacuum : ∀ m, SG.vacuum io s' m = if m = n then level else SG.vacuum io s m)
    (hblow : ∀ m, SG.blow io s' m = if m = n then level' else SG.blow io s m) : Levels io s' where
  vacuum m := by
    rw [hvacuum]
    split
    · exact hlevel
    · exact hs.vacuum m
  blow m := by
    rw [hblow]
    split
    · exact hlevel'
    · exact hs.blow m
  interlocked m := by
    rw [hvacuum, hblow]
    split
    · rintro ⟨h, h'⟩
      rcases hlow with hl | hl
      · exact high_ne_low (h.symm.trans hl)
      · exact high_ne_low (h'.symm.trans hl)
    · exact hs.interlocked m

/-- **Every call but `BlowOff` keeps its promises.** -/
theorem done_of_levels {s : σ} (hs : Levels io s) {call : Call} (hcall : ∀ n, call ≠ .blowOff n) :
    Done io s call ∧ Levels io (step io s call) := by
  suffices h : (call.exec io s).isSome ∧ Levels io (step io s call) ∧
      ∀ n, call = .vacuumOff n → vacuum io (step io s call) n = low from
    ⟨⟨h.1, h.2.1.interlocked, h.2.2, fun n hn => absurd hn (hcall n)⟩, h.2.1⟩
  cases call with
  | vacuumOn n =>
      refine ⟨?_, ?_, ?_⟩
      · rw [Call.exec, vacuumOn_eq io (hs.blow n)]
        rfl
      · exact hs.update (.inr rfl) (.inl rfl) (.inr rfl) (vacuum_step_vacuumOn hs n)
          (blow_step_vacuumOn hs n)
      · intro m hm
        cases hm
  | vacuumOff n =>
      have hvacuum : ∀ m, vacuum io (step io s (.vacuumOff n)) m =
          if m = n then low else vacuum io s m := fun m => vacuum_set_vacuum io s n m low
      have hblow : ∀ m, blow io (step io s (.vacuumOff n)) m =
          if m = n then blow io s n else blow io s m := by
        intro m
        rw [show blow io (step io s (.vacuumOff n)) m = blow io s m from
          blow_set_vacuum io s n m low]
        split
        next hm => rw [hm]
        next => rfl
      refine ⟨rfl, hs.update (.inl rfl) (hs.blow n) (.inl rfl) hvacuum hblow, ?_⟩
      intro m hm
      cases hm
      rw [hvacuum, if_pos rfl]
  | blowOn n =>
      refine ⟨?_, ?_, ?_⟩
      · rw [Call.exec, blowOn_eq io (hs.vacuum n)]
        rfl
      · exact hs.update (.inl rfl) (.inr rfl) (.inl rfl) (vacuum_step_blowOn hs n)
          (blow_step_blowOn hs n)
      · intro m hm
        cases hm
  | blowOff n => exact absurd rfl (hcall n)

/-- `BlowOff` leaves the command high that it should switch off. -/
theorem not_done_blowOff (s : σ) (n : ℕ) : ¬Done io s (.blowOff n) := by
  intro h
  have hlow := h.blowOff n rfl
  rw [show blow io (step io s (.blowOff n)) n = high from
    (blow_set_blow io s n n high).trans (if_pos rfl)] at hlow
  exact high_ne_low hlow

/-- **Vacuum and blow-off are interlocked exactly in the runs without `BlowOff`.** -/
theorem interlock_iff {s : σ} (hs : AllLow io s) (calls : List Call) :
    Along (step io) (Done io) s calls ↔ ∀ n, .blowOff n ∉ calls := by
  have hcalls : (∀ n, .blowOff n ∉ calls) ↔ ∀ call ∈ calls, ∀ n, call ≠ .blowOff n := by
    constructor
    · rintro h call hmem n rfl
      exact h n hmem
    · intro h n hmem
      exact h _ hmem n rfl
  have hrun : Along (step io) (fun _ call => ∀ n, call ≠ .blowOff n) s calls ↔
      ∀ call ∈ calls, ∀ n, call ≠ .blowOff n := along_forall
  rw [hcalls, ← hrun]
  refine along_iff (I := Levels io) ?_ ?_ (Levels.of_allLow hs)
  · intro s call hs
    constructor
    · rintro hdone n rfl
      exact not_done_blowOff s n hdone
    · intro hcall
      exact (done_of_levels hs hcall).1
  · intro s call hs hcall
    exact (done_of_levels hs hcall).2

/-! ### A table of levels -/

/-- The command that a signal reports. -/
def commanded (iosignal : Text) : Text :=
  if sgStatusVacuum.isPrefixOf iosignal then sgCmdVacuum ++ iosignal.drop sgStatusVacuum.length
  else if sgStatusBlow.isPrefixOf iosignal then sgCmdBlow ++ iosignal.drop sgStatusBlow.length
  else iosignal

theorem commanded_statusVacuum (n : ℕ) :
    commanded (ofValve sgStatusVacuum n) = ofValve sgCmdVacuum n := by
  have hprefix : sgStatusVacuum.isPrefixOf (ofValve sgStatusVacuum n) = true :=
    List.isPrefixOf_iff_prefix.mpr (List.prefix_append _ _)
  rw [commanded, if_pos hprefix, ofValve, ofValve, List.drop_left]

/-- Texts that differ among their first `k` characters. -/
theorem isPrefixOf_ofValve_eq_false {text name : Text} {k : ℕ} (hk : k ≤ text.length)
    (hk' : k ≤ name.length) (h : text.take k ≠ name.take k) (n : ℕ) :
    text.isPrefixOf (ofValve name n) = false := by
  rw [Bool.eq_false_iff]
  intro hprefix
  apply h
  rw [← take_ofValve hk' n]
  obtain ⟨rest, hrest⟩ := List.isPrefixOf_iff_prefix.mp hprefix
  rw [← hrest, List.take_append_of_le_length hk]

theorem commanded_statusBlow (n : ℕ) : commanded (ofValve sgStatusBlow n) = ofValve sgCmdBlow n := by
  have hother : sgStatusVacuum.isPrefixOf (ofValve sgStatusBlow n) = false :=
    isPrefixOf_ofValve_eq_false (k := 28) (by decide) (by decide) (by decide) n
  have hprefix : sgStatusBlow.isPrefixOf (ofValve sgStatusBlow n) = true :=
    List.isPrefixOf_iff_prefix.mpr (List.prefix_append _ _)
  rw [commanded, hother, if_neg Bool.false_ne_true, if_pos hprefix, ofValve, ofValve, List.drop_left]

theorem commanded_command {iosignal : Text} (h : IsCommand iosignal) : commanded iosignal = iosignal := by
  have hnot : ∀ status ∈ [sgStatusVacuum, sgStatusBlow], ∀ name ∈ [sgCmdVacuum, sgCmdBlow],
      22 ≤ status.length ∧ 22 ≤ name.length ∧ status.take 22 ≠ name.take 22 := by decide
  have hcommand : ∀ name ∈ [sgCmdVacuum, sgCmdBlow], ∀ n,
      commanded (ofValve name n) = ofValve name n := by
    intro name hname n
    obtain ⟨hk, hk', hne⟩ := hnot sgStatusVacuum (by simp) name hname
    obtain ⟨hl, hl', hne'⟩ := hnot sgStatusBlow (by simp) name hname
    rw [commanded, isPrefixOf_ofValve_eq_false hk hk' hne n, if_neg Bool.false_ne_true,
      isPrefixOf_ofValve_eq_false hl hl' hne' n, if_neg Bool.false_ne_true]
  obtain ⟨n, rfl | rfl⟩ := h
  · exact hcommand sgCmdVacuum (by simp) n
  · exact hcommand sgCmdBlow (by simp) n

/-- The levels of the commands, kept in a function. -/
def table : IOSystem (Text → Text) where
  getIOSignal levels iosignal := levels (commanded iosignal)
  setIOSignal levels iosignal value := Function.update levels iosignal value
  takesEffect levels iosignal iosignal' value _ h' := by
    rw [commanded_command h', Function.update_apply]
  statusVacuum levels n := by
    rw [commanded_statusVacuum, commanded_command ⟨n, .inl rfl⟩]
  statusBlow levels n := by
    rw [commanded_statusBlow, commanded_command ⟨n, .inr rfl⟩]

theorem interlock_vacuumOn_blowOn : Along (step table) (Done table) (fun _ => low)
    [.vacuumOn 1, .blowOn 1, .vacuumOff 1] := by
  have hlow : AllLow table (fun _ => low) := fun _ => ⟨rfl, rfl⟩
  refine (interlock_iff hlow _).mpr ?_
  simp

/-- Vacuum on, blow-off off: both commands are high. -/
theorem interlock_broken : AllLow table (fun _ => low) ∧ ¬Interlocked table
    (run (step table) (fun _ => low) [.vacuumOn 1, .blowOff 1]) := by
  refine ⟨fun n => ⟨rfl, rfl⟩, ?_⟩
  intro h
  have hvacuum : vacuum table (step table (fun _ => low) (.vacuumOn 1)) 1 = high :=
    (vacuum_step_vacuumOn (Levels.of_allLow fun _ => ⟨rfl, rfl⟩) 1 1).trans (if_pos rfl)
  apply h 1
  constructor
  · exact (vacuum_set_blow table _ 1 1 high).trans hvacuum
  · exact (blow_set_blow table _ 1 1 high).trans (if_pos rfl)

end SG

end AbbWrapper
