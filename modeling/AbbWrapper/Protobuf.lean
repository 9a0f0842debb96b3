import Mathlib.Algebra.Notation.Defs
import Mathlib.Tactic.Common

/-! # Optional fields of messages

A message is a structure whose optional fields have type `Optional β`.  Reading an absent field
gives the default instance of its type: zero for a number (`val`), the message without any
field for a sub-message (`get`).  Opening a field for writing (`modify`) makes it present.

* `has` is the presence bit, `has_…()` of the generated code, `get` and `val` are its getters, and `modify`
  is a change through `mutable_…()`.
* `copyIf` overwrites a field where the source has it, as the functions do that copy what is present.

The lemmas about reading what was written are simp lemmas. -/

namespace Protobuf

/-- An optional field: absent, or present with a value. -/
inductive Optional (β : Type) where
  | absent
  | present (v : β)
deriving DecidableEq, Repr

namespace Optional

variable {β : Type}

instance : Inhabited (Optional β) := ⟨.absent⟩

/-- The presence bit. -/
def has : Optional β → Bool
  | absent => false
  | present _ => true

/-- Read a field; the default instance when it is absent. -/
def get [Inhabited β] : Optional β → β
  | absent => default
  | present v => v

/-- Read a numeric field; zero when it is absent. -/
def val [Zero β] : Optional β → β
  | absent => 0
  | present v => v

/-- Open a field for writing: it is present afterwards. -/
def modify [Inhabited β] (f : β → β) (o : Optional β) : Optional β := present (f o.get)

/-- Overwrite a field where the source has it. -/
def copyIf (target source : Optional β) : Optional β :=
  match source with
  | absent => target
  | present v => present v

@[simp] theorem has_absent : (absent : Optional β).has = false := rfl
@[simp] theorem has_present (v : β) : (present v).has = true := rfl
@[simp] theorem get_absent [Inhabited β] : (absent : Optional β).get = default := rfl
@[simp] theorem get_present [Inhabited β] (v : β) : (present v).get = v := rfl
@[simp] theorem val_absent [Zero β] : (absent : Optional β).val = 0 := rfl
@[simp] theorem val_present [Zero β] (v : β) : (present v).val = v := rfl

@[simp] theorem has_modify [Inhabited β] (f : β → β) (o : Optional β) :
    (o.modify f).has = true := rfl

@[simp] theorem get_modify [Inhabited β] (f : β → β) (o : Optional β) :
    (o.modify f).get = f o.get := rfl

@[simp] theorem copyIf_absent (o : Optional β) : o.copyIf absent = o := rfl
@[simp] theorem copyIf_present (o : Optional β) (v : β) : o.copyIf (present v) = present v := rfl

theorem present_get [Inhabited β] {o : Optional β} (h : o.has = true) : present o.get = o := by
  cases o with
  | absent => cases h
  | present v => rfl

theorem present_val [Zero β] {o : Optional β} (h : o.has = true) : present o.val = o := by
  cases o with
  | absent => cases h
  | present v => rfl

theorem eq_absent {o : Optional β} (h : o.has = false) : o = absent := by
  cases o with
  | absent => rfl
  | present v => cases h

end Optional
end Protobuf
