import Mathlib.Data.List.Basic
import Mathlib.Tactic.Common

/-! # Array accesses

An access is an index together with the number of elements of the array it goes to; a piece of code
is described by the list of its accesses, in order.  Nothing here knows what the elements are.

* `InRange` says of a list of accesses that each of them is to an element of its array; it distributes
  over the parts of the list (`inRange_append`, `InRange.ite`).
* `loop n offset sizes` are the accesses of the loop `for (i = 0; i < n; ++i)` over arrays of these
  sizes, all at `i + offset`.  It is in range exactly if it does not run, or its last round is in range
  (`inRange_loop`).
* `guarded sizes` are those of a loop that ends with the shortest of its arrays.  It is always in range
  (`inRange_guarded`). -/

/-- An access to the element `index` of an array with `size` elements. -/
structure ArrayAccess where
  index : ℕ
  size : ℕ
deriving DecidableEq, Repr

namespace ArrayAccess

/-- Every access is to an element of its array. -/
def InRange (accesses : List ArrayAccess) : Prop := ∀ a ∈ accesses, a.index < a.size

instance : DecidablePred InRange :=
  fun accesses => inferInstanceAs (Decidable (∀ a ∈ accesses, a.index < a.size))

@[simp] theorem inRange_nil : InRange [] := by
  intro a ha
  cases ha

@[simp] theorem inRange_append {l₁ l₂ : List ArrayAccess} :
    InRange (l₁ ++ l₂) ↔ InRange l₁ ∧ InRange l₂ :=
  List.forall_mem_append

theorem InRange.ite {p : Prop} [Decidable p] {l₁ l₂ : List ArrayAccess} (h₁ : p → InRange l₁)
    (h₂ : ¬p → InRange l₂) : InRange (if p then l₁ else l₂) := by
  split
  next h => exact h₁ h
  next h => exact h₂ h

/-- `for (i = 0; i < n; ++i)` over arrays of the sizes `sizes`. -/
def loop (n offset : ℕ) (sizes : List ℕ) : List ArrayAccess :=
  (List.range n).flatMap fun i => sizes.map fun size => ⟨i + offset, size⟩

theorem mem_loop {n offset : ℕ} {sizes : List ℕ} {a : ArrayAccess} :
    a ∈ loop n offset sizes ↔ ∃ i < n, a.index = i + offset ∧ a.size ∈ sizes := by
  simp only [loop, List.mem_flatMap, List.mem_range, List.mem_map]
  constructor
  · rintro ⟨i, hi, size, hsize, rfl⟩
    exact ⟨i, hi, rfl, hsize⟩
  · rintro ⟨i, hi, hindex, hsize⟩
    exact ⟨i, hi, a.size, hsize, by rw [← hindex]⟩

/-- A loop is in range exactly if it does not run, or its last round is in range. -/
theorem inRange_loop {n offset : ℕ} {sizes : List ℕ} :
    InRange (loop n offset sizes) ↔ n = 0 ∨ ∀ size ∈ sizes, n + offset ≤ size := by
  constructor
  · intro h
    cases n with
    | zero => exact .inl rfl
    | succ n =>
        right
        intro size hsize
        have hlast := h ⟨n + offset, size⟩ (mem_loop.mpr ⟨n, Nat.lt_succ_self n, rfl, hsize⟩)
        change n + offset < size at hlast
        omega
  · rintro h ⟨index, size⟩ ha
    obtain ⟨i, hi, hindex, hsize⟩ := mem_loop.mp ha
    change index < size
    change index = i + offset at hindex
    rcases h with rfl | h
    · omega
    · have hbound := h size hsize
      omega

/-- A loop that ends with the shortest of its arrays. -/
def guarded (size : ℕ) (sizes : List ℕ) : List ArrayAccess :=
  loop (sizes.foldr min size) 0 (size :: sizes)

theorem foldr_min_le {size : ℕ} {sizes : List ℕ} {s : ℕ} (hs : s ∈ size :: sizes) :
    sizes.foldr min size ≤ s := by
  induction sizes with
  | nil =>
      rw [List.mem_singleton] at hs
      exact Nat.le_of_eq hs.symm
  | cons t sizes ih =>
      rw [List.foldr_cons]
      rcases List.mem_cons.mp hs with rfl | hs
      · exact Nat.le_trans (Nat.min_le_right _ _) (ih List.mem_cons_self)
      · rcases List.mem_cons.mp hs with rfl | hs
        · exact Nat.min_le_left _ _
        · exact Nat.le_trans (Nat.min_le_right _ _) (ih (List.mem_cons_of_mem _ hs))

@[simp] theorem inRange_guarded (size : ℕ) (sizes : List ℕ) : InRange (guarded size sizes) := by
  apply inRange_loop.mpr
  right
  intro s hs
  have hle := foldr_min_le hs
  omega

end ArrayAccess
