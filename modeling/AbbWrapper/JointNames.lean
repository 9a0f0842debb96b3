import AbbWrapper.ControllerBridge

/-! # The names of the joints

The constructor of the bridge numbers the names by segment, and sizes them by joint.  Fixed joints are
segments and not joints, so that the two agree only where these come last.

* `FixedLast` says that no fixed joint comes before one that moves.
* `LoopInRange` says that the loop of the constructor writes in range from some segment on; in an array
  with one element for each joint that moves that is so exactly if the fixed joints come last
  (`loopInRange_iff`).
* `nameLoop_eq` has the names that are written then.
* `Publishes` says that the published names and positions are those of the joints of the chain, in their
  order.

The names are those of the joints exactly if the fixed joints come last (`publishes_iff`).  A fixed joint
at the base, which robot descriptions have, is enough to break it (`publishes_fixed_base`). -/

namespace AbbWrapper

open ArrayAccess KDL

/-- No fixed joint comes before one that moves. -/
def FixedLast (segments : List Segment) : Prop :=
  segments.Pairwise fun segment later => later.movable = true → segment.movable = true

instance (segments : List Segment) : Decidable (FixedLast segments) :=
  inferInstanceAs (Decidable (List.Pairwise _ segments))

theorem fixedLast_cons {segment : Segment} {segments : List Segment} :
    FixedLast (segment :: segments) ↔
      (segment.movable = true ∨ segments.countP Segment.movable = 0) ∧ FixedLast segments := by
  unfold FixedLast
  rw [List.pairwise_cons, List.countP_eq_zero]
  refine and_congr_left' ?_
  by_cases hmovable : segment.movable = true
  · simp [hmovable]
  · simp [hmovable]

theorem movable_iff {segment : Segment} : segment.movable = true ↔ segment.joint.type ≠ .none := by
  rw [Segment.movable, decide_eq_true_iff]

/-! ### The loop -/

@[simp] theorem length_nameLoop (i : ℕ) (segments : List Segment) (names : List Text) :
    (nameLoop i segments names).length = names.length := by
  induction segments generalizing i names with
  | nil => rfl
  | cons segment segments ih =>
      rw [nameLoop]
      split
      · exact ih _ _
      · rw [ih, List.length_set]

/-- Names in front of the `i`-th are not written. -/
theorem nameLoop_append (i : ℕ) (segments : List Segment) (before names : List Text)
    (hi : before.length ≤ i) :
    nameLoop i segments (before ++ names) =
      before ++ nameLoop (i - before.length) segments names := by
  induction segments generalizing i names with
  | nil => rfl
  | cons segment segments ih =>
      have hnext : i + 1 - before.length = i - before.length + 1 := by omega
      rw [nameLoop, nameLoop]
      split
      · rw [ih (i + 1) names (by omega), hnext]
      · rw [List.set_append_right i _ hi, ih (i + 1) _ (by omega), hnext]

/-- The loop starts at the `i`-th of `size` elements and writes in range. -/
def LoopInRange (i : ℕ) (segments : List Segment) (size : ℕ) : Prop :=
  ∀ k segment, segments[k]? = some segment → segment.movable = true → i + k < size

theorem loopInRange_cons {i size : ℕ} {segment : Segment} {segments : List Segment} :
    LoopInRange i (segment :: segments) size ↔
      (segment.movable = true → i < size) ∧ LoopInRange (i + 1) segments size := by
  constructor
  · intro h
    refine ⟨h 0 segment rfl, ?_⟩
    intro k later hk hmovable
    have hlater := h (k + 1) later hk hmovable
    omega
  · rintro ⟨hfirst, hrest⟩ k later hk hmovable
    cases k with
    | zero =>
        obtain rfl := Option.some.inj hk
        exact hfirst hmovable
    | succ k =>
        have hlater := hrest k later hk hmovable
        omega

theorem inRange_nameLoopAccesses {i : ℕ} {segments : List Segment} {names : List Text} :
    InRange (nameLoopAccesses i segments names) ↔ LoopInRange i segments names.length := by
  induction segments generalizing i names with
  | nil =>
      constructor
      · intro _ k segment hk
        cases hk
      · intro _
        exact inRange_nil
  | cons segment segments ih =>
      rw [nameLoopAccesses, loopInRange_cons, movable_iff]
      by_cases hfixed : segment.joint.type = .none
      · rw [if_pos hfixed, ih]
        simp [hfixed]
      · rw [if_neg hfixed, ← List.singleton_append, inRange_append, ih, List.length_set]
        refine and_congr_left' ?_
        simp [InRange, hfixed]

/-- The last joint that moves is behind all the others. -/
theorem LoopInRange.countP_le {i size : ℕ} {segments : List Segment}
    (h : LoopInRange i segments size) :
    segments.countP Segment.movable = 0 ∨ i + segments.countP Segment.movable ≤ size := by
  induction segments generalizing i with
  | nil => exact .inl rfl
  | cons segment segments ih =>
      obtain ⟨hfirst, hrest⟩ := loopInRange_cons.mp h
      rw [List.countP_cons]
      rcases ih hrest with hzero | hle
      · by_cases hmovable : segment.movable = true
        · have hi := hfirst hmovable
          rw [if_pos hmovable, hzero]
          right
          omega
        · rw [if_neg hmovable, hzero]
          exact .inl rfl
      · right
        split
        · omega
        · omega

theorem loopInRange_of_countP_eq_zero {i size : ℕ} {segments : List Segment}
    (h : segments.countP Segment.movable = 0) : LoopInRange i segments size := by
  intro k segment hk hmovable
  rw [List.countP_eq_zero] at h
  exact absurd hmovable (h segment (List.mem_of_getElem? hk))

/-- **In an array of one element for each joint that moves, the writes are in range exactly if the
fixed joints come last.** -/
theorem loopInRange_iff {i : ℕ} {segments : List Segment} :
    LoopInRange i segments (i + segments.countP Segment.movable) ↔ FixedLast segments := by
  induction segments generalizing i with
  | nil =>
      constructor
      · intro _
        exact List.Pairwise.nil
      · intro _ k segment hk
        cases hk
  | cons segment segments ih =>
      rw [loopInRange_cons, fixedLast_cons, List.countP_cons]
      by_cases hmovable : segment.movable = true
      · have hsize : i + (segments.countP Segment.movable + 1) =
            i + 1 + segments.countP Segment.movable := by omega
        rw [if_pos hmovable, hsize, ih]
        constructor
        · rintro ⟨-, hlast⟩
          exact ⟨.inl hmovable, hlast⟩
        · rintro ⟨-, hlast⟩
          exact ⟨fun _ => by omega, hlast⟩
      · rw [if_neg hmovable, add_zero]
        constructor
        · rintro ⟨-, hrest⟩
          have hzero : segments.countP Segment.movable = 0 := by
            rcases hrest.countP_le with hzero | hle
            · exact hzero
            · omega
          exact ⟨.inr hzero, (ih (i := 0)).mp (loopInRange_of_countP_eq_zero hzero)⟩
        · rintro ⟨hzero, -⟩
          refine ⟨fun h => absurd h hmovable, ?_⟩
          exact loopInRange_of_countP_eq_zero (hzero.resolve_left hmovable)

/-- The names that are written when the fixed joints come last. -/
theorem nameLoop_eq {segments : List Segment} (h : FixedLast segments) (names : List Text)
    (hnames : names.length = segments.countP Segment.movable) :
    nameLoop 0 segments names =
      (segments.filter Segment.movable).map (fun segment => segment.joint.name) := by
  induction segments generalizing names with
  | nil =>
      rw [List.countP_nil, List.length_eq_zero_iff] at hnames
      rw [hnames]
      rfl
  | cons segment segments ih =>
      obtain ⟨hfirst, hrest⟩ := fixedLast_cons.mp h
      rw [List.countP_cons] at hnames
      by_cases hmovable : segment.movable = true
      · rw [if_pos hmovable] at hnames
        cases names with
        | nil => simp at hnames
        | cons name names =>
            rw [nameLoop, if_neg (movable_iff.mp hmovable), List.set_cons_zero,
              ← List.singleton_append, nameLoop_append _ _ _ _ (Nat.le_refl 1),
              List.filter_cons_of_pos hmovable, List.map_cons]
            exact congrArg _ (ih hrest names (by simpa using hnames))
      · have hzero := hfirst.resolve_left hmovable
        rw [if_neg hmovable, hzero, add_zero, List.length_eq_zero_iff] at hnames
        have hfilter : segments.filter Segment.movable = [] :=
          List.filter_eq_nil_iff.mpr (List.countP_eq_zero.mp hzero)
        rw [List.filter_cons_of_neg hmovable, hfilter, List.map_nil, hnames,
          ← List.length_eq_zero_iff, length_nameLoop]
        rfl

/-! ### The names and the positions -/

theorem length_joints (chain : Chain) : chain.joints.length = chain.nrOfJoints := by
  rw [Chain.joints, List.length_map, chain.nrOfJoints_eq, List.countP_eq_length_filter]

theorem jointNamesAccesses_inRange (chain : Chain) :
    InRange (jointNamesAccesses chain) ↔ FixedLast chain.segments := by
  rw [jointNamesAccesses, inRange_nameLoopAccesses, List.length_replicate, chain.nrOfJoints_eq,
    ← loopInRange_iff (i := 0), zero_add]

namespace ControllerBridge

variable {α : Type} [Field α]

/-- What is published for the joints of the chain, in their order: the names that the construction
leaves, and the positions that every round of `run` stores and passes on. -/
structure Publishes (α : Type) [Field α] (chain : Chain) : Prop where
  inRange : InRange (jointNamesAccesses chain)
  length : (init chain : ControllerBridge α).jointCurrName.length = chain.joints.length
  name : ∀ k : ℕ, (init chain : ControllerBridge α).jointCurrName[k]? =
    (chain.joints[k]?).map Joint.name
  position : ∀ (isFinite : α → Bool) (b : ControllerBridge α) (input : Input α),
    b.kdlChain = chain → (b.run isFinite (some input)).1.jointCurrPosition =
      (b.run isFinite (some input)).1.qMsr ∧
    (b.run isFinite (some input)).1.qMsr.length = chain.joints.length

theorem run_position (isFinite : α → Bool) (b : ControllerBridge α) (input : Input α) :
    (b.run isFinite (some input)).1.jointCurrPosition = measuredJoints b.kdlChain input ∧
      (b.run isFinite (some input)).1.qMsr = measuredJoints b.kdlChain input := by
  unfold run runJoints runPose
  dsimp only
  split_ifs <;> exact ⟨rfl, rfl⟩

/-- **The names are those of the joints exactly if the fixed joints come last.** -/
theorem publishes_iff (chain : Chain) : Publishes α chain ↔ FixedLast chain.segments := by
  constructor
  · intro h
    exact (jointNamesAccesses_inRange chain).mp h.inRange
  · intro h
    have hnames : jointNames chain = chain.joints.map Joint.name := by
      rw [jointNames, nameLoop_eq h _ (by rw [List.length_replicate, chain.nrOfJoints_eq]),
        Chain.joints, List.map_map]
      rfl
    refine ⟨(jointNamesAccesses_inRange chain).mpr h, ?_, ?_, ?_⟩
    · change (jointNames chain).length = _
      rw [hnames, List.length_map]
    · intro k
      change (jointNames chain)[k]? = _
      rw [hnames, List.getElem?_map]
    · rintro isFinite b input rfl
      obtain ⟨hposition, hmeasured⟩ := run_position isFinite b input
      rw [hposition, hmeasured]
      exact ⟨rfl, by rw [length_measuredJoints, length_joints]⟩

/-- A fixed joint at the base: the name of the only joint that moves is written behind the end. -/
theorem publishes_fixed_base :
    ¬Publishes ℚ (.ofSegments [⟨⟨['b'], .none⟩⟩, ⟨⟨['j'], .rotZ⟩⟩]) := by
  intro h
  exact absurd h.inRange (by decide)

end ControllerBridge

end AbbWrapper
