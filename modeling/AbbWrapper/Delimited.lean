import Mathlib.Algebra.BigOperators.Group.List.Basic
import Mathlib.Algebra.Order.BigOperators.Group.List
import Mathlib.Algebra.Order.Ring.Int
import Mathlib.Data.Int.Basic
import Mathlib.Data.List.Chain
import Mathlib.Data.List.Infix

/-! # Delimited lists

Lists are cut at a separator, and consecutive pieces are put together again until the weights of
their elements add up to zero: that is how a list of parts is read whose parts can hold separators
within brackets.  The weights are any function into the integers (for brackets: one, minus one, and zero
for everything else).

* `groups n pieces` puts pieces together, from the sum `n` on.  Nothing is put into the groups but the
  pieces, in order (`flatten_groups_prefix`), and pieces that close are read back (`groups_flatten`).
* `Unbroken` says that at no separator of a text the sum is zero.
* `parts` are the parts of a text, without the empty pieces, and `Whole` says that a text is read as one
  part.  Texts that are whole, joined by separators, are read back (`parts_intercalate`).
* Texts between two elements whose weights cancel are whole if their own are (`whole_enclosed`), which is
  the step of every induction over nested lists.
* Conversely, parts that have enough pieces are whole (`whole_of_parts`). -/

namespace Delimited

variable {α β : Type}

/-! ### Groups -/

section groups
variable (weight : β → ℤ)

/-- Consecutive pieces are grouped until their weights add up to zero; `n` is the sum and `group`
are the pieces so far. -/
def groups : ℤ → List β → List β → List (List β)
  | _, _, [] => []
  | n, group, b :: bs =>
      if n + weight b = 0 then (group ++ [b]) :: groups 0 [] bs
      else groups (n + weight b) (group ++ [b]) bs

/-- From the sum `n` on, the sum is zero at the end and nowhere before. -/
def Closes : ℤ → List β → Prop
  | _, [] => False
  | n, b :: bs => if n + weight b = 0 then bs = [] else Closes (n + weight b) bs

variable {weight}

theorem groups_append {n : ℤ} {g : List β} (hg : Closes weight n g) (group bs : List β) :
    groups weight n group (g ++ bs) = (group ++ g) :: groups weight 0 [] bs := by
  induction g generalizing n group with
  | nil => exact hg.elim
  | cons b g ih =>
      rw [List.cons_append, groups]
      by_cases hn : n + weight b = 0
      · rw [Closes, if_pos hn] at hg
        rw [if_pos hn, hg, List.nil_append]
      · rw [Closes, if_neg hn] at hg
        rw [if_neg hn, ih hg, List.append_assoc]
        rfl

/-- Lists that close are read back. -/
theorem groups_flatten {gs : List (List β)} (hgs : ∀ g ∈ gs, Closes weight 0 g) :
    groups weight 0 [] gs.flatten = gs := by
  induction gs with
  | nil => rfl
  | cons g gs ih =>
      rw [List.forall_mem_cons] at hgs
      rw [List.flatten_cons, groups_append hgs.1, ih hgs.2, List.nil_append]

theorem groups_closes {n : ℤ} {group bs : List β} :
    ∀ g ∈ groups weight n group bs, Closes weight 0 g ∨ ∃ g', g = group ++ g' ∧ Closes weight n g' := by
  induction bs generalizing n group with
  | nil => exact List.forall_mem_nil _
  | cons b bs ih =>
      rw [groups]
      by_cases hn : n + weight b = 0
      · rw [if_pos hn, List.forall_mem_cons]
        refine ⟨.inr ⟨[b], rfl, ?_⟩, ?_⟩
        · rw [Closes, if_pos hn]
        · intro g hg
          rcases ih g hg with h | ⟨g', rfl, h⟩
          · exact .inl h
          · exact .inl h
      · rw [if_neg hn]
        intro g hg
        rcases ih g hg with h | ⟨g', rfl, h⟩
        · exact .inl h
        · refine .inr ⟨b :: g', by rw [List.append_assoc]; rfl, ?_⟩
          rwa [Closes, if_neg hn]

theorem closes_of_mem_groups {bs g : List β} (hg : g ∈ groups weight 0 [] bs) :
    Closes weight 0 g := by
  rcases groups_closes g hg with h | ⟨g', rfl, h⟩
  · exact h
  · exact h

/-- Nothing is put into the groups but the pieces, in order; the last ones may be left over. -/
theorem flatten_groups_prefix {n : ℤ} {g bs : List β} :
    (groups weight n g bs).flatten <+: g ++ bs := by
  induction bs generalizing n g with
  | nil => exact List.nil_prefix
  | cons b bs ih =>
      rw [groups]
      split
      · rw [List.flatten_cons, ← List.append_cons]
        obtain ⟨rest, hrest⟩ := ih (n := 0) (g := [])
        rw [List.nil_append] at hrest
        exact ⟨rest, by rw [List.append_assoc, List.cons_append, hrest]⟩
      · have h := ih (n := n + weight b) (g := g ++ [b])
        rwa [← List.append_cons] at h

end groups

/-- Groups that are pointwise at least as long as `hs`, and all together at most as long as what
satisfies `p` of `hs`, are as long as `hs`, and all of `hs` satisfies `p`. -/
theorem lengths_eq {p : β → Bool} {gs hs : List (List β)}
    (hle : List.Forall₂ (fun g h => h.length ≤ g.length) gs hs)
    (hsum : (gs.map List.length).sum ≤ (hs.map (fun h => (h.filter p).length)).sum) :
    List.Forall₂ (fun g h => g.length = h.length ∧ ∀ b ∈ h, p b) gs hs := by
  induction hle with
  | nil => exact .nil
  | @cons g h gs hs hgh hrest ih =>
      have hfilter := List.length_filter_le p h
      have htail : (hs.map (fun h => (h.filter p).length)).sum ≤ (gs.map List.length).sum := by
        clear ih hsum
        induction hrest with
        | nil => exact le_rfl
        | cons hgh _ ih =>
            simp only [List.map_cons, List.sum_cons]
            exact Nat.add_le_add ((List.length_filter_le p _).trans hgh) ih
      simp only [List.map_cons, List.sum_cons] at hsum
      refine .cons ⟨by omega, ?_⟩ (ih (by omega))
      exact List.length_filter_eq_length_iff.mp (by omega)

theorem eq_of_flatten_eq {gs hs : List (List β)}
    (hlengths : List.Forall₂ (fun g h => g.length = h.length) gs hs)
    (hflatten : gs.flatten = hs.flatten) : gs = hs := by
  induction hlengths with
  | nil => rfl
  | cons hgh _ ih =>
      rw [List.flatten_cons, List.flatten_cons] at hflatten
      obtain ⟨rfl, hrest⟩ := List.append_inj hflatten hgh
      rw [ih hrest]

/-! ### Texts -/

section text
variable {sep : α} {weight : α → ℤ}

/-- The sum of the weights of a text. -/
def total (weight : α → ℤ) (t : List α) : ℤ := (t.map weight).sum

/-- At no separator is the sum of the weights zero. -/
def Unbroken (sep : α) (weight : α → ℤ) : ℤ → List α → Prop
  | _, [] => True
  | n, a :: t => (a = sep → n ≠ 0) ∧ Unbroken sep weight (n + weight a) t

@[simp] theorem total_nil : total weight [] = 0 := rfl

@[simp] theorem total_cons (a : α) (t : List α) :
    total weight (a :: t) = weight a + total weight t := by
  rw [total, List.map_cons, List.sum_cons]
  rfl

@[simp] theorem total_append (s t : List α) :
    total weight (s ++ t) = total weight s + total weight t := by
  rw [total, List.map_append, List.sum_append]
  rfl

theorem unbroken_append {n : ℤ} {s t : List α} : Unbroken sep weight n (s ++ t) ↔
    Unbroken sep weight n s ∧ Unbroken sep weight (n + total weight s) t := by
  induction s generalizing n with
  | nil => simp [Unbroken]
  | cons a s ih => simp [Unbroken, ih, and_assoc, add_assoc]

theorem unbroken_of_not_mem {n : ℤ} {t : List α} (h : sep ∉ t) : Unbroken sep weight n t := by
  induction t generalizing n with
  | nil => trivial
  | cons a t ih =>
      rw [List.mem_cons, not_or] at h
      exact ⟨fun ha => absurd ha.symm h.1, ih h.2⟩

/-- The sums at the separators, written out. -/
theorem unbroken_iff {n : ℤ} {t : List α} : Unbroken sep weight n t ↔
    ∀ before after, t = before ++ sep :: after → n + total weight before ≠ 0 := by
  induction t generalizing n with
  | nil => simp [Unbroken]
  | cons a t ih =>
      constructor
      · rintro ⟨ha, ht⟩ before after heq
        cases before with
        | nil =>
            obtain ⟨rfl, rfl⟩ := List.cons.inj heq
            simpa using ha rfl
        | cons b before =>
            obtain ⟨rfl, rfl⟩ := List.cons.inj heq
            have h := ih.mp ht before after rfl
            rwa [total_cons, ← add_assoc]
      · intro h
        refine ⟨?_, ih.mpr ?_⟩
        · rintro rfl
          simpa using h [] t rfl
        · rintro before after rfl
          have h := h (a :: before) after rfl
          rwa [total_cons, ← add_assoc] at h

theorem total_intercalate {ts : List (List α)} (hsep : weight sep = 0)
    (hts : ∀ t ∈ ts, total weight t = 0) : total weight ([sep].intercalate ts) = 0 := by
  induction ts with
  | nil => rfl
  | cons t ts ih =>
      rw [List.forall_mem_cons] at hts
      cases ts with
      | nil => simpa using hts.1
      | cons u ts =>
          rw [List.intercalate_cons_cons, total_append, total_append, hts.1, ih hts.2, total_cons,
            total_nil, hsep]
          rfl

theorem unbroken_intercalate {n : ℤ} {ts : List (List α)} (hsep : weight sep = 0)
    (hts : ∀ t ∈ ts, total weight t = 0) : Unbroken sep weight n ([sep].intercalate ts) ↔
      (∀ t ∈ ts, Unbroken sep weight n t) ∧ (n = 0 → ts.length ≤ 1) := by
  induction ts with
  | nil => simp [Unbroken]
  | cons t ts ih =>
      rw [List.forall_mem_cons] at hts
      cases ts with
      | nil => simp
      | cons u ts =>
          rw [List.intercalate_cons_cons, List.append_assoc, unbroken_append, hts.1, add_zero,
            List.singleton_append, Unbroken, hsep, add_zero, ih hts.2]
          simp only [List.length_cons, forall_const]
          constructor
          · rintro ⟨ht, hn, hrest, -⟩
            exact ⟨List.forall_mem_cons.mpr ⟨ht, hrest⟩, fun h => absurd h hn⟩
          · rintro ⟨hall, hn⟩
            obtain ⟨ht, hrest⟩ := List.forall_mem_cons.mp hall
            have hn : n ≠ 0 := fun h => by have := hn h; omega
            exact ⟨ht, hn, hrest, fun h => absurd h hn⟩

end text

/-! ### The parts of a text -/

section parts
variable [DecidableEq α] (sep : α) (weight : α → ℤ)

/-- The parts of a text: its pieces between separators, without the empty ones, are put together
until their weights add up to zero. -/
def parts (t : List α) : List (List α) :=
  (groups (total weight) 0 [] ((t.splitOn sep).filter (· ≠ []))).map [sep].intercalate

/-- A text that is read as one part. -/
structure Whole (t : List α) : Prop where
  pieces : ∀ piece ∈ t.splitOn sep, piece ≠ []
  unbroken : Unbroken sep weight 0 t
  total : total weight t = 0

variable {sep weight}

theorem closes_splitOn (hsep : weight sep = 0) {n : ℤ} {t : List α} :
    Closes (total weight) n (t.splitOn sep) ↔ Unbroken sep weight n t ∧ n + total weight t = 0 := by
  induction t generalizing n with
  | nil => simp [Closes, Unbroken, List.splitOn_nil]
  | cons a t ih =>
      have hne := List.splitOn_ne_nil sep t
      rw [List.splitOn_cons_eq_if_modifyHead]
      by_cases ha : a = sep
      · subst ha
        rw [if_pos (beq_self_eq_true a), Closes, Unbroken, total_nil, add_zero, total_cons, hsep,
          zero_add, add_zero]
        by_cases hn : n = 0
        · simp [hn, hne]
        · simp [hn, ih]
      · rw [if_neg (by simpa using ha), Unbroken, total_cons, ← add_assoc, and_assoc, ← ih,
          and_iff_right (fun h => absurd h ha)]
        cases hpieces : t.splitOn sep with
        | nil => exact absurd hpieces hne
        | cons piece pieces => simp [Closes, add_assoc]

theorem whole_iff (hsep : weight sep = 0) {t : List α} : Whole sep weight t ↔
    (∀ piece ∈ t.splitOn sep, piece ≠ []) ∧ Closes (total weight) 0 (t.splitOn sep) := by
  rw [closes_splitOn hsep, zero_add]
  exact ⟨fun h => ⟨h.1, h.2, h.3⟩, fun h => ⟨h.1, h.2.1, h.2.2⟩⟩

theorem splitOn_intercalate_flatten {ts : List (List α)} (hts : ts ≠ []) :
    ([sep].intercalate ts).splitOn sep = (ts.map (List.splitOn sep)).flatten := by
  induction ts with
  | nil => exact absurd rfl hts
  | cons t ts ih =>
      cases ts with
      | nil => simp
      | cons u ts =>
          rw [List.intercalate_cons_cons, List.append_assoc, List.singleton_append,
            List.splitOn_append_cons_self, ih (List.cons_ne_nil u ts)]
          rfl

theorem length_splitOn (t : List α) : (t.splitOn sep).length = t.count sep + 1 := by
  induction t with
  | nil => rfl
  | cons a t ih =>
      rw [List.splitOn_cons_eq_if_modifyHead, List.count_cons]
      split <;> simp [ih]

/-- After the first piece none is empty if no two separators are next to each other and the text does
not end with one. -/
theorem tail_splitOn_iff {t : List α} : (∀ piece ∈ (t.splitOn sep).tail, piece ≠ []) ↔
    t.IsChain (fun a b => a = sep → b ≠ sep) ∧ t.getLast? ≠ some sep := by
  induction t with
  | nil => simp [List.splitOn_nil]
  | cons a t ih =>
      rw [List.splitOn_cons_eq_if_modifyHead]
      by_cases ha : a = sep
      · subst ha
        rw [if_pos (beq_self_eq_true a), List.tail_cons]
        cases t with
        | nil => simp [List.splitOn_nil]
        | cons b t =>
            rw [List.splitOn_cons_eq_if_modifyHead] at ih ⊢
            by_cases hb : b = a
            · simp [hb]
            · rw [if_neg (by simpa using hb)] at ih ⊢
              cases hpieces : t.splitOn a with
              | nil => exact absurd hpieces (List.splitOn_ne_nil a t)
              | cons piece pieces =>
                  rw [hpieces] at ih
                  simpa [List.isChain_cons_cons, hb] using ih
      · rw [if_neg (by simpa using ha)]
        cases hpieces : t.splitOn sep with
        | nil => exact absurd hpieces (List.splitOn_ne_nil sep t)
        | cons piece pieces =>
            rw [hpieces] at ih
            rw [List.modifyHead_cons, List.tail_cons]
            refine ih.trans ?_
            cases t with
            | nil => simp [ha]
            | cons b t => simp [List.isChain_cons_cons, ha]

/-- The pieces of a text between two elements that are no separators. -/
theorem pieces_enclosed {t : List α} {x y : α} (hx : x ≠ sep) (hy : y ≠ sep) :
    (∀ piece ∈ (x :: (t ++ [y])).splitOn sep, piece ≠ []) ↔
      t.IsChain (fun a b => a = sep → b ≠ sep) := by
  have htail : (∀ piece ∈ ((t ++ [y]).splitOn sep).tail, piece ≠ []) ↔ _ := tail_splitOn_iff
  rw [List.splitOn_cons_eq_if_modifyHead, if_neg (by simpa using hx)]
  cases hpieces : (t ++ [y]).splitOn sep with
  | nil => exact absurd hpieces (List.splitOn_ne_nil sep (t ++ [y]))
  | cons piece pieces =>
      rw [hpieces, List.tail_cons] at htail
      rw [List.modifyHead_cons, List.forall_mem_cons, and_iff_right (List.cons_ne_nil x piece), htail]
      simp [List.isChain_append, hy]

/-- What is put before a text belongs to its first piece. -/
theorem pieces_append_left {before t : List α} (hbefore : sep ∉ before)
    (h : ∀ piece ∈ t.splitOn sep, piece ≠ []) : ∀ piece ∈ (before ++ t).splitOn sep, piece ≠ [] := by
  induction before with
  | nil => exact h
  | cons a before ih =>
      rw [List.mem_cons, not_or] at hbefore
      rw [List.cons_append, List.splitOn_cons_eq_if_modifyHead,
        if_neg (by simpa using Ne.symm hbefore.1)]
      have hrest := ih hbefore.2
      cases hpieces : (before ++ t).splitOn sep with
      | nil => exact absurd hpieces (List.splitOn_ne_nil sep _)
      | cons piece pieces =>
          rw [hpieces, List.forall_mem_cons] at hrest
          rw [List.modifyHead_cons, List.forall_mem_cons]
          exact ⟨List.cons_ne_nil a piece, hrest.2⟩

/-- The pieces of joined texts are those of the texts. -/
theorem pieces_intercalate {ts : List (List α)} (hts : ts ≠ [])
    (h : ∀ t ∈ ts, ∀ piece ∈ t.splitOn sep, piece ≠ []) :
    ∀ piece ∈ ([sep].intercalate ts).splitOn sep, piece ≠ [] := by
  intro piece hpiece
  rw [splitOn_intercalate_flatten hts, List.mem_flatten] at hpiece
  obtain ⟨pieces, hpieces, hmem⟩ := hpiece
  obtain ⟨t, ht, rfl⟩ := List.mem_map.mp hpieces
  exact h t ht piece hmem

section enclosed
variable {opening closing : α} {before : List α} {ts : List (List α)}

omit [DecidableEq α] in
/-- Between the two elements the sum is the weight of the opening one. -/
theorem unbroken_enclosed_intercalate {n : ℤ} (hsep : weight sep = 0) (hopening : opening ≠ sep)
    (hclosing : closing ≠ sep) (hn : n + weight opening ≠ 0) (hbefore : sep ∉ before)
    (htotal : total weight before = 0) (hts : ∀ t ∈ ts, total weight t = 0) :
    Unbroken sep weight n (before ++ opening :: ([sep].intercalate ts ++ [closing])) ↔
      ∀ t ∈ ts, Unbroken sep weight (n + weight opening) t := by
  rw [unbroken_append, and_iff_right (unbroken_of_not_mem hbefore), htotal, add_zero, Unbroken,
    and_iff_right (fun h => absurd h hopening), unbroken_append, unbroken_intercalate hsep hts,
    and_assoc]
  refine and_iff_left ⟨fun h => absurd h hn, ?_⟩
  exact unbroken_of_not_mem (by simpa using hclosing.symm)

/-- **Whole texts between two elements whose weights cancel are a whole text.** -/
theorem whole_enclosed (hsep : weight sep = 0) (hopening : opening ≠ sep) (hclosing : closing ≠ sep)
    (hweight : weight opening ≠ 0) (hweights : weight opening + weight closing = 0)
    (hbefore : sep ∉ before) (htotal : total weight before = 0) (hne : ts ≠ [])
    (hwhole : ∀ t ∈ ts, Whole sep weight t)
    (hunbroken : ∀ t ∈ ts, Unbroken sep weight (weight opening) t) :
    Whole sep weight (before ++ opening :: ([sep].intercalate ts ++ [closing])) := by
  have htotals : ∀ t ∈ ts, Delimited.total weight t = 0 := fun t ht => (hwhole t ht).total
  refine ⟨pieces_append_left hbefore ?_, ?_, ?_⟩
  · rw [pieces_enclosed hopening hclosing]
    apply (tail_splitOn_iff.mp _).1
    intro piece hpiece
    exact pieces_intercalate hne (fun t ht => (hwhole t ht).pieces) piece (List.mem_of_mem_tail hpiece)
  · rw [unbroken_enclosed_intercalate hsep hopening hclosing (by rwa [zero_add]) hbefore htotal
      htotals, zero_add]
    exact hunbroken
  · rw [total_append, htotal, total_cons, total_append, total_intercalate hsep htotals, total_cons,
      total_nil]
    omega

end enclosed

/-- **Whole texts are read back.** -/
theorem parts_intercalate (hsep : weight sep = 0) {ts : List (List α)} (hts : ts ≠ [])
    (hwhole : ∀ t ∈ ts, Whole sep weight t) : parts sep weight ([sep].intercalate ts) = ts := by
  have hfilter : ((ts.map (List.splitOn sep)).flatten).filter (· ≠ []) =
      (ts.map (List.splitOn sep)).flatten := by
    rw [List.filter_eq_self]
    intro piece hpiece
    obtain ⟨pieces, hpieces, hmem⟩ := List.mem_flatten.mp hpiece
    obtain ⟨t, ht, rfl⟩ := List.mem_map.mp hpieces
    exact decide_eq_true ((hwhole t ht).pieces piece hmem)
  have hcloses : ∀ pieces ∈ ts.map (List.splitOn sep), Closes (total weight) 0 pieces := by
    intro pieces hpieces
    obtain ⟨t, ht, rfl⟩ := List.mem_map.mp hpieces
    exact ((whole_iff hsep).mp (hwhole t ht)).2
  rw [parts, splitOn_intercalate_flatten hts, hfilter, groups_flatten hcloses, List.map_map]
  conv_rhs => rw [← List.map_id ts]
  apply List.map_congr_left
  intro t _
  exact List.intercalate_splitOn sep

theorem not_mem_of_mem_splitOn {t piece : List α} (h : piece ∈ t.splitOn sep) : sep ∉ piece := by
  induction t generalizing piece with
  | nil =>
      rw [List.splitOn_nil, List.mem_singleton] at h
      simp [h]
  | cons a t ih =>
      rw [List.splitOn_cons_eq_if_modifyHead] at h
      by_cases ha : a = sep
      · rw [if_pos (by simpa using ha), List.mem_cons] at h
        rcases h with rfl | h
        · exact List.not_mem_nil
        · exact ih h
      · rw [if_neg (by simpa using ha)] at h
        cases hpieces : t.splitOn sep with
        | nil => exact absurd hpieces (List.splitOn_ne_nil sep t)
        | cons first pieces =>
            rw [hpieces] at h ih
            rw [List.modifyHead_cons, List.mem_cons] at h
            rcases h with rfl | h
            · rw [List.mem_cons, not_or]
              exact ⟨fun h => ha h.symm, ih List.mem_cons_self⟩
            · exact ih (List.mem_cons_of_mem first h)

/-- A part has the pieces that it was put together from. -/
theorem splitOn_parts (t : List α) : (parts sep weight t).map (List.splitOn sep) =
    groups (total weight) 0 [] ((t.splitOn sep).filter (· ≠ [])) := by
  rw [parts, List.map_map]
  conv_rhs => rw [← List.map_id (groups _ _ _ _)]
  apply List.map_congr_left
  intro g hg
  apply List.splitOn_intercalate sep
  · intro piece hpiece
    have hmem := flatten_groups_prefix.subset (List.mem_flatten.mpr ⟨g, hg, hpiece⟩)
    rw [List.nil_append, List.mem_filter] at hmem
    exact not_mem_of_mem_splitOn hmem.1
  · rintro rfl
    exact closes_of_mem_groups hg

/-- The parts of a text have at most as many pieces as the text. -/
theorem pieces_parts_le (t : List α) :
    ((parts sep weight t).map (fun u => u.count sep + 1)).sum ≤ t.count sep + 1 := by
  have hcounts : (parts sep weight t).map (fun u => u.count sep + 1) =
      ((parts sep weight t).map (List.splitOn sep)).map List.length := by
    rw [List.map_map]
    apply List.map_congr_left
    intro u _
    exact (length_splitOn u).symm
  rw [hcounts, splitOn_parts, ← List.length_flatten, ← length_splitOn]
  exact flatten_groups_prefix.length_le.trans (List.length_filter_le _ _)

/-- **Parts that have enough pieces are whole**: if every part that is read from joined texts has at
least as many separators as the text in its place, all of them are whole. -/
theorem whole_of_parts (hsep : weight sep = 0) {ts : List (List α)} (hts : ts ≠ [])
    (h : List.Forall₂ (fun u t => t.count sep ≤ u.count sep)
      (parts sep weight ([sep].intercalate ts)) ts) : ∀ t ∈ ts, Whole sep weight t := by
  have hle : List.Forall₂ (fun g h => h.length ≤ g.length)
      ((parts sep weight ([sep].intercalate ts)).map (List.splitOn sep))
      (ts.map (List.splitOn sep)) := by
    rw [List.forall₂_map_left_iff, List.forall₂_map_right_iff]
    apply h.imp
    intro u t hut
    rw [length_splitOn, length_splitOn]
    omega
  rw [splitOn_parts, splitOn_intercalate_flatten hts] at hle
  generalize hpieces : ts.map (List.splitOn sep) = pieces at hle
  generalize hgroups : groups (total weight) 0 [] (pieces.flatten.filter (· ≠ [])) = gs at hle
  have hprefix : gs.flatten <+: pieces.flatten.filter (· ≠ []) := by
    rw [← hgroups]
    exact flatten_groups_prefix
  have hsum : (gs.map List.length).sum ≤
      (pieces.map (fun h => (h.filter (· ≠ [])).length)).sum := by
    rw [← List.length_flatten]
    refine hprefix.length_le.trans_eq ?_
    rw [List.filter_flatten, List.length_flatten, List.map_map]
    rfl
  have hlengths := lengths_eq hle hsum
  -- as many pieces are in the groups as there are, so that none is empty and none is left over
  have hfull : ∀ h ∈ pieces, ∀ piece ∈ h, piece ≠ [] := by
    clear hpieces hgroups hprefix hsum hle
    induction hlengths with
    | nil => exact List.forall_mem_nil _
    | cons hgh _ ih =>
        exact List.forall_mem_cons.mpr ⟨fun piece hpiece => of_decide_eq_true (hgh.2 piece hpiece), ih⟩
  have hflatten : gs.flatten = pieces.flatten := by
    have hfilter : pieces.flatten.filter (· ≠ []) = pieces.flatten := by
      rw [List.filter_eq_self]
      intro piece hpiece
      obtain ⟨h, hh, hmem⟩ := List.mem_flatten.mp hpiece
      exact decide_eq_true (hfull h hh piece hmem)
    rw [hfilter] at hprefix
    apply hprefix.eq_of_length
    rw [List.length_flatten, List.length_flatten]
    clear hpieces hgroups hprefix hsum hle hfull hfilter
    induction hlengths with
    | nil => rfl
    | cons hgh _ ih => rw [List.map_cons, List.map_cons, List.sum_cons, List.sum_cons, hgh.1, ih]
  have heq : gs = pieces := eq_of_flatten_eq (hlengths.imp fun _ _ h => h.1) hflatten
  intro t ht
  have hmem : t.splitOn sep ∈ pieces := hpieces ▸ List.mem_map_of_mem ht
  refine (whole_iff hsep).mpr ⟨hfull _ hmem, ?_⟩
  rw [← heq, ← hgroups] at hmem
  exact closes_of_mem_groups hmem

end parts

end Delimited
