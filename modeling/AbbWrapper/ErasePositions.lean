import AbbWrapper.RapidReading

/-! # The positions that are erased

Every character that the parsers of RAPID data remove is removed with `std::string::erase`, which
throws an exception for a position past the end.  Positions that come from a search that failed wrap
around to `npos`.

* `Erasure` is a call of `erase(position, 1)` on a text, and `InRange` says that no exception is thrown.
* `erasures`, `bracketErasures`, `mergeErasures` and `extractErasures` list what the functions of the
  source erase, in order and up to an exception.
* `Erasable` is the condition on a text: what is read into a string is neither empty nor a quote alone,
  and what is read into a record does not begin with its only closing bracket, and an opening one behind.

The parser returns exactly for the erasable texts (`parseString_returns_iff`), and then every position
that is erased is at most the length of the text it is erased from; an exception is an erasure past the
end (`erasures_inRange_iff`). -/

namespace AbbWrapper

open Delimited

/-- A call of `erase(position, 1)` on a text of this size; `none` is `npos`. -/
structure Erasure where
  position : Option ℕ
  size : ℕ
deriving DecidableEq, Repr

namespace Erasure

/-- No exception is thrown. -/
def InRange (e : Erasure) : Prop := ∃ position ∈ e.position, position ≤ e.size

theorem inRange_some {position size : ℕ} : InRange ⟨some position, size⟩ ↔ position ≤ size := by
  simp [InRange]

theorem not_inRange_none (size : ℕ) : ¬InRange ⟨none, size⟩ := by simp [InRange]

theorem isSome_erase_iff (t : Text) (position : Option ℕ) :
    (Text.erase t position).isSome = true ↔ InRange ⟨position, t.length⟩ := by
  cases position with
  | none => simp [Text.erase, not_inRange_none]
  | some position =>
      rw [Text.erase, inRange_some]
      split
      · rename_i hle
        simp [hle]
      · rename_i hnot
        simp [hnot]

end Erasure

open Erasure

namespace Text

theorem findFirstOf_lt {t : Text} {character : Char} {position : ℕ}
    (h : findFirstOf t character = some position) : position < t.length :=
  (List.findIdx?_eq_some_iff_findIdx_eq.mp h).1

theorem findLastOf_cons (first character : Char) (rest : Text) :
    findLastOf (first :: rest) character =
      if character ∈ rest then (findLastOf rest character).map (· + 1)
      else if first = character then some 0 else none := by
  unfold findLastOf
  rw [List.reverse_cons, List.findIdx?_append]
  by_cases hmem : character ∈ rest
  · have hsome : (rest.reverse.findIdx? (· == character)).isSome = true := by
      rw [List.findIdx?_isSome, List.any_reverse, List.any_eq_true]
      exact ⟨character, hmem, beq_self_eq_true character⟩
    obtain ⟨i, hi⟩ := Option.isSome_iff_exists.mp hsome
    have hlt := (List.findIdx?_eq_some_iff_findIdx_eq.mp hi).1
    rw [List.length_reverse] at hlt
    rw [if_pos hmem, hi]
    simp only [Option.some_or, Option.map_some, List.length_cons, Option.some.injEq]
    omega
  · have hnone : rest.reverse.findIdx? (· == character) = none := by
      rw [List.findIdx?_eq_none_iff]
      intro x hx
      rw [List.mem_reverse] at hx
      exact beq_eq_false_iff_ne.mpr fun h => hmem (h ▸ hx)
    rw [if_neg hmem, hnone]
    by_cases hfirst : first = character
    · simp [hfirst]
    · simp [hfirst]

theorem findLastOf_lt {t : Text} {character : Char} {position : ℕ}
    (h : findLastOf t character = some position) : position < t.length := by
  obtain ⟨i, hi, rfl⟩ := Option.map_eq_some_iff.mp h
  have hlt := (List.findIdx?_eq_some_iff_findIdx_eq.mp hi).1
  rw [List.length_reverse] at hlt
  omega

theorem findLastOf_eq_zero_iff {t : Text} {character : Char} :
    findLastOf t character = some 0 ↔ ∃ rest, t = character :: rest ∧ character ∉ rest := by
  cases t with
  | nil => simp [findLastOf]
  | cons first rest =>
      rw [findLastOf_cons]
      by_cases hmem : character ∈ rest
      · rw [if_pos hmem]
        simp [hmem]
      · rw [if_neg hmem]
        by_cases hfirst : first = character
        · simp [hfirst, hmem]
        · simp [hfirst]

theorem findFirstOf_eq_none_iff {t : Text} {character : Char} :
    findFirstOf t character = none ↔ character ∉ t := by
  unfold findFirstOf
  rw [List.findIdx?_eq_none_iff]
  constructor
  · intro h hmem
    exact beq_eq_false_iff_ne.mp (h character hmem) rfl
  · intro hmem x hx
    exact beq_eq_false_iff_ne.mpr fun h => hmem (h ▸ hx)

theorem findLastOf_eq_none_iff {t : Text} {character : Char} :
    findLastOf t character = none ↔ character ∉ t := by
  unfold findLastOf
  rw [Option.map_eq_none_iff, ← List.mem_reverse]
  exact findFirstOf_eq_none_iff

theorem findFirstOf_eq_some_iff {t : Text} {character : Char} {position : ℕ} :
    findFirstOf t character = some position ↔
      ∃ before after, t = before ++ character :: after ∧ character ∉ before ∧
        before.length = position := by
  constructor
  · intro h
    obtain ⟨hlt, hcharacter, hbefore⟩ := List.findIdx?_eq_some_iff_getElem.mp h
    refine ⟨t.take position, t.drop (position + 1), ?_, ?_, List.length_take_of_le hlt.le⟩
    · rw [← eq_of_beq hcharacter, List.getElem_cons_drop, List.take_append_drop]
    · intro hmem
      obtain ⟨i, hi, hget⟩ := List.mem_take_iff_getElem.mp hmem
      have hne := hbefore i (by omega)
      rw [hget, beq_self_eq_true] at hne
      exact hne rfl
  · rintro ⟨before, after, rfl, hbefore, rfl⟩
    unfold findFirstOf
    have hnone : before.findIdx? (· == character) = none := findFirstOf_eq_none_iff.mpr hbefore
    rw [List.findIdx?_append, hnone, List.findIdx?_cons, if_pos (beq_self_eq_true character)]
    simp

theorem findLastOf_eq_some_iff {t : Text} {character : Char} {position : ℕ} :
    findLastOf t character = some position ↔
      ∃ before after, t = before ++ character :: after ∧ character ∉ after ∧
        before.length = position := by
  have hlast : findLastOf t character = some position ↔
      ∃ i, findFirstOf t.reverse character = some i ∧ t.length - 1 - i = position :=
    Option.map_eq_some_iff
  rw [hlast]
  constructor
  · rintro ⟨i, hi, rfl⟩
    obtain ⟨after, before, heq, hafter, rfl⟩ := findFirstOf_eq_some_iff.mp hi
    rw [List.reverse_eq_iff, List.reverse_append, List.reverse_cons, List.append_assoc,
      List.singleton_append] at heq
    refine ⟨before.reverse, after.reverse, heq, by rwa [List.mem_reverse], ?_⟩
    rw [heq, List.length_append, List.length_cons, List.length_reverse, List.length_reverse]
    omega
  · rintro ⟨before, after, rfl, hafter, rfl⟩
    refine ⟨after.length, findFirstOf_eq_some_iff.mpr
      ⟨after.reverse, before.reverse, ?_, by rwa [List.mem_reverse], List.length_reverse⟩, ?_⟩
    · simp
    · rw [List.length_append, List.length_cons]
      omega

end Text

/-! ### `countCharInString` -/

/-- The number of the characters, which are erased one by one, and what is erased. -/
def countCharInString (input : Text) (character : Char) : ℕ × List Erasure :=
  match h : Text.findFirstOf input character with
  | some position =>
      let rest := countCharInString (input.eraseIdx position) character
      (rest.1 + 1, ⟨some position, input.length⟩ :: rest.2)
  | none => (0, [])
termination_by input.length
decreasing_by
  have hlt := Text.findFirstOf_lt h
  rw [List.length_eraseIdx_of_lt hlt]
  omega

theorem countCharInString_some {input : Text} {character : Char} {position : ℕ}
    (h : Text.findFirstOf input character = some position) : countCharInString input character =
      ((countCharInString (input.eraseIdx position) character).1 + 1,
        ⟨some position, input.length⟩ :: (countCharInString (input.eraseIdx position) character).2) := by
  rw [countCharInString]
  split
  · rename_i position' h'
    obtain rfl := Option.some.inj (h.symm.trans h')
    rfl
  · rename_i h'
    cases h.symm.trans h'

theorem countCharInString_none {input : Text} {character : Char}
    (h : Text.findFirstOf input character = none) : countCharInString input character = (0, []) := by
  rw [countCharInString]
  split
  · rename_i h'
    cases h.symm.trans h'
  · rfl

/-- **The loop counts**, and never erases past the end. -/
theorem countCharInString_spec (input : Text) (character : Char) :
    (countCharInString input character).1 = input.count character ∧
      ∀ e ∈ (countCharInString input character).2, e.InRange := by
  induction hn : input.length generalizing input with
  | zero =>
      rw [List.length_eq_zero_iff.mp hn, countCharInString_none rfl]
      exact ⟨rfl, List.forall_mem_nil _⟩
  | succ n ih =>
      cases hfind : Text.findFirstOf input character with
      | none =>
          rw [countCharInString_none hfind]
          refine ⟨?_, List.forall_mem_nil _⟩
          rw [List.count_eq_zero_of_not_mem (Text.findFirstOf_eq_none_iff.mp hfind)]
      | some position =>
          have hlt := Text.findFirstOf_lt hfind
          have hlength := List.length_eraseIdx_of_lt hlt
          obtain ⟨hcount, herasures⟩ := ih (input.eraseIdx position) (by omega)
          rw [countCharInString_some hfind]
          refine ⟨?_, List.forall_mem_cons.mpr ⟨inRange_some.mpr hlt.le, herasures⟩⟩
          have hcharacter : input[position] = character := by
            have h := (List.findIdx?_eq_some_iff_getElem.mp hfind).2.1
            exact eq_of_beq h
          have hperm := (List.getElem_cons_eraseIdx_perm hlt).count_eq character
          rw [hcharacter, List.count_cons_self] at hperm
          rw [hcount, hperm]

/-! ### `RAPIDString` -/

namespace RAPIDString

/-- What `unquote` erases. -/
def erasures (valueString : Text) : List Erasure :=
  let leading := Text.findFirstOf valueString quote = some 0
  let temp : Text := if leading then valueString.eraseIdx 0 else valueString
  let position := Text.findLastOf temp quote
  (if leading then [⟨some 0, valueString.length⟩] else []) ++
    if position = temp.length.ppred then [⟨position, temp.length⟩] else []

/-- A text with something besides a quote. -/
def Erasable (t : Text) : Prop := t ≠ [] ∧ t ≠ [quote]

/-- The text after the first `if` is empty exactly if it was, or was a quote. -/
theorem leading_eq_nil_iff (t : Text) :
    (if Text.findFirstOf t quote = some 0 then t.eraseIdx 0 else t) = [] ↔ ¬Erasable t := by
  unfold Erasable
  rw [not_and_or, not_not, not_not]
  cases t with
  | nil => simp [Text.findFirstOf]
  | cons first rest =>
      by_cases hfirst : first = quote
      · subst hfirst
        rw [if_pos (Text.findFirstOf_cons rest quote)]
        simp
      · have hne : Text.findFirstOf (first :: rest) quote ≠ some 0 := by
          intro h
          obtain ⟨before, after, heq, -, hlength⟩ := Text.findFirstOf_eq_some_iff.mp h
          rw [List.length_eq_zero_iff.mp hlength, List.nil_append] at heq
          exact hfirst (List.cons.inj heq).1
        rw [if_neg hne]
        simp [hfirst]

/-- The last quote is erased at a position of the text, unless the text is empty. -/
theorem erase_last_inRange_iff (temp : Text) :
    (∀ e ∈ (if Text.findLastOf temp quote = temp.length.ppred
      then [⟨Text.findLastOf temp quote, temp.length⟩] else [] : List Erasure), e.InRange) ↔
        temp ≠ [] := by
  cases temp with
  | nil => simp [Text.findLastOf, not_inRange_none]
  | cons first rest =>
      refine ⟨fun _ => List.cons_ne_nil first rest, fun _ => ?_⟩
      split
      · rename_i hposition
        rw [List.forall_mem_singleton, hposition, List.length_cons, Nat.ppred_succ, inRange_some]
        omega
      · exact List.forall_mem_nil _

theorem leading_inRange (t : Text) :
    ∀ e ∈ (if Text.findFirstOf t quote = some 0 then [⟨some 0, t.length⟩] else [] : List Erasure),
      e.InRange := by
  split
  · rw [List.forall_mem_singleton, inRange_some]
    exact Nat.zero_le _
  · exact List.forall_mem_nil _

theorem erasures_inRange_iff (t : Text) : (∀ e ∈ erasures t, e.InRange) ↔ Erasable t := by
  have h := erase_last_inRange_iff (if Text.findFirstOf t quote = some 0 then t.eraseIdx 0 else t)
  rw [ne_eq, leading_eq_nil_iff, not_not] at h
  unfold erasures
  rw [List.forall_mem_append, and_iff_right (leading_inRange t)]
  exact h

theorem isSome_unquote_iff (t : Text) :
    (unquote t).isSome = true ↔ ∀ e ∈ erasures t, e.InRange := by
  unfold unquote erasures
  rw [List.forall_mem_append, and_iff_right (leading_inRange t)]
  generalize (if Text.findFirstOf t quote = some 0 then t.eraseIdx 0 else t) = temp
  simp only
  split
  · rw [List.forall_mem_singleton, isSome_erase_iff]
  · simp

end RAPIDString

/-! ### `RAPIDRecord` -/

/-- What `removeBrackets` erases. -/
def bracketErasures (input : Text) : List Erasure :=
  match Text.findFirstOf input '[', Text.findLastOf input ']' with
  | some position₁, some position₂ =>
      [⟨some position₁, input.length⟩, ⟨position₂.ppred, (input.eraseIdx position₁).length⟩]
  | _, _ => []

/-- What the loop over the pieces erases, of the copies in `countCharInString`. -/
def mergeErasures (pieces : List Text) : List Erasure :=
  pieces.flatMap fun temp₁ => if temp₁ = [] then []
    else (countCharInString temp₁ '[').2 ++ (countCharInString temp₁ ']').2

def extractErasures (input : Text) : List Erasure :=
  bracketErasures input ++ ((removeBrackets input).elim [] fun temp₀ => mergeErasures (temp₀.splitOn ','))

/-- There is an opening bracket, and the only closing bracket is the first character. -/
def ClosesFirst (t : Text) : Prop := '[' ∈ t ∧ ∃ rest, t = ']' :: rest ∧ ']' ∉ rest

/-- What is left of a text without its brackets: if the last closing bracket comes before the first
opening one, the character before it is missing instead. -/
inductive Inner : Text → Text → Prop where
  | enclosed (before text after : Text) (hbefore : '[' ∉ before) (hafter : ']' ∉ after) :
      Inner (before ++ '[' :: (text ++ ']' :: after)) (before ++ (text ++ after))
  | crossed (before text after : Text) (character : Char) (htext : '[' ∉ before ++ character :: text)
      (hclosing : ']' ∉ text) (hafter : ']' ∉ after) :
      Inner (before ++ character :: ']' :: (text ++ '[' :: after)) (before ++ ']' :: (text ++ after))
  | whole (t : Text) (h : '[' ∉ t ∨ ']' ∉ t) : Inner t t

theorem mergeErasures_inRange (pieces : List Text) : ∀ e ∈ mergeErasures pieces, e.InRange := by
  intro e he
  obtain ⟨temp₁, -, hmem⟩ := List.mem_flatMap.mp he
  split at hmem
  · cases hmem
  · rw [List.mem_append] at hmem
    rcases hmem with hmem | hmem
    · exact (countCharInString_spec temp₁ '[').2 e hmem
    · exact (countCharInString_spec temp₁ ']').2 e hmem

theorem closesFirst_iff (t : Text) :
    ClosesFirst t ↔ '[' ∈ t ∧ Text.findLastOf t ']' = some 0 := by
  rw [ClosesFirst, Text.findLastOf_eq_zero_iff]

theorem bracketErasures_inRange_iff (t : Text) :
    (∀ e ∈ bracketErasures t, e.InRange) ↔ ¬ClosesFirst t := by
  rw [closesFirst_iff]
  unfold bracketErasures
  cases hfirst : Text.findFirstOf t '[' with
  | none =>
      have hmem := Text.findFirstOf_eq_none_iff.mp hfirst
      simp [hmem]
  | some position₁ =>
      have hmem : '[' ∈ t := by
        by_contra hnot
        rw [Text.findFirstOf_eq_none_iff.mpr hnot] at hfirst
        cases hfirst
      have hlt := Text.findFirstOf_lt hfirst
      cases hlast : Text.findLastOf t ']' with
      | none => simp
      | some position₂ =>
          have hlt₂ := Text.findLastOf_lt hlast
          simp only [List.forall_mem_cons, inRange_some, hlt.le, hmem, Option.some.injEq, true_and]
          cases position₂ with
          | zero => simp [not_inRange_none]
          | succ position₂ =>
              rw [Nat.ppred_succ, List.length_eraseIdx_of_lt hlt, inRange_some]
              simp only [List.not_mem_nil, false_imp_iff, implies_true, and_true]
              omega

theorem isSome_removeBrackets_iff (t : Text) :
    (removeBrackets t).isSome = true ↔ ∀ e ∈ bracketErasures t, e.InRange := by
  unfold removeBrackets bracketErasures
  cases hfirst : Text.findFirstOf t '[' with
  | none => simp
  | some position₁ =>
      have hle := (Text.findFirstOf_lt hfirst).le
      cases Text.findLastOf t ']' with
      | none => simp
      | some position₂ => simp [isSome_erase_iff, inRange_some, hle]

theorem eraseIdx_length (before after : Text) (character : Char) :
    (before ++ character :: after).eraseIdx before.length = before ++ after := by
  rw [List.eraseIdx_append_of_length_le le_rfl, Nat.sub_self, List.eraseIdx_cons_zero]

/-- What `removeBrackets` leaves of a text with both brackets. -/
theorem removeBrackets_of_some {t : Text} {position₁ position₂ : ℕ}
    (hfirst : Text.findFirstOf t '[' = some position₁)
    (hlast : Text.findLastOf t ']' = some (position₂ + 1)) :
    removeBrackets t = some ((t.eraseIdx position₁).eraseIdx position₂) := by
  have hlt₁ := Text.findFirstOf_lt hfirst
  have hlt₂ := Text.findLastOf_lt hlast
  unfold removeBrackets
  rw [hfirst, hlast]
  simp only [Nat.ppred_succ, Text.erase]
  rw [if_pos]
  rw [List.length_eraseIdx_of_lt hlt₁]
  omega

theorem removeBrackets_of_inner {t u : Text} (h : Inner t u) : removeBrackets t = some u := by
  cases h with
  | enclosed before text after hbefore hafter =>
      have hfirst := Text.findFirstOf_eq_some_iff.mpr
        ⟨before, text ++ ']' :: after, rfl, hbefore, rfl⟩
      have hlast : Text.findLastOf (before ++ '[' :: (text ++ ']' :: after)) ']' =
          some (before ++ '[' :: text).length :=
        Text.findLastOf_eq_some_iff.mpr ⟨before ++ '[' :: text, after, by simp, hafter, rfl⟩
      have hlength : (before ++ '[' :: text).length = (before ++ text).length + 1 := by
        simp only [List.length_append, List.length_cons]
        omega
      rw [hlength] at hlast
      rw [removeBrackets_of_some hfirst hlast, eraseIdx_length, ← List.append_assoc,
        eraseIdx_length, List.append_assoc]
  | crossed before text after character htext hclosing hafter =>
      have hfirst : Text.findFirstOf (before ++ character :: ']' :: (text ++ '[' :: after)) '[' =
          some (before ++ character :: ']' :: text).length :=
        Text.findFirstOf_eq_some_iff.mpr
          ⟨before ++ character :: ']' :: text, after, by simp, by simpa using htext, rfl⟩
      have hlast : Text.findLastOf (before ++ character :: ']' :: (text ++ '[' :: after)) ']' =
          some (before ++ [character]).length :=
        Text.findLastOf_eq_some_iff.mpr
          ⟨before ++ [character], text ++ '[' :: after, by simp, by simp [hclosing, hafter], rfl⟩
      rw [List.length_append, List.length_singleton] at hlast
      have hsplit : before ++ character :: ']' :: (text ++ '[' :: after) =
          (before ++ character :: ']' :: text) ++ '[' :: after := by simp
      rw [removeBrackets_of_some hfirst hlast, hsplit, eraseIdx_length, List.append_assoc,
        List.cons_append, eraseIdx_length]
      rfl
  | whole t h =>
      unfold removeBrackets
      rcases h with h | h
      · rw [Text.findFirstOf_eq_none_iff.mpr h]
      · rw [Text.findLastOf_eq_none_iff.mpr h]
        cases Text.findFirstOf t '[' <;> rfl

theorem exists_inner {t : Text} (h : ¬ClosesFirst t) : ∃ u, Inner t u := by
  cases hfirst : Text.findFirstOf t '[' with
  | none => exact ⟨t, .whole t (.inl (Text.findFirstOf_eq_none_iff.mp hfirst))⟩
  | some position₁ =>
      cases hlast : Text.findLastOf t ']' with
      | none => exact ⟨t, .whole t (.inr (Text.findLastOf_eq_none_iff.mp hlast))⟩
      | some position₂ =>
          obtain ⟨before, after, rfl, hbefore, -⟩ := Text.findFirstOf_eq_some_iff.mp hfirst
          obtain ⟨before', after', heq, hafter', rfl⟩ := Text.findLastOf_eq_some_iff.mp hlast
          rcases List.append_eq_append_iff.mp heq with ⟨text, rfl, htext⟩ | ⟨text, rfl, htext⟩
          -- the opening bracket comes first
          · cases text with
            | nil => simp at htext
            | cons first text =>
                rw [List.cons_append] at htext
                obtain ⟨rfl, rfl⟩ := List.cons.inj htext
                exact ⟨_, .enclosed before text after' hbefore hafter'⟩
          · cases text with
            | nil => simp at htext
            | cons first text =>
                rw [List.cons_append] at htext
                obtain ⟨rfl, rfl⟩ := List.cons.inj htext
                rw [List.mem_append, List.mem_cons, not_or, not_or] at hafter'
                rcases List.eq_nil_or_concat before' with rfl | ⟨before', character, rfl⟩
                · rw [closesFirst_iff, hlast] at h
                  exact absurd ⟨by simp, rfl⟩ h
                · have hinner := Inner.crossed before' text after character (by simpa using hbefore)
                    hafter'.1 hafter'.2.2
                  exact ⟨before' ++ ']' :: (text ++ after), by simpa using hinner⟩

theorem removeBrackets_eq_some_iff {t u : Text} : removeBrackets t = some u ↔ Inner t u := by
  constructor
  · intro h
    have hcloses : ¬ClosesFirst t := by
      rw [← bracketErasures_inRange_iff, ← isSome_removeBrackets_iff, h]
      rfl
    obtain ⟨v, hv⟩ := exists_inner hcloses
    rw [removeBrackets_of_inner hv] at h
    rwa [← Option.some.inj h]
  · exact removeBrackets_of_inner

/-! ### Types -/

namespace RAPIDType

mutual

/-- What `parseString` erases, up to an exception. -/
def erasures : RAPIDType → Text → List Erasure
  | .bool, _ => []
  | .num, _ => []
  | .dnum, _ => []
  | .string, t => RAPIDString.erasures t
  | .record _ components, t =>
      extractErasures t ++
        match extractDelimitedSubstrings t with
        | some substrings =>
            if components.length = substrings.length then erasuresAll components substrings else []
        | none => []

def erasuresAll : List RAPIDType → List Text → List Erasure
  | component :: components, substring :: substrings =>
      erasures component substring ++
        if returns component substring then erasuresAll components substrings else []
  | _, _ => []

end

mutual

/-- No text of a string is empty or a quote, and in no text of a record does the only closing bracket
come first; what is left of it is read as far as there are as many parts as components. -/
def Erasable : RAPIDType → Text → Prop
  | .bool, _ => True
  | .num, _ => True
  | .dnum, _ => True
  | .string, t => RAPIDString.Erasable t
  | .record _ components, t => ¬ClosesFirst t ∧ ∀ u, Inner t u →
      components.length = (parts ',' bracket u).length → ErasableAll components (parts ',' bracket u)

def ErasableAll : List RAPIDType → List Text → Prop
  | component :: components, substring :: substrings =>
      Erasable component substring ∧ ErasableAll components substrings
  | _, _ => True

end

theorem returnsAll_iff {components : List RAPIDType}
    (h : ∀ component ∈ components, ∀ t, component.returns t = true ↔ component.Erasable t)
    (substrings : List Text) :
    returnsAll components substrings = true ↔ ErasableAll components substrings := by
  induction components generalizing substrings with
  | nil => cases substrings <;> simp [returnsAll, ErasableAll]
  | cons first rest ih =>
      rw [List.forall_mem_cons] at h
      cases substrings with
      | nil => simp [returnsAll, ErasableAll]
      | cons substring substrings =>
          rw [returnsAll, ErasableAll, Bool.and_eq_true, h.1, ih h.2]

/-- **The parser returns exactly for the erasable texts.** -/
theorem returns_iff (τ : RAPIDType) (t : Text) : τ.returns t = true ↔ τ.Erasable t := by
  induction τ generalizing t with
  | bool => exact ⟨fun _ => trivial, fun _ => rfl⟩
  | num => exact ⟨fun _ => trivial, fun _ => rfl⟩
  | dnum => exact ⟨fun _ => trivial, fun _ => rfl⟩
  | string =>
      rw [returns, Erasable, RAPIDString.isSome_unquote_iff, RAPIDString.erasures_inRange_iff]
  | record recordTypeName components ih =>
      rw [returns, Erasable, extractDelimitedSubstrings_eq, ← bracketErasures_inRange_iff,
        ← isSome_removeBrackets_iff]
      simp only [← removeBrackets_eq_some_iff]
      cases removeBrackets t with
      | none => simp
      | some u =>
          simp only [Option.map_some, Option.isSome_some, true_and, Option.some.injEq,
            forall_eq', Bool.or_eq_true, bne_iff_ne, returnsAll_iff ih]
          exact imp_iff_not_or.symm

theorem erasuresAll_inRange_iff {components : List RAPIDType}
    (h : ∀ component ∈ components, ∀ t,
      (∀ e ∈ component.erasures t, e.InRange) ↔ component.returns t = true)
    (substrings : List Text) :
    (∀ e ∈ erasuresAll components substrings, e.InRange) ↔
      returnsAll components substrings = true := by
  induction components generalizing substrings with
  | nil => cases substrings <;> simp [returnsAll, erasuresAll]
  | cons first rest ih =>
      rw [List.forall_mem_cons] at h
      cases substrings with
      | nil => simp [returnsAll, erasuresAll]
      | cons substring substrings =>
          rw [returnsAll, erasuresAll, List.forall_mem_append, h.1, Bool.and_eq_true]
          apply and_congr_right
          intro hreturns
          rw [if_pos hreturns, ih h.2]

/-- **An exception is an erasure past the end.** -/
theorem erasures_inRange_iff (τ : RAPIDType) (t : Text) :
    (∀ e ∈ τ.erasures t, e.InRange) ↔ τ.returns t = true := by
  induction τ generalizing t with
  | bool => exact ⟨fun _ => rfl, fun _ => List.forall_mem_nil _⟩
  | num => exact ⟨fun _ => rfl, fun _ => List.forall_mem_nil _⟩
  | dnum => exact ⟨fun _ => rfl, fun _ => List.forall_mem_nil _⟩
  | string => rw [returns, erasures, RAPIDString.isSome_unquote_iff]
  | record recordTypeName components ih =>
      rw [returns, erasures, extractErasures, List.forall_mem_append, List.forall_mem_append,
        ← isSome_removeBrackets_iff]
      unfold extractDelimitedSubstrings
      cases removeBrackets t with
      | none => simp
      | some u =>
          rw [Option.isSome_some, and_iff_right rfl, Option.elim_some,
            and_iff_right (mergeErasures_inRange _), Option.map_some]
          simp only [Bool.or_eq_true, bne_iff_ne]
          by_cases hcount : components.length = (mergeLoop 0 [] (u.splitOn ',')).length
          · rw [if_pos hcount, erasuresAll_inRange_iff ih]
            simp [hcount]
          · rw [if_neg hcount]
            simp [hcount]

end RAPIDType

namespace RAPIDSymbolData

variable {ν δ : Type} [Streamed ν] [Streamed δ]

/-- **No exception is thrown exactly for the erasable texts**, and then every position that is erased is
at most the length of the text that it is erased from. -/
theorem parseString_returns_iff (data : RAPIDSymbolData ν δ) (valueString : Text) :
    ((data.parseString valueString).1 = true ↔ data.type.Erasable valueString) ∧
      ((∀ e ∈ data.type.erasures valueString, e.InRange) ↔ data.type.Erasable valueString) := by
  rw [parseString_fst, RAPIDType.erasures_inRange_iff]
  exact ⟨data.type.returns_iff valueString, data.type.returns_iff valueString⟩

end RAPIDSymbolData

/-- A quote alone is no text of a string, and of a record of one `num` the text `][1` is none. -/
theorem RAPIDSymbolData.parseString_throws :
    ((.string [] : RAPIDSymbolData (Fin 10) (Fin 10)).parseString [quote]).1 = false ∧
      (∃ e ∈ RAPIDType.erasures .string [quote], ¬e.InRange) ∧
      ((.record [] [.num 0] : RAPIDSymbolData (Fin 10) (Fin 10)).parseString [']', '[', '1']).1 =
        false ∧
      ∃ e ∈ RAPIDType.erasures (.record [] [.num]) [']', '[', '1'], ¬e.InRange := by
  refine ⟨by decide, ⟨⟨none, 0⟩, by decide, not_inRange_none 0⟩, by decide,
    ⟨⟨none, 2⟩, ?_, not_inRange_none 2⟩⟩
  decide

end AbbWrapper
