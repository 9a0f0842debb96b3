import AbbWrapper.Rapid

/-! # The texts of RAPID data

What the parsers do to a text: `extractDelimitedSubstrings` reads the parts of what is left without
the outer brackets (`extractDelimitedSubstrings_eq`), and neither it nor the parser of a string ever
adds a comma.

* `bracket` weighs the characters, so that the brackets that are open are the total of a text.  With it
  the loop of the source is the splitting at separators that are not enclosed (`mergeLoop_eq`).
* `unquote`, `removeBrackets` and `erase` leave sublists of their texts (`unquote_sublist`,
  `removeBrackets_sublist`, `erase_sublist`), and give back what has been quoted or put in brackets.
* `count_join` counts the separators of joined texts.

There is an induction over the tree of a record, with one case for a list of components (`induct`). -/

namespace AbbWrapper

open Delimited

/-- An opening bracket counts one, a closing one minus one. -/
def bracket (character : Char) : ℤ :=
  if character = '[' then 1 else if character = ']' then -1 else 0

theorem bracket_comma : bracket ',' = 0 := rfl

theorem total_bracket (t : Text) : total bracket t = t.count '[' - t.count ']' := by
  induction t with
  | nil => rfl
  | cons character t ih =>
      rw [total_cons, ih, bracket, List.count_cons, List.count_cons]
      by_cases hopen : character = '['
      · subst hopen
        simp
        omega
      · by_cases hclose : character = ']'
        · subst hclose
          simp
          omega
        · simp [hopen, hclose]

namespace Text

theorem findLastOf_append (t : Text) (character : Char) :
    findLastOf (t ++ [character]) character = some t.length := by
  simp [findLastOf, List.findIdx?_cons]

theorem findFirstOf_cons (t : Text) (character : Char) :
    findFirstOf (character :: t) character = some 0 := by
  simp [findFirstOf, List.findIdx?_cons]

theorem erase_append (t : Text) (character : Char) :
    erase (t ++ [character]) (some t.length) = some t := by
  simp [erase, List.eraseIdx_append_of_length_le]

theorem erase_sublist {t u : Text} {position : Option ℕ} (h : erase t position = some u) :
    u.Sublist t := by
  unfold erase at h
  split at h
  · split at h
    · rw [← Option.some.inj h]
      exact List.eraseIdx_sublist _ _
    · cases h
  · cases h

end Text

namespace RAPIDString

theorem unquote_quoted (value : Text) : unquote (quote :: (value ++ [quote])) = some value := by
  unfold unquote
  rw [if_pos (Text.findFirstOf_cons _ _), List.eraseIdx_cons_zero]
  simp only [Text.findLastOf_append, List.length_append, List.length_singleton, Nat.ppred_succ,
    if_true]
  exact Text.erase_append value quote

theorem unquote_sublist {t u : Text} (h : unquote t = some u) : u.Sublist t := by
  unfold unquote at h
  have htemp : (if Text.findFirstOf t quote = some 0 then t.eraseIdx 0 else t).Sublist t := by
    split
    · exact List.eraseIdx_sublist _ _
    · exact List.Sublist.refl t
  generalize (if Text.findFirstOf t quote = some 0 then t.eraseIdx 0 else t) = temp at h htemp
  simp only at h
  split at h
  · exact (Text.erase_sublist h).trans htemp
  · rw [← Option.some.inj h]
    exact htemp

end RAPIDString

theorem removeBrackets_bracketed (t : Text) : removeBrackets ('[' :: (t ++ [']'])) = some t := by
  have hlast : Text.findLastOf ('[' :: (t ++ [']'])) ']' = some (t.length + 1) :=
    Text.findLastOf_append ('[' :: t) ']'
  unfold removeBrackets
  rw [Text.findFirstOf_cons, hlast]
  exact Text.erase_append t ']'

theorem removeBrackets_sublist {t u : Text} (h : removeBrackets t = some u) : u.Sublist t := by
  unfold removeBrackets at h
  split at h
  · exact (Text.erase_sublist h).trans (List.eraseIdx_sublist _ _)
  · rw [← Option.some.inj h]

theorem intercalate_append_singleton (group : List Text) (piece : Text) :
    [','].intercalate (group ++ [piece]) = group.flatMap (· ++ [',']) ++ piece := by
  induction group with
  | nil => simp
  | cons first group ih =>
      rw [List.cons_append, List.intercalate_cons_of_ne_nil (by simp), ih, List.flatMap_cons]
      simp only [List.append_assoc]

/-- The loop groups the pieces; `group` are those that `temp₂` holds. -/
theorem mergeLoop_eq (counter : ℤ) (group pieces : List Text) :
    mergeLoop counter (group.flatMap (· ++ [','])) pieces =
      (groups (total bracket) counter group (pieces.filter (· ≠ []))).map [','].intercalate := by
  induction pieces generalizing counter group with
  | nil => rfl
  | cons piece pieces ih =>
      rw [mergeLoop]
      by_cases hpiece : piece = []
      · rw [if_pos hpiece, List.filter_cons_of_neg (by simpa using hpiece)]
        exact ih counter group
      · have hcounter : counter + piece.count '[' - piece.count ']' =
            counter + total bracket piece := by
          rw [total_bracket]
          omega
        have hmerged : (if group.flatMap (· ++ [',']) ≠ [] then
            group.flatMap (· ++ [',']) ++ piece else piece) =
              [','].intercalate (group ++ [piece]) := by
          rw [intercalate_append_singleton]
          split
          · rfl
          · rename_i hempty
            rw [not_not.mp hempty, List.nil_append]
        have hgroup : group.flatMap (· ++ [',']) ++ (piece ++ [',']) =
            (group ++ [piece]).flatMap (· ++ [',']) := by
          rw [List.flatMap_append, List.flatMap_singleton]
        simp only
        rw [if_neg hpiece, List.filter_cons_of_pos (by simpa using hpiece), groups, hcounter,
          hmerged, hgroup]
        by_cases hclosed : counter + total bracket piece = 0
        · rw [if_pos hclosed, if_pos hclosed, List.map_cons, hclosed]
          exact congrArg _ (ih 0 [])
        · rw [if_neg hclosed, if_neg hclosed]
          exact ih _ _

theorem extractDelimitedSubstrings_eq (input : Text) : extractDelimitedSubstrings input =
    (removeBrackets input).map (parts ',' bracket) := by
  unfold extractDelimitedSubstrings
  congr 1
  funext t
  exact mergeLoop_eq 0 [] (t.splitOn ',')

/-- The separators of joined texts are their own and those between them. -/
theorem count_join {ts : List Text} (hts : ts ≠ []) :
    (join ts).count ',' + 1 = (ts.map (fun t => t.count ',' + 1)).sum := by
  rw [← length_splitOn, join, splitOn_intercalate_flatten hts, List.length_flatten, List.map_map]
  congr 1
  apply List.map_congr_left
  intro t _
  exact length_splitOn t

namespace RAPIDSymbolData

variable {ν δ : Type}

/-- Induction over the tree of a record. -/
@[induction_eliminator]
theorem induct {motive : RAPIDSymbolData ν δ → Prop} (bool : ∀ value, motive (.bool value))
    (num : ∀ value, motive (.num value)) (dnum : ∀ value, motive (.dnum value))
    (string : ∀ value, motive (.string value))
    (record : ∀ recordTypeName components, (∀ component ∈ components, motive component) →
      motive (.record recordTypeName components)) (data : RAPIDSymbolData ν δ) : motive data :=
  @RAPIDSymbolData.rec ν δ motive (fun components => ∀ component ∈ components, motive component)
    bool num dnum string record (List.forall_mem_nil _)
    (fun _ _ hcomponent hcomponents => List.forall_mem_cons.mpr ⟨hcomponent, hcomponents⟩) data

theorem types_eq (components : List (RAPIDSymbolData ν δ)) : types components = components.map type := by
  induction components with
  | nil => rfl
  | cons component components ih => rw [types, ih, List.map_cons]

theorem length_eq_of_types {components components' : List (RAPIDSymbolData ν δ)}
    (h : types components' = types components) : components'.length = components.length := by
  have hlength := congrArg List.length h
  rwa [types_eq, types_eq, List.length_map, List.length_map] at hlength

theorem constructStrings_eq [Streamed ν] [DecidableEq ν] [Streamed δ] [DecidableEq δ]
    (components : List (RAPIDSymbolData ν δ)) :
    constructStrings components = components.map constructString := by
  induction components with
  | nil => rfl
  | cons component components ih => rw [constructStrings, ih, List.map_cons]

theorem populated_record {recordTypeName : Text} {components : List (RAPIDSymbolData ν δ)}
    (h : (type (.record recordTypeName components)).Populated) :
    components ≠ [] ∧ ∀ component ∈ components, component.type.Populated := by
  rw [type, types_eq] at h
  cases h with
  | record _ _ hne hcomponents =>
      exact ⟨by simpa using hne, List.forall_mem_map.mp hcomponents⟩

/-- No type has a single value only. -/
theorem exists_other [Nontrivial ν] [Nontrivial δ] {data : RAPIDSymbolData ν δ}
    (h : data.type.Populated) :
    ∃ data' : RAPIDSymbolData ν δ, data'.type = data.type ∧ data' ≠ data := by
  induction data with
  | bool value => exact ⟨.bool !value, rfl, by simp⟩
  | num value =>
      obtain ⟨value', hne⟩ := exists_ne value
      exact ⟨.num value', rfl, by simpa using hne⟩
  | dnum value =>
      obtain ⟨value', hne⟩ := exists_ne value
      exact ⟨.dnum value', rfl, by simpa using hne⟩
  | string value => exact ⟨.string (quote :: value), rfl, by simp⟩
  | record recordTypeName components ih =>
      obtain ⟨hne, hcomponents⟩ := populated_record h
      cases components with
      | nil => exact absurd rfl hne
      | cons component components =>
          obtain ⟨component', htype, hne'⟩ := ih component List.mem_cons_self
            (hcomponents component List.mem_cons_self)
          refine ⟨.record recordTypeName (component' :: components), ?_, ?_⟩
          · rw [type, type, types, types, htype]
          · intro heq
            injection heq with _ heq
            injection heq with heq _
            exact hne' heq

end RAPIDSymbolData

end AbbWrapper
