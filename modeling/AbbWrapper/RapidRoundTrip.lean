import Mathlib.Data.Fin.Basic
import Mathlib.Data.List.TakeWhile
import AbbWrapper.RapidText

/-! # The round trip of RAPID data

A value that is written is read back exactly if every string in it is `Legible`: the strings are
written as they are, and the parser of a record takes their brackets and commas for its own.

* Of a number it is assumed that it is read back from what was written for it, and that this is a text
  without brackets and commas (`Streamed.RoundTrips`).
* `Legible depth` is what a string has to fulfil inside of `depth` records, and what data has to fulfil
  whose strings are that many records deep.
* `Reads` says of a text and data that whatever the data was before, it is this data once the text has
  been parsed; `Copies` says the same of `operator=`.

In one direction a record is put together from texts that are whole parts and are read back
(`reads_of_legible`); in the other one the commas are counted: a text that is read as data holds at least
those that are written for it (`count_le_of_reads`).  `round_trip_iff` is the result for a record, of any
type and depth. -/

namespace AbbWrapper

open Delimited

/-! ### Numbers -/

/-- A number is read back from what was written for it, which holds no brackets and no commas. -/
class Streamed.RoundTrips (ν : Type) [Streamed ν] [DecidableEq ν] : Prop where
  parseString_constructString (value old : ν) :
    RAPIDNum.parseString (RAPIDNum.constructString value) old = value
  write_ne_nil (value : ν) : Streamed.write value ≠ []
  write_plain (value : ν) : ∀ character ∈ Streamed.write value, character ∉ [',', '[', ']']

namespace RAPIDNum

variable {ν : Type} [Streamed ν] [DecidableEq ν] [Streamed.RoundTrips ν]

theorem constructString_plain (value : ν) : constructString value ≠ [] ∧
    ∀ character ∈ constructString value, character ∉ [',', '[', ']'] := by
  unfold constructString
  split
  · exact ⟨Streamed.RoundTrips.write_ne_nil value, Streamed.RoundTrips.write_plain value⟩
  · simp

end RAPIDNum

theorem RAPIDBool.constructString_plain (value : Bool) :
    ∀ character ∈ RAPIDBool.constructString value, character ∉ [',', '[', ']'] := by
  cases value <;> simp [RAPIDBool.constructString, RAPID.true, RAPID.false]

/-- A text without brackets opens none. -/
theorem total_plain {t : Text} (ht : ∀ character ∈ t, character ∉ [',', '[', ']']) :
    total bracket t = 0 := by
  rw [total_bracket, List.count_eq_zero_of_not_mem, List.count_eq_zero_of_not_mem]
  · rfl
  · exact fun h => ht _ h (by simp)
  · exact fun h => ht _ h (by simp)

/-- A text without commas and brackets is one part, whatever is open around it. -/
theorem whole_plain {t : Text} (hne : t ≠ []) (ht : ∀ character ∈ t, character ∉ [',', '[', ']']) :
    Whole ',' bracket t ∧ ∀ n, Unbroken ',' bracket n t := by
  have hcomma : ',' ∉ t := fun h => ht _ h List.mem_cons_self
  have hunbroken : ∀ n, Unbroken ',' bracket n t := fun n => unbroken_of_not_mem hcomma
  refine ⟨⟨?_, hunbroken 0, total_plain ht⟩, hunbroken⟩
  rw [List.splitOn_eq_singleton hcomma, List.forall_mem_singleton]
  exact hne

/-! ### Strings -/

/-- A string that is read back when it stands inside of `depth` records. -/
structure Legible (depth : ℕ) (value : Text) : Prop where
  nonempty : value ≠ []
  nonblank : ∀ character ∈ value, Text.isSpace character = false
  brackets : 0 < depth → value.count '[' = value.count ']'
  commas : 0 < depth → value.IsChain (fun a b => a = ',' → b ≠ ',')
  /-- At no comma is the bracket of one of the records closed. -/
  enclosed : ∀ before after, value = before ++ ',' :: after → ∀ n < depth,
    before.count '[' + n ≠ before.count ']'

theorem firstWord_eq {value : Text} (hne : value ≠ [])
    (hblank : ∀ character ∈ value, Text.isSpace character = false) (old : Text) :
    Text.firstWord value old = value := by
  have hdrop : value.dropWhile Text.isSpace = value := by
    rw [List.dropWhile_eq_self_iff]
    intro hl
    simp [hblank _ (List.getElem_mem hl)]
  have htake : value.takeWhile (!Text.isSpace ·) = value := by
    rw [List.takeWhile_eq_self_iff]
    intro character h
    simp [hblank character h]
  unfold Text.firstWord
  rw [hdrop, htake]
  split
  · exact absurd ‹_› hne
  · rfl

/-- A word that is read is one. -/
theorem firstWord_word {t old value : Text} (h : Text.firstWord t old = value) (hne : value ≠ old) :
    value ≠ [] ∧ (∀ character ∈ value, Text.isSpace character = false) ∧ value.Sublist t := by
  unfold Text.firstWord at h
  generalize hword : (t.dropWhile Text.isSpace).takeWhile (!Text.isSpace ·) = word at h
  cases word with
  | nil => exact absurd h.symm hne
  | cons character word =>
      have h : character :: word = value := h
      rw [← h]
      refine ⟨List.cons_ne_nil _ _, ?_, ?_⟩
      · intro other hother
        rw [← hword] at hother
        simpa using List.mem_takeWhile_imp hother
      · rw [← hword]
        exact (List.takeWhile_sublist _).trans (List.dropWhile_sublist _)

/-! ### Reading -/

namespace RAPIDSymbolData

variable {ν δ : Type} [Streamed ν] [DecidableEq ν] [Streamed δ] [DecidableEq δ]

section reads
omit [DecidableEq ν] [DecidableEq δ]

/-- Whatever the data was before, it is `data` once the text has been parsed. -/
def Reads (t : Text) (data : RAPIDSymbolData ν δ) : Prop :=
  ∀ data' : RAPIDSymbolData ν δ, data'.type = data.type → data'.parseString t = (true, data)

theorem reads_string {t value : Text} (h : Reads t (.string value : RAPIDSymbolData ν δ)) :
    value ≠ [] ∧ (∀ character ∈ value, Text.isSpace character = false) ∧ value.Sublist t := by
  have hparse := h (.string (quote :: value)) rfl
  rw [parseString, RAPIDString.parseString] at hparse
  cases hunquote : RAPIDString.unquote t with
  | none =>
      rw [hunquote] at hparse
      cases congrArg Prod.fst hparse
  | some temp =>
      rw [hunquote] at hparse
      have hvalue := congrArg Prod.snd hparse
      injection hvalue with hvalue
      obtain ⟨hne, hblank, hword⟩ := firstWord_word hvalue (by simp)
      exact ⟨hne, hblank, hword.trans (RAPIDString.unquote_sublist hunquote)⟩

/-- The components are read one after the other. -/
theorem forall₂_reads {components : List (RAPIDSymbolData ν δ)} {substrings : List Text}
    (hlength : components.length = substrings.length)
    (h : ∀ components', types components' = types components →
      parseStrings components' substrings = (true, components)) :
    List.Forall₂ Reads substrings components := by
  induction components generalizing substrings with
  | nil =>
      rw [List.eq_nil_of_length_eq_zero hlength.symm]
      exact .nil
  | cons component components ih =>
      cases substrings with
      | nil => cases hlength
      | cons substring substrings =>
          have hhead : Reads substring component := by
            intro data' htype
            have hparse := h (data' :: components) (by rw [types, types, htype])
            rw [parseStrings] at hparse
            generalize data'.parseString substring = r at hparse ⊢
            obtain ⟨returned, read⟩ := r
            cases returned with
            | false => cases congrArg Prod.fst hparse
            | true =>
                have hread := congrArg Prod.snd hparse
                injection hread with hread
                exact Prod.ext rfl hread
          refine .cons hhead (ih (by simpa using hlength) ?_)
          intro components' htypes
          have hparse := h (component :: components') (by rw [types, types, htypes])
          rw [parseStrings, hhead component rfl] at hparse
          generalize parseStrings components' substrings = r at hparse ⊢
          have hreturned := congrArg Prod.fst hparse
          have hrest := congrArg Prod.snd hparse
          injection hrest with _ hrest
          exact Prod.ext hreturned hrest

theorem parseStrings_of_reads {components components' : List (RAPIDSymbolData ν δ)}
    {substrings : List Text} (h : List.Forall₂ Reads substrings components)
    (htypes : types components' = types components) :
    parseStrings components' substrings = (true, components) := by
  induction h generalizing components' with
  | nil =>
      cases components' with
      | nil => rfl
      | cons => cases htypes
  | cons hreads _ ih =>
      cases components' with
      | nil => cases htypes
      | cons component' components' =>
          rw [types, types] at htypes
          injection htypes with htype htypes
          rw [parseStrings, hreads component' htype, ih htypes]
          rfl

/-- A record is read from substrings each of which reads its component. -/
theorem reads_record {t : Text} {recordTypeName : Text} {components : List (RAPIDSymbolData ν δ)}
    {substrings : List Text} (hextract : extractDelimitedSubstrings t = some substrings)
    (hreads : List.Forall₂ Reads substrings components) :
    Reads t (.record recordTypeName components) := by
  intro data' htype
  cases data' with
  | record name components' =>
      rw [type, type] at htype
      injection htype with hname htypes
      subst hname
      have hcount : components'.length = substrings.length :=
        (length_eq_of_types htypes).trans hreads.length_eq.symm
      rw [parseString]
      simp only [hextract, if_pos hcount, parseStrings_of_reads hreads htypes]
  | _ => cases htype

/-- If the components are as many as the substrings, they are read when the record is. -/
theorem forall₂_of_reads_record {t : Text} {recordTypeName : Text}
    {components : List (RAPIDSymbolData ν δ)} {substrings : List Text}
    (hextract : extractDelimitedSubstrings t = some substrings)
    (hcount : components.length = substrings.length)
    (h : Reads t (.record recordTypeName components)) :
    List.Forall₂ Reads substrings components := by
  apply forall₂_reads hcount
  intro components' htypes
  have hparse := h (.record recordTypeName components') (by rw [type, type, htypes])
  have hcount' : components'.length = substrings.length := (length_eq_of_types htypes).trans hcount
  rw [parseString] at hparse
  simp only [hextract, if_pos hcount'] at hparse
  have hreturned := congrArg Prod.fst hparse
  have hread := congrArg Prod.snd hparse
  injection hread with _ hread
  exact Prod.ext hreturned hread

/-- A record is read from a text with as many substrings as it has components, each of which reads
its component. -/
theorem reads_record_iff [Nontrivial ν] [Nontrivial δ] {t : Text} {recordTypeName : Text}
    {components : List (RAPIDSymbolData ν δ)}
    (hpopulated : (type (.record recordTypeName components)).Populated) :
    Reads t (.record recordTypeName components) ↔
      ∃ substrings, extractDelimitedSubstrings t = some substrings ∧
        List.Forall₂ Reads substrings components := by
  constructor
  · intro h
    -- the other value shows that the record is not merely left as it is
    obtain ⟨other, htype, hne⟩ := exists_other hpopulated
    have hparse := h other htype
    cases other with
    | record name others =>
        rw [type, type] at htype
        injection htype with hname htypes
        subst hname
        rw [parseString] at hparse
        cases hextract : extractDelimitedSubstrings t with
        | none =>
            rw [hextract] at hparse
            cases congrArg Prod.fst hparse
        | some substrings =>
            simp only [hextract] at hparse
            by_cases hcount : others.length = substrings.length
            · exact ⟨substrings, rfl, forall₂_of_reads_record hextract
                ((length_eq_of_types htypes).symm.trans hcount) h⟩
            · rw [if_neg hcount] at hparse
              exact absurd (congrArg Prod.snd hparse) hne
    | _ => cases htype
  · rintro ⟨substrings, hextract, hreads⟩
    exact reads_record hextract hreads

end reads

variable [Streamed.RoundTrips ν] [Streamed.RoundTrips δ]

theorem constructString_ne_nil (data : RAPIDSymbolData ν δ) : data.constructString ≠ [] := by
  cases data with
  | bool value => cases value <;> exact List.cons_ne_nil _ _
  | num value => exact (RAPIDNum.constructString_plain value).1
  | dnum value => exact (RAPIDNum.constructString_plain value).1
  | string value => exact List.cons_ne_nil _ _
  | record recordTypeName components => exact List.cons_ne_nil _ _

omit [Streamed ν] [DecidableEq ν] [Streamed δ] [DecidableEq δ] [Streamed.RoundTrips ν]
  [Streamed.RoundTrips δ] in
/-- Data without strings and components. -/
def isPlain : RAPIDSymbolData ν δ → Bool
  | .bool _ | .num _ | .dnum _ => true
  | .string _ | .record _ _ => false

theorem constructString_plain {data : RAPIDSymbolData ν δ} (h : data.isPlain = true) :
    ∀ character ∈ data.constructString, character ∉ [',', '[', ']'] := by
  cases data with
  | bool value => exact RAPIDBool.constructString_plain value
  | num value => exact (RAPIDNum.constructString_plain value).2
  | dnum value => exact (RAPIDNum.constructString_plain value).2
  | string value => cases h
  | record recordTypeName components => cases h

theorem count_constructString_plain {data : RAPIDSymbolData ν δ} (h : data.isPlain = true) :
    data.constructString.count ',' = 0 :=
  List.count_eq_zero_of_not_mem fun hmem => constructString_plain h _ hmem List.mem_cons_self

/-- **A text that is read as data holds at least the commas that are written for it.** -/
theorem count_le_of_reads [Nontrivial ν] [Nontrivial δ] {t : Text} {data : RAPIDSymbolData ν δ}
    (hpopulated : data.type.Populated) (h : Reads t data) :
    data.constructString.count ',' ≤ t.count ',' := by
  induction data generalizing t with
  | bool value => exact (count_constructString_plain rfl).trans_le (Nat.zero_le _)
  | num value => exact (count_constructString_plain rfl).trans_le (Nat.zero_le _)
  | dnum value => exact (count_constructString_plain rfl).trans_le (Nat.zero_le _)
  | string value =>
      obtain ⟨-, -, hsublist⟩ := reads_string h
      have hquoted : (RAPIDString.constructString value).count ',' = value.count ',' := by
        simp [RAPIDString.constructString, quote]
      rw [constructString, hquoted]
      exact hsublist.count_le ','
  | record recordTypeName components ih =>
      obtain ⟨hne, hcomponents⟩ := populated_record hpopulated
      obtain ⟨substrings, hextract, hreads⟩ := (reads_record_iff hpopulated).mp h
      have hsum : (components.map (fun component => component.constructString.count ',' + 1)).sum ≤
          (substrings.map (fun part => part.count ',' + 1)).sum := by
        clear hpopulated hextract h hne
        induction hreads with
        | nil => exact le_rfl
        | cons hread _ ih' =>
            rw [List.forall_mem_cons] at ih hcomponents
            have hfirst := ih.1 hcomponents.1 hread
            have hrest := ih' ih.2 hcomponents.2
            simp only [List.map_cons, List.sum_cons]
            omega
      rw [extractDelimitedSubstrings_eq, Option.map_eq_some_iff] at hextract
      obtain ⟨u, hremove, rfl⟩ := hextract
      have hpieces := hsum.trans (pieces_parts_le u)
      have hsublist : u.count ',' ≤ t.count ',' := (removeBrackets_sublist hremove).count_le ','
      have hjoin : (join (constructStrings components)).count ',' + 1 =
          (components.map (fun component => component.constructString.count ',' + 1)).sum := by
        rw [count_join (by simpa [constructStrings_eq] using hne), constructStrings_eq, List.map_map]
        rfl
      have hrecord : (constructString (.record recordTypeName components)).count ',' =
          (join (constructStrings components)).count ',' := by
        simp [constructString, List.count_append]
      omega

theorem forall₂_count_le [Nontrivial ν] [Nontrivial δ] {components : List (RAPIDSymbolData ν δ)}
    {substrings : List Text} (hcomponents : ∀ component ∈ components, component.type.Populated)
    (h : List.Forall₂ Reads substrings components) :
    List.Forall₂ (fun u t => t.count ',' ≤ u.count ',') substrings
      (components.map constructString) := by
  induction h with
  | nil => exact .nil
  | cons hread _ ih =>
      rw [List.forall_mem_cons] at hcomponents
      exact .cons (count_le_of_reads hcomponents.1 hread) (ih hcomponents.2)

/-- **A record that is read back**: its components are written as whole texts, and are read back from
them. -/
theorem reads_constructString_record [Nontrivial ν] [Nontrivial δ] {recordTypeName : Text}
    {components : List (RAPIDSymbolData ν δ)}
    (hpopulated : (type (.record recordTypeName components)).Populated) :
    Reads (constructString (.record recordTypeName components)) (.record recordTypeName components) ↔
      ∀ component ∈ components, Whole ',' bracket component.constructString ∧
        Reads component.constructString component := by
  obtain ⟨hne, hcomponents⟩ := populated_record hpopulated
  have hextract : extractDelimitedSubstrings (constructString (.record recordTypeName components)) =
      some (parts ',' bracket (join (components.map constructString))) := by
    rw [extractDelimitedSubstrings_eq, constructString, removeBrackets_bracketed,
      constructStrings_eq, Option.map_some]
  have hjoined : components.map constructString ≠ [] := by simpa using hne
  have hsame : List.Forall₂ Reads (components.map constructString) components ↔
      ∀ component ∈ components, Reads component.constructString component := by
    rw [List.forall₂_map_left_iff, List.forall₂_same]
  rw [reads_record_iff hpopulated, hextract]
  constructor
  · rintro ⟨substrings, heq, hreads⟩
    obtain rfl := Option.some.inj heq
    have hwhole := whole_of_parts bracket_comma hjoined (forall₂_count_le hcomponents hreads)
    have hparts := parts_intercalate bracket_comma hjoined hwhole
    rw [join, hparts] at hreads
    have hreads := hsame.mp hreads
    intro component hmem
    exact ⟨hwhole _ (List.mem_map_of_mem hmem), hreads component hmem⟩
  · intro h
    have hwhole : ∀ t ∈ components.map constructString, Whole ',' bracket t := by
      intro t ht
      obtain ⟨component, hmem, rfl⟩ := List.mem_map.mp ht
      exact (h component hmem).1
    refine ⟨_, rfl, ?_⟩
    rw [join, parts_intercalate bracket_comma hjoined hwhole]
    exact hsame.mpr fun component hmem => (h component hmem).2

/-! ### Legible data -/

/-- Every string of the data is legible, inside of `depth` records more than those of the data. -/
inductive Legible : ℕ → RAPIDSymbolData ν δ → Prop where
  | bool (depth : ℕ) (value : Bool) : Legible depth (.bool value)
  | num (depth : ℕ) (value : ν) : Legible depth (.num value)
  | dnum (depth : ℕ) (value : δ) : Legible depth (.dnum value)
  | string (depth : ℕ) (value : Text) (h : AbbWrapper.Legible depth value) :
      Legible depth (.string value)
  | record (depth : ℕ) (recordTypeName : Text) (components : List (RAPIDSymbolData ν δ))
      (h : ∀ component ∈ components, Legible (depth + 1) component) :
      Legible depth (.record recordTypeName components)

theorem unbroken_quoted {n : ℤ} {value : Text} :
    Unbroken ',' bracket n (RAPIDString.constructString value) ↔ Unbroken ',' bracket n value := by
  have hquote : bracket quote = 0 := rfl
  rw [RAPIDString.constructString, Unbroken, hquote, add_zero, unbroken_append]
  simp [Unbroken, quote]

theorem whole_quoted {value : Text} : Whole ',' bracket (RAPIDString.constructString value) ↔
    value.IsChain (fun a b => a = ',' → b ≠ ',') ∧ Unbroken ',' bracket 0 value ∧
      value.count '[' = value.count ']' := by
  have hquote : quote ≠ ',' := by decide
  have htotal : total bracket (RAPIDString.constructString value) = total bracket value := by
    simp [RAPIDString.constructString, bracket, quote]
  rw [total_bracket value] at htotal
  constructor
  · rintro ⟨hpieces, hunbroken, hzero⟩
    rw [htotal] at hzero
    exact ⟨(pieces_enclosed hquote hquote).mp hpieces, unbroken_quoted.mp hunbroken, by omega⟩
  · rintro ⟨hchain, hunbroken, hcount⟩
    exact ⟨(pieces_enclosed hquote hquote).mpr hchain, unbroken_quoted.mpr hunbroken, by omega⟩

theorem unbroken_enclosed {n : ℕ} {value : Text} : Unbroken ',' bracket n value ↔
    ∀ before after, value = before ++ ',' :: after → before.count '[' + n ≠ before.count ']' := by
  rw [unbroken_iff]
  apply forall₃_congr
  intro before after _
  rw [total_bracket]
  omega

omit [Streamed.RoundTrips ν] [Streamed.RoundTrips δ] in
theorem unbroken_record {n : ℕ} {recordTypeName : Text} {components : List (RAPIDSymbolData ν δ)}
    (htotal : ∀ component ∈ components, total bracket component.constructString = 0) :
    Unbroken ',' bracket n (constructString (.record recordTypeName components)) ↔
      ∀ component ∈ components, Unbroken ',' bracket (n + 1 : ℕ) component.constructString := by
  have htexts : ∀ t ∈ components.map constructString, total bracket t = 0 := by
    intro t ht
    obtain ⟨component, hmem, rfl⟩ := List.mem_map.mp ht
    exact htotal component hmem
  have hopen : (n : ℤ) + bracket '[' = (n + 1 : ℕ) := by simp [bracket]
  have hiff : Unbroken ',' bracket n
      ([] ++ '[' :: (join (components.map constructString) ++ [']'])) ↔ _ :=
    unbroken_enclosed_intercalate bracket_comma (by decide) (by decide) (by omega) List.not_mem_nil
      rfl htexts
  rwa [List.nil_append, List.forall_mem_map, hopen, ← constructStrings_eq] at hiff

/-- Data that is read back is legible. -/
theorem legible_of_reads [Nontrivial ν] [Nontrivial δ] {data : RAPIDSymbolData ν δ} {depth : ℕ}
    (hpopulated : data.type.Populated) (hreads : Reads data.constructString data)
    (hwhole : 0 < depth → Whole ',' bracket data.constructString)
    (hunbroken : ∀ n : ℕ, n < depth → Unbroken ',' bracket n data.constructString) :
    Legible depth data := by
  induction data generalizing depth with
  | bool value => exact .bool depth value
  | num value => exact .num depth value
  | dnum value => exact .dnum depth value
  | string value =>
      obtain ⟨hne, hblank, -⟩ := reads_string hreads
      refine .string depth value ⟨hne, hblank, ?_, ?_, ?_⟩
      · intro hdepth
        exact (whole_quoted.mp (hwhole hdepth)).2.2
      · intro hdepth
        exact (whole_quoted.mp (hwhole hdepth)).1
      · intro before after heq n hn
        exact unbroken_enclosed.mp (unbroken_quoted.mp (hunbroken n hn)) before after heq
  | record recordTypeName components ih =>
      have hcomponents := (reads_constructString_record hpopulated).mp hreads
      refine .record depth recordTypeName components ?_
      intro component hmem
      obtain ⟨hwhole', hreads'⟩ := hcomponents component hmem
      refine ih component hmem ((populated_record hpopulated).2 component hmem) hreads' (fun _ => hwhole') ?_
      intro n hn
      cases n with
      | zero => exact hwhole'.unbroken
      | succ n =>
          have h := hunbroken n (by omega)
          exact (unbroken_record fun c hc => (hcomponents c hc).1.total).mp h component hmem

/-- Data that is not a string and not a record is read back. -/
theorem reads_plain {data : RAPIDSymbolData ν δ} (h : data.isPlain = true) :
    Reads data.constructString data := by
  intro data' htype
  cases data with
  | bool value =>
      cases data' with
      | bool value' => cases value <;> rfl
      | _ => cases htype
  | num value =>
      cases data' with
      | num value' =>
          rw [parseString, constructString, Streamed.RoundTrips.parseString_constructString]
      | _ => cases htype
  | dnum value =>
      cases data' with
      | dnum value' =>
          rw [parseString, constructString, Streamed.RoundTrips.parseString_constructString]
      | _ => cases htype
  | string value => cases h
  | record recordTypeName components => cases h

omit [DecidableEq ν] [DecidableEq δ] [Streamed.RoundTrips ν] [Streamed.RoundTrips δ] in
/-- A word is read back. -/
theorem reads_quoted {value : Text} (hne : value ≠ [])
    (hblank : ∀ character ∈ value, Text.isSpace character = false) :
    Reads (RAPIDString.constructString value) (.string value : RAPIDSymbolData ν δ) := by
  intro data' htype
  cases data' with
  | string value' =>
      rw [parseString, RAPIDString.parseString, RAPIDString.constructString,
        RAPIDString.unquote_quoted]
      simp only [firstWord_eq hne hblank]
  | _ => cases htype

omit [Streamed.RoundTrips ν] [Streamed.RoundTrips δ] in
/-- A record of whole texts is one part of a text. -/
theorem whole_record {recordTypeName : Text} {components : List (RAPIDSymbolData ν δ)}
    (hne : components ≠ [])
    (hwhole : ∀ component ∈ components, Whole ',' bracket component.constructString)
    (hunbroken : ∀ component ∈ components,
      Unbroken ',' bracket (0 + 1 : ℕ) component.constructString) :
    Whole ',' bracket (constructString (.record recordTypeName components)) := by
  rw [constructString, join, constructStrings_eq, ← List.nil_append ('[' :: _)]
  apply whole_enclosed bracket_comma (by decide) (by decide) (by decide) (by decide)
    List.not_mem_nil rfl (by simpa using hne)
  · exact List.forall_mem_map.mpr hwhole
  · exact List.forall_mem_map.mpr hunbroken

/-- Legible data is read back, and written as one part of a text. -/
theorem reads_of_legible [Nontrivial ν] [Nontrivial δ] {data : RAPIDSymbolData ν δ} {depth : ℕ}
    (hpopulated : data.type.Populated) (h : Legible depth data) :
    Reads data.constructString data ∧ (0 < depth → Whole ',' bracket data.constructString) ∧
      ∀ n : ℕ, n < depth → Unbroken ',' bracket n data.constructString := by
  have hplain (depth : ℕ) {data : RAPIDSymbolData ν δ} (h : data.isPlain = true) :
      Reads data.constructString data ∧ (0 < depth → Whole ',' bracket data.constructString) ∧
        ∀ n : ℕ, n < depth → Unbroken ',' bracket n data.constructString := by
    obtain ⟨hwhole, hunbroken⟩ := whole_plain data.constructString_ne_nil (constructString_plain h)
    exact ⟨reads_plain h, fun _ => hwhole, fun n _ => hunbroken n⟩
  induction h with
  | bool depth value => exact hplain depth rfl
  | num depth value => exact hplain depth rfl
  | dnum depth value => exact hplain depth rfl
  | string depth value h =>
      refine ⟨reads_quoted h.nonempty h.nonblank, ?_, ?_⟩
      · intro hdepth
        exact whole_quoted.mpr ⟨h.commas hdepth,
          unbroken_enclosed.mpr fun before after heq => h.enclosed before after heq 0 hdepth,
          h.brackets hdepth⟩
      · intro n hn
        exact unbroken_quoted.mpr
          (unbroken_enclosed.mpr fun before after heq => h.enclosed before after heq n hn)
  | record depth recordTypeName components _ ih =>
      obtain ⟨hne, hcomponents⟩ := populated_record hpopulated
      have hread : ∀ component ∈ components, _ := fun component hmem =>
        ih component hmem (hcomponents component hmem)
      have hwhole : ∀ component ∈ components, Whole ',' bracket component.constructString :=
        fun component hmem => (hread component hmem).2.1 (Nat.succ_pos depth)
      have hunbroken : ∀ n : ℕ, n < depth →
          Unbroken ',' bracket n (constructString (.record recordTypeName components)) := by
        intro n hn
        apply (unbroken_record fun c hc => (hwhole c hc).total).mpr
        intro component hmem
        exact (hread component hmem).2.2 (n + 1) (by omega)
      refine ⟨?_, ?_, hunbroken⟩
      · apply (reads_constructString_record hpopulated).mpr
        intro component hmem
        exact ⟨hwhole component hmem, (hread component hmem).1⟩
      · intro hdepth
        apply whole_record hne hwhole
        intro component hmem
        exact (hread component hmem).2.2 (0 + 1) (by omega)

/-! ### The codec -/

omit [Streamed.RoundTrips ν] [Streamed.RoundTrips δ] in
/-- `operator=` makes a copy of every record of the type. -/
def Copies (data : RAPIDSymbolData ν δ) : Prop :=
  ∀ data' : RAPIDSymbolData ν δ, data'.type = data.type → data'.assign data = (true, data)

omit [Streamed.RoundTrips ν] [Streamed.RoundTrips δ] in
/-- A record is copied if its components are read back; it is not read itself. -/
theorem copies_record_iff {recordTypeName : Text} {components : List (RAPIDSymbolData ν δ)} :
    Copies (.record recordTypeName components) ↔
      ∀ component ∈ components, Reads component.constructString component := by
  have hsame : List.Forall₂ Reads (constructStrings components) components ↔
      ∀ component ∈ components, Reads component.constructString component := by
    rw [constructStrings_eq, List.forall₂_map_left_iff, List.forall₂_same]
  rw [← hsame]
  constructor
  · intro h
    apply forall₂_reads (by rw [constructStrings_eq, List.length_map])
    intro components' htypes
    have hcopied := h (.record recordTypeName components') (by rw [type, type, htypes])
    rw [assign, if_pos ⟨rfl, length_eq_of_types htypes⟩] at hcopied
    have hreturned := congrArg Prod.fst hcopied
    have hcopy := congrArg Prod.snd hcopied
    injection hcopy with _ hcopy
    exact Prod.ext hreturned hcopy
  · intro h data' htype
    cases data' with
    | record name components' =>
        rw [type, type] at htype
        injection htype with hname htypes
        subst hname
        rw [assign, if_pos ⟨rfl, length_eq_of_types htypes⟩, parseStrings_of_reads h htypes]
    | _ => cases htype

/-- **The round trip of a record**: it is read back from its text into every record of its type, and
copied to it, exactly if every string in it is legible. -/
theorem round_trip_iff [Nontrivial ν] [Nontrivial δ] (recordTypeName : Text)
    (components : List (RAPIDSymbolData ν δ))
    (hpopulated : (type (.record recordTypeName components)).Populated) :
    (∀ data' : RAPIDSymbolData ν δ, data'.type = type (.record recordTypeName components) →
        data'.parseString (constructString (.record recordTypeName components)) =
            (true, .record recordTypeName components) ∧
          data'.assign (.record recordTypeName components) =
            (true, .record recordTypeName components)) ↔
      Legible 0 (.record recordTypeName components) := by
  constructor
  · intro h
    exact legible_of_reads hpopulated (fun data' htype => (h data' htype).1)
      (fun h => absurd h (by omega)) (fun n h => absurd h (by omega))
  · intro h data' htype
    have hreads := (reads_of_legible hpopulated h).1
    have hcopies : Copies (.record recordTypeName components) :=
      copies_record_iff.mpr fun component hmem =>
        ((reads_constructString_record hpopulated).mp hreads component hmem).2
    exact ⟨hreads data' htype, hcopies data' htype⟩

end RAPIDSymbolData

/-! ### Records of numbers of one digit -/

scoped instance neZero_ten : NeZero 10 := ⟨by decide⟩

/-- A digit is written as one; `9` stands for the limit `9E9`. -/
instance : Streamed (Fin 10) where
  write digit := [digit.val.digitChar]
  read valueString value :=
    match valueString.dropWhile Text.isSpace with
    | [] => value
    | character :: _ => Fin.ofNat 10 (character.toNat - '0'.toNat)
  nineE9 := 9

instance : Streamed.RoundTrips (Fin 10) where
  parseString_constructString := by decide
  write_ne_nil _ := List.cons_ne_nil _ _
  write_plain value := by
    have hdigit : ∀ n < 10, n.digitChar ∉ [',', '[', ']'] := by decide
    exact List.forall_mem_singleton.mpr (hdigit value.val value.isLt)

namespace RAPIDSymbolData

/-- A record in a record; the string holds a comma within brackets. -/
def bracketed : List (RAPIDSymbolData (Fin 10) (Fin 10)) :=
  [.num 3, .record ['i'] [.string ['[', 'a', ',', 'b', ']'], .bool true]]

theorem legible_bracketed : Legible 0 (.record ['o'] bracketed) := by
  refine .record 0 ['o'] bracketed (List.forall_mem_cons.mpr ⟨.num 1 3,
    List.forall_mem_singleton.mpr (.record 1 ['i'] _ (List.forall_mem_cons.mpr ⟨.string 2 _ ?_,
      List.forall_mem_singleton.mpr (.bool 2 true)⟩))⟩)
  refine ⟨List.cons_ne_nil _ _, by simp [Text.isSpace], fun _ => rfl, fun _ => by simp, ?_⟩
  intro before after heq n _
  have hunbroken : Unbroken ',' bracket n ['[', 'a', ',', 'b', ']'] := by
    simp [Unbroken, bracket]
    omega
  exact unbroken_enclosed.mp hunbroken before after heq

/-- Other data of the type. -/
def overwritten : List (RAPIDSymbolData (Fin 10) (Fin 10)) :=
  [.num 4, .record ['i'] [.string ['x'], .bool false]]

theorem round_trip_bracketed :
    parseString (.record ['o'] overwritten) (constructString (.record ['o'] bracketed)) =
        (true, .record ['o'] bracketed) ∧
      assign (.record ['o'] overwritten) (.record ['o'] bracketed) =
        (true, .record ['o'] bracketed) := by
  refine (round_trip_iff ['o'] bracketed ?_).mpr legible_bracketed (.record ['o'] overwritten) rfl
  show RAPIDType.Populated (.record ['o'] [.num, .record ['i'] [.string, .bool]])
  refine .record ['o'] _ (List.cons_ne_nil _ _) (List.forall_mem_cons.mpr ⟨.num,
    List.forall_mem_singleton.mpr (.record ['i'] _ (List.cons_ne_nil _ _) ?_)⟩)
  exact List.forall_mem_cons.mpr ⟨.string, List.forall_mem_singleton.mpr .bool⟩

/-- A record of one string. -/
def named (value : Text) : RAPIDSymbolData (Fin 10) (Fin 10) := .record ['n'] [.string value]

/-- Of two words the first is left, and a comma makes two strings of one. -/
theorem round_trip_lost :
    (named ['x']).parseString (named ['a', ' ', 'b']).constructString = (true, named ['a']) ∧
      (named ['x']).parseString (named ['a', ',', 'b']).constructString = (true, named ['x']) ∧
      ¬∀ data', type data' = (named ['a', ' ', 'b']).type →
        data'.parseString (named ['a', ' ', 'b']).constructString = (true, named ['a', ' ', 'b']) ∧
          data'.assign (named ['a', ' ', 'b']) = (true, named ['a', ' ', 'b']) := by
  refine ⟨rfl, rfl, ?_⟩
  intro h
  have hread : (true, named ['a']) = (true, named ['a', ' ', 'b']) := (h (named ['x']) rfl).1
  injection hread with _ hread
  injection hread with _ hread
  injection hread with hread _
  injection hread with hread
  revert hread
  decide

end RAPIDSymbolData

end AbbWrapper
