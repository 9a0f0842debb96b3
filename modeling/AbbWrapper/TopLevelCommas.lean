import AbbWrapper.ErasePositions
import AbbWrapper.RapidRoundTrip
import AbbWrapper.RwsClient

/-! # Splitting at the outermost commas

A list in brackets is split into exactly the parts that it was joined from, whatever lists are nested
in them.  `getMechanicalUnitJointTarget` and `getMechanicalUnitRobTarget` rest on it: the texts that
they put together out of a reply are read back number by number.

* `IsPart` is an atom, or a list of parts in brackets, which blanks may precede; it is split off as one
  part, however many brackets are open around it (`IsPart.whole`).
* The two targets are one `TargetType` each, with the names of the components and the classes of their
  numbers; the text, the data and the function are definitions with this argument.
* `Plain` says that the contents of a reply are written without commas and brackets; a content without a
  word leaves the number as it was (`number`).

`extractDelimitedSubstrings_parts` is the splitting, and `mechanicalUnitTargets_read` what both functions
read of any reply. -/

namespace AbbWrapper

open Delimited

/-! ### Parts -/

/-- An atom, or a list of parts in brackets, which blanks may precede. -/
inductive IsPart : Text → Prop where
  | atom (t : Text) (hne : t ≠ []) (hplain : ∀ character ∈ t, character ∉ [',', '[', ']']) : IsPart t
  | list (blanks : Text) (parts : List Text)
      (hblanks : ∀ character ∈ blanks, Text.isSpace character = true) (hne : parts ≠ [])
      (hparts : ∀ part ∈ parts, IsPart part) :
      IsPart (blanks ++ '[' :: (join parts ++ [']']))

theorem Text.plain_of_isSpace {character : Char} (h : Text.isSpace character = true) :
    character ∉ [',', '[', ']'] := by
  intro hmem
  simp only [List.mem_cons, List.not_mem_nil, or_false] at hmem
  rcases hmem with rfl | rfl | rfl <;> cases h

/-- **A part is one part of a text**, however many brackets are open around it. -/
theorem IsPart.whole {t : Text} (h : IsPart t) :
    Whole ',' bracket t ∧ ∀ n : ℕ, Unbroken ',' bracket n t := by
  have hopen : bracket '[' = 1 := rfl
  have hclose : bracket ']' = -1 := rfl
  induction h with
  | atom t hne hplain =>
      obtain ⟨hwhole, hunbroken⟩ := whole_plain hne hplain
      exact ⟨hwhole, fun n => hunbroken n⟩
  | list blanks parts hblanks hne _ ih =>
      have hplain : ∀ character ∈ blanks, character ∉ [',', '[', ']'] :=
        fun character hmem => Text.plain_of_isSpace (hblanks character hmem)
      have hcomma : ',' ∉ blanks := fun h => hplain _ h List.mem_cons_self
      have htotal : total bracket blanks = 0 := total_plain hplain
      constructor
      · refine whole_enclosed bracket_comma (by decide) (by decide) (by decide) (by decide) hcomma
          htotal hne (fun part hpart => (ih part hpart).1) ?_
        intro part hpart
        exact (ih part hpart).2 1
      · intro n
        apply (unbroken_enclosed_intercalate bracket_comma (by decide) (by decide) ?_ hcomma htotal
          fun part hpart => (ih part hpart).1.total).mpr
        · intro part hpart
          rw [hopen]
          exact (ih part hpart).2 (n + 1)
        · rw [hopen]
          omega

/-- Blanks before a part belong to it. -/
theorem IsPart.indented {blanks t : Text} (hblanks : ∀ character ∈ blanks, Text.isSpace character = true)
    (h : IsPart t) : IsPart (blanks ++ t) := by
  cases h with
  | atom _ hne hplain =>
      refine .atom _ (List.append_ne_nil_of_right_ne_nil blanks hne) ?_
      intro character hmem
      rcases List.mem_append.mp hmem with hmem | hmem
      · exact Text.plain_of_isSpace (hblanks character hmem)
      · exact hplain character hmem
  | list blanks' parts hblanks' hne hparts =>
      rw [← List.append_assoc]
      refine .list _ parts ?_ hne hparts
      intro character hmem
      exact (List.mem_append.mp hmem).elim (hblanks character) (hblanks' character)

/-! ### Splitting -/

theorem extractDelimitedSubstrings_of_parts {t : Text} {parts : List Text} (hne : parts ≠ [])
    (hparts : ∀ part ∈ parts, IsPart part) (h : removeBrackets t = some (join parts)) :
    extractDelimitedSubstrings t = some parts := by
  rw [extractDelimitedSubstrings_eq, h, Option.map_some]
  exact congrArg some (parts_intercalate bracket_comma hne fun part hpart => (hparts part hpart).whole.1)

/-- **A text is split exactly at its outermost commas**: what is read from parts in brackets is the
list of the parts. -/
theorem extractDelimitedSubstrings_parts (parts : List Text) (hne : parts ≠ [])
    (hparts : ∀ part ∈ parts, IsPart part) :
    extractDelimitedSubstrings ('[' :: (join parts ++ [']'])) = some parts :=
  extractDelimitedSubstrings_of_parts hne hparts (removeBrackets_bracketed (join parts))

/-- A part that holds a list of a part and a list. -/
def nestedParts : List Text := ["a".toList, " [b,[c,d]]".toList]

theorem isPart_nestedParts : ∀ part ∈ nestedParts, IsPart part := by
  have hatom (character : Char) (h : character ∉ [',', '[', ']']) : IsPart [character] :=
    .atom _ (List.cons_ne_nil character []) (by simpa using h)
  have hpair {first second : Text} (hfirst : IsPart first) (hsecond : IsPart second) :
      ∀ part ∈ [first, second], IsPart part :=
    List.forall_mem_cons.mpr ⟨hfirst, List.forall_mem_singleton.mpr hsecond⟩
  have hinner : IsPart "[c,d]".toList :=
    .list [] [['c'], ['d']] (by simp) (List.cons_ne_nil _ _)
      (hpair (hatom 'c' (by decide)) (hatom 'd' (by decide)))
  have houter : IsPart " [b,[c,d]]".toList :=
    .list [' '] [['b'], "[c,d]".toList] (List.forall_mem_singleton.mpr rfl) (List.cons_ne_nil _ _)
      (hpair (hatom 'b' (by decide)) hinner)
  exact hpair (hatom 'a' (by decide)) houter

theorem extractDelimitedSubstrings_nested :
    extractDelimitedSubstrings "[a, [b,[c,d]]]".toList = some nestedParts :=
  extractDelimitedSubstrings_parts nestedParts (List.cons_ne_nil _ _) isPart_nestedParts

/-! ### Targets -/

/-- The record type of a target: its components, each with its own record type and the names of its
numbers, which are also the classes of their contents in a reply. -/
structure TargetType where
  recordTypeName : Text
  components : List (Text × List Text)

namespace TargetType

def extjoint : Text × List Text :=
  ("extjoint".toList, ["eax_a".toList, "eax_b".toList, "eax_c".toList, "eax_d".toList, "eax_e".toList,
    "eax_f".toList])

/-- `JointTarget`. -/
def jointTarget : TargetType where
  recordTypeName := "jointtarget".toList
  components :=
    [("robjoint".toList, ["rax_1".toList, "rax_2".toList, "rax_3".toList, "rax_4".toList,
        "rax_5".toList, "rax_6".toList]),
      extjoint]

/-- `RobTarget`. -/
def robTarget : TargetType where
  recordTypeName := "robtarget".toList
  components :=
    [("pos".toList, ["x".toList, "y".toList, "z".toList]),
      ("orient".toList, ["q1".toList, "q2".toList, "q3".toList, "q4".toList]),
      ("confdata".toList, ["cf1".toList, "cf4".toList, "cf6".toList, "cfx".toList]),
      extjoint]

variable {ν δ : Type}

/-- A target with the values of its numbers. -/
def data (type : TargetType) (value : Text → ν) : RAPIDSymbolData ν δ :=
  .record type.recordTypeName (type.components.map fun component =>
    .record component.1 (component.2.map fun name => .num (value name)))

/-- The content of a number in a reply. -/
def content (result : RWSResult) (name : Text) : Text := result.textContent ⟨"class".toList, name⟩

/-- The contents are written without commas and brackets. -/
def Plain (type : TargetType) (result : RWSResult) : Prop :=
  ∀ component ∈ type.components, ∀ name ∈ component.2, content result name ≠ [] ∧
    ∀ character ∈ content result name, character ∉ [',', '[', ']']

/-- The number that is read from the content, or the value that it had. -/
def number [Streamed ν] (result : RWSResult) (value : Text → ν) (name : Text) : ν :=
  RAPIDNum.parseString (content result name) (value name)

/-- The text that is put together from the contents of a reply. -/
def text (type : TargetType) (result : RWSResult) : Text :=
  '[' :: ([',', ' '].intercalate (type.components.map fun component =>
    '[' :: (join (component.2.map (content result)) ++ [']'])) ++ [']'])

end TargetType

section targets
variable {ν δ : Type} [Streamed ν] [Streamed δ]

/-- What both functions return, if no exception ends them, and the target that is left. -/
def getMechanicalUnitTarget (type : TargetType) (result : RWSResult) :
    Option (RAPIDSymbolData ν δ) → Option Bool × Option (RAPIDSymbolData ν δ)
  | none => (some false, none)
  | some target =>
      if result.success then
        let r := target.parseString (type.text result)
        (if r.1 then some true else none, some r.2)
      else (some false, some target)

def getMechanicalUnitJointTarget (result : RWSResult) (target : Option (RAPIDSymbolData ν δ)) :
    Option Bool × Option (RAPIDSymbolData ν δ) :=
  getMechanicalUnitTarget .jointTarget result target

def getMechanicalUnitRobTarget (result : RWSResult) (target : Option (RAPIDSymbolData ν δ)) :
    Option Bool × Option (RAPIDSymbolData ν δ) :=
  getMechanicalUnitTarget .robTarget result target

/-! ### Reading a target -/

omit [Streamed ν] [Streamed δ] in
theorem intercalate_indented (first : Text) (rest : List Text) :
    [',', ' '].intercalate (first :: rest) = join (first :: rest.map (' ' :: ·)) := by
  induction rest generalizing first with
  | nil => rfl
  | cons second rest ih =>
      rw [join, List.map_cons, List.intercalate_cons_cons, List.intercalate_cons_cons, ih second]
      cases rest <;> simp [join, List.intercalate_cons_cons]

omit [Streamed ν] [Streamed δ] in
/-- What stands before the opening bracket stays in the first part. -/
theorem extractDelimitedSubstrings_indented {blanks first : Text} {rest : List Text}
    (hblanks : ∀ character ∈ blanks, Text.isSpace character = true)
    (hparts : ∀ part ∈ first :: rest, IsPart part) :
    extractDelimitedSubstrings (blanks ++ '[' :: (join (first :: rest) ++ [']'])) =
      some ((blanks ++ first) :: rest) := by
  have hopening : '[' ∉ blanks := fun h => Text.plain_of_isSpace (hblanks _ h) (by simp)
  rw [List.forall_mem_cons] at hparts
  apply extractDelimitedSubstrings_of_parts (List.cons_ne_nil _ _)
  · exact List.forall_mem_cons.mpr ⟨hparts.1.indented hblanks, hparts.2⟩
  · rw [removeBrackets_of_inner (.enclosed blanks _ [] hopening List.not_mem_nil), List.append_nil]
    cases rest <;> simp [join, List.intercalate_cons_cons]

theorem parseStrings_numbers (names : List Text) (value : Text → ν) (content : Text → Text) :
    RAPIDSymbolData.parseStrings (names.map fun name => (.num (value name) : RAPIDSymbolData ν δ))
      (names.map content) =
      (true, names.map fun name => .num (RAPIDNum.parseString (content name) (value name))) := by
  induction names with
  | nil => rfl
  | cons name names ih =>
      rw [List.map_cons, List.map_cons, RAPIDSymbolData.parseStrings_cons, ih]
      rfl

variable (hskip : ∀ blanks t : Text, ∀ value : ν,
  (∀ character ∈ blanks, Text.isSpace character = true) →
    Streamed.read (blanks ++ t) value = Streamed.read t value)

section component
variable (value : Text → ν) {content : Text → Text} {blanks : Text}
  (hblanks : ∀ character ∈ blanks, Text.isSpace character = true)
include hskip hblanks

/-- A component is read from the contents in brackets, also behind blanks. -/
theorem parseString_component (recordTypeName : Text) {names : List Text} (hne : names ≠ [])
    (hcontent : ∀ name ∈ names, IsPart (content name)) :
    RAPIDSymbolData.parseString
      (.record recordTypeName (names.map fun name => .num (value name)) : RAPIDSymbolData ν δ)
      (blanks ++ '[' :: (join (names.map content) ++ [']'])) =
      (true, .record recordTypeName
        (names.map fun name => .num (RAPIDNum.parseString (content name) (value name)))) := by
  cases names with
  | nil => exact absurd rfl hne
  | cons name names =>
      have hparts : ∀ part ∈ content name :: names.map content, IsPart part := by
        rw [← List.map_cons, List.forall_mem_map]
        exact hcontent
      have hfirst : RAPIDNum.parseString (blanks ++ content name) (value name) =
          RAPIDNum.parseString (content name) (value name) := hskip blanks _ _ hblanks
      rw [RAPIDSymbolData.parseString, List.map_cons,
        extractDelimitedSubstrings_indented hblanks hparts]
      simp only [List.length_map, List.length_cons, if_true, List.map_cons,
        RAPIDSymbolData.parseStrings_cons, parseStrings_numbers, RAPIDSymbolData.parseString, hfirst,
        Bool.and_self]

theorem parseStrings_components {components : List (Text × List Text)}
    (hcomponents : ∀ component ∈ components, component.2 ≠ [] ∧
      ∀ name ∈ component.2, IsPart (content name)) :
    RAPIDSymbolData.parseStrings
      (components.map fun component =>
        (.record component.1 (component.2.map fun name => .num (value name)) : RAPIDSymbolData ν δ))
      (components.map fun component => blanks ++ '[' :: (join (component.2.map content) ++ [']'])) =
      (true, components.map fun component => .record component.1
        (component.2.map fun name => .num (RAPIDNum.parseString (content name) (value name)))) := by
  induction components with
  | nil => rfl
  | cons component components ih =>
      rw [List.forall_mem_cons] at hcomponents
      rw [List.map_cons, List.map_cons, RAPIDSymbolData.parseStrings_cons,
        parseString_component hskip value hblanks component.1 hcomponents.1.1 hcomponents.1.2,
        ih hcomponents.2]
      rfl

end component

include hskip

theorem getMechanicalUnitTarget_reads (type : TargetType) (result : RWSResult)
    (hsuccess : result.success = true) (hne : type.components ≠ [])
    (hcomponents : ∀ component ∈ type.components, component.2 ≠ [] ∧
      ∀ name ∈ component.2, IsPart (TargetType.content result name)) (value : Text → ν) :
    getMechanicalUnitTarget type result (some (type.data value : RAPIDSymbolData ν δ)) =
      (some true, some (type.data fun name =>
        RAPIDNum.parseString (TargetType.content result name) (value name))) := by
  obtain ⟨recordTypeName, components⟩ := type
  cases components with
  | nil => exact absurd rfl hne
  | cons component components =>
      have hnone : ∀ character ∈ ([] : Text), Text.isSpace character = true := by simp
      have hblank : ∀ character ∈ [' '], Text.isSpace character = true :=
        List.forall_mem_singleton.mpr rfl
      have hparts (blanks : Text) (hblanks : ∀ character ∈ blanks, Text.isSpace character = true) :
          ∀ component' ∈ component :: components, IsPart
            (blanks ++ '[' :: (join (component'.2.map (TargetType.content result)) ++ [']'])) := by
        intro component' hmem
        obtain ⟨hnames, hcontent⟩ := hcomponents component' hmem
        exact .list blanks _ hblanks (by simpa using hnames) (List.forall_mem_map.mpr hcontent)
      have hextract : extractDelimitedSubstrings
          (TargetType.text ⟨recordTypeName, component :: components⟩ result) =
          some (('[' :: (join (component.2.map (TargetType.content result)) ++ [']'])) ::
            components.map fun component =>
              [' '] ++ '[' :: (join (component.2.map (TargetType.content result)) ++ [']'])) := by
        rw [TargetType.text, List.map_cons, intercalate_indented, List.map_map]
        refine extractDelimitedSubstrings_of_parts (List.cons_ne_nil _ _)
          (List.forall_mem_cons.mpr ⟨?_, ?_⟩) (removeBrackets_bracketed _)
        · exact hparts [] hnone component List.mem_cons_self
        · rw [List.forall_mem_map]
          intro component' hmem
          exact hparts [' '] hblank component' (List.mem_cons_of_mem _ hmem)
      rw [List.forall_mem_cons] at hcomponents
      have hfirst := parseString_component (δ := δ) hskip value hnone component.1 hcomponents.1.1
        hcomponents.1.2
      rw [List.nil_append] at hfirst
      have hrest := parseStrings_components (δ := δ) hskip value hblank hcomponents.2
      rw [getMechanicalUnitTarget, if_pos hsuccess, TargetType.data, RAPIDSymbolData.parseString,
        hextract]
      simp only [List.length_map, List.length_cons, if_true, List.map_cons,
        RAPIDSymbolData.parseStrings_cons, hfirst, hrest, Bool.and_self, TargetType.data]

/-- **A target is read from a reply**: every number of it from the content of its class. -/
theorem mechanicalUnitTargets_read {result : RWSResult} (hsuccess : result.success = true)
    (value : Text → ν) :
    (TargetType.jointTarget.Plain result →
      getMechanicalUnitJointTarget result
          (some (TargetType.jointTarget.data value : RAPIDSymbolData ν δ)) =
        (some true, some (TargetType.jointTarget.data (TargetType.number result value)))) ∧
    (TargetType.robTarget.Plain result →
      getMechanicalUnitRobTarget result
          (some (TargetType.robTarget.data value : RAPIDSymbolData ν δ)) =
        (some true, some (TargetType.robTarget.data (TargetType.number result value)))) := by
  have hcomponents {type : TargetType} (hplain : type.Plain result)
      (hne : ∀ component ∈ type.components, component.2 ≠ []) :
      ∀ component ∈ type.components, component.2 ≠ [] ∧
        ∀ name ∈ component.2, IsPart (TargetType.content result name) := by
    refine fun component hmem => ⟨hne component hmem, fun name hname => ?_⟩
    obtain ⟨hcontent, hcharacters⟩ := hplain component hmem name hname
    exact .atom _ hcontent hcharacters
  constructor
  · intro hplain
    have hne : ∀ component ∈ TargetType.jointTarget.components, component.2 ≠ [] := by
      decide +kernel
    exact getMechanicalUnitTarget_reads hskip .jointTarget result hsuccess
      (by decide +kernel) (hcomponents hplain hne) value
  · intro hplain
    have hne : ∀ component ∈ TargetType.robTarget.components, component.2 ≠ [] := by
      decide +kernel
    exact getMechanicalUnitTarget_reads hskip .robTarget result hsuccess
      (by decide +kernel) (hcomponents hplain hne) value

end targets

namespace TargetType

/-- The names of the numbers of all components. -/
def numbers (type : TargetType) : List Text := type.components.flatMap (·.2)

theorem mem_numbers {type : TargetType} {component : Text × List Text} {name : Text}
    (hcomponent : component ∈ type.components) (hname : name ∈ component.2) : name ∈ type.numbers :=
  List.mem_flatMap.mpr ⟨component, hcomponent, hname⟩

theorem data_congr {ν δ : Type} {type : TargetType} {value value' : Text → ν}
    (h : ∀ name ∈ type.numbers, value name = value' name) :
    (type.data value : RAPIDSymbolData ν δ) = type.data value' := by
  refine congrArg (RAPIDSymbolData.record _) (List.map_congr_left fun component hcomponent => ?_)
  refine congrArg (RAPIDSymbolData.record _) (List.map_congr_left fun name hname => ?_)
  rw [h name (mem_numbers hcomponent hname)]

end TargetType

/-- A reply with the digit `5` for every name. -/
def fives (names : List Text) : RWSResult where
  success := true
  xmlDocument := some (.element [] (names.map fun name =>
    .element [⟨"class".toList, name⟩] [.text ['5']]))

theorem content_fives {names : List Text} {name : Text} (hmem : name ∈ names) :
    TargetType.content (fives names) name = ['5'] := by
  change xmlFindInChildren ⟨"class".toList, name⟩ [] (names.map fun name =>
    .element [⟨"class".toList, name⟩] [.text ['5']]) = ['5']
  generalize "class".toList = attributeName
  induction names with
  | nil => cases hmem
  | cons other names ih =>
      rw [List.map_cons, xmlFindInChildren]
      by_cases hname : name = other
      · simp [hname, xmlFindTextContent, xmlFindInChildren, xmlNodeHasAttribute]
      · have hother : other ≠ name := fun h => hname h.symm
        rcases List.mem_cons.mp hmem with hmem | hmem
        · exact absurd hmem hname
        · simp [hother, xmlFindTextContent, xmlFindInChildren, xmlNodeHasAttribute, ih hmem]

theorem mechanicalUnitTargets_read_fives :
    getMechanicalUnitJointTarget (fives TargetType.jointTarget.numbers)
        (some (TargetType.jointTarget.data fun _ => 0 : RAPIDSymbolData (Fin 10) (Fin 10))) =
      (some true, some (TargetType.jointTarget.data fun _ => 5)) := by
  have hskip (blanks t : Text) (value : Fin 10)
      (hblanks : ∀ character ∈ blanks, Text.isSpace character = true) :
      Streamed.read (blanks ++ t) value = Streamed.read t value := by
    have hdrop : (blanks ++ t).dropWhile Text.isSpace = t.dropWhile Text.isSpace :=
      List.dropWhile_append_of_pos hblanks
    simp only [Streamed.read, hdrop]
  have hplain : TargetType.jointTarget.Plain (fives TargetType.jointTarget.numbers) := by
    intro component hcomponent name hname
    rw [content_fives (TargetType.mem_numbers hcomponent hname)]
    exact ⟨List.cons_ne_nil _ _, List.forall_mem_singleton.mpr (by simp)⟩
  rw [(mechanicalUnitTargets_read hskip rfl _).1 hplain]
  refine congrArg (fun data => (some true, some data)) (TargetType.data_congr fun name hname => ?_)
  rw [TargetType.number, content_fives hname]
  rfl

end AbbWrapper
