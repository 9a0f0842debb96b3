import AbbWrapper.RapidRoundTrip

/-! # What is read of a RAPID symbol

Whether a component of a record is read from a value text is decided by the type of the record and
the text alone: each level compares its own counts, and leaves its record as it is where they
differ (`readsAt_or_leavesAt`).

* `returns`, `splits`, `readable` and `ignores` are computed from the type and the text: that no exception
  ends the parser, that the counts match at every level, that there is a word for an atom, and that no
  atom is read.
* A component is found at a path of indices (`component`).
* `Leaves` says that a text changes no data of the type, and `ReadInFull` that what is left depends on
  the text only; `leaves_iff` and `readInFull_iff` are when they hold.  `LeavesAt` and `ReadsAt` say the
  same of one path.
* Of a stream it is assumed that nothing is read of blanks, and that what is read of a word does not
  depend on the old value (`Streamed.Extracts`). -/

namespace AbbWrapper

/-! ### Streams -/

/-- Of blanks nothing is read, and what is read of a word replaces the old value. -/
class Streamed.Extracts (ν : Type) [Streamed ν] : Prop where
  read_blank {t : Text} : t.all Text.isSpace = true → ∀ value : ν, Streamed.read t value = value
  read_word {t : Text} : t.all Text.isSpace = false → ∀ value value' : ν,
    Streamed.read t value = Streamed.read t value'

theorem dropWhile_of_blank {t : Text} (h : t.all Text.isSpace = true) :
    t.dropWhile Text.isSpace = [] := by
  rw [List.dropWhile_eq_nil_iff]
  exact fun character hmem => List.all_eq_true.mp h character hmem

theorem firstWord_of_blank {t : Text} (h : t.all Text.isSpace = true) (value : Text) :
    Text.firstWord t value = value := by
  unfold Text.firstWord
  rw [dropWhile_of_blank h, List.takeWhile_nil]

theorem firstWord_of_word {t : Text} (h : t.all Text.isSpace = false) (value value' : Text) :
    Text.firstWord t value = Text.firstWord t value' := by
  unfold Text.firstWord
  cases hdrop : t.dropWhile Text.isSpace with
  | nil =>
      have hblank : t.all Text.isSpace = true :=
        List.all_eq_true.mpr (List.dropWhile_eq_nil_iff.mp hdrop)
      rw [hblank] at h
      cases h
  | cons character rest =>
      have hspace : Text.isSpace character = false := by
        have hhead := List.head_dropWhile_not Text.isSpace (l := t) (by rw [hdrop]; simp)
        simpa [hdrop] using hhead
      rw [List.takeWhile_cons_of_pos (by rw [hspace]; rfl)]

section extraction

variable {α : Type} [Nontrivial α] {f : α → α} {blank : Bool}
  (hblank : blank = true → ∀ a, f a = a) (hword : blank = false → ∀ a b, f a = f b)
include hblank hword

theorem forall_eq_self_iff : (∀ a, f a = a) ↔ blank = true := by
  constructor
  · intro hself
    by_contra hnot
    obtain ⟨a, b, hne⟩ := exists_pair_ne α
    apply hne
    rw [← hself a, ← hself b]
    exact hword (Bool.not_eq_true blank ▸ hnot) a b
  · exact hblank

theorem exists_const_iff : (∃ b, ∀ a, f a = b) ↔ blank = false := by
  constructor
  · rintro ⟨b, hconst⟩
    by_contra hnot
    obtain ⟨a, hne⟩ := exists_ne b
    apply hne
    rw [← hblank (Bool.not_eq_false blank ▸ hnot) a]
    exact hconst a
  · intro hfalse
    obtain ⟨b, -, -⟩ := exists_pair_ne α
    exact ⟨f b, fun a => hword hfalse a b⟩

end extraction

/-! ### Types -/

namespace RAPIDType

/-- Induction over the tree of a record type. -/
@[induction_eliminator]
theorem induct {motive : RAPIDType → Prop} (bool : motive .bool) (num : motive .num)
    (dnum : motive .dnum) (string : motive .string)
    (record : ∀ recordTypeName components, (∀ component ∈ components, motive component) →
      motive (.record recordTypeName components)) (τ : RAPIDType) : motive τ :=
  @RAPIDType.rec motive (fun components => ∀ component ∈ components, motive component)
    bool num dnum string record (List.forall_mem_nil _)
    (fun _ _ hcomponent hcomponents => List.forall_mem_cons.mpr ⟨hcomponent, hcomponents⟩) τ

mutual

/-- No exception ends `parseString`. -/
def returns : RAPIDType → Text → Bool
  | .bool, _ => true
  | .num, _ => true
  | .dnum, _ => true
  | .string, t => (RAPIDString.unquote t).isSome
  | .record _ components, t =>
      match extractDelimitedSubstrings t with
      | some substrings => components.length != substrings.length || returnsAll components substrings
      | none => false

def returnsAll : List RAPIDType → List Text → Bool
  | component :: components, substring :: substrings =>
      returns component substring && returnsAll components substrings
  | _, _ => true

end

mutual

/-- The counts match at every level, and `atom` holds of the texts of the atoms. -/
def splits (atom : RAPIDType → Text → Bool) : RAPIDType → Text → Bool
  | .bool, t => atom .bool t
  | .num, t => atom .num t
  | .dnum, t => atom .dnum t
  | .string, t => atom .string t
  | .record _ components, t =>
      match extractDelimitedSubstrings t with
      | some substrings =>
          components.length == substrings.length && splitsAll atom components substrings
      | none => false

def splitsAll (atom : RAPIDType → Text → Bool) : List RAPIDType → List Text → Bool
  | component :: components, substring :: substrings =>
      splits atom component substring && splitsAll atom components substrings
  | _, _ => true

end

/-- An atom is read where there is a word for it. -/
def readable : RAPIDType → Text → Bool
  | .num, t => !t.all Text.isSpace
  | .dnum, t => !t.all Text.isSpace
  | .string, t => (RAPIDString.unquote t).any (fun temp => !temp.all Text.isSpace)
  | _, _ => true

mutual

/-- No atom is read; what follows an exception is not. -/
def ignores : RAPIDType → Text → Bool
  | .bool, _ => false
  | .num, t => t.all Text.isSpace
  | .dnum, t => t.all Text.isSpace
  | .string, t => (RAPIDString.unquote t).all (fun temp => temp.all Text.isSpace)
  | .record _ components, t =>
      match extractDelimitedSubstrings t with
      | some substrings => components.length != substrings.length || ignoresAll components substrings
      | none => true

def ignoresAll : List RAPIDType → List Text → Bool
  | component :: components, substring :: substrings =>
      ignores component substring && (!returns component substring || ignoresAll components substrings)
  | _, _ => true

end

/-- The component at a path of indices. -/
def component : RAPIDType → List ℕ → Option RAPIDType
  | τ, [] => some τ
  | .record _ components, i :: path => components[i]?.bind (fun τ => τ.component path)
  | _, _ :: _ => none

def isAtomic : RAPIDType → Bool
  | .record _ _ => false
  | _ => true

end RAPIDType

namespace RAPIDSymbolData

variable {ν δ : Type}

/-- The component at a path of indices. -/
def component : RAPIDSymbolData ν δ → List ℕ → Option (RAPIDSymbolData ν δ)
  | data, [] => some data
  | .record _ components, i :: path => components[i]?.bind (fun data => data.component path)
  | _, _ :: _ => none

theorem component_record (recordTypeName : Text) (components : List (RAPIDSymbolData ν δ)) (i : ℕ)
    (path : List ℕ) : (record recordTypeName components).component (i :: path) =
      components[i]?.bind (fun data => data.component path) := rfl

/-- There is data of every type. -/
theorem exists_type [Nonempty ν] [Nonempty δ] (τ : RAPIDType) :
    ∃ data : RAPIDSymbolData ν δ, data.type = τ := by
  induction τ with
  | bool => exact ⟨.bool true, rfl⟩
  | num =>
      obtain ⟨value⟩ := ‹Nonempty ν›
      exact ⟨.num value, rfl⟩
  | dnum =>
      obtain ⟨value⟩ := ‹Nonempty δ›
      exact ⟨.dnum value, rfl⟩
  | string => exact ⟨.string [], rfl⟩
  | record recordTypeName components ih =>
      have hcomponents : ∃ components' : List (RAPIDSymbolData ν δ), types components' = components := by
        clear recordTypeName
        induction components with
        | nil => exact ⟨[], rfl⟩
        | cons component components ih' =>
            rw [List.forall_mem_cons] at ih
            obtain ⟨data, hdata⟩ := ih.1
            obtain ⟨components', hcomponents'⟩ := ih' ih.2
            exact ⟨data :: components', by rw [types, hdata, hcomponents']⟩
      obtain ⟨components', hcomponents'⟩ := hcomponents
      exact ⟨.record recordTypeName components', by rw [type, hcomponents']⟩

theorem exists_types [Nonempty ν] [Nonempty δ] (τs : List RAPIDType) :
    ∃ components : List (RAPIDSymbolData ν δ), types components = τs := by
  obtain ⟨data, hdata⟩ := exists_type (ν := ν) (δ := δ) (.record [] τs)
  cases data with
  | record name components =>
      rw [type] at hdata
      injection hdata with _ hcomponents
      exact ⟨components, hcomponents⟩
  | _ => cases hdata

theorem exists_of_type_record {data : RAPIDSymbolData ν δ} {recordTypeName : Text}
    {τs : List RAPIDType} (h : data.type = .record recordTypeName τs) :
    ∃ components, data = .record recordTypeName components ∧ types components = τs := by
  cases data with
  | record name components =>
      rw [type] at h
      injection h with hname hcomponents
      exact ⟨components, by rw [hname], hcomponents⟩
  | _ => cases h

theorem exists_of_types_cons {components : List (RAPIDSymbolData ν δ)} {τ : RAPIDType}
    {τs : List RAPIDType} (h : types components = τ :: τs) :
    ∃ first rest, components = first :: rest ∧ first.type = τ ∧ types rest = τs := by
  cases components with
  | nil => cases h
  | cons first rest =>
      rw [types] at h
      injection h with hfirst hrest
      exact ⟨first, rest, rfl, hfirst, hrest⟩

theorem length_types (components : List (RAPIDSymbolData ν δ)) :
    (types components).length = components.length := by
  rw [types_eq, List.length_map]

theorem exists_of_types_getElem {components : List (RAPIDSymbolData ν δ)} {τ : RAPIDType} {i : ℕ}
    (h : (types components)[i]? = some τ) :
    ∃ data, components[i]? = some data ∧ data.type = τ := by
  rw [types_eq, List.getElem?_map] at h
  exact Option.map_eq_some_iff.mp h

/-! ### Parsing -/

variable [Streamed ν] [Streamed δ]

theorem parseStrings_nil (substrings : List Text) :
    parseStrings ([] : List (RAPIDSymbolData ν δ)) substrings = (true, []) := by
  cases substrings <;> rfl

theorem parseStrings_cons_nil (first : RAPIDSymbolData ν δ) (rest : List (RAPIDSymbolData ν δ)) :
    parseStrings (first :: rest) [] = (true, first :: rest) := rfl

theorem parseStrings_cons (first : RAPIDSymbolData ν δ) (rest : List (RAPIDSymbolData ν δ))
    (substring : Text) (substrings : List Text) :
    parseStrings (first :: rest) (substring :: substrings) =
      ((first.parseString substring).1 && (parseStrings rest substrings).1,
        (first.parseString substring).2 ::
          if (first.parseString substring).1 then (parseStrings rest substrings).2 else rest) := by
  rw [parseStrings]
  cases (first.parseString substring).1 <;> rfl

theorem parseStrings_fst {components : List (RAPIDSymbolData ν δ)}
    (h : ∀ component ∈ components, ∀ t, (component.parseString t).1 = component.type.returns t)
    (substrings : List Text) :
    (parseStrings components substrings).1 = RAPIDType.returnsAll (types components) substrings := by
  induction components generalizing substrings with
  | nil =>
      rw [parseStrings_nil, types]
      cases substrings <;> rfl
  | cons first rest ih =>
      rw [List.forall_mem_cons] at h
      cases substrings with
      | nil => rfl
      | cons substring substrings =>
          rw [parseStrings_cons, types, RAPIDType.returnsAll, h.1, ih h.2]

/-- The type tells whether the parser returns. -/
theorem parseString_fst (data : RAPIDSymbolData ν δ) (t : Text) :
    (data.parseString t).1 = data.type.returns t := by
  induction data generalizing t with
  | bool value => rfl
  | num value => rfl
  | dnum value => rfl
  | string value =>
      rw [parseString, RAPIDString.parseString, type, RAPIDType.returns]
      cases RAPIDString.unquote t <;> rfl
  | record recordTypeName components ih =>
      rw [parseString, type, RAPIDType.returns]
      cases extractDelimitedSubstrings t with
      | none => rfl
      | some substrings =>
          simp only [length_types]
          by_cases hcount : components.length = substrings.length
          · rw [if_pos hcount, parseStrings_fst ih, hcount, bne_self_eq_false, Bool.false_or]
          · rw [if_neg hcount, bne_iff_ne.mpr hcount, Bool.true_or]

/-- A component is parsed if no exception ends the loop before it. -/
theorem getElem?_parseStrings (components : List (RAPIDSymbolData ν δ)) (substrings : List Text)
    (i : ℕ) (hcount : components.length = substrings.length) :
    (parseStrings components substrings).2[i]? =
      if RAPIDType.returnsAll ((types components).take i) substrings = true then
        components[i]?.bind fun data => substrings[i]?.map fun t => (data.parseString t).2
      else components[i]? := by
  induction components generalizing substrings i with
  | nil =>
      rw [parseStrings_nil]
      simp
  | cons first rest ih =>
      cases substrings with
      | nil => cases hcount
      | cons substring substrings =>
          rw [parseStrings_cons, types]
          cases i with
          | zero => rfl
          | succ i =>
              rw [List.take_succ_cons, RAPIDType.returnsAll, parseString_fst]
              cases first.type.returns substring with
              | true => exact ih substrings i (by simpa using hcount)
              | false => rfl

/-- The components of a record whose count matches are parsed one by one. -/
theorem parseString_record_snd {t : Text} {recordTypeName : Text}
    {components : List (RAPIDSymbolData ν δ)} {substrings : List Text}
    (hextract : extractDelimitedSubstrings t = some substrings)
    (hcount : components.length = substrings.length) :
    ((.record recordTypeName components : RAPIDSymbolData ν δ).parseString t).2 =
      .record recordTypeName (parseStrings components substrings).2 := by
  rw [parseString]
  simp only [hextract, if_pos hcount]

/-- A record is left as it is if its count does not match. -/
theorem parseString_record_kept {t : Text} {recordTypeName : Text}
    {components : List (RAPIDSymbolData ν δ)}
    (h : ∀ substrings, extractDelimitedSubstrings t = some substrings →
      components.length ≠ substrings.length) :
    ((.record recordTypeName components : RAPIDSymbolData ν δ).parseString t).2 =
      .record recordTypeName components := by
  rw [parseString]
  cases hextract : extractDelimitedSubstrings t with
  | none => rfl
  | some substrings => simp only [if_neg (h substrings hextract)]

/-- What is left at a path into a component: it is parsed if no exception ends the loop before. -/
theorem component_parseString {t : Text} {recordTypeName : Text} {τs : List RAPIDType}
    {substrings : List Text} (hextract : extractDelimitedSubstrings t = some substrings)
    (hcount : τs.length = substrings.length) {i : ℕ} {τ : RAPIDType} (hτ : τs[i]? = some τ)
    (hi : i < substrings.length) (path : List ℕ) {data : RAPIDSymbolData ν δ}
    (hdata : data.type = .record recordTypeName τs) :
    ∃ first : RAPIDSymbolData ν δ, first.type = τ ∧
      data.component (i :: path) = first.component path ∧
      (data.parseString t).2.component (i :: path) =
        if RAPIDType.returnsAll (τs.take i) substrings = true then
          (first.parseString substrings[i]).2.component path
        else first.component path := by
  obtain ⟨components, rfl, htypes⟩ := exists_of_type_record hdata
  rw [← htypes] at hτ
  obtain ⟨first, hfirst, htype⟩ := exists_of_types_getElem hτ
  have hlength : components.length = substrings.length := by
    rw [← length_types, htypes, hcount]
  refine ⟨first, htype, by rw [component_record, hfirst, Option.bind_some], ?_⟩
  rw [parseString_record_snd hextract hlength, component_record,
    getElem?_parseStrings components substrings i hlength, htypes, hfirst,
    List.getElem?_eq_getElem hi]
  split <;> rfl

/-- Without a word, or with an exception, a string stays as it is. -/
theorem string_kept {t : Text}
    (h : (RAPIDString.unquote t).all (fun temp => temp.all Text.isSpace) = true) (value : Text) :
    (RAPIDString.parseString t value).2 = value := by
  unfold RAPIDString.parseString
  cases hunquote : RAPIDString.unquote t with
  | none => rfl
  | some temp =>
      rw [hunquote] at h
      exact firstWord_of_blank h value

theorem string_replaced {t : Text}
    (h : (RAPIDString.unquote t).all (fun temp => temp.all Text.isSpace) = false)
    (value value' : Text) :
    (RAPIDString.parseString t value).2 = (RAPIDString.parseString t value').2 := by
  unfold RAPIDString.parseString
  cases hunquote : RAPIDString.unquote t with
  | none =>
      rw [hunquote] at h
      cases h
  | some temp =>
      rw [hunquote] at h
      exact firstWord_of_word h value value'

/-! ### Atoms -/

variable (ν δ) in
/-- The data of an atomic type: a value, which parsing the text keeps or replaces. -/
structure Atoms (τ : RAPIDType) (t : Text) where
  Value : Type
  nontrivial : Nontrivial Value
  atom : Value → RAPIDSymbolData ν δ
  injective : Function.Injective atom
  type_eq_iff : ∀ data : RAPIDSymbolData ν δ, data.type = τ ↔ ∃ value, atom value = data
  parsed : Value → Value
  parseString_atom : ∀ value, ((atom value).parseString t).2 = atom (parsed value)
  kept : τ.ignores t = true → ∀ value, parsed value = value
  replaced : τ.ignores t = false → ∀ value value', parsed value = parsed value'

variable [Nontrivial ν] [Nontrivial δ] [Streamed.Extracts ν] [Streamed.Extracts δ]

variable (ν δ) in
def atoms : (τ : RAPIDType) → τ.isAtomic = true → (t : Text) → Atoms ν δ τ t
  | .bool, _, t =>
      { Value := Bool
        nontrivial := inferInstance
        atom := .bool
        injective := fun _ _ h => by injection h
        type_eq_iff := fun data => by cases data <;> simp [type]
        parsed := fun _ => RAPIDBool.parseString t
        parseString_atom := fun _ => rfl
        kept := fun h => by cases h
        replaced := fun _ _ _ => rfl }
  | .num, _, t =>
      { Value := ν
        nontrivial := inferInstance
        atom := .num
        injective := fun _ _ h => by injection h
        type_eq_iff := fun data => by cases data <;> simp [type]
        parsed := RAPIDNum.parseString t
        parseString_atom := fun _ => rfl
        kept := Streamed.Extracts.read_blank
        replaced := Streamed.Extracts.read_word }
  | .dnum, _, t =>
      { Value := δ
        nontrivial := inferInstance
        atom := .dnum
        injective := fun _ _ h => by injection h
        type_eq_iff := fun data => by cases data <;> simp [type]
        parsed := RAPIDNum.parseString t
        parseString_atom := fun _ => rfl
        kept := Streamed.Extracts.read_blank
        replaced := Streamed.Extracts.read_word }
  | .string, _, t =>
      { Value := Text
        nontrivial := ⟨[], [quote], (List.cons_ne_nil _ _).symm⟩
        atom := .string
        injective := fun _ _ h => by injection h
        type_eq_iff := fun data => by cases data <;> simp [type]
        parsed := fun value => (RAPIDString.parseString t value).2
        parseString_atom := fun _ => rfl
        kept := string_kept
        replaced := string_replaced }

/-! ### Records that are left as they are -/

variable (ν δ) in
omit [Nontrivial ν] [Nontrivial δ] [Streamed.Extracts ν] [Streamed.Extracts δ] in
/-- The text changes no data of the type. -/
def Leaves (τ : RAPIDType) (t : Text) : Prop :=
  ∀ data : RAPIDSymbolData ν δ, data.type = τ → (data.parseString t).2 = data

theorem leaves_atomic_iff {τ : RAPIDType} (hτ : τ.isAtomic = true) (t : Text) :
    Leaves ν δ τ t ↔ τ.ignores t = true := by
  have a := atoms ν δ τ hτ t
  have := a.nontrivial
  rw [← forall_eq_self_iff a.kept a.replaced]
  constructor
  · intro h value
    apply a.injective
    rw [← a.parseString_atom]
    exact h _ ((a.type_eq_iff _).mpr ⟨value, rfl⟩)
  · intro h data hdata
    obtain ⟨value, rfl⟩ := (a.type_eq_iff data).mp hdata
    rw [a.parseString_atom, h]

omit [Streamed.Extracts ν] [Streamed.Extracts δ] in
theorem leavesAll_iff {τs : List RAPIDType} {substrings : List Text}
    (h : ∀ τ ∈ τs, ∀ t, Leaves ν δ τ t ↔ τ.ignores t = true) :
    (∀ components : List (RAPIDSymbolData ν δ), types components = τs →
        (parseStrings components substrings).2 = components) ↔
      RAPIDType.ignoresAll τs substrings = true := by
  induction τs generalizing substrings with
  | nil =>
      have hignores : RAPIDType.ignoresAll [] substrings = true := by cases substrings <;> rfl
      apply iff_of_true _ hignores
      intro components htypes
      cases components with
      | nil => rw [parseStrings_nil]
      | cons => cases htypes
  | cons τ τs ih =>
      rw [List.forall_mem_cons] at h
      cases substrings with
      | nil =>
          apply iff_of_true _ rfl
          intro components htypes
          obtain ⟨first, rest, rfl, -, -⟩ := exists_of_types_cons htypes
          rw [parseStrings_cons_nil]
      | cons substring substrings =>
          have hrest := @ih substrings h.2
          rw [RAPIDType.ignoresAll, Bool.and_eq_true, Bool.or_eq_true, Bool.not_eq_true',
            ← h.1 substring, ← hrest]
          constructor
          · intro hkept
            constructor
            · intro data hdata
              obtain ⟨rest, hrest⟩ := exists_types (ν := ν) (δ := δ) τs
              have hfirst := hkept (data :: rest) (by rw [types, hdata, hrest])
              rw [parseStrings_cons] at hfirst
              injection hfirst
            · by_cases hreturns : τ.returns substring = true
              · right
                intro rest htypes
                obtain ⟨first, hfirst⟩ := exists_type (ν := ν) (δ := δ) τ
                have hall := hkept (first :: rest) (by rw [types, hfirst, htypes])
                rw [parseStrings_cons, parseString_fst, hfirst, if_pos hreturns] at hall
                injection hall
              · exact .inl (Bool.not_eq_true _ ▸ hreturns)
          · rintro ⟨hfirst, hrest⟩ components htypes
            obtain ⟨first, rest, rfl, hτ, hτs⟩ := exists_of_types_cons htypes
            rw [parseStrings_cons, hfirst first hτ, parseString_fst, hτ]
            rcases hrest with hthrown | hrest
            · rw [if_neg (by rw [hthrown]; simp)]
            · rw [hrest rest hτs, ite_self]

/-- Which texts leave the data as it is. -/
theorem leaves_iff (τ : RAPIDType) (t : Text) : Leaves ν δ τ t ↔ τ.ignores t = true := by
  induction τ generalizing t with
  | record recordTypeName τs ih =>
      rw [RAPIDType.ignores]
      cases hextract : extractDelimitedSubstrings t with
      | none =>
          apply iff_of_true _ rfl
          intro data hdata
          obtain ⟨components, rfl, -⟩ := exists_of_type_record hdata
          exact parseString_record_kept fun substrings h => by rw [hextract] at h; cases h
      | some substrings =>
          simp only
          by_cases hcount : τs.length = substrings.length
          · rw [hcount, bne_self_eq_false, Bool.false_or, ← leavesAll_iff ih]
            constructor
            · intro h components htypes
              have hkept := h (.record recordTypeName components) (by rw [type, htypes])
              rw [parseString_record_snd hextract (by rw [← length_types, htypes, hcount])] at hkept
              injection hkept
            · intro h data hdata
              obtain ⟨components, rfl, htypes⟩ := exists_of_type_record hdata
              rw [parseString_record_snd hextract (by rw [← length_types, htypes, hcount]),
                h components htypes]
          · apply iff_of_true _ (by rw [bne_iff_ne.mpr hcount, Bool.true_or])
            intro data hdata
            obtain ⟨components, rfl, htypes⟩ := exists_of_type_record hdata
            apply parseString_record_kept
            intro substrings' h
            rw [hextract] at h
            rw [← Option.some.inj h, ← length_types, htypes]
            exact hcount
  | _ => exact leaves_atomic_iff rfl t

/-! ### Records that are read in full -/

variable (ν δ) in
omit [Nontrivial ν] [Nontrivial δ] [Streamed.Extracts ν] [Streamed.Extracts δ] in
/-- The counts match at every level, and the text alone tells what is left in every atom. -/
def ReadInFull (τ : RAPIDType) (t : Text) : Prop :=
  τ.splits (fun _ _ => true) t = true ∧
    ∃ data : RAPIDSymbolData ν δ, data.type = τ ∧ Reads t data

theorem exists_reads_atomic_iff {τ : RAPIDType} (hτ : τ.isAtomic = true) (t : Text) :
    (∃ data : RAPIDSymbolData ν δ, data.type = τ ∧ Reads t data) ↔ τ.readable t = true := by
  have hreadable : τ.readable t = (τ.returns t && !τ.ignores t) := by
    cases τ with
    | string =>
        rw [RAPIDType.readable, RAPIDType.returns, RAPIDType.ignores]
        cases RAPIDString.unquote t <;> rfl
    | record => cases hτ
    | _ => rfl
  have a := atoms ν δ τ hτ t
  have := a.nontrivial
  rw [hreadable, Bool.and_eq_true, Bool.not_eq_true', ← exists_const_iff a.kept a.replaced]
  constructor
  · rintro ⟨data, hdata, hreads⟩
    obtain ⟨value, rfl⟩ := (a.type_eq_iff data).mp hdata
    constructor
    · rw [← hdata, ← parseString_fst, hreads _ rfl]
    · refine ⟨value, fun old => a.injective ?_⟩
      rw [← a.parseString_atom, hreads]
      rw [hdata]
      exact (a.type_eq_iff _).mpr ⟨old, rfl⟩
  · rintro ⟨hreturns, value, hparsed⟩
    have hvalue : (a.atom value).type = τ := (a.type_eq_iff _).mpr ⟨value, rfl⟩
    refine ⟨a.atom value, hvalue, ?_⟩
    intro data' hdata'
    rw [hvalue] at hdata'
    obtain ⟨old, rfl⟩ := (a.type_eq_iff data').mp hdata'
    apply Prod.ext
    · rw [parseString_fst, hdata', hreturns]
    · rw [a.parseString_atom, hparsed]

theorem splits_atomic {τ : RAPIDType} (hτ : τ.isAtomic = true) (atom : RAPIDType → Text → Bool)
    (t : Text) : τ.splits atom t = atom τ t := by
  cases τ with
  | record => cases hτ
  | _ => rfl

omit [Nontrivial ν] [Nontrivial δ] [Streamed.Extracts ν] [Streamed.Extracts δ] in
theorem readAll_iff {τs : List RAPIDType} {substrings : List Text}
    (h : ∀ τ ∈ τs, ∀ t, ReadInFull ν δ τ t ↔ τ.splits RAPIDType.readable t = true)
    (hcount : τs.length = substrings.length) :
    (RAPIDType.splitsAll (fun _ _ => true) τs substrings = true ∧
        ∃ components : List (RAPIDSymbolData ν δ), types components = τs ∧
          List.Forall₂ Reads substrings components) ↔
      RAPIDType.splitsAll RAPIDType.readable τs substrings = true := by
  induction τs generalizing substrings with
  | nil =>
      rw [List.eq_nil_of_length_eq_zero hcount.symm]
      exact iff_of_true ⟨rfl, [], rfl, .nil⟩ rfl
  | cons τ τs ih =>
      rw [List.forall_mem_cons] at h
      cases substrings with
      | nil => cases hcount
      | cons substring substrings =>
          have hrest := @ih substrings h.2 (by simpa using hcount)
          rw [RAPIDType.splitsAll, RAPIDType.splitsAll, Bool.and_eq_true, Bool.and_eq_true,
            ← h.1 substring, ← hrest]
          constructor
          · rintro ⟨⟨hsplits, hsplitsAll⟩, components, htypes, hreads⟩
            obtain ⟨first, rest, rfl, hfirst, hrest⟩ := exists_of_types_cons htypes
            cases hreads with
            | cons hread hreads =>
                exact ⟨⟨hsplits, first, hfirst, hread⟩, hsplitsAll, rest, hrest, hreads⟩
          · rintro ⟨⟨hsplits, first, hfirst, hread⟩, hsplitsAll, rest, hrest, hreads⟩
            exact ⟨⟨hsplits, hsplitsAll⟩, first :: rest, by rw [types, hfirst, hrest],
              .cons hread hreads⟩

/-- Which texts are read in full. -/
theorem readInFull_iff (τ : RAPIDType) (t : Text) :
    ReadInFull ν δ τ t ↔ τ.splits RAPIDType.readable t = true := by
  induction τ generalizing t with
  | record recordTypeName τs ih =>
      unfold ReadInFull
      rw [RAPIDType.splits, RAPIDType.splits]
      cases hextract : extractDelimitedSubstrings t with
      | none => exact iff_of_false (fun h => by cases h.1) (fun h => by cases h)
      | some substrings =>
          simp only [Bool.and_eq_true, beq_iff_eq]
          rw [and_assoc]
          apply and_congr_right
          intro hcount
          rw [← readAll_iff ih hcount]
          apply and_congr_right
          intro _
          constructor
          · rintro ⟨data, hdata, hreads⟩
            obtain ⟨components, rfl, htypes⟩ := exists_of_type_record hdata
            exact ⟨components, htypes, forall₂_of_reads_record hextract
              (by rw [← length_types, htypes, hcount]) hreads⟩
          · rintro ⟨components, htypes, hreads⟩
            exact ⟨.record recordTypeName components, by rw [type, htypes],
              reads_record hextract hreads⟩
  | _ =>
      unfold ReadInFull
      rw [splits_atomic rfl, splits_atomic rfl, exists_reads_atomic_iff rfl]
      exact and_iff_right rfl

/-! ### The atoms of a record -/

variable (ν δ) in
omit [Nontrivial ν] [Nontrivial δ] [Streamed.Extracts ν] [Streamed.Extracts δ] in
/-- The text changes nothing at the path. -/
def LeavesAt (τ : RAPIDType) (t : Text) (path : List ℕ) : Prop :=
  ∀ data : RAPIDSymbolData ν δ, data.type = τ →
    (data.parseString t).2.component path = data.component path

variable (ν δ) in
omit [Nontrivial ν] [Nontrivial δ] [Streamed.Extracts ν] [Streamed.Extracts δ] in
/-- The text alone tells what is left at the path. -/
def ReadsAt (τ : RAPIDType) (t : Text) (path : List ℕ) : Prop :=
  ∀ data data' : RAPIDSymbolData ν δ, data.type = τ → data'.type = τ →
    (data.parseString t).2.component path = (data'.parseString t).2.component path

theorem readsAt_or_leavesAt_nil {τ : RAPIDType} (hτ : τ.isAtomic = true) (t : Text) :
    ReadsAt ν δ τ t [] ∨ LeavesAt ν δ τ t [] := by
  have a := atoms ν δ τ hτ t
  cases hignores : τ.ignores t with
  | true =>
      right
      intro data hdata
      obtain ⟨value, rfl⟩ := (a.type_eq_iff data).mp hdata
      rw [a.parseString_atom, a.kept hignores]
  | false =>
      left
      intro data data' hdata hdata'
      obtain ⟨value, rfl⟩ := (a.type_eq_iff data).mp hdata
      obtain ⟨value', rfl⟩ := (a.type_eq_iff data').mp hdata'
      rw [a.parseString_atom, a.parseString_atom, a.replaced hignores value value']

omit [Nontrivial ν] [Nontrivial δ] [Streamed.Extracts ν] [Streamed.Extracts δ] in
/-- A path into a component: the text of the component decides, if it is parsed. -/
theorem readsAt_or_leavesAt_cons {t : Text} {recordTypeName : Text} {τs : List RAPIDType}
    {substrings : List Text} (hextract : extractDelimitedSubstrings t = some substrings)
    (hcount : τs.length = substrings.length) {i : ℕ} {τ : RAPIDType} (hτ : τs[i]? = some τ)
    (hi : i < substrings.length) {path : List ℕ}
    (h : ReadsAt ν δ τ substrings[i] path ∨ LeavesAt ν δ τ substrings[i] path) :
    ReadsAt ν δ (.record recordTypeName τs) t (i :: path) ∨
      LeavesAt ν δ (.record recordTypeName τs) t (i :: path) := by
  by_cases hreturns : RAPIDType.returnsAll (τs.take i) substrings = true
  · rcases h with hreads | hleaves
    · left
      intro data data' hdata hdata'
      obtain ⟨first, hfirst, -, hread⟩ := component_parseString hextract hcount hτ hi path hdata
      obtain ⟨first', hfirst', -, hread'⟩ := component_parseString hextract hcount hτ hi path hdata'
      rw [hread, hread', if_pos hreturns, if_pos hreturns]
      exact hreads first first' hfirst hfirst'
    · right
      intro data hdata
      obtain ⟨first, hfirst, hold, hread⟩ := component_parseString hextract hcount hτ hi path hdata
      rw [hread, hold, if_pos hreturns]
      exact hleaves first hfirst
  · right
    intro data hdata
    obtain ⟨first, -, hold, hread⟩ := component_parseString hextract hcount hτ hi path hdata
    rw [hread, hold, if_neg hreturns]

/-- Every atom is read, or it is left as it is, whatever the record holds. -/
theorem readsAt_or_leavesAt {τ atom : RAPIDType} (t : Text) {path : List ℕ}
    (h : τ.component path = some atom) (hatom : atom.isAtomic = true) :
    ReadsAt ν δ τ t path ∨ LeavesAt ν δ τ t path := by
  induction path generalizing τ t with
  | nil =>
      have hτatom : τ.component [] = some τ := by cases τ <;> rfl
      rw [← Option.some.inj (hτatom.symm.trans h)] at hatom
      exact readsAt_or_leavesAt_nil hatom t
  | cons i path ih =>
      cases τ with
      | record recordTypeName τs =>
          rw [RAPIDType.component, Option.bind_eq_some_iff] at h
          obtain ⟨τ', hτ', hpath⟩ := h
          by_cases hcount : ∃ substrings, extractDelimitedSubstrings t = some substrings ∧
              τs.length = substrings.length
          · obtain ⟨substrings, hextract, hcount⟩ := hcount
            have hi : i < substrings.length := by
              rw [← hcount]
              exact (List.getElem?_eq_some_iff.mp hτ').1
            exact readsAt_or_leavesAt_cons hextract hcount hτ' hi (ih substrings[i] hpath)
          · right
            intro data hdata
            obtain ⟨components, rfl, htypes⟩ := exists_of_type_record hdata
            rw [parseString_record_kept]
            intro substrings hextract hlength
            exact hcount ⟨substrings, hextract, by rw [← htypes, length_types, hlength]⟩
      | _ => cases h

end RAPIDSymbolData

end AbbWrapper
