import AbbWrapper.RwsClient

/-! # Text in document order

A node of a document is found at its path, the indices of the children on the way from the root; the
order of the document is the lexicographic order of the paths.

* `textAt` is the text node at a path, with the attributes of its parent.
* `Carries` says that the text at a path has a parent with the attribute, and `First` that a text comes
  before all others of this kind.
* `NoEmptyText` says that no text of a document is empty.

`xmlFindTextContent` returns the first text whose parent has the attribute, and nothing exactly if there
is none, as long as no text is empty (`xmlFindTextContent_first`): emptiness is what tells that nothing
was found.  The proof is by induction over the tree, with one lemma for a text child and one for an
element (`carries_cons_text`, `carries_cons_element`). -/

namespace AbbWrapper

namespace XMLNode

/-- Induction over the tree of a document. -/
@[induction_eliminator]
theorem induct {motive : XMLNode → Prop} (text : ∀ nodeValue, motive (.text nodeValue))
    (element : ∀ attributes childNodes, (∀ child ∈ childNodes, motive child) →
      motive (.element attributes childNodes)) (node : XMLNode) : motive node :=
  @XMLNode.rec motive (fun childNodes => ∀ child ∈ childNodes, motive child) text element
    (List.forall_mem_nil _)
    (fun _ _ hchild hchildren => List.forall_mem_cons.mpr ⟨hchild, hchildren⟩) node

/-- The text node at a path, with the attributes of its parent. -/
def textAt : XMLNode → List ℕ → Option (List XMLAttribute × Text)
  | .element attributes childNodes, i :: path =>
      match childNodes[i]?, path with
      | some (.text nodeValue), [] => some (attributes, nodeValue)
      | some child, path => child.textAt path
      | none, _ => none
  | _, _ => none

/-- At the path there is this text, and its parent has the attribute. -/
def Carries (root : XMLNode) (xmlAttribute : XMLAttribute) (path : List ℕ) (content : Text) : Prop :=
  ∃ attributes, root.textAt path = some (attributes, content) ∧ xmlAttribute ∈ attributes

/-- Of the texts whose parents have the attribute, this one comes first. -/
def First (root : XMLNode) (xmlAttribute : XMLAttribute) (content : Text) : Prop :=
  ∃ path, root.Carries xmlAttribute path content ∧
    ∀ path' content', root.Carries xmlAttribute path' content' → ¬path' < path

def NoEmptyText (root : XMLNode) : Prop :=
  ∀ path attributes content, root.textAt path = some (attributes, content) → content ≠ []

end XMLNode

/-! ### Searching in order -/

/-- The result of a search for the first text: empty if there is none. -/
def Found (C : List ℕ → Text → Prop) (result : Text) : Prop :=
  (result = [] → ∀ path content, ¬C path content) ∧
    (result ≠ [] → ∃ path, C path result ∧ ∀ path' content', C path' content' → ¬path' < path)

/-- Of the first child and of the other ones. -/
theorem Found.cons {C H T : List ℕ → Text → Prop} {first rest : Text}
    (hC : ∀ path content, C path content ↔ (∃ p, path = 0 :: p ∧ H p content) ∨
      ∃ i p, path = (i + 1) :: p ∧ T (i :: p) content)
    (hT : ∀ path content, T path content → path ≠ [])
    (hfirst : Found H first) (hrest : Found T rest) :
    Found C (if first = [] then rest else first) := by
  by_cases hempty : first = []
  · have hnone := hfirst.1 hempty
    rw [if_pos hempty]
    constructor
    · intro hresult path content hc
      rcases (hC path content).mp hc with ⟨p, -, hp⟩ | ⟨i, p, -, hp⟩
      · exact hnone p content hp
      · exact hrest.1 hresult (i :: p) content hp
    · intro hresult
      obtain ⟨path, hpath, hleast⟩ := hrest.2 hresult
      cases path with
      | nil => exact absurd rfl (hT [] rest hpath)
      | cons i p =>
          refine ⟨(i + 1) :: p, (hC _ _).mpr (.inr ⟨i, p, rfl, hpath⟩), ?_⟩
          intro path' content' hc
          rcases (hC path' content').mp hc with ⟨p', -, hp'⟩ | ⟨i', p', rfl, hp'⟩
          · exact absurd hp' (hnone p' content')
          · intro hlt
            rw [List.cons_lt_cons_iff] at hlt
            refine hleast (i' :: p') content' hp' ?_
            rw [List.cons_lt_cons_iff]
            rcases hlt with hlt | ⟨heq, hlt⟩
            · left
              omega
            · right
              exact ⟨by omega, hlt⟩
  · rw [if_neg hempty]
    obtain ⟨path, hpath, hleast⟩ := hfirst.2 hempty
    refine ⟨fun h => absurd h hempty, fun _ => ?_⟩
    refine ⟨0 :: path, (hC _ _).mpr (.inl ⟨path, rfl, hpath⟩), ?_⟩
    intro path' content' hc
    rcases (hC path' content').mp hc with ⟨p', rfl, hp'⟩ | ⟨i', p', rfl, -⟩
    · intro hlt
      rw [List.cons_lt_cons_iff] at hlt
      rcases hlt with hlt | ⟨-, hlt⟩
      · omega
      · exact hleast p' content' hp' hlt
    · intro hlt
      rw [List.cons_lt_cons_iff] at hlt
      rcases hlt with hlt | ⟨heq, -⟩
      · omega
      · omega

/-! ### The texts of an element -/

namespace XMLNode

variable {xmlAttribute : XMLAttribute} {attributes : List XMLAttribute} {childNodes : List XMLNode}

theorem textAt_nil (root : XMLNode) : root.textAt [] = none := by
  cases root <;> rfl

theorem textAt_zero_text (nodeValue : Text) :
    (element attributes (.text nodeValue :: childNodes)).textAt [0] = some (attributes, nodeValue) :=
  rfl

theorem textAt_zero_element (attributes' : List XMLAttribute) (childNodes' : List XMLNode)
    (path : List ℕ) : (element attributes (.element attributes' childNodes' :: childNodes)).textAt
      (0 :: path) = (element attributes' childNodes').textAt path := by
  cases path <;> rfl

theorem textAt_succ (child : XMLNode) (i : ℕ) (path : List ℕ) :
    (element attributes (child :: childNodes)).textAt ((i + 1) :: path) =
      (element attributes childNodes).textAt (i :: path) := by
  unfold textAt
  rw [List.getElem?_cons_succ]

theorem Carries.ne_nil {root : XMLNode} {path : List ℕ} {content : Text}
    (h : root.Carries xmlAttribute path content) : path ≠ [] := by
  rintro rfl
  obtain ⟨attributes, htext, -⟩ := h
  rw [textAt_nil] at htext
  cases htext

/-- A text child, and what comes after it. -/
theorem carries_cons_text (nodeValue : Text) (path : List ℕ) (content : Text) :
    (element attributes (.text nodeValue :: childNodes)).Carries xmlAttribute path content ↔
      (∃ p, path = 0 :: p ∧ p = [] ∧ content = nodeValue ∧ xmlAttribute ∈ attributes) ∨
      ∃ i p, path = (i + 1) :: p ∧
        (element attributes childNodes).Carries xmlAttribute (i :: p) content := by
  constructor
  · intro h
    cases path with
    | nil => exact absurd rfl h.ne_nil
    | cons i p =>
        cases i with
        | succ i =>
            unfold Carries at h
            rw [textAt_succ] at h
            exact .inr ⟨i, p, rfl, h⟩
        | zero =>
            obtain ⟨attributes', htext, hmem⟩ := h
            cases p with
            | nil =>
                obtain ⟨rfl, rfl⟩ := Prod.mk.inj (Option.some.inj htext)
                exact .inl ⟨[], rfl, rfl, rfl, hmem⟩
            | cons j p => cases htext
  · rintro (⟨p, rfl, rfl, rfl, hmem⟩ | ⟨i, p, rfl, h⟩)
    · exact ⟨attributes, textAt_zero_text content, hmem⟩
    · unfold Carries
      rw [textAt_succ]
      exact h

/-- An element, and what comes after it. -/
theorem carries_cons_element (attributes' : List XMLAttribute) (childNodes' : List XMLNode)
    (path : List ℕ) (content : Text) :
    (element attributes (.element attributes' childNodes' :: childNodes)).Carries xmlAttribute path
        content ↔
      (∃ p, path = 0 :: p ∧ (element attributes' childNodes').Carries xmlAttribute p content) ∨
      ∃ i p, path = (i + 1) :: p ∧
        (element attributes childNodes).Carries xmlAttribute (i :: p) content := by
  constructor
  · intro h
    cases path with
    | nil => exact absurd rfl h.ne_nil
    | cons i p =>
        unfold Carries at h
        cases i with
        | zero =>
            rw [textAt_zero_element] at h
            exact .inl ⟨p, rfl, h⟩
        | succ i =>
            rw [textAt_succ] at h
            exact .inr ⟨i, p, rfl, h⟩
  · rintro (⟨p, rfl, h⟩ | ⟨i, p, rfl, h⟩)
    · unfold Carries
      rw [textAt_zero_element]
      exact h
    · unfold Carries
      rw [textAt_succ]
      exact h

theorem noEmptyText_nil : (element attributes []).NoEmptyText := by
  intro path attributes' content htext
  cases path <;> cases htext

theorem noEmptyText_cons_text (nodeValue : Text) :
    (element attributes (.text nodeValue :: childNodes)).NoEmptyText ↔
      nodeValue ≠ [] ∧ (element attributes childNodes).NoEmptyText := by
  constructor
  · intro h
    refine ⟨h [0] attributes nodeValue (textAt_zero_text nodeValue), ?_⟩
    intro path attributes' content htext
    cases path with
    | nil =>
        rw [textAt_nil] at htext
        cases htext
    | cons i p =>
        rw [← textAt_succ (.text nodeValue)] at htext
        exact h ((i + 1) :: p) attributes' content htext
  · rintro ⟨hnode, h⟩ path attributes' content htext
    match path with
    | [] =>
        rw [textAt_nil] at htext
        cases htext
    | [0] =>
        rw [textAt_zero_text] at htext
        obtain ⟨-, rfl⟩ := Prod.mk.inj (Option.some.inj htext)
        exact hnode
    | 0 :: j :: p => cases htext
    | (i + 1) :: p =>
        rw [textAt_succ] at htext
        exact h (i :: p) attributes' content htext

theorem noEmptyText_cons_element (attributes' : List XMLAttribute) (childNodes' : List XMLNode) :
    (element attributes (.element attributes' childNodes' :: childNodes)).NoEmptyText ↔
      (element attributes' childNodes').NoEmptyText ∧ (element attributes childNodes).NoEmptyText := by
  constructor
  · intro h
    constructor
    · intro path attributes'' content htext
      have hparent : (element attributes (.element attributes' childNodes' :: childNodes)).textAt
          (0 :: path) = some (attributes'', content) :=
        (textAt_zero_element attributes' childNodes' path).trans htext
      exact h (0 :: path) attributes'' content hparent
    · intro path attributes'' content htext
      cases path with
      | nil =>
          rw [textAt_nil] at htext
          cases htext
      | cons i p =>
          rw [← textAt_succ (.element attributes' childNodes')] at htext
          exact h ((i + 1) :: p) attributes'' content htext
  · rintro ⟨hhead, htail⟩ path attributes'' content htext
    cases path with
    | nil =>
        rw [textAt_nil] at htext
        cases htext
    | cons i p =>
        cases i with
        | zero =>
            rw [textAt_zero_element] at htext
            exact hhead p attributes'' content htext
        | succ i =>
            rw [textAt_succ] at htext
            exact htail (i :: p) attributes'' content htext

end XMLNode

/-! ### The search -/

open XMLNode

theorem xmlNodeHasAttribute_iff {attributes : List XMLAttribute} {xmlAttribute : XMLAttribute}
    (hname : xmlAttribute.name ≠ []) :
    xmlNodeHasAttribute attributes xmlAttribute = true ↔ xmlAttribute ∈ attributes := by
  simp [xmlNodeHasAttribute, hname]

/-- A text child is found if its parent has the attribute. -/
theorem found_text {attributes : List XMLAttribute} {xmlAttribute : XMLAttribute} {nodeValue : Text}
    (hnode : nodeValue ≠ []) : Found
      (fun p content => p = [] ∧ content = nodeValue ∧ xmlAttribute ∈ attributes)
      (if xmlAttribute ∈ attributes then nodeValue else []) := by
  by_cases hmem : xmlAttribute ∈ attributes
  · rw [if_pos hmem]
    refine ⟨fun h => absurd h hnode, fun _ => ⟨[], ⟨rfl, rfl, hmem⟩, ?_⟩⟩
    rintro path' content' ⟨rfl, -, -⟩
    exact List.not_lt_nil []
  · rw [if_neg hmem]
    refine ⟨fun _ path content h => hmem h.2.2, fun h => absurd rfl h⟩

theorem found_children {xmlAttribute : XMLAttribute} (hname : xmlAttribute.name ≠ [])
    {attributes : List XMLAttribute} {childNodes : List XMLNode}
    (hchildren : ∀ child ∈ childNodes, child.NoEmptyText →
      Found (child.Carries xmlAttribute) (xmlFindTextContent xmlAttribute child))
    (htexts : (element attributes childNodes).NoEmptyText) :
    Found ((element attributes childNodes).Carries xmlAttribute)
      (xmlFindInChildren xmlAttribute attributes childNodes) := by
  induction childNodes with
  | nil =>
      refine ⟨fun _ path content h => ?_, fun h => absurd rfl h⟩
      obtain ⟨attributes', htext, -⟩ := h
      cases path <;> cases htext
  | cons child childNodes ih =>
      rw [List.forall_mem_cons] at hchildren
      cases child with
      | text nodeValue =>
          obtain ⟨hnode, htail⟩ := (noEmptyText_cons_text nodeValue).mp htexts
          have hresult : xmlFindInChildren xmlAttribute attributes (.text nodeValue :: childNodes) =
              if (if xmlAttribute ∈ attributes then nodeValue else []) = [] then
                xmlFindInChildren xmlAttribute attributes childNodes
              else if xmlAttribute ∈ attributes then nodeValue else [] := by
            rw [xmlFindInChildren]
            by_cases hmem : xmlAttribute ∈ attributes
            · rw [if_pos ((xmlNodeHasAttribute_iff hname).mpr hmem), if_pos hmem, if_neg hnode]
            · rw [if_neg (fun h => hmem ((xmlNodeHasAttribute_iff hname).mp h)), if_neg hmem,
                if_pos rfl]
          rw [hresult]
          exact Found.cons (carries_cons_text nodeValue) (fun _ _ h => h.ne_nil) (found_text hnode)
            (ih hchildren.2 htail)
      | element attributes' childNodes' =>
          obtain ⟨hhead, htail⟩ := (noEmptyText_cons_element attributes' childNodes').mp htexts
          rw [xmlFindInChildren]
          exact Found.cons (carries_cons_element attributes' childNodes') (fun _ _ h => h.ne_nil)
            (hchildren.1 hhead) (ih hchildren.2 htail)

theorem found_node {xmlAttribute : XMLAttribute} (hname : xmlAttribute.name ≠ []) (root : XMLNode)
    (htexts : root.NoEmptyText) :
    Found (root.Carries xmlAttribute) (xmlFindTextContent xmlAttribute root) := by
  induction root with
  | text nodeValue =>
      refine ⟨fun _ path content h => ?_, fun h => absurd (by rw [xmlFindTextContent]) h⟩
      obtain ⟨attributes, htext, -⟩ := h
      cases path <;> cases htext
  | element attributes childNodes ih =>
      rw [xmlFindTextContent]
      exact found_children hname ih htexts

/-- **The first text in document order**, and nothing exactly if there is none. -/
theorem xmlFindTextContent_first (root : XMLNode) (xmlAttribute : XMLAttribute)
    (hname : xmlAttribute.name ≠ []) (htexts : root.NoEmptyText) :
    ((∃ path content, root.Carries xmlAttribute path content) →
      root.First xmlAttribute (xmlFindTextContent xmlAttribute root)) ∧
    (xmlFindTextContent xmlAttribute root = [] ↔
      ¬∃ path content, root.Carries xmlAttribute path content) := by
  obtain ⟨hnone, hfirst⟩ := found_node hname root htexts
  constructor
  · rintro ⟨path, content, hcarries⟩
    exact hfirst fun hempty => hnone hempty path content hcarries
  · constructor
    · rintro hempty ⟨path, content, hcarries⟩
      exact hnone hempty path content hcarries
    · intro hnot
      by_contra hresult
      obtain ⟨path, hcarries, -⟩ := hfirst hresult
      exact hnot ⟨path, _, hcarries⟩

/-- A document with text beside elements: the text that is found follows an element without it. -/
theorem xmlFindTextContent_mixed :
    (element [] [.text ['\n'], .element [XMLAttributes.classValue] [.element [] [.text ['1']],
      .text ['2']], .element [XMLAttributes.classValue] [.text ['3']]]).First
        XMLAttributes.classValue ['2'] := by
  refine (xmlFindTextContent_first _ _ (by decide) ?_).1 ⟨[1, 1], ['2'], [XMLAttributes.classValue],
    rfl, List.mem_singleton_self _⟩
  simp [noEmptyText_cons_text, noEmptyText_cons_element, noEmptyText_nil]

end AbbWrapper
