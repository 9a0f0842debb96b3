import AbbWrapper.DocumentOrder
import AbbWrapper.IOSignals

/-! # The lists in a document

`xmlFindNodes` goes through the elements of a document and returns those that have an attribute; every
function of `RWSInterface` that reads a list, of RAPID tasks, modules or options, starts from them.

* A node is found at its path, the indices of the children on the way to it (`nodeAt`), and
  `elementPaths` are the paths of all elements in the order in which the `NodeIterator` comes to them.
* `Lists` says of a list that it has one entry for each element with the attribute, in document order;
  `xmlFindNodes` is such a list (`lists_xmlFindNodes`).
* `Shows` is what a node shows under an attribute: its first text there.
* `ReadsAnswer` is one request with what is read of its answer.  It is about documents without empty
  texts, since the search takes an empty text for one that is missing.

Tasks and modules have an entry for every element.  An option is read from two elements that follow each
other, and a last one without a partner is dropped; of the systems the last one is reported
(`answers_listed`). -/

namespace AbbWrapper

open Exchanges

/-! ### Elements and their paths -/

namespace XMLNode

/-- The node at a path. -/
def nodeAt : XMLNode → List ℕ → Option XMLNode
  | node, [] => some node
  | .element _ childNodes, i :: path =>
      match childNodes[i]? with
      | some child => child.nodeAt path
      | none => none
  | .text _, _ :: _ => none

def isElement : XMLNode → Bool
  | .text _ => false
  | .element _ _ => true

/-- `xmlNodeHasAttribute` of a node. -/
def hasAttribute (xmlAttribute : XMLAttribute) : XMLNode → Bool
  | .text _ => false
  | .element attributes _ => xmlNodeHasAttribute attributes xmlAttribute

mutual

/-- What a `NodeIterator` comes to that shows elements, in its order. -/
def elements : XMLNode → List XMLNode
  | .text _ => []
  | .element attributes childNodes => .element attributes childNodes :: childElements childNodes

def childElements : List XMLNode → List XMLNode
  | [] => []
  | child :: children => elements child ++ childElements children

end

mutual

/-- The paths of the elements, in the same order. -/
def elementPaths : XMLNode → List (List ℕ)
  | .text _ => []
  | .element _ childNodes => [] :: childPaths 0 childNodes

/-- Of children that are counted from `k` on. -/
def childPaths (k : ℕ) : List XMLNode → List (List ℕ)
  | [] => []
  | child :: children => (elementPaths child).map (k :: ·) ++ childPaths (k + 1) children

end

variable {attributes : List XMLAttribute} {childNodes : List XMLNode}

theorem nodeAt_nil (node : XMLNode) : node.nodeAt [] = some node := by
  cases node <;> rfl

theorem mem_childPaths {children : List XMLNode} {k : ℕ} {path : List ℕ} :
    path ∈ childPaths k children ↔
      ∃ i p child, path = (k + i) :: p ∧ children[i]? = some child ∧ p ∈ elementPaths child := by
  induction children generalizing k with
  | nil => simp [childPaths]
  | cons child children ih =>
      rw [childPaths, List.mem_append, List.mem_map, ih]
      constructor
      · rintro (⟨p, hp, rfl⟩ | ⟨i, p, child', rfl, hchild, hp⟩)
        · exact ⟨0, p, child, rfl, rfl, hp⟩
        · exact ⟨i + 1, p, child', by rw [Nat.add_right_comm, Nat.add_assoc], hchild, hp⟩
      · rintro ⟨i, p, child', rfl, hchild, hp⟩
        cases i with
        | zero =>
            rw [List.getElem?_cons_zero, Option.some.injEq] at hchild
            exact .inl ⟨p, hchild ▸ hp, rfl⟩
        | succ i =>
            rw [List.getElem?_cons_succ] at hchild
            exact .inr ⟨i, p, child', by rw [Nat.add_right_comm, Nat.add_assoc], hchild, hp⟩

/-- There is a path to every element, and to nothing else. -/
theorem mem_elementPaths (root : XMLNode) (path : List ℕ) :
    path ∈ elementPaths root ↔ ∃ node, root.nodeAt path = some node ∧ node.isElement = true := by
  induction root generalizing path with
  | text nodeValue => cases path <;> simp [elementPaths, nodeAt, isElement]
  | element attributes childNodes ih =>
      cases path with
      | nil => simp [elementPaths, nodeAt, isElement]
      | cons i p =>
          rw [elementPaths, List.mem_cons, or_iff_right (List.cons_ne_nil i p), mem_childPaths]
          constructor
          · rintro ⟨i', p', child, hpath, hchild, hp⟩
            rw [Nat.zero_add] at hpath
            obtain ⟨rfl, rfl⟩ := List.cons.inj hpath
            obtain ⟨node, hnode, helement⟩ :=
              (ih child (List.mem_of_getElem? hchild) p).mp hp
            exact ⟨node, by rw [nodeAt, hchild]; exact hnode, helement⟩
          · rintro ⟨node, hnode, helement⟩
            rw [nodeAt] at hnode
            cases hchild : childNodes[i]? with
            | none =>
                rw [hchild] at hnode
                cases hnode
            | some child =>
                rw [hchild] at hnode
                have hp := (ih child (List.mem_of_getElem? hchild) p).mpr ⟨node, hnode, helement⟩
                exact ⟨i, p, child, by rw [Nat.zero_add], hchild, hp⟩

theorem childPaths_sorted {children : List XMLNode} (k : ℕ)
    (hchildren : ∀ child ∈ children, (elementPaths child).Pairwise (· < ·)) :
    (childPaths k children).Pairwise (· < ·) := by
  induction children generalizing k with
  | nil => exact .nil
  | cons child children ih =>
      rw [List.forall_mem_cons] at hchildren
      rw [childPaths, List.pairwise_append]
      refine ⟨?_, ih (k + 1) hchildren.2, ?_⟩
      · rw [List.pairwise_map]
        exact hchildren.1.imp fun h => List.cons_lt_cons_iff.mpr (.inr ⟨rfl, h⟩)
      · intro path hpath path' hpath'
        obtain ⟨p, -, rfl⟩ := List.mem_map.mp hpath
        obtain ⟨i, p', child', rfl, -, -⟩ := mem_childPaths.mp hpath'
        exact List.cons_lt_cons_iff.mpr (.inl (by omega))

theorem elementPaths_sorted (root : XMLNode) : (elementPaths root).Pairwise (· < ·) := by
  induction root with
  | text nodeValue => exact .nil
  | element attributes childNodes ih =>
      rw [elementPaths, List.pairwise_cons]
      refine ⟨fun path hpath => ?_, childPaths_sorted 0 ih⟩
      obtain ⟨i, p, child, rfl, -, -⟩ := mem_childPaths.mp hpath
      exact List.nil_lt_cons _ _

/-- The children of an element from the `k`-th one on. -/
theorem map_nodeAt_childPaths {children : List XMLNode} {k : ℕ}
    (hdrop : childNodes.drop k = children)
    (hchildren : ∀ child ∈ children,
      (elementPaths child).map child.nodeAt = (elements child).map some) :
    (childPaths k children).map (element attributes childNodes).nodeAt =
      (childElements children).map some := by
  induction children generalizing k with
  | nil => rfl
  | cons child children ih =>
      rw [List.forall_mem_cons] at hchildren
      have hchild : childNodes[k]? = some child := by
        rw [← Nat.add_zero k, ← List.getElem?_drop, hdrop]
        rfl
      have hrest : childNodes.drop (k + 1) = children := by
        rw [← List.drop_drop, hdrop]
        rfl
      rw [childPaths, childElements, List.map_append, List.map_append, ih hrest hchildren.2,
        ← hchildren.1, List.map_map]
      congr 1
      apply List.map_congr_left
      intro p _
      simp only [Function.comp_apply, nodeAt, hchild]

/-- The iterator comes to the elements in the order of their paths. -/
theorem map_nodeAt_elementPaths (root : XMLNode) :
    (elementPaths root).map root.nodeAt = (elements root).map some := by
  induction root with
  | text nodeValue => rfl
  | element attributes childNodes ih =>
      rw [elementPaths, elements, List.map_cons, List.map_cons, nodeAt_nil,
        map_nodeAt_childPaths List.drop_zero ih]

end XMLNode

/-! ### `xmlFindNodes` -/

open XMLNode

/-- Nothing for a null document. -/
def xmlFindNodes (xmlDocument : Option XMLNode) (xmlAttribute : XMLAttribute) : List XMLNode :=
  match xmlDocument with
  | some root => (elements root).filter (hasAttribute xmlAttribute)
  | none => []

/-- The elements of the document that have the attribute are at these paths, in its order. -/
structure Places (root : XMLNode) (xmlAttribute : XMLAttribute) (paths : List (List ℕ)) : Prop where
  sorted : paths.Pairwise (· < ·)
  mem_iff (path : List ℕ) :
    path ∈ paths ↔ ∃ node, root.nodeAt path = some node ∧ node.hasAttribute xmlAttribute = true

/-- One entry for each element that has the attribute, in document order, with what `Reads` says of
it. -/
def Lists {β : Type} (root : XMLNode) (xmlAttribute : XMLAttribute) (Reads : XMLNode → β → Prop)
    (entries : List β) : Prop :=
  ∃ paths, Places root xmlAttribute paths ∧
    List.Forall₂ (fun path entry => ∃ node, root.nodeAt path = some node ∧ Reads node entry) paths
      entries

theorem isElement_of_hasAttribute {xmlAttribute : XMLAttribute} {node : XMLNode}
    (h : node.hasAttribute xmlAttribute = true) : node.isElement = true := by
  cases node with
  | text nodeValue => cases h
  | element attributes childNodes => rfl

/-- **The elements with the attribute, in document order**, each once. -/
theorem lists_xmlFindNodes (root : XMLNode) (xmlAttribute : XMLAttribute) :
    Lists root xmlAttribute (fun node entry => node = entry)
      (xmlFindNodes (some root) xmlAttribute) := by
  let found (path : List ℕ) : Bool := (root.nodeAt path).any (hasAttribute xmlAttribute)
  refine ⟨(elementPaths root).filter found, ⟨?_, ?_⟩, ?_⟩
  · exact (elementPaths_sorted root).filter _
  · intro path
    rw [List.mem_filter, mem_elementPaths]
    constructor
    · rintro ⟨⟨node, hnode, -⟩, hfound⟩
      simp only [found, hnode, Option.any_some] at hfound
      exact ⟨node, hnode, hfound⟩
    · rintro ⟨node, hnode, hattribute⟩
      refine ⟨⟨node, hnode, isElement_of_hasAttribute hattribute⟩, ?_⟩
      simp only [found, hnode, Option.any_some]
      exact hattribute
  · have hmap : ((elementPaths root).filter found).map root.nodeAt =
        (xmlFindNodes (some root) xmlAttribute).map some := by
      have hfilter := congrArg (List.filter (Option.any (hasAttribute xmlAttribute)))
        (map_nodeAt_elementPaths root)
      rw [List.filter_map, List.filter_map] at hfilter
      exact hfilter
    rw [← List.forall₂_eq_eq_eq, List.forall₂_map_left_iff, List.forall₂_map_right_iff] at hmap
    exact hmap.imp fun path node hnode => ⟨node, hnode, rfl⟩

theorem Lists.map {β γ : Type} {root : XMLNode} {xmlAttribute : XMLAttribute}
    {Reads : XMLNode → β → Prop} {Reads' : XMLNode → γ → Prop} {entries : List β}
    (h : Lists root xmlAttribute Reads entries) {f : β → γ}
    (hreads : ∀ path node entry, root.nodeAt path = some node → Reads node entry →
      Reads' node (f entry)) : Lists root xmlAttribute Reads' (entries.map f) := by
  obtain ⟨paths, hplaces, hentries⟩ := h
  refine ⟨paths, hplaces, ?_⟩
  rw [List.forall₂_map_right_iff]
  refine hentries.imp ?_
  rintro path entry ⟨node, hnode, hreads'⟩
  exact ⟨node, hnode, hreads path node entry hnode hreads'⟩

theorem Lists.nodeAt {root : XMLNode} {xmlAttribute : XMLAttribute} {nodes : List XMLNode}
    (h : Lists root xmlAttribute (fun node entry => node = entry) nodes) {node : XMLNode}
    (hmem : node ∈ nodes) : ∃ path, root.nodeAt path = some node := by
  obtain ⟨paths, -, hnodes⟩ := h
  induction hnodes with
  | nil => cases hmem
  | cons hnode _ ih =>
      rcases List.mem_cons.mp hmem with rfl | hmem
      · obtain ⟨_, hnode, rfl⟩ := hnode
        exact ⟨_, hnode⟩
      · exact ih hmem

/-! ### Texts of a node -/

namespace XMLNode

/-- What a node shows under an attribute: the first text of it, and nothing if there is none. -/
def Shows (node : XMLNode) (xmlAttribute : XMLAttribute) (content : Text) : Prop :=
  (content = [] ∧ ¬∃ path content, node.Carries xmlAttribute path content) ∨
    node.First xmlAttribute content

theorem textAt_child {attributes attributes' : List XMLAttribute} {childNodes childNodes' : List XMLNode}
    {i : ℕ} (hchild : childNodes[i]? = some (.element attributes' childNodes')) (path : List ℕ) :
    (element attributes childNodes).textAt (i :: path) =
      (element attributes' childNodes').textAt path := by
  rw [textAt]
  · exact hchild
  · intro nodeValue _ hnode
    cases hnode

theorem textAt_append {root node : XMLNode} {path path' : List ℕ}
    (hnode : root.nodeAt path = some node) {text : List XMLAttribute × Text}
    (htext : node.textAt path' = some text) : root.textAt (path ++ path') = some text := by
  induction path generalizing root with
  | nil =>
      rw [nodeAt_nil, Option.some.injEq] at hnode
      rw [hnode]
      exact htext
  | cons i path ih =>
      cases root with
      | text nodeValue => cases hnode
      | element attributes childNodes =>
          rw [nodeAt] at hnode
          cases hchild : childNodes[i]? with
          | none =>
              rw [hchild] at hnode
              cases hnode
          | some child =>
              rw [hchild] at hnode
              have hchildText := ih hnode
              -- a text child has no node below it, and the text is below
              cases child with
              | element attributes' childNodes' =>
                  rw [List.cons_append, textAt_child hchild]
                  exact hchildText
              | text nodeValue =>
                  generalize path ++ path' = p at hchildText
                  cases p <;> cases hchildText

/-- The nodes of a document without empty texts have none. -/
theorem NoEmptyText.nodeAt {root node : XMLNode} {path : List ℕ} (h : root.NoEmptyText)
    (hnode : root.nodeAt path = some node) : node.NoEmptyText :=
  fun path' attributes content htext => h (path ++ path') attributes content
    (textAt_append hnode htext)

end XMLNode

theorem shows_xmlFindTextContent {xmlAttribute : XMLAttribute} (hname : xmlAttribute.name ≠ [])
    {node : XMLNode} (htexts : node.NoEmptyText) :
    node.Shows xmlAttribute (xmlFindTextContent xmlAttribute node) := by
  obtain ⟨hnone, hfirst⟩ := found_node hname node htexts
  by_cases hempty : xmlFindTextContent xmlAttribute node = []
  · refine .inl ⟨hempty, ?_⟩
    rintro ⟨path, content, hcarries⟩
    exact hnone hempty path content hcarries
  · exact .inr (hfirst hempty)

/-! ### The lists of `RWSInterface` -/

namespace XMLAttributes

/-- `CLASS_CFG_IA_T_LI`. -/
def classCfgIaTLi : XMLAttribute := ⟨"class".toList, "cfg-ia-t-li".toList⟩
/-- `CLASS_MOTIONTASK`. -/
def classMotiontask : XMLAttribute := ⟨"class".toList, "motiontask".toList⟩
/-- `CLASS_NAME`. -/
def className : XMLAttribute := ⟨"class".toList, "name".toList⟩
/-- `CLASS_RAP_MODULE_INFO_LI`. -/
def classRapModuleInfoLi : XMLAttribute := ⟨"class".toList, "rap-module-info-li".toList⟩
/-- `CLASS_RAP_TASK_LI`. -/
def classRapTaskLi : XMLAttribute := ⟨"class".toList, "rap-task-li".toList⟩
/-- `CLASS_RW_VERSION_NAME`. -/
def classRwVersionName : XMLAttribute := ⟨"class".toList, "rwversionname".toList⟩
/-- `CLASS_SYS_SYSTEM_LI`. -/
def classSysSystemLi : XMLAttribute := ⟨"class".toList, "sys-system-li".toList⟩
/-- `CLASS_TYPE`. -/
def classType : XMLAttribute := ⟨"class".toList, "type".toList⟩

end XMLAttributes

namespace Resources

/-- `RW_CFG`. -/
def rwCfg : Text := "/rw/cfg".toList
/-- `RW_RAPID_TASKS`. -/
def rwRapidTasks : Text := "/rw/rapid/tasks".toList
/-- `RW_SYSTEM`. -/
def rwSystem : Text := "/rw/system".toList

end Resources

/-- `RAPIDTaskInfo`: a task, and whether it moves a robot. -/
structure RAPIDTaskInfo where
  name : Text
  isMotionTask : Bool
deriving DecidableEq, Repr

/-- `RAPIDModuleInfo`: a module and its type. -/
structure RAPIDModuleInfo where
  name : Text
  type : Text
deriving DecidableEq, Repr

/-- `RobotWareOptionInfo`: an option and what it is for. -/
structure RobotWareOptionInfo where
  name : Text
  description : Text
deriving DecidableEq, Repr

/-- `SystemInfo`: the version of RobotWare, and the name of the system. -/
structure SystemInfo where
  robotWareVersion : Text := []
  systemName : Text := []
deriving DecidableEq, Repr

/-- The request of `RWSClient::getRAPIDTasks`. -/
def getRAPIDTasksRequest : RequestInfo := { method := .get, uri := Resources.rwRapidTasks }

/-- The request of `RWSClient::getRAPIDModulesInfo`. -/
def getRAPIDModulesInfoRequest (task : Text) : RequestInfo :=
  { method := .get, uri := Resources.rwRapidTasks ++ ['/'] ++ task ++ "/modules".toList }

/-- The request of `RWSClient::getRobotWareSystem`. -/
def getRobotWareSystemRequest : RequestInfo := { method := .get, uri := Resources.rwSystem }

/-- The request of `RWSClient::getConfigurationInstances`. -/
def getConfigurationInstancesRequest (topic type : Text) : RequestInfo :=
  { method := .get
    uri := Resources.rwCfg ++ ['/'] ++ topic ++ ['/'] ++ type ++ "/instances".toList }

def RAPIDTaskInfo.read (node : XMLNode) : RAPIDTaskInfo where
  name := xmlFindTextContent XMLAttributes.className node
  isMotionTask := xmlFindTextContent XMLAttributes.classMotiontask node == RAPID.true

def RAPIDModuleInfo.read (node : XMLNode) : RAPIDModuleInfo where
  name := xmlFindTextContent XMLAttributes.className node
  type := xmlFindTextContent XMLAttributes.classType node

def SystemInfo.read (node : XMLNode) : SystemInfo where
  robotWareVersion := xmlFindTextContent XMLAttributes.classRwVersionName node
  systemName := xmlFindTextContent XMLAttributes.className node

/-- Two nodes for each option; a last one without a partner is left out. -/
def RobotWareOptionInfo.readPairs : List XMLNode → List RobotWareOptionInfo
  | node :: node' :: nodes =>
      { name := xmlFindTextContent XMLAttributes.classValue node
        description := xmlFindTextContent XMLAttributes.classValue node' } :: readPairs nodes
  | _ => []

section services
variable (xmlParse : Text → Option XMLNode)

/-- The nodes that an answer has under an attribute. -/
def answerNodes (pocoResult : POCOResult) (xmlAttribute : XMLAttribute) : List XMLNode :=
  xmlFindNodes (evaluateReading xmlParse pocoResult).xmlDocument xmlAttribute

def getRAPIDTasks : RwsProgram (List RAPIDTaskInfo) := do
  let pocoResult ← Program.request getRAPIDTasksRequest
  pure ((answerNodes xmlParse pocoResult XMLAttributes.classRapTaskLi).map .read)

def getRAPIDModulesInfo (task : Text) : RwsProgram (List RAPIDModuleInfo) := do
  let pocoResult ← Program.request (getRAPIDModulesInfoRequest task)
  pure ((answerNodes xmlParse pocoResult XMLAttributes.classRapModuleInfoLi).map .read)

def getPresentRobotWareOptions : RwsProgram (List RobotWareOptionInfo) := do
  let pocoResult ← Program.request
    (getConfigurationInstancesRequest "sys".toList "present_options".toList)
  pure (RobotWareOptionInfo.readPairs
    (answerNodes xmlParse pocoResult XMLAttributes.classCfgIaTLi))

/-- Every node overwrites what the one before it showed. -/
def getSystemInfo : RwsProgram SystemInfo := do
  let pocoResult ← Program.request getRobotWareSystemRequest
  pure ((answerNodes xmlParse pocoResult XMLAttributes.classSysSystemLi).foldl
    (fun _ node => .read node) {})

/-! ### What is read -/

/-- One request, and in its answer the document, if there is one, with what it lists. -/
def ReadsAnswer {β : Type} (request : RequestInfo) (Q : Option XMLNode → β → Prop) (result : β)
    (exchanged : History RequestInfo POCOResult) : Prop :=
  ∃ pocoResult, exchanged = [(request, pocoResult)] ∧
    ((∀ root ∈ (evaluateReading xmlParse pocoResult).xmlDocument, root.NoEmptyText) →
      Q (evaluateReading xmlParse pocoResult).xmlDocument result)

/-- The entries of a list in a document; without a document there are none. -/
def ListsIn {β : Type} (xmlAttribute : XMLAttribute) (Reads : XMLNode → β → Prop) :
    Option XMLNode → List β → Prop
  | some root, entries => Lists root xmlAttribute Reads entries
  | none, entries => entries = []

theorem listsIn_nodes {xmlDocument : Option XMLNode} (xmlAttribute : XMLAttribute)
    (htexts : ∀ root ∈ xmlDocument, root.NoEmptyText) :
    ListsIn xmlAttribute (fun node entry => node = entry) xmlDocument
        (xmlFindNodes xmlDocument xmlAttribute) ∧
      ∀ node ∈ xmlFindNodes xmlDocument xmlAttribute, node.NoEmptyText := by
  cases xmlDocument with
  | none => exact ⟨rfl, List.forall_mem_nil _⟩
  | some root =>
      have hlists := lists_xmlFindNodes root xmlAttribute
      refine ⟨hlists, fun node hmem => ?_⟩
      obtain ⟨path, hnode⟩ := hlists.nodeAt hmem
      exact (htexts root rfl).nodeAt hnode

/-- A service that reads every node on its own. -/
theorem listing_readsAnswer {β : Type} (request : RequestInfo) (xmlAttribute : XMLAttribute)
    {read : XMLNode → β} {Reads : XMLNode → β → Prop}
    (hread : ∀ node, node.NoEmptyText → Reads node (read node)) :
    Ensures (Program.request request >>= fun pocoResult =>
        pure ((answerNodes xmlParse pocoResult xmlAttribute).map read))
      (ReadsAnswer xmlParse request (ListsIn xmlAttribute Reads)) := by
  refine Ensures.request_bind fun pocoResult => .pure ⟨pocoResult, rfl, fun htexts => ?_⟩
  unfold answerNodes
  cases hdocument : (evaluateReading xmlParse pocoResult).xmlDocument with
  | none => rfl
  | some root =>
      rw [hdocument] at htexts
      refine (lists_xmlFindNodes root xmlAttribute).map ?_
      rintro path node _ hnode rfl
      exact hread node ((htexts root rfl).nodeAt hnode)

end services

/-- The name of a task, and whether `TRUE` is said of it. -/
def RAPIDTaskInfo.Reads (node : XMLNode) (task : RAPIDTaskInfo) : Prop :=
  node.Shows XMLAttributes.className task.name ∧
    ∃ motiontask, node.Shows XMLAttributes.classMotiontask motiontask ∧
      (task.isMotionTask = true ↔ motiontask = RAPID.true)

def RAPIDModuleInfo.Reads (node : XMLNode) (module : RAPIDModuleInfo) : Prop :=
  node.Shows XMLAttributes.className module.name ∧ node.Shows XMLAttributes.classType module.type

/-- Of two nodes that follow each other, the first one shows the name and the other one the
description. -/
def RobotWareOptionInfo.ReadsPairs (nodes : List XMLNode) (options : List RobotWareOptionInfo) : Prop :=
  options.length = nodes.length / 2 ∧ ∀ i node node', nodes[2 * i]? = some node →
    nodes[2 * i + 1]? = some node' → ∃ option, options[i]? = some option ∧
      node.Shows XMLAttributes.classValue option.name ∧
      node'.Shows XMLAttributes.classValue option.description

/-- The last system of the list is the one that is reported. -/
def SystemInfo.ReadsLast (nodes : List XMLNode) (systemInfo : SystemInfo) : Prop :=
  (nodes = [] → systemInfo = {}) ∧ ∀ node ∈ nodes.getLast?,
    node.Shows XMLAttributes.classRwVersionName systemInfo.robotWareVersion ∧
      node.Shows XMLAttributes.className systemInfo.systemName

theorem RAPIDTaskInfo.reads_read (node : XMLNode) (htexts : node.NoEmptyText) :
    Reads node (.read node) :=
  ⟨shows_xmlFindTextContent (List.cons_ne_nil _ _) htexts, _,
    shows_xmlFindTextContent (List.cons_ne_nil _ _) htexts, beq_iff_eq⟩

theorem RAPIDModuleInfo.reads_read (node : XMLNode) (htexts : node.NoEmptyText) :
    Reads node (.read node) :=
  ⟨shows_xmlFindTextContent (List.cons_ne_nil _ _) htexts,
    shows_xmlFindTextContent (List.cons_ne_nil _ _) htexts⟩

theorem RobotWareOptionInfo.readsPairs_readPairs (nodes : List XMLNode)
    (htexts : ∀ node ∈ nodes, node.NoEmptyText) : ReadsPairs nodes (readPairs nodes) := by
  induction nodes using readPairs.induct with
  | case1 node node' nodes ih =>
      rw [List.forall_mem_cons, List.forall_mem_cons] at htexts
      obtain ⟨hnode, hnode', hnodes⟩ := htexts
      obtain ⟨hlength, hpairs⟩ := ih hnodes
      constructor
      · rw [readPairs, List.length_cons, hlength, List.length_cons, List.length_cons]
        omega
      · intro i first second hfirst hsecond
        cases i with
        | zero =>
            cases hfirst
            cases hsecond
            exact ⟨_, rfl, shows_xmlFindTextContent (List.cons_ne_nil _ _) hnode,
              shows_xmlFindTextContent (List.cons_ne_nil _ _) hnode'⟩
        | succ i => exact hpairs i first second hfirst hsecond
  | case2 nodes hnodes =>
      match nodes with
      | [] =>
          refine ⟨rfl, fun i node node' hnode _ => ?_⟩
          cases hnode
      | [node] =>
          refine ⟨by rw [readPairs.eq_2 _ hnodes]; simp, fun i first second _ hsecond => ?_⟩
          cases hsecond
      | node :: node' :: nodes => exact (hnodes node node' nodes rfl).elim

theorem SystemInfo.readsLast_foldl (nodes : List XMLNode)
    (htexts : ∀ node ∈ nodes, node.NoEmptyText) :
    ReadsLast nodes (nodes.foldl (fun _ node => .read node) {}) := by
  refine ⟨fun hnodes => by rw [hnodes]; rfl, fun node hnode => ?_⟩
  obtain ⟨before, rfl⟩ := List.getLast?_eq_some_iff.mp hnode
  rw [List.foldl_append]
  have htext := htexts node (List.mem_append_right _ List.mem_cons_self)
  exact ⟨shows_xmlFindTextContent (List.cons_ne_nil _ _) htext,
    shows_xmlFindTextContent (List.cons_ne_nil _ _) htext⟩

/-- **The lists of the robot controller are read as they are**: one request each, and every element of
the list in the answer is an entry, in document order, with the first texts that it shows. -/
theorem answers_listed (xmlParse : Text → Option XMLNode) (task : Text) :
    Ensures (getRAPIDTasks xmlParse)
      (ReadsAnswer xmlParse getRAPIDTasksRequest
        (ListsIn XMLAttributes.classRapTaskLi RAPIDTaskInfo.Reads)) ∧
    Ensures (getRAPIDModulesInfo xmlParse task)
      (ReadsAnswer xmlParse (getRAPIDModulesInfoRequest task)
        (ListsIn XMLAttributes.classRapModuleInfoLi RAPIDModuleInfo.Reads)) ∧
    Ensures (getPresentRobotWareOptions xmlParse)
      (ReadsAnswer xmlParse
        (getConfigurationInstancesRequest "sys".toList "present_options".toList)
        fun xmlDocument options => ∃ nodes,
          ListsIn XMLAttributes.classCfgIaTLi (fun node entry => node = entry) xmlDocument nodes ∧
            RobotWareOptionInfo.ReadsPairs nodes options) ∧
    Ensures (getSystemInfo xmlParse)
      (ReadsAnswer xmlParse getRobotWareSystemRequest fun xmlDocument systemInfo => ∃ nodes,
        ListsIn XMLAttributes.classSysSystemLi (fun node entry => node = entry) xmlDocument nodes ∧
          SystemInfo.ReadsLast nodes systemInfo) := by
  refine ⟨listing_readsAnswer xmlParse _ _ RAPIDTaskInfo.reads_read,
    listing_readsAnswer xmlParse _ _ RAPIDModuleInfo.reads_read, ?_, ?_⟩
  · refine Ensures.request_bind fun pocoResult => .pure ⟨pocoResult, rfl, fun htexts => ?_⟩
    obtain ⟨hlists, hnodes⟩ := listsIn_nodes XMLAttributes.classCfgIaTLi htexts
    exact ⟨_, hlists, RobotWareOptionInfo.readsPairs_readPairs _ hnodes⟩
  · refine Ensures.request_bind fun pocoResult => .pure ⟨pocoResult, rfl, fun htexts => ?_⟩
    obtain ⟨hlists, hnodes⟩ := listsIn_nodes XMLAttributes.classSysSystemLi htexts
    exact ⟨_, hlists, SystemInfo.readsLast_foldl _ hnodes⟩

end AbbWrapper
