import AbbWrapper.Rapid

/-! # Reading a RAPID symbol

`RWSClient::getRAPIDSymbolData` and what it finds in the documents of the replies.  The replies of
the robot controller to its two requests are given, with the documents that the XML library parses
out of them: trees of elements and text nodes.

* An `XMLNode` is an element with its attributes and children, or a text.
* `xmlFindTextContent` searches an element and then its children, depth first; a text counts only if its
  parent has the attribute.
* An `RWSResult` is what a request gives: whether it was successful, the document if there is one, and a
  text for an error.
* `getRAPIDSymbolData` returns the data as it is left as well: `parseString` may end in an exception after
  it has read some of it.

`applySettings` is what `main` makes of it, which reads the settings, changes some and, if the reading was
a success, writes all of them back. -/

namespace AbbWrapper

/-! ### Documents -/

/-- `XMLAttribute`: an attribute of an element. -/
structure XMLAttribute where
  name : Text
  value : Text
deriving DecidableEq

namespace XMLAttributes

/-- `CLASS_DATTYP`. -/
def classDattyp : XMLAttribute := ⟨['c', 'l', 'a', 's', 's'], ['d', 'a', 't', 't', 'y', 'p']⟩

/-- `CLASS_VALUE`. -/
def classValue : XMLAttribute := ⟨['c', 'l', 'a', 's', 's'], ['v', 'a', 'l', 'u', 'e']⟩

end XMLAttributes

/-- A node of a document. -/
inductive XMLNode where
  | text (nodeValue : Text)
  | element (attributes : List XMLAttribute) (childNodes : List XMLNode)

/-- Of the attributes of a node. -/
def xmlNodeHasAttribute (attributes : List XMLAttribute) (xmlAttribute : XMLAttribute) : Bool :=
  (xmlAttribute.name == [] && xmlAttribute.value == []) || attributes.any (· == xmlAttribute)

mutual

/-- The search of an element.  A text node is only searched where its parent lacks the attribute. -/
def xmlFindTextContent (xmlAttribute : XMLAttribute) : XMLNode → Text
  | .text _ => []
  | .element attributes childNodes => xmlFindInChildren xmlAttribute attributes childNodes

/-- The loop over the children of a node that has the attributes. -/
def xmlFindInChildren (xmlAttribute : XMLAttribute) (attributes : List XMLAttribute) :
    List XMLNode → Text
  | [] => []
  | .text nodeValue :: children =>
      -- a text that is found ends the loop, also if it is empty
      if xmlNodeHasAttribute attributes xmlAttribute then nodeValue
      else xmlFindInChildren xmlAttribute attributes children
  | .element attributes' childNodes :: children =>
      let result := xmlFindTextContent xmlAttribute (.element attributes' childNodes)
      if result = [] then xmlFindInChildren xmlAttribute attributes children else result

end

/-! ### Results -/

/-- `RWSClient::RWSResult`: the outcome of a request. -/
structure RWSResult where
  success : Bool := false
  xmlDocument : Option XMLNode := none
  errorMessage : String := ""

/-- `xmlFindTextContent` of the document, from its first element on; nothing for a null document. -/
def RWSResult.textContent (result : RWSResult) (xmlAttribute : XMLAttribute) : Text :=
  match result.xmlDocument with
  | some root => xmlFindTextContent xmlAttribute root
  | none => []

/-- `getType` of the data. -/
def RAPIDType.getType : RAPIDType → Text
  | .bool => ['b', 'o', 'o', 'l']
  | .num => ['n', 'u', 'm']
  | .dnum => ['d', 'n', 'u', 'm']
  | .string => ['s', 't', 'r', 'i', 'n', 'g']
  | .record recordTypeName _ => recordTypeName

variable {ν δ : Type} [Streamed ν] [Streamed δ]

/-- `getRAPIDSymbolData(resource, p_data)`: what it returns, if no exception ends it, and the data
that is left.  `properties` is the result of `getRAPIDSymbolProperties`, and `value` that of
`getRAPIDSymbolData(resource)`. -/
def getRAPIDSymbolData (properties value : RWSResult) :
    Option (RAPIDSymbolData ν δ) → Option RWSResult × Option (RAPIDSymbolData ν δ)
  | none => (some {}, none)
  | some data =>
      if properties.success then
        if data.type.getType = properties.textContent XMLAttributes.classDattyp then
          if value.success then
            let valueString := value.textContent XMLAttributes.classValue
            if valueString ≠ [] then
              let r := data.parseString valueString
              (if r.1 then some value else none, some r.2)
            else
              (some { value with
                success := false
                errorMessage := "getRAPIDSymbolData(...): RAPID value string was empty" }, some data)
          else (some value, some data)
        else (some {}, some data)
      else (some {}, some data)

/-- What `main` sends back with `setSettings` after `getSettings`: the settings with its changes. -/
def applySettings [DecidableEq ν] [DecidableEq δ]
    (change : RAPIDSymbolData ν δ → RAPIDSymbolData ν δ) (properties value : RWSResult)
    (settings : RAPIDSymbolData ν δ) : Option Text :=
  match getRAPIDSymbolData properties value (some settings) with
  | (some result, some settings) =>
      if result.success then some (change settings).constructString else none
  | _ => none

end AbbWrapper
