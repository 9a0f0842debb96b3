import Mathlib.Data.Nat.PSub
import AbbWrapper.Delimited

/-! # RAPID data

The structs of `rws_rapid.h`: atomic RAPID data and records of them, the texts in which Robot Web
Services exchange their values, and the parsers of these texts.

* A `std::string` is the list of its characters (`Text`).  A position that `find_first_of` or
  `find_last_of` do not find is `none`, and `erase` at it throws: the result is `none` as well.
* The streams of the standard library that write and read a number are those of a class `Streamed`; of a
  type of numbers nothing else is known.
* `RAPIDSymbolData` is any of the structs; a record has a list of components.  `RAPIDType` is what of it
  does not change: the types of the components, and the names of the record types.
* `parseString` returns the data it leaves and whether it returned: an exception may end it after some of
  the components have been read.
* `operator=` of a record goes through the text (`assign`), as it does in the source. -/

namespace AbbWrapper

/-- The characters of a `std::string`. -/
abbrev Text := List Char

namespace Text

/-- `find_first_of`; `none` is `npos`. -/
def findFirstOf (t : Text) (character : Char) : Option ℕ := t.findIdx? (· == character)

/-- `find_last_of`; `none` is `npos`. -/
def findLastOf (t : Text) (character : Char) : Option ℕ :=
  (t.reverse.findIdx? (· == character)).map (t.length - 1 - ·)

/-- `erase(position, 1)`: `none` is the exception for a position past the end. -/
def erase (t : Text) : Option ℕ → Option Text
  | some position => if position ≤ t.length then some (t.eraseIdx position) else none
  | none => none

/-- `std::isspace`. -/
def isSpace (character : Char) : Bool :=
  character ∈ [' ', '\t', '\n', '\x0b', '\x0c', '\r']

/-- What `ss >> value` reads into a string; without a word the string stays as it is. -/
def firstWord (t : Text) (value : Text) : Text :=
  match (t.dropWhile isSpace).takeWhile (!isSpace ·) with
  | [] => value
  | word => word

end Text

/-- A type of numbers, as `std::stringstream` writes and reads them. -/
class Streamed (ν : Type) where
  /-- What `ss << value` writes. -/
  write : ν → Text
  /-- What `ss >> value` leaves in `value`. -/
  read : Text → ν → ν
  /-- `(float) 9E9`. -/
  nineE9 : ν

/-! ### `RAPIDAtomic` -/

/-- `"`. -/
def quote : Char := '\x22'

namespace RAPID

/-- `RAPID_TRUE`. -/
def true : Text := ['T', 'R', 'U', 'E']
/-- `RAPID_FALSE`. -/
def false : Text := ['F', 'A', 'L', 'S', 'E']

end RAPID

namespace RAPIDBool

def constructString (value : Bool) : Text := if value then RAPID.true else RAPID.false

def parseString (valueString : Text) : Bool := valueString == RAPID.true

end RAPIDBool

namespace RAPIDNum

variable {ν : Type} [Streamed ν] [DecidableEq ν]

/-- Of a num and of a dnum. -/
def constructString (value : ν) : Text :=
  if value ≠ Streamed.nineE9 then Streamed.write value
  else ['9', '0', '0', '0', '0', '0', '0', '0', '0', '0']

omit [DecidableEq ν] in
def parseString (valueString : Text) (value : ν) : ν := Streamed.read valueString value

end RAPIDNum

namespace RAPIDString

def constructString (value : Text) : Text := quote :: (value ++ [quote])

/-- Without the quotes at the ends. -/
def unquote (valueString : Text) : Option Text :=
  let temp : Text := if Text.findFirstOf valueString quote = some 0 then valueString.eraseIdx 0
    else valueString
  let position := Text.findLastOf temp quote
  -- of an empty text `size() - 1` is `npos` too
  if position = temp.length.ppred then Text.erase temp position else some temp

/-- The string that is parsed, if `unquote` throws no exception. -/
def parseString (valueString : Text) (value : Text) : Bool × Text :=
  match unquote valueString with
  | some temp => (true, Text.firstWord temp value)
  | none => (false, value)

end RAPIDString

/-! ### `RAPIDRecord` -/

/-- A symbol's data: atomic, or a record of data. -/
inductive RAPIDSymbolData (ν δ : Type) where
  | bool (value : Bool)
  | num (value : ν)
  | dnum (value : δ)
  | string (value : Text)
  | record (recordTypeName : Text) (components : List (RAPIDSymbolData ν δ))

/-- The type of a symbol's data. -/
inductive RAPIDType where
  | bool
  | num
  | dnum
  | string
  | record (recordTypeName : Text) (components : List RAPIDType)

/-- Every record has a component. -/
inductive RAPIDType.Populated : RAPIDType → Prop where
  | bool : Populated .bool
  | num : Populated .num
  | dnum : Populated .dnum
  | string : Populated .string
  | record (recordTypeName : Text) (components : List RAPIDType) (hne : components ≠ [])
      (hcomponents : ∀ component ∈ components, Populated component) :
      Populated (.record recordTypeName components)

/-- The components, separated by commas. -/
def join (components : List Text) : Text := [','].intercalate components

/-- The input without the first `[` and the last `]`. -/
def removeBrackets (input : Text) : Option Text :=
  match Text.findFirstOf input '[', Text.findLastOf input ']' with
  | some position₁, some position₂ => Text.erase (input.eraseIdx position₁) position₂.ppred
  | _, _ => some input

/-- The loop over the pieces between commas: `counter` is the number of brackets that are open, and
`temp₂` holds the pieces since the first of them. -/
def mergeLoop : ℤ → Text → List Text → List Text
  | _, _, [] => []
  | counter, temp₂, temp₁ :: rest =>
      if temp₁ = [] then mergeLoop counter temp₂ rest
      else
        let counter := counter + temp₁.count '[' - temp₁.count ']'
        if counter = 0 then
          (if temp₂ ≠ [] then temp₂ ++ temp₁ else temp₁) :: mergeLoop counter [] rest
        else mergeLoop counter (temp₂ ++ (temp₁ ++ [','])) rest

def extractDelimitedSubstrings (input : Text) : Option (List Text) :=
  (removeBrackets input).map (fun temp₀ => mergeLoop 0 [] (temp₀.splitOn ','))

namespace RAPIDSymbolData

variable {ν δ : Type} [Streamed ν] [DecidableEq ν] [Streamed δ] [DecidableEq δ]

section types
omit [Streamed ν] [DecidableEq ν] [Streamed δ] [DecidableEq δ]

mutual

def type : RAPIDSymbolData ν δ → RAPIDType
  | .bool _ => .bool
  | .num _ => .num
  | .dnum _ => .dnum
  | .string _ => .string
  | .record recordTypeName components => .record recordTypeName (types components)

def types : List (RAPIDSymbolData ν δ) → List RAPIDType
  | [] => []
  | component :: components => component.type :: types components

end

end types

mutual

def constructString : RAPIDSymbolData ν δ → Text
  | .bool value => RAPIDBool.constructString value
  | .num value => RAPIDNum.constructString value
  | .dnum value => RAPIDNum.constructString value
  | .string value => RAPIDString.constructString value
  | .record _ components => '[' :: (join (constructStrings components) ++ [']'])

def constructStrings : List (RAPIDSymbolData ν δ) → List Text
  | [] => []
  | component :: components => component.constructString :: constructStrings components

end

section parse
omit [DecidableEq ν] [DecidableEq δ]

mutual

/-- The data after `parseString`, and whether it returned (it ends in an exception otherwise). -/
def parseString : RAPIDSymbolData ν δ → Text → Bool × RAPIDSymbolData ν δ
  | .bool _, valueString => (true, .bool (RAPIDBool.parseString valueString))
  | .num value, valueString => (true, .num (RAPIDNum.parseString valueString value))
  | .dnum value, valueString => (true, .dnum (RAPIDNum.parseString valueString value))
  | .string value, valueString =>
      let r := RAPIDString.parseString valueString value
      (r.1, .string r.2)
  | .record recordTypeName components, valueString =>
      match extractDelimitedSubstrings valueString with
      | none => (false, .record recordTypeName components)
      | some substrings =>
          if components.length = substrings.length then
            let r := parseStrings components substrings
            (r.1, .record recordTypeName r.2)
          else (true, .record recordTypeName components)

/-- The loop over the components, which an exception ends. -/
def parseStrings : List (RAPIDSymbolData ν δ) → List Text → Bool × List (RAPIDSymbolData ν δ)
  | component :: components, substring :: substrings =>
      let r := component.parseString substring
      if r.1 then
        let rest := parseStrings components substrings
        (rest.1, r.2 :: rest.2)
      else (false, r.2 :: components)
  | components, _ => (true, components)

end

end parse

/-- `operator=` of a record that is not `other` itself. -/
def assign : RAPIDSymbolData ν δ → RAPIDSymbolData ν δ → Bool × RAPIDSymbolData ν δ
  | .record recordTypeName components, .record recordTypeName' components' =>
      if recordTypeName = recordTypeName' ∧ components.length = components'.length then
        let r := parseStrings components (constructStrings components')
        (r.1, .record recordTypeName r.2)
      else (true, .record recordTypeName components)
  | data, _ => (true, data)

end RAPIDSymbolData

end AbbWrapper
