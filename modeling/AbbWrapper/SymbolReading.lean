import AbbWrapper.RapidReading
import AbbWrapper.RwsClient

/-! # What the client reports of a read

`RWSClient::getRAPIDSymbolData` reports success whenever the parser returns, so that success does not
tell what was read (`reading`).

* `Answered` says that the controller has answered both requests, the first one with the type of the data.
* Data that is reported as not read is left as it is (`kept_of_failure`).
* Where a record is read in full, what is written back after it is the same whatever the record held
  before (`applySettings_of_reads`).

`reading` has all of it for every record type and every text.  `reading_partial` is about a record of
which one number is read and two are not, and all three are written back after a success. -/

namespace AbbWrapper

/-! ### The client -/

/-- The controller has answered both requests, with the type of the data and a value. -/
def Answered (properties value : RWSResult) (τ : RAPIDType) : Prop :=
  properties.success = true ∧ τ.getType = properties.textContent XMLAttributes.classDattyp ∧
    value.success = true ∧ value.textContent XMLAttributes.classValue ≠ []

section client

open RAPIDSymbolData

variable {ν δ : Type} [Streamed ν] [Streamed δ] {properties value : RWSResult}
  {data : RAPIDSymbolData ν δ}

theorem getRAPIDSymbolData_answered (h : Answered properties value data.type) :
    getRAPIDSymbolData properties value (some data) =
      (if data.type.returns (value.textContent XMLAttributes.classValue) = true then some value
        else none,
        some (data.parseString (value.textContent XMLAttributes.classValue)).2) := by
  obtain ⟨hproperties, htype, hvalue, htext⟩ := h
  rw [getRAPIDSymbolData, if_pos hproperties, if_pos htype, if_pos hvalue]
  simp only [if_pos htext, parseString_fst]

theorem getRAPIDSymbolData_unanswered (h : ¬Answered properties value data.type) :
    ∃ result, getRAPIDSymbolData properties value (some data) = (some result, some data) ∧
      result.success = false := by
  rw [getRAPIDSymbolData]
  by_cases hproperties : properties.success = true
  · by_cases htype : data.type.getType = properties.textContent XMLAttributes.classDattyp
    · by_cases hvalue : value.success = true
      · have htext : ¬value.textContent XMLAttributes.classValue ≠ [] :=
          fun htext => h ⟨hproperties, htype, hvalue, htext⟩
        rw [if_pos hproperties, if_pos htype, if_pos hvalue]
        simp only [if_neg htext]
        exact ⟨_, rfl, rfl⟩
      · rw [if_pos hproperties, if_pos htype, if_neg hvalue]
        exact ⟨value, rfl, Bool.not_eq_true _ ▸ hvalue⟩
    · rw [if_pos hproperties, if_neg htype]
      exact ⟨_, rfl, rfl⟩
  · rw [if_neg hproperties]
    exact ⟨_, rfl, rfl⟩

/-- Success is reported if the parser returns. -/
theorem success_iff : (∃ result, (getRAPIDSymbolData properties value (some data)).1 = some result ∧
      result.success = true) ↔
    Answered properties value data.type ∧
      data.type.returns (value.textContent XMLAttributes.classValue) = true := by
  by_cases hanswered : Answered properties value data.type
  · rw [getRAPIDSymbolData_answered hanswered, and_iff_right hanswered]
    constructor
    · rintro ⟨result, hresult, -⟩
      by_contra hreturns
      rw [if_neg hreturns] at hresult
      cases hresult
    · intro hreturns
      exact ⟨value, if_pos hreturns, hanswered.2.2.1⟩
  · obtain ⟨result, hget, hsuccess⟩ := getRAPIDSymbolData_unanswered hanswered
    apply iff_of_false _ (fun h => hanswered h.1)
    rintro ⟨result', hresult, hsuccess'⟩
    rw [hget] at hresult
    rw [Option.some.inj hresult, hsuccess'] at hsuccess
    cases hsuccess

/-- Data that is reported as not read is left as it is. -/
theorem kept_of_failure {result : RWSResult}
    (h : (getRAPIDSymbolData properties value (some data)).1 = some result)
    (hsuccess : result.success = false) :
    (getRAPIDSymbolData properties value (some data)).2 = some data := by
  by_cases hanswered : Answered properties value data.type
  · rw [getRAPIDSymbolData_answered hanswered] at h
    split at h
    · rw [← Option.some.inj h, hanswered.2.2.1] at hsuccess
      cases hsuccess
    · cases h
  · obtain ⟨_, hget, -⟩ := getRAPIDSymbolData_unanswered hanswered
    rw [hget]

/-- After a record is read in full, what is written back is the same whatever it held before. -/
theorem applySettings_of_reads [DecidableEq ν] [DecidableEq δ]
    {data' read : RAPIDSymbolData ν δ} (change : RAPIDSymbolData ν δ → RAPIDSymbolData ν δ)
    (hdata : data.type = read.type) (hdata' : data'.type = read.type)
    (hreads : Reads (value.textContent XMLAttributes.classValue) read) :
    applySettings change properties value data = applySettings change properties value data' := by
  unfold applySettings
  have htype := hdata'.trans hdata.symm
  by_cases hanswered : Answered properties value data.type
  · have hanswered' : Answered properties value data'.type := htype ▸ hanswered
    rw [getRAPIDSymbolData_answered hanswered, getRAPIDSymbolData_answered hanswered', htype,
      hreads data hdata, hreads data' hdata']
  · have hanswered' : ¬Answered properties value data'.type := htype ▸ hanswered
    obtain ⟨result, hget, hsuccess⟩ := getRAPIDSymbolData_unanswered hanswered
    obtain ⟨result', hget', hsuccess'⟩ := getRAPIDSymbolData_unanswered hanswered'
    rw [hget, hget']
    simp only [hsuccess, hsuccess']
    rfl

end client

namespace RAPIDSymbolData

variable {ν δ : Type} [Streamed ν] [Streamed δ] [DecidableEq ν] [DecidableEq δ] [Nontrivial ν]
  [Nontrivial δ] [Streamed.Extracts ν] [Streamed.Extracts δ]

variable (ν δ) in
/-- **Reading a symbol**: the text decides which atoms are read, and the others are left as they are.
Success tells that the controller has answered and the parser returned. -/
theorem reading (τ : RAPIDType) (t : Text) :
    (ReadInFull ν δ τ t ↔ τ.splits RAPIDType.readable t = true) ∧
    (Leaves ν δ τ t ↔ τ.ignores t = true) ∧
    (∀ path atom, τ.component path = some atom → atom.isAtomic = true →
      ReadsAt ν δ τ t path ∨ LeavesAt ν δ τ t path) ∧
    ∀ (properties value : RWSResult) (data : RAPIDSymbolData ν δ), data.type = τ →
      value.textContent XMLAttributes.classValue = t →
      ((∃ result, (getRAPIDSymbolData properties value (some data)).1 = some result ∧
          result.success = true) ↔ Answered properties value τ ∧ τ.returns t = true) ∧
      (∀ result, (getRAPIDSymbolData properties value (some data)).1 = some result →
        result.success = false →
          (getRAPIDSymbolData properties value (some data)).2 = some data) ∧
      (Answered properties value τ →
        (getRAPIDSymbolData properties value (some data)).2 = some (data.parseString t).2) ∧
      (ReadInFull ν δ τ t → ∀ change data', data'.type = τ →
        applySettings change properties value data =
          applySettings change properties value data') := by
  refine ⟨readInFull_iff τ t, leaves_iff τ t, fun path atom => readsAt_or_leavesAt t, ?_⟩
  rintro properties value data rfl rfl
  refine ⟨success_iff, fun result => kept_of_failure, ?_, ?_⟩
  · intro hanswered
    rw [getRAPIDSymbolData_answered hanswered]
  · rintro ⟨-, read, htype, hreads⟩ change data' htype'
    exact applySettings_of_reads change htype.symm (htype'.trans htype.symm) hreads

end RAPIDSymbolData

/-! ### Settings of numbers -/

instance : Streamed.Extracts (Fin 10) where
  read_blank h value := by
    have hdrop := dropWhile_of_blank h
    simp only [Streamed.read, hdrop]
  read_word {t} h value value' := by
    have hdrop : t.dropWhile Text.isSpace ≠ [] := by
      intro hnil
      rw [List.all_eq_true.mpr (List.dropWhile_eq_nil_iff.mp hnil)] at h
      cases h
    simp only [Streamed.read]
    split
    · exact absurd ‹_› hdrop
    · rfl

namespace RAPIDSymbolData

/-- A record with a record of two numbers. -/
def settings : RAPIDSymbolData (Fin 10) (Fin 10) :=
  .record ['s'] [.num 1, .record ['r'] [.num 2, .num 3]]

/-- A reply with the content of an element of the class. -/
def reply (classAttribute : XMLAttribute) (content : Text) : RWSResult where
  success := true
  xmlDocument := some (.element [] [.element [classAttribute] [.text content]])

/-- What `getRAPIDSymbolData` gives if the controller answers with the value. -/
def readSettings (valueString : Text) :
    Option RWSResult × Option (RAPIDSymbolData (Fin 10) (Fin 10)) :=
  getRAPIDSymbolData (reply XMLAttributes.classDattyp ['s'])
    (reply XMLAttributes.classValue valueString) (some settings)

theorem reading_settings :
    ReadInFull (Fin 10) (Fin 10) settings.type ['[', '5', ',', '[', '7', ',', '8', ']', ']'] ∧
      ∃ result, (readSettings ['[', '5', ',', '[', '7', ',', '8', ']', ']']).1 = some result ∧
        result.success = true := by
  have hreading := reading (Fin 10) (Fin 10) settings.type
    ['[', '5', ',', '[', '7', ',', '8', ']', ']']
  refine ⟨hreading.1.mpr (by decide), (hreading.2.2.2 _ _ settings rfl rfl).1.mpr ⟨?_, by decide⟩⟩
  exact ⟨rfl, by decide, rfl, by decide⟩

/-- The count of the inner record does not match: one number is read and two are not, and all three
are written back after a success.  Of a shorter text nothing is read, with success too. -/
theorem reading_partial :
    ¬(ReadInFull (Fin 10) (Fin 10) settings.type ['[', '5', ',', '[', '7', ']', ']'] ∨
        Leaves (Fin 10) (Fin 10) settings.type ['[', '5', ',', '[', '7', ']', ']']) ∧
      readSettings ['[', '5', ',', '[', '7', ']', ']'] =
        (some (reply XMLAttributes.classValue ['[', '5', ',', '[', '7', ']', ']']),
          some (.record ['s'] [.num 5, .record ['r'] [.num 2, .num 3]])) ∧
      applySettings id (reply XMLAttributes.classDattyp ['s'])
          (reply XMLAttributes.classValue ['[', '5', ',', '[', '7', ']', ']']) settings =
        some ['[', '5', ',', '[', '2', ',', '3', ']', ']'] ∧
      readSettings ['[', '5', ']'] =
        (some (reply XMLAttributes.classValue ['[', '5', ']']), some settings) ∧
      ¬ReadInFull (Fin 10) (Fin 10) settings.type ['[', '5', ']'] ∧
      (reply XMLAttributes.classValue ['[', '5', ']']).success = true := by
  refine ⟨?_, rfl, rfl, rfl, ?_, rfl⟩
  · rw [readInFull_iff, leaves_iff]
    decide
  · rw [readInFull_iff]
    decide

end RAPIDSymbolData

end AbbWrapper
