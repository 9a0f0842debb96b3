import AbbWrapper.IOSignals

/-! # The rising edge of a toggled signal

Each of the two loops of `toggleIOSignal` writes one level only, and if it succeeds its last two
exchanges are an accepted writing and the reading that confirms it (`attempts_ensures`).  The second
loop starts after the first has succeeded, and the first after auto mode was reported.

* `Confirms` says of the answers to a writing and to the reading right after it that the level was accepted
  and read back; `Writes` that what was exchanged holds such a pair.
* `Attempts` is what one loop exchanges, whatever the environment answers.
* `RisingEdge` is the whole call: success comes after a confirmed LOW and a confirmed HIGH after it, HIGH
  is never written before LOW was confirmed, and nothing at all without auto mode.

`toggleIOSignal_risingEdge` is about every environment and every parser. -/

namespace AbbWrapper

open Exchanges SystemConstants

/-- A writing of `value`, and a reading right after it. -/
def confirmation (iosignal value : Text) (written read : POCOResult) :
    History RequestInfo POCOResult :=
  [(setIOSignalRequest iosignal value, written), (getIOSignalRequest iosignal, read)]

theorem setIOSignalRequest_content_ne (iosignal iosignal' : Text) :
    setIOSignalRequest iosignal low ≠ setIOSignalRequest iosignal' high := by
  intro h
  have hcontent := congrArg RequestInfo.content h
  simp only [setIOSignalRequest] at hcontent
  have hlevel : low = high := List.append_cancel_left hcontent
  exact absurd hlevel (by decide)

variable (xmlParse : Text → Option XMLNode)

/-- The writing was accepted, and `value` was read back. -/
structure Confirms (value : Text) (written read : POCOResult) : Prop where
  accepted : written.Accepted HTTPResponse.noContent
  level : readIOSignal xmlParse read = value

/-- What was exchanged holds a confirmed writing of `value`, between `before` and `after`. -/
def Writes (iosignal value : Text) (before after exchanged : History RequestInfo POCOResult) : Prop :=
  ∃ written read, Confirms xmlParse value written read ∧
    exchanged = before ++ confirmation iosignal value written read ++ after

/-! ### One loop -/

theorem isAutoMode_ensures : Ensures (isAutoMode xmlParse) (fun autoMode exchanged =>
    ∃ answer, exchanged = [(getPanelOperationModeRequest, answer)] ∧
      autoMode = readAutoMode xmlParse answer) := by
  unfold isAutoMode
  apply Ensures.request_bind
  intro answer
  exact .pure ⟨answer, rfl, rfl⟩

theorem setIOSignal_ensures (iosignal value : Text) :
    Ensures (setIOSignal xmlParse iosignal value) (fun result exchanged =>
      ∃ written, exchanged = [(setIOSignalRequest iosignal value, written)] ∧
        (result = true ↔ written.Accepted HTTPResponse.noContent)) := by
  unfold setIOSignal
  apply Ensures.request_bind
  intro written
  exact .pure ⟨written, rfl, evaluatePOCOResult_success xmlParse written _⟩

theorem getIOSignal_ensures (iosignal : Text) :
    Ensures (getIOSignal xmlParse iosignal) (fun level exchanged =>
      ∃ read, exchanged = [(getIOSignalRequest iosignal, read)] ∧
        level = readIOSignal xmlParse read) := by
  unfold getIOSignal
  apply Ensures.request_bind
  intro read
  exact .pure ⟨read, rfl, rfl⟩

/-- What one of the loops exchanges. -/
structure Attempts (iosignal value : Text) (result : Bool)
    (exchanged : History RequestInfo POCOResult) : Prop where
  requests : ∀ e ∈ exchanged,
    e.1 = setIOSignalRequest iosignal value ∨ e.1 = getIOSignalRequest iosignal
  confirmed : result = true → ∃ before, Writes xmlParse iosignal value before [] exchanged

variable {xmlParse}

theorem Attempts.cons {iosignal value : Text} {result : Bool} {e : RequestInfo × POCOResult}
    {exchanged : History RequestInfo POCOResult}
    (he : e.1 = setIOSignalRequest iosignal value ∨ e.1 = getIOSignalRequest iosignal)
    (h : Attempts xmlParse iosignal value result exchanged) :
    Attempts xmlParse iosignal value result (e :: exchanged) where
  requests := by
    rw [List.forall_mem_cons]
    exact ⟨he, h.requests⟩
  confirmed := by
    intro hresult
    obtain ⟨before, written, read, hconfirms, hexchanged⟩ := h.confirmed hresult
    exact ⟨e :: before, written, read, hconfirms, by rw [hexchanged]; rfl⟩

variable (xmlParse)

theorem attempts_true (iosignal value : Text) (n : ℕ) :
    attempts xmlParse iosignal value n true = pure true := by
  cases n with
  | zero => rfl
  | succ n => rfl

theorem attempts_ensures (iosignal value : Text) (n : ℕ) :
    Ensures (attempts xmlParse iosignal value n false) (Attempts xmlParse iosignal value) := by
  induction n with
  | zero =>
      apply Ensures.pure
      refine ⟨List.forall_mem_nil _, ?_⟩
      intro hresult
      cases hresult
  | succ n ih =>
      refine Ensures.bind (setIOSignal_ensures xmlParse iosignal value) ?_
      rintro result first ⟨written, rfl, haccepted⟩
      cases result with
      | false => exact ih.mono fun result exchanged h => h.cons (.inl rfl)
      | true =>
          refine Ensures.bind (getIOSignal_ensures xmlParse iosignal) ?_
          rintro level second ⟨read, rfl, hlevel⟩
          by_cases hvalue : level = value
          · -- read back: the loop ends here
            rw [beq_iff_eq.mpr hvalue, attempts_true]
            apply Ensures.pure
            refine ⟨by simp, ?_⟩
            intro _
            exact ⟨[], written, read, ⟨haccepted.mp rfl, hlevel ▸ hvalue⟩, rfl⟩
          · rw [beq_eq_false_iff_ne.mpr hvalue]
            exact ih.mono fun result exchanged h => (h.cons (.inr rfl)).cons (.inl rfl)

/-! ### Both loops -/

/-- What a call of `toggleIOSignal` with this result has exchanged. -/
structure RisingEdge (iosignal : Text) (result : Bool)
    (exchanged : History RequestInfo POCOResult) : Prop where
  auto : result = true → ∃ answer, (getPanelOperationModeRequest, answer) ∈ exchanged ∧
    readAutoMode xmlParse answer = .trueValue
  /-- Success: LOW was confirmed, and later HIGH. -/
  edge : result = true → ∃ before between after rest,
    Writes xmlParse iosignal low before rest exchanged ∧
      Writes xmlParse iosignal high between after rest
  /-- LOW was confirmed before any writing of HIGH. -/
  lowFirst : ∀ before iosignal' answer after,
    exchanged = before ++ (setIOSignalRequest iosignal' high, answer) :: after →
      ∃ first rest, Writes xmlParse iosignal low first rest before
  /-- Nothing is written unless auto mode was reported. -/
  autoOnly : (∀ answer, (getPanelOperationModeRequest, answer) ∈ exchanged →
    readAutoMode xmlParse answer ≠ .trueValue) → ∀ e ∈ exchanged, e.1.method ≠ .post

theorem getPanelOperationModeRequest_ne (iosignal value : Text) :
    getPanelOperationModeRequest ≠ setIOSignalRequest iosignal value := by
  intro h
  cases congrArg RequestInfo.method h

/-- An element of a list in two parts that is not in the first part. -/
theorem exists_of_append_eq {β : Type} {l r before after : List β} {b : β} (hb : b ∉ l)
    (h : l ++ r = before ++ b :: after) : ∃ rest, before = l ++ rest := by
  rcases List.append_eq_append_iff.mp h with ⟨rest, hbefore, -⟩ | ⟨rest, hl, hr⟩
  · exact ⟨rest, hbefore⟩
  · cases rest with
    | nil => exact ⟨[], by rw [hl, List.append_nil, List.append_nil]⟩
    | cons c rest =>
        obtain ⟨rfl, -⟩ := List.cons.inj hr
        exact absurd (by rw [hl]; simp) hb

theorem Attempts.not_mem_high {iosignal iosignal' : Text} {result : Bool} {answer : POCOResult}
    {exchanged : History RequestInfo POCOResult}
    (h : Attempts xmlParse iosignal low result exchanged) :
    (setIOSignalRequest iosignal' high, answer) ∉ exchanged := by
  intro hmem
  rcases h.requests _ hmem with hlow | hread
  · exact setIOSignalRequest_content_ne iosignal iosignal' hlow.symm
  · cases congrArg RequestInfo.method hread

/-- A failed call that has not written HIGH. -/
theorem RisingEdge.of_not_mem {iosignal : Text} {exchanged : History RequestInfo POCOResult}
    (hhigh : ∀ iosignal' answer, (setIOSignalRequest iosignal' high, answer) ∉ exchanged)
    (hauto : (∀ answer, (getPanelOperationModeRequest, answer) ∈ exchanged →
      readAutoMode xmlParse answer ≠ .trueValue) → ∀ e ∈ exchanged, e.1.method ≠ .post) :
    RisingEdge xmlParse iosignal false exchanged where
  auto := by
    intro hresult
    cases hresult
  edge := by
    intro hresult
    cases hresult
  lowFirst := by
    intro before iosignal' answer after hexchanged
    refine absurd ?_ (hhigh iosignal' answer)
    rw [hexchanged]
    simp
  autoOnly := hauto

/-- **A toggled signal rises.** -/
theorem toggleIOSignal_risingEdge (iosignal : Text) :
    Ensures (toggleIOSignal xmlParse iosignal) (RisingEdge xmlParse iosignal) := by
  refine Ensures.bind (isAutoMode_ensures xmlParse) ?_
  rintro autoMode first ⟨answer, rfl, rfl⟩
  have hmode : ∀ iosignal' answer', (setIOSignalRequest iosignal' high, answer') ∉
      [(getPanelOperationModeRequest, answer)] := by
    intro iosignal' answer' hmem
    rw [List.mem_singleton] at hmem
    exact getPanelOperationModeRequest_ne _ _ (congrArg Prod.fst hmem).symm
  refine Ensures.ite ?_ ?_
  · intro hauto
    have hreported : readAutoMode xmlParse answer = .trueValue := beq_iff_eq.mp hauto
    refine Ensures.bind (attempts_ensures xmlParse iosignal low maxNumberOfAttempts) ?_
    intro result lows hlows
    have hbefore : ∀ iosignal' answer', (setIOSignalRequest iosignal' high, answer') ∉
        [(getPanelOperationModeRequest, answer)] ++ lows := by
      intro iosignal' answer' hmem
      rcases List.mem_append.mp hmem with h | h
      · exact hmode iosignal' answer' h
      · exact hlows.not_mem_high xmlParse h
    cases result with
    | false =>
        apply Ensures.pure
        rw [List.append_nil]
        apply RisingEdge.of_not_mem xmlParse hbefore
        intro hnot
        exact absurd hreported (hnot answer List.mem_cons_self)
    | true =>
        obtain ⟨before, written, read, hconfirms, hlow⟩ := hlows.confirmed rfl
        refine (attempts_ensures xmlParse iosignal high maxNumberOfAttempts).mono ?_
        intro result highs hhighs
        refine ⟨?_, ?_, ?_, ?_⟩
        · intro _
          exact ⟨answer, List.mem_cons_self, hreported⟩
        · intro hresult
          obtain ⟨between, hhigh⟩ := hhighs.confirmed hresult
          refine ⟨(getPanelOperationModeRequest, answer) :: before, between, [], highs, ?_, hhigh⟩
          exact ⟨written, read, hconfirms, by rw [hlow]; simp⟩
        · intro before' iosignal' answer' after hexchanged
          rw [← List.append_assoc] at hexchanged
          obtain ⟨rest, hrest⟩ := exists_of_append_eq (hbefore iosignal' answer') hexchanged
          refine ⟨(getPanelOperationModeRequest, answer) :: before, rest, written, read, hconfirms, ?_⟩
          rw [hrest, hlow]
          simp
        · intro hnot
          exact absurd hreported (hnot answer List.mem_cons_self)
  · intro hauto
    apply Ensures.pure
    rw [List.append_nil]
    apply RisingEdge.of_not_mem xmlParse hmode
    intro _ e he
    rw [List.mem_singleton] at he
    rw [he]
    intro hmethod
    cases hmethod

end AbbWrapper
