import SessionRouter.Console.Form

/-!
A task that is loaded into the edit form and sent back: which texts survive, and what edits of one
field leave of the other.
-/

namespace SessionRouter

variable {text : List Char}

theorem len_toList (s : String) : Utf8.len s.toList = s.utf8ByteSize := JsonValue.byteLen_toList s

/-- The line ends that an input line rewrites. -/
def normalized (text : List Char) : List Char :=
  if '\r' ∈ text then replaceCr (replaceCrLf text) else text

theorem normalized_of_noCr (h : '\r' ∉ text) : normalized text = text := if_neg h

/-- A text is left as it is exactly when it has no carriage return. -/
theorem normalized_eq_self : normalized text = text ↔ '\r' ∉ text := by
  constructor
  · intro h hcr
    have hno := InputBuffer.noCr_replaced text
    rw [← h] at hcr
    exact hno hcr
  · exact normalized_of_noCr

theorem len_replaceCr (text : List Char) : Utf8.len (replaceCr text) = Utf8.len text := by
  induction text with
  | nil => rfl
  | cons c text ih =>
    show Utf8.len ((if c = '\r' then '\n' else c) :: replaceCr text) = _
    rw [Utf8.len_cons, Utf8.len_cons, ih]
    split
    · next h =>
      rw [h]
      rfl
    · rfl

theorem len_replaceCrLf (text : List Char) : Utf8.len (replaceCrLf text) ≤ Utf8.len text := by
  induction text using replaceCrLf.induct with
  | case1 text ih =>
    simp only [replaceCrLf, Utf8.len_cons]
    omega
  | case2 c text hne ih =>
    rw [replaceCrLf]
    · simp only [Utf8.len_cons]
      omega
    · exact hne
  | case3 => exact le_rfl

theorem len_normalized (text : List Char) : Utf8.len (normalized text) ≤ Utf8.len text := by
  unfold normalized
  split
  · rw [len_replaceCr]
    exact len_replaceCrLf text
  · exact le_rfl

namespace FormState

variable [Graphemes]

/-- A text within the limit is loaded with its line ends rewritten, unless it has several lines and
the input line has not. -/
theorem withText_eq {maxBytes : ℕ} (multiline : Bool) (hlen : Utf8.len text ≤ maxBytes) :
    ∃ cursor, withText text maxBytes multiline = some
      (if !multiline && (normalized text).contains '\n' then .error .singleLine
        else .ok { text := normalized text, cursor, maxBytes, multiline }) := by
  have hshort := len_normalized text
  unfold withText InputBuffer.insert
  have htwice : ¬(InputBuffer.new maxBytes multiline).maxBytes * 2 < Utf8.len text := by
    show ¬maxBytes * 2 < Utf8.len text
    omega
  rw [if_neg htwice]
  dsimp only
  rw [show (if '\r' ∈ text then replaceCr (replaceCrLf text) else text) = normalized text from rfl]
  have hmulti : (InputBuffer.new maxBytes multiline).multiline = multiline := rfl
  rw [hmulti]
  split
  · exact ⟨0, rfl⟩
  · have hfits : ¬(InputBuffer.new maxBytes multiline).maxBytes <
        Utf8.len (InputBuffer.new maxBytes multiline).text + Utf8.len (normalized text) := by
      show ¬maxBytes < 0 + Utf8.len (normalized text)
      omega
    rw [if_neg hfits]
    have hsplit : Utf8.splitAt (InputBuffer.new maxBytes multiline).text
        (InputBuffer.new maxBytes multiline).cursor = some ([], []) := rfl
    rw [hsplit, Option.map_some]
    exact ⟨_, by simp [InputBuffer.normalizeCursorForward, Except.map, InputBuffer.new]; rfl⟩

omit [Graphemes] in
/-- The edit form of a task, as it is loaded. -/
def loaded (detail : TaskDetail) (c₁ c₂ : ℕ) : FormState where
  kind := .taskEdit
  fields := [
    { id := .title
      input := {
        text := normalized detail.summary.title.toList, cursor := c₁
        maxBytes := maxTitleBytes, multiline := false } },
    { id := .description
      input := {
        text := normalized detail.description.toList, cursor := c₂
        maxBytes := maxDescriptionBytes, multiline := true } }]
  baseline := some (.fromDetail detail)

variable {detail : TaskDetail}

theorem new_taskEdit (htitle : validateTitle detail.summary.title = true)
    (hdescription : validateDescription detail.description = true) :
    ∃ c₁ c₂, new .taskEdit (some detail) = some
      (if (normalized detail.summary.title.toList).contains '\n' then .error .singleLine
        else .ok (loaded detail c₁ c₂)) := by
  have htitleLen : Utf8.len detail.summary.title.toList ≤ maxTitleBytes := by
    rw [len_toList]
    simp only [validateTitle, validateNonemptyText, validateText, Bool.and_eq_true,
      decide_eq_true_eq] at htitle
    exact htitle.1.2
  have hdescriptionLen : Utf8.len detail.description.toList ≤ maxDescriptionBytes := by
    rw [len_toList]
    simpa [validateDescription, validateText] using hdescription
  obtain ⟨c₁, hfirst⟩ := withText_eq false htitleLen
  obtain ⟨c₂, hsecond⟩ := withText_eq true hdescriptionLen
  refine ⟨c₁, c₂, ?_⟩
  have hspecs : fieldSpecs .taskEdit (some detail) = .ok [
      { id := .title, value := detail.summary.title, maxBytes := maxTitleBytes
        multiline := false },
      { id := .description, value := detail.description, maxBytes := maxDescriptionBytes
        multiline := true }] := rfl
  unfold new
  simp only [hspecs, addFields, field, hfirst, hsecond, Option.map_some]
  cases (normalized detail.summary.title.toList).contains '\n' <;> rfl

/-- What the form keeps when no field but the one at `k` is edited. -/
structure Elsewhere (k : ℕ) (form form' : FormState) : Prop where
  kind : form'.kind = form.kind
  baseline : form'.baseline = form.baseline
  changed : form'.changed = form.changed
  ids : form'.fields.map FormField.id = form.fields.map FormField.id
  fields : ∀ i, i ≠ k → form'.fields[i]? = form.fields[i]?

namespace Elsewhere

omit [Graphemes]

variable {k : ℕ} {form form' form'' : FormState}

theorem same (k : ℕ) (form : FormState) : Elsewhere k form form :=
  ⟨rfl, rfl, rfl, rfl, fun _ _ => rfl⟩

theorem trans (h : Elsewhere k form form') (h' : Elsewhere k form' form'') :
    Elsewhere k form form'' where
  kind := h'.kind.trans h.kind
  baseline := h'.baseline.trans h.baseline
  changed := h'.changed.trans h.changed
  ids := h'.ids.trans h.ids
  fields i hi := (h'.fields i hi).trans (h.fields i hi)

theorem nextField (k : ℕ) (form : FormState) (backwards : Bool) :
    Elsewhere k form (form.nextField backwards) := by
  unfold FormState.nextField
  dsimp only
  generalize form.fields.length + (if form.kind = .taskConfirmStopped then 1 else 0) = count
  split
  · exact ⟨rfl, rfl, rfl, rfl, fun _ _ => rfl⟩
  · exact same k form

end Elsewhere

variable {form form' : FormState} {k : ℕ}

theorem editFocused_elsewhere {e : InputBuffer.Edit} {r : Except StateError Unit}
    (h : form.editFocused e = some (r, form')) : Elsewhere form.focused form form' := by
  unfold editFocused at h
  cases hfield : form.fields[form.focused]? with
  | none =>
    rw [hfield] at h
    cases h
    exact .same _ form
  | some field =>
    rw [hfield] at h
    obtain ⟨out, -, hout⟩ := Option.map_eq_some_iff.mp h
    cases hout
    refine ⟨rfl, rfl, rfl, ?_, fun i hi => ?_⟩
    · apply List.ext_getElem?
      intro i
      simp only [List.getElem?_map, List.getElem?_set]
      split
      · next hi =>
        subst hi
        split
        · rw [hfield]
          rfl
        · next hlen =>
          rw [List.getElem?_eq_none (by omega)] at hfield
          cases hfield
      · rfl
    · exact List.getElem?_set_ne (Ne.symm hi)

theorem act_elsewhere {a : Action} (h : form.act a = some form')
    (hk : form.edits a = true → form.focused = k) : Elsewhere k form form' := by
  have hedit : ∀ {e : InputBuffer.Edit}, (form.editFocused e).map Prod.snd = some form' →
      form.focused = k → Elsewhere k form form' := by
    rintro e hedit rfl
    obtain ⟨out, hout, rfl⟩ := Option.map_eq_some_iff.mp hedit
    exact editFocused_elsewhere hout
  cases a with
  | edit e => exact hedit h (hk rfl)
  | nextField backwards =>
    obtain rfl := Option.some.inj h
    exact .nextField k form backwards
  | enter =>
    replace h : form.enter.map Prod.snd = some form' := h
    unfold enter at h
    split at h
    · next hmulti => exact hedit h (hk hmulti)
    · obtain rfl := Option.some.inj h
      exact .nextField k form false

theorem Confined.elsewhere {actions : List Action} (h : Confined k form actions form') :
    Elsewhere k form form' := by
  induction h with
  | done form => exact .same k form
  | act hact hk _ ih => exact (act_elsewhere hact hk).trans ih

omit [Graphemes] in
/-- What a loaded form sends after edits of one field. -/
theorem Elsewhere.message {c₁ c₂ : ℕ} (h : Elsewhere k (loaded detail c₁ c₂) form) :
    ∃ title description, form.value .title = title ∧ form.value .description = description ∧
      (k ≠ 0 → title = .ofList (normalized detail.summary.title.toList)) ∧
      (k ≠ 1 → description = .ofList (normalized detail.description.toList)) := by
  have hids : form.fields.map FormField.id = [.title, .description] := h.ids
  match hfields : form.fields with
  | [] | [_] | _ :: _ :: _ :: _ => simp [hfields] at hids
  | [first, second] =>
    simp only [hfields, List.map_cons, List.map_nil, List.cons.injEq, and_true] at hids
    have htitle : form.value .title = .ofList first.input.text := by
      simp [value, hfields, hids.1]
    have hdescription : form.value .description = .ofList second.input.text := by
      simp [value, hfields, hids.1, hids.2]
    refine ⟨_, _, rfl, rfl, fun hk => ?_, fun hk => ?_⟩
    · have hfirst := h.fields 0 hk.symm
      rw [hfields] at hfirst
      obtain rfl := Option.some.inj hfirst
      exact htitle
    · have hsecond := h.fields 1 hk.symm
      rw [hfields] at hsecond
      obtain rfl := Option.some.inj hsecond
      exact hdescription

omit [Graphemes] in
/-- The message of a checked edit form, when its texts are valid. -/
theorem prepare_taskEdit (form : FormState) (stamp : WorkspaceStamp) (requestId : String)
    (operationId : Uuid)
    (hkind : form.kind = .taskEdit) (hbaseline : form.baseline = some (.fromDetail detail))
    (hchanged : form.changed = none) (hchecked : form.baselineChecked = true)
    (hworkspace : stamp.workspace = detail.summary.workspace) :
    (form.prepare stamp requestId operationId).map PreparedMutation.message =
      (if validateTitle (form.value .title) && validateDescription (form.value .description) then
        .ok (.taskEdit requestId stamp.workspace operationId detail.summary.id
          detail.summary.version (some (form.value .title)) (some (form.value .description)))
      else .error .invalidInput) := by
  have hroom : form.baseline.all fun baseline => baseline.workspace = stamp.workspace := by
    rw [hbaseline, hworkspace]
    simp [TaskBaseline.fromDetail]
  unfold prepare message
  rw [hchanged, hchecked, hroom, hkind, hbaseline]
  cases validateTitle (form.value .title) <;> cases validateDescription (form.value .description)
  all_goals rfl

omit [Graphemes] in
theorem Elsewhere.checkLatest {c₁ c₂ : ℕ} (h : Elsewhere k (loaded detail c₁ c₂) form) :
    form.checkLatest detail = (.ok (), { form with baselineChecked := true }) := by
  have hkind : form.kind = .taskEdit := h.kind
  have hbaseline : form.baseline = some (.fromDetail detail) := h.baseline
  simp [FormState.checkLatest, hkind, hbaseline, TaskBaseline.fromDetail]

omit [Graphemes] in
theorem normalized_eq_iff (s : String) :
    String.ofList (normalized s.toList) = s ↔ '\r' ∉ s.toList := by
  rw [← normalized_eq_self]
  constructor
  · intro h
    rw [← String.toList_ofList (l := normalized s.toList), h]
  · intro h
    rw [h, String.ofList_toList]

omit [Graphemes] in
/-- The form is checked against the task and prepared for its workspace. -/
def submit (form : FormState) (detail : TaskDetail) (generation : ℕ) (requestId : String)
    (operationId : Uuid) : Except StateError PreparedMutation :=
  match form.checkLatest detail with
  | (.ok (), form) =>
    form.prepare { generation, workspace := detail.summary.workspace } requestId operationId
  | (.error e, _) => .error e

/-- The form of a task sends its texts back as they are stored, and after edits of one field the
text of the other. -/
def KeepsTexts (detail : TaskDetail) (generation : ℕ) (requestId : String) (operationId : Uuid) :
    Prop :=
  let sent (title description : String) : ClientMessage :=
    .taskEdit requestId detail.summary.workspace operationId detail.summary.id
      detail.summary.version (some title) (some description)
  ∃ form, new .taskEdit (some detail) = some (.ok form) ∧
    (∃ m, form.submit detail generation requestId operationId = .ok m ∧
      m.message = sent detail.summary.title detail.description) ∧
    ∀ k actions edited m, Confined k form actions edited →
      edited.submit detail generation requestId operationId = .ok m →
        ∃ title description, m.message = sent title description ∧
          (k ≠ 0 → title = detail.summary.title) ∧ (k ≠ 1 → description = detail.description)

omit [Graphemes] in
theorem Elsewhere.submit {c₁ c₂ : ℕ} (h : Elsewhere k (loaded detail c₁ c₂) form)
    (generation : ℕ) (requestId : String) (operationId : Uuid) :
    (form.submit detail generation requestId operationId).map PreparedMutation.message =
      (if validateTitle (form.value .title) && validateDescription (form.value .description) then
        .ok (.taskEdit requestId detail.summary.workspace operationId detail.summary.id
          detail.summary.version (some (form.value .title)) (some (form.value .description)))
      else .error .invalidInput) := by
  unfold FormState.submit
  rw [h.checkLatest]
  exact prepare_taskEdit { form with baselineChecked := true }
    { generation, workspace := detail.summary.workspace } requestId operationId
    h.kind h.baseline h.changed rfl rfl

/-- A task is edited faithfully exactly when its title is one line and its description has no
carriage return. -/
theorem keepsTexts_iff (htitle : validateTitle detail.summary.title = true)
    (hdescription : validateDescription detail.description = true) (generation : ℕ)
    (requestId : String) (operationId : Uuid) :
    KeepsTexts detail generation requestId operationId ↔
      '\n' ∉ detail.summary.title.toList ∧ '\r' ∉ detail.summary.title.toList ∧
        '\r' ∉ detail.description.toList := by
  obtain ⟨c₁, c₂, hnew⟩ := new_taskEdit htitle hdescription
  constructor
  · rintro ⟨form, hform, ⟨m, hsubmit, hm⟩, -⟩
    rw [hnew] at hform
    split at hform
    · cases hform
    · next hline =>
      obtain rfl := Except.ok.inj (Option.some.inj hform)
      simp only [List.contains_eq_mem, decide_eq_true_eq] at hline
      obtain ⟨title, description, htitle', hdescription', hloaded, hloaded'⟩ :=
        (Elsewhere.same 2 (loaded detail c₁ c₂)).message
      have hsent := (Elsewhere.same 2 (loaded detail c₁ c₂)).submit generation requestId operationId
      rw [hsubmit, htitle', hdescription'] at hsent
      replace hsent : Except.ok m.message = _ := hsent
      rw [hm, hloaded (by decide), hloaded' (by decide)] at hsent
      split at hsent
      · simp only [Except.ok.injEq, ClientMessage.taskEdit.injEq, Option.some.injEq,
          true_and] at hsent
        have hcrTitle := (normalized_eq_iff _).mp hsent.1.symm
        have hcrDescription := (normalized_eq_iff _).mp hsent.2.symm
        refine ⟨fun hlf => hline ?_, hcrTitle, hcrDescription⟩
        rw [normalized_of_noCr hcrTitle]
        exact hlf
      · cases hsent
  · rintro ⟨hlf, hcrTitle, hcrDescription⟩
    have hline : ¬(normalized detail.summary.title.toList).contains '\n' = true := by
      rw [normalized_of_noCr hcrTitle]
      simpa using hlf
    rw [if_neg hline] at hnew
    have hkept : ∀ {k form'}, Elsewhere k (loaded detail c₁ c₂) form' →
        (k ≠ 0 → form'.value .title = detail.summary.title) ∧
          (k ≠ 1 → form'.value .description = detail.description) := by
      intro k form' h
      obtain ⟨title, description, rfl, rfl, htitle', hdescription'⟩ := h.message
      rw [(normalized_eq_iff _).mpr hcrTitle] at htitle'
      rw [(normalized_eq_iff _).mpr hcrDescription] at hdescription'
      exact ⟨htitle', hdescription'⟩
    refine ⟨_, hnew, ?_, fun k actions edited m hconfined hsubmit => ?_⟩
    · have hsent := (Elsewhere.same 2 (loaded detail c₁ c₂)).submit generation requestId operationId
      obtain ⟨htitle', hdescription'⟩ := hkept (Elsewhere.same 2 (loaded detail c₁ c₂))
      rw [htitle' (by decide), hdescription' (by decide), htitle, hdescription] at hsent
      exact Except.of_map_ok hsent
    · have h := hconfined.elsewhere
      have hsent := h.submit generation requestId operationId
      rw [hsubmit] at hsent
      split at hsent
      · exact ⟨_, _, Except.ok.inj hsent, hkept h⟩
      · cases hsent

end FormState

namespace Console.Sample

open scoped Graphemes.Sample

/-- A task whose description came with the line ends of another system. -/
def imported : TaskDetail where
  summary := {
    id := 1, workspace := ⟨"w", by decide⟩, title := "t", state := .todo, version := 1
    assignedAgentId := none, currentAttemptId := none, lastExecutorId := none
    executionSessionId := none, lastCheckpointAt := none, pauseReason := none
    stopEvidence := none, createdAt := 0, updatedAt := 0 }
  description := "a\r\nb"
  createdBy := "operator:admin"
  updatedBy := "operator:admin"
  currentAttempt := none
  lastAttempt := none
  checkpoint := none
  result := none
  links := []
  externalOperations := []

/-- The form of the task sends another description than the stored one. -/
theorem texts_rewritten : validateTitle imported.summary.title = true ∧
    validateDescription imported.description = true ∧
    ¬ FormState.KeepsTexts imported 1 "r" ⟨1⟩ := by
  refine ⟨by decide +kernel, by decide +kernel, ?_⟩
  rintro ⟨form, hnew, ⟨m, hsubmit, hm⟩, -⟩
  have hloaded : FormState.new .taskEdit (some imported) =
      some (.ok (FormState.loaded imported 1 3)) := by rfl
  rw [hloaded] at hnew
  obtain rfl := Except.ok.inj (Option.some.inj hnew)
  have hdescription : (FormState.loaded imported 1 3).value .description = "a\nb" := by
    decide +kernel
  have hsent := (FormState.Elsewhere.same 2 (FormState.loaded imported 1 3)).submit 1 "r" ⟨1⟩
  rw [hsubmit, hdescription] at hsent
  replace hsent : Except.ok m.message = _ := hsent
  rw [hm] at hsent
  split at hsent
  · simp only [Except.ok.injEq, ClientMessage.taskEdit.injEq, Option.some.injEq] at hsent
    have hsame : imported.description = "a\nb" := hsent.2.2.2.2.2.2
    exact absurd hsame (by decide +kernel)
  · cases hsent

theorem keepsTexts_iff_imported : FormState.KeepsTexts imported 1 "r" ⟨1⟩ ↔
    '\n' ∉ imported.summary.title.toList ∧ '\r' ∉ imported.summary.title.toList ∧
      '\r' ∉ imported.description.toList :=
  FormState.keepsTexts_iff (by decide +kernel) (by decide +kernel) 1 "r" ⟨1⟩

end Console.Sample

end SessionRouter
