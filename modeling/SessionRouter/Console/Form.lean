import SessionRouter.Console.InputSpec
import SessionRouter.Lib.Outcome

/-!
The forms of the console: loading a stored text into an input line, editing, the check against the
latest version of the task, and the mutation that is sent.
-/

namespace SessionRouter

inductive FieldId where
  | name | title | description | agent | message | note | states | profile | provider | endpoints
  | caFile
  deriving DecidableEq

structure FormField where
  id : FieldId
  input : InputBuffer
  deriving DecidableEq

namespace TaskBaseline

def fromDetail (detail : TaskDetail) : TaskBaseline where
  workspace := detail.summary.workspace
  taskId := detail.summary.id
  version := detail.summary.version
  attemptId := (detail.currentAttempt.or detail.lastAttempt).map TaskAttempt.id
  assignedAgentId := detail.summary.assignedAgentId

end TaskBaseline

structure FormState where
  kind : FormKind
  fields : List FormField
  focused : ℕ := 0
  baseline : Option TaskBaseline
  changed : Option TaskBaseline := none
  stoppedObserved : Bool := false
  error : Option StateError := none
  baselineChecked : Bool := false

namespace FormState

section build

variable [Graphemes]

/-- `InputBuffer::with_text`; a slice off a character boundary is `none`. -/
def withText (text : List Char) (maxBytes : ℕ) (multiline : Bool) :
    Option (Except StateError InputBuffer) :=
  ((InputBuffer.new maxBytes multiline).insert text).map fun r => r.1.map fun _ => r.2

/-- `field`: one more field that holds a text. -/
def field (form : FormState) (id : FieldId) (value : String) (maxBytes : ℕ) (multiline : Bool) :
    Option (Except StateError FormState) :=
  (withText value.toList maxBytes multiline).map fun r =>
    r.map fun input => { form with fields := form.fields ++ [{ id, input }] }

/-- A field with what it starts from and its limits. -/
structure FieldSpec where
  id : FieldId
  value : String := ""
  maxBytes : ℕ
  multiline : Bool

/-- Fields are added until one fails. -/
def addFields (form : FormState) : List FieldSpec → Option (Except StateError FormState)
  | [] => some (.ok form)
  | spec :: specs =>
    (form.field spec.id spec.value spec.maxBytes spec.multiline).bind fun
      | .ok form => form.addFields specs
      | .error e => some (.error e)

/-- The fields of each kind of form. -/
def fieldSpecs (kind : FormKind) (detail : Option TaskDetail) :
    Except StateError (List FieldSpec) :=
  match kind with
  | .workspaceCreate =>
    .ok [{ id := .name, maxBytes := maxWorkspaceNameBytes, multiline := false }]
  | .taskCreate | .taskEdit =>
    let detail := if kind = .taskEdit then detail else none
    .ok [
      { id := .title, value := detail.elim "" fun task => task.summary.title
        maxBytes := maxTitleBytes, multiline := false },
      { id := .description, value := detail.elim "" TaskDetail.description
        maxBytes := maxDescriptionBytes, multiline := true }]
  | .taskAssign =>
    .ok [{
      id := .agent, value := (detail.bind fun task => task.summary.assignedAgentId).getD ""
      maxBytes := maxAgentIdBytes, multiline := false }]
  | .taskRequest => .ok [{ id := .message, maxBytes := maxSharedContentBytes, multiline := true }]
  | .taskInterrupt | .taskCancel | .taskReopen =>
    .ok [{ id := .note, maxBytes := maxHandoffNoteBytes, multiline := true }]
  | .taskConfirmStopped =>
    match detail with
    | none => .error .missingTask
    | some task =>
      if (confirmableAttempt task).isNone then .error .stopUnconfirmed
      else .ok [{ id := .note, maxBytes := maxHandoffNoteBytes, multiline := true }]
  | .taskNote => .ok [{ id := .note, maxBytes := maxNoteBytes, multiline := true }]
  | .taskFilter =>
    .ok [
      { id := .states, maxBytes := 128, multiline := false },
      { id := .agent, maxBytes := maxAgentIdBytes, multiline := false }]
  | .invite =>
    .ok [
      { id := .profile, maxBytes := 128, multiline := false },
      { id := .provider, maxBytes := 16, multiline := false },
      { id := .endpoints, maxBytes := 8 * 1024, multiline := true },
      { id := .caFile, maxBytes := 4 * 1024, multiline := false }]

def needsTask : FormKind → Bool
  | .workspaceCreate | .taskCreate | .taskFilter | .invite => false
  | _ => true

/-- `FormState::new`. -/
def new (kind : FormKind) (detail : Option TaskDetail) : Option (Except StateError FormState) :=
  if needsTask kind && detail.isNone then some (.error .missingTask)
  else
    match fieldSpecs kind detail with
    | .error e => some (.error e)
    | .ok specs =>
      addFields {
        kind
        fields := []
        baseline := if needsTask kind then detail.map .fromDetail else none } specs

end build

/-- The text of the first field with this identifier. -/
def value (form : FormState) (id : FieldId) : String :=
  (form.fields.find? fun field => field.id = id).elim "" fun field => .ofList field.input.text

def focusedInput (form : FormState) : Option InputBuffer :=
  form.fields[form.focused]?.map FormField.input

def nextField (form : FormState) (backwards : Bool) : FormState :=
  let count := form.fields.length + (if form.kind = .taskConfirmStopped then 1 else 0)
  if 0 < count then
    { form with
      focused := if backwards then (form.focused + count - 1) % count
        else (form.focused + 1) % count }
  else form

/-- An edit of the focused input line, when there is one. -/
def editFocused [Graphemes] (form : FormState) (e : InputBuffer.Edit) :
    Option (Except StateError Unit × FormState) :=
  match form.fields[form.focused]? with
  | none => some (.ok (), form)
  | some field =>
    (field.input.edit e).map fun r =>
      (r.1, { form with fields := form.fields.set form.focused { field with input := r.2 } })

def enter [Graphemes] (form : FormState) : Option (Except StateError Unit × FormState) :=
  if form.focusedInput.any InputBuffer.multiline then form.editFocused (.insert ['\n'])
  else some (.ok (), form.nextField false)

/-- What the user does in a form between opening and submitting it. -/
inductive Action where
  | edit (e : InputBuffer.Edit)
  | enter
  | nextField (backwards : Bool)

def act [Graphemes] (form : FormState) : Action → Option FormState
  | .edit e => (form.editFocused e).map Prod.snd
  | .enter => form.enter.map Prod.snd
  | .nextField backwards => some (form.nextField backwards)

/-- The action changes the text of the focused field. -/
def edits (form : FormState) : Action → Bool
  | .edit _ => true
  | .enter => form.focusedInput.any InputBuffer.multiline
  | .nextField _ => false

/-- The actions lead from one form to another and edit no field but the one at `k`. -/
inductive Confined [Graphemes] (k : ℕ) : FormState → List Action → FormState → Prop
  | done (form : FormState) : Confined k form [] form
  | act {form form' last : FormState} {a : Action} {rest : List Action}
      (hact : form.act a = some form') (hk : form.edits a = true → form.focused = k)
      (hrest : Confined k form' rest last) : Confined k form (a :: rest) last

/-- `check_latest`: the form is about the task as it is now. -/
def checkLatest (form : FormState) (latest : TaskDetail) : Except StateError Unit × FormState :=
  let form := { form with baselineChecked := false }
  match form.baseline with
  | none => (.error .missingTask, form)
  | some baseline =>
    if latest.summary.id ≠ baseline.taskId ∨ latest.summary.workspace ≠ baseline.workspace then
      (.error .missingTask, form)
    else if form.kind = .taskNote then (.ok (), form)
    else
      let current := TaskBaseline.fromDetail latest
      if baseline ≠ current then
        (.error .reconfirmationRequired,
          { form with changed := some current, error := some .reconfirmationRequired })
      else if form.kind = .taskConfirmStopped ∧ confirmableAttempt latest ≠ baseline.attemptId then
        (.error .stopUnconfirmed, form)
      else if form.kind = .taskRequest ∧ !requestableTask latest then
        (.error .stopUnconfirmed, form)
      else (.ok (), { form with baselineChecked := true })

/-- The kinds that are prepared without a check of the task. -/
def unchecked : FormKind → Bool
  | .workspaceCreate | .taskCreate | .taskNote | .taskFilter | .invite => true
  | _ => false

/-- The message of the mutation, when the fields are valid. -/
def message (form : FormState) (workspace : WorkspaceName) (requestId : String)
    (operationId : Uuid) : Except StateError ClientMessage :=
  let taskId := form.baseline.elim 0 TaskBaseline.taskId
  let version := form.baseline.elim 0 TaskBaseline.version
  let note := form.value .note
  let unlessEmpty (id : FieldId) := if form.value id = "" then none else some (form.value id)
  match form.kind with
  | .workspaceCreate =>
    if h : isWorkspaceName (form.value .name) = true then
      .ok (.workspaceCreate requestId ⟨form.value .name, h⟩)
    else .error .invalidInput
  | .taskCreate => do
    Except.require (validateTitle (form.value .title)) .invalidInput
    Except.require (validateDescription (form.value .description)) .invalidInput
    .ok (.taskCreate requestId workspace operationId (form.value .title) (form.value .description))
  | .taskEdit => do
    Except.require (validateTitle (form.value .title)) .invalidInput
    Except.require (validateDescription (form.value .description)) .invalidInput
    .ok (.taskEdit requestId workspace operationId taskId version (some (form.value .title))
      (some (form.value .description)))
  | .taskAssign =>
    .ok (.taskAssign requestId workspace operationId taskId version (unlessEmpty .agent))
  | .taskRequest =>
    .ok (.taskRequest requestId workspace taskId version (unlessEmpty .message) none)
  | .taskInterrupt => do
    Except.require (validateHandoffNote note) .invalidInput
    .ok (.taskInterrupt requestId workspace operationId taskId version note)
  | .taskConfirmStopped => do
    Except.require form.stoppedObserved .mustObserveStopped
    Except.require (validateHandoffNote note) .invalidInput
    let attemptId ← (form.baseline.bind TaskBaseline.attemptId).elim
      (Except.error .stopUnconfirmed) .ok
    .ok (.taskConfirmStopped requestId workspace operationId taskId attemptId version note)
  | .taskNote => do
    Except.require (validateNote note) .invalidInput
    .ok (.taskNote requestId workspace operationId taskId note)
  | .taskCancel => do
    Except.require (validateHandoffNote note) .invalidInput
    .ok (.taskCancel requestId workspace operationId taskId version note)
  | .taskReopen => do
    Except.require (validateHandoffNote note) .invalidInput
    .ok (.taskReopen requestId workspace operationId taskId version note)
  | .taskFilter | .invite => .error .invalidInput

/-- `prepare`, with the identifiers that are drawn for the operation. -/
def prepare (form : FormState) (stamp : WorkspaceStamp) (requestId : String) (operationId : Uuid) :
    Except StateError PreparedMutation := do
  Except.require form.changed.isNone .reconfirmationRequired
  Except.require (unchecked form.kind || form.baselineChecked) .reconfirmationRequired
  Except.require (form.baseline.all fun baseline => baseline.workspace = stamp.workspace)
    .missingTask
  Except.require (form.kind ≠ .taskAssign || form.value .agent = "" ||
    isAgentId (form.value .agent)) .invalidInput
  let message ← form.message stamp.workspace requestId operationId
  .ok {
    stamp
    kind := form.kind
    requestId
    operationId := if form.kind = .workspaceCreate ∨ form.kind = .taskRequest then none
      else some operationId
    message
    baseline := form.baseline
    stage := .prepared
    currentVersion := none }

end FormState

end SessionRouter
