import SessionRouter.Integrations.Registry

/-!
The journal of external operations: preparing, dispatching, completing and resolving them.
-/

namespace SessionRouter

structure PreparedExternalOperation where
  workspace : WorkspaceName
  actorId : String
  ns : String
  summary : ExternalOperationSummary
  payload : Option OperationPayload
  event : Option WorkspaceEvent
  credentialId : Uuid
  bindingRevision : ℕ
  deadline : ℕ

structure PreparedExternalResolution where
  workspace : WorkspaceName
  operationId : Uuid
  resolutionId : Uuid
  actorId : String
  credentialId : Uuid
  provider : ExternalProvider
  ns : String
  bindingRevision : ℕ
  taskId : Option ℕ
  payload : OperationPayload
  externalId : String
  note : String
  requestHash : ResolutionRequest
  deadline : ℕ

structure ExternalCompletion where
  event : WorkspaceEvent
  taskEvent : Option WorkspaceEvent

structure ExternalResolutionCompletion where
  operation : ExternalOperationSummary
  resolution : ExternalResolution
  event : WorkspaceEvent
  taskEvent : Option WorkspaceEvent

inductive ResolutionPreparation where
  | replay (operation : ExternalOperationSummary) (resolution : ExternalResolution)
  | completed (completion : ExternalResolutionCompletion)
  | verify (prepared : PreparedExternalResolution)

/-- Thirty seconds of the monotonic clock. -/
def integrationRequestTimeout : ℕ := 30000000000

def operationSummary (db : Db) (workspace : WorkspaceName) (operationId : Uuid) :
    Option ExternalOperationSummary :=
  (db.operations.get? (workspace, operationId)).map (operationSummaryOf operationId)

def loadResolution (db : Db) (workspace : WorkspaceName) (operationId : Uuid) :
    Option ExternalResolution :=
  (db.resolutions.toList.find? fun e =>
      e.1.1 = workspace && e.2.operationId = operationId).map fun e =>
    { id := e.1.2, operationId := e.2.operationId, actorId := e.2.resolverActorId,
      outcome := e.2.outcome, externalId := e.2.externalId, note := e.2.note,
      createdAt := e.2.createdAt }

def resolutionReceipt (db : Db) (workspace : WorkspaceName) (operationId : Uuid) :
    Option (Uuid × ResolutionRow) :=
  (db.resolutions.toList.find? fun e =>
      e.1.1 = workspace && e.2.operationId = operationId).map fun e => (e.1.2, e.2)

def externalStatus (db : Db) (workspace : WorkspaceName) (operationId : Uuid) :
    Option (ExternalOperationSummary × Option ExternalResolution) :=
  (operationSummary db workspace operationId).map fun summary =>
    (summary, loadResolution db workspace operationId)

/-- `replay_external_operation`: the summary of an operation that was already asked for. -/
def replayExternalOperation (db : Db) (caller : CallerContext) (command : ExternalCommand) :
    Except RouterErrorCode (Option ExternalOperationSummary) :=
  match db.operations.get? (caller.workspace, command.operationId) with
  | none => .ok none
  | some r =>
    if r.actorId ≠ caller.actorId ∨ r.requestHash ≠ command then .error .requestConflict
    else .ok (some (operationSummaryOf command.operationId r))

/-- The status of the latest open operation of a task with a provider. -/
def blockingOperation (db : Db) (workspace : WorkspaceName) (taskId : ℕ)
    (provider : ExternalProvider) : Option ExternalOperationStatus :=
  ((db.operations.ofFilter fun key r =>
      key.1 = workspace && r.taskId = some taskId && r.provider = provider &&
      (r.status = .running || r.status = .unconfirmed)).insertionSort
    fun a b => b.2.updatedAt ≤ a.2.updatedAt).head?.map fun e => e.2.status

/-- An operator credential, unrevoked, that grants the workspace or is the admin's. -/
def credentialGrants (credential : StoredCredential) (workspace : WorkspaceName) : Bool :=
  let admin := credential.claims.role = .operator && credential.claims.subject = "admin" &&
    credential.claims.workspaces.isEmpty
  credential.revokedAt.isNone && (admin || decide (workspace ∈ credential.claims.workspaces))

section

variable [World]

def nowInstant {ε : Type} : Store ε ℕ := fun t =>
  .ok (World.instant t.tick, { t with tick := t.tick + 1 })

def requireTaskVersion (workspace : WorkspaceName) (taskId expectedVersion : ℕ) :
    Store RouterErrorCode TaskDetail := do
  let task ← liftCode (storeQuery fun db => getTaskDetail db workspace taskId)
  let task ← Txn.orFail .taskNotFound task
  Txn.require (task.summary.version = expectedVersion) .taskConflict
  pure task

def requireNoBlockingOperation (workspace : WorkspaceName) (taskId : ℕ)
    (provider : ExternalProvider) : Store RouterErrorCode Unit := do
  match ← Store.read fun db => blockingOperation db workspace taskId provider with
  | some .running => Txn.fail .integrationBusy
  | some .unconfirmed => Txn.fail .externalUnconfirmed
  | some _ => Txn.fail .storageError
  | none => pure ()

/-- The encoded body of a report of the task. -/
def loadReportSnapshot (workspace : WorkspaceName) (taskId : ℕ) (reportId : Uuid) :
    Store RouterErrorCode ReportBody := do
  let row ← Store.read fun db => (db.reports.get? reportId).filter fun r =>
    r.workspace = workspace && r.taskId = taskId
  let row ← Txn.orFail .taskNotFound row
  pure row.body

def operationMarker (caller : CallerContext) (taskId expectedVersion : ℕ) (operationId : Uuid) :
    String :=
  "[asr workspace:" ++ caller.workspace.asStr ++ " task:" ++ toString taskId ++ " version:" ++
    toString expectedVersion ++ " actor:" ++ caller.actorId ++ " operation:" ++
    operationId.toText ++ "]"

def validateExternalBody (size : ℕ) : Store RouterErrorCode Unit :=
  Txn.require (size ≤ 64 * 1024) .messageTooLarge

/-- The kind, task, source version and payload of a new operation. -/
def operationPayload (caller : CallerContext) (active : ActiveIntegration)
    (command : ExternalCommand) :
    Store RouterErrorCode
      (ExternalOperationKind × Option ℕ × Option ℕ × OperationPayload) := do
  match command with
  | .importTask _ _ externalId => pure (.importTask, none, none, .importTask externalId)
  | .link _ taskId expectedVersion provider externalId replace =>
    let task ← requireTaskVersion caller.workspace taskId expectedVersion
    requireNoBlockingOperation caller.workspace taskId provider
    pure (.link, some taskId, some task.summary.version,
      .link externalId expectedVersion replace)
  | .publish operationId taskId expectedVersion provider kind reportId =>
    Txn.require (active.connection.access = .write) .permissionDenied
    let task ← requireTaskVersion caller.workspace taskId expectedVersion
    requireNoBlockingOperation caller.workspace taskId provider
    let marker := operationMarker caller taskId expectedVersion operationId
    let creationId ← Store.newUuid
    match kind with
    | .issue =>
      Txn.require (!task.links.any fun link => link.provider = provider) .externalConflict
      let body := marker ++ "\n\nNative state: " ++ task.summary.state.asStr ++ "\n\n" ++
        task.description
      validateExternalBody body.utf8ByteSize
      pure (.publishIssue, some taskId, some task.summary.version,
        .publishIssue creationId task.summary.title body marker)
    | .report =>
      let reportId ← Txn.orFail .invalidMessage reportId
      let link ← Txn.orFail .externalConflict
        (task.links.find? fun link => link.provider = provider)
      let report ← loadReportSnapshot caller.workspace taskId reportId
      let body := marker ++ "\n\nNative state: " ++ task.summary.state.asStr ++
        "\n\nSelected report:\n\n" ++ String.ofList report.toJson.encode
      validateExternalBody body.utf8ByteSize
      pure (.publishReport, some taskId, some task.summary.version,
        .publishReport creationId link.externalId reportId body marker)

def appendOperationEvent (workspace : WorkspaceName) (actorId : String)
    (operation : ExternalOperationSummary) : Store RouterErrorCode WorkspaceEvent :=
  appendIntegrationEvent workspace actorId operation.taskId
    { change := .operation, integration := none, operation := some operation, resolution := none }

def appendResolutionEvent (workspace : WorkspaceName) (actorId : String)
    (operation : ExternalOperationSummary) (resolution : ExternalResolution) :
    Store RouterErrorCode WorkspaceEvent :=
  appendIntegrationEvent workspace actorId operation.taskId
    { change := .resolved, integration := none, operation := some operation,
      resolution := some resolution }

def prepareExternalOperation (caller : CallerContext) (active : ActiveIntegration)
    (command : ExternalCommand) : Store RouterErrorCode PreparedExternalOperation := do
  match ← Store.read fun db => replayExternalOperation db caller command with
  | .error code => Txn.fail code
  | .ok (some summary) =>
    let now ← nowInstant
    pure
      { workspace := caller.workspace, actorId := caller.actorId, ns := active.connection.ns,
        summary, payload := none, event := none, credentialId := caller.credentialId,
        bindingRevision := active.revision, deadline := now + integrationRequestTimeout }
  | .ok none =>
    Txn.require (active.connection.provider = command.provider &&
      active.connection.workspace = caller.workspace) .integrationNotConfigured
    let (kind, taskId, sourceVersion, payload) ← operationPayload caller active command
    Txn.require (payload.toJson.encodedLen ≤ 128 * 1024) .messageTooLarge
    let now ← Store.nowMillis
    let summary : ExternalOperationSummary :=
      { id := command.operationId, taskId, provider := command.provider, kind,
        status := .running, sourceVersion, externalId := none, url := none, error := none,
        createdAt := now, updatedAt := now }
    liftCode (insertOperation (caller.workspace, command.operationId)
      { actorId := caller.actorId, provider := command.provider, ns := active.connection.ns, kind,
        taskId, sourceVersion, requestHash := command, payload, phase := .prepared,
        status := .running, externalId := none, url := none, error := none, createdAt := now,
        updatedAt := now })
    let event ← appendOperationEvent caller.workspace caller.actorId summary
    liftCode commit
    let instant ← nowInstant
    pure
      { workspace := caller.workspace, actorId := caller.actorId, ns := active.connection.ns,
        summary, payload := some payload, event := some event,
        credentialId := caller.credentialId, bindingRevision := active.revision,
        deadline := instant + integrationRequestTimeout }

def insertResolution (workspace : WorkspaceName) (resolutionId operationId : Uuid)
    (actorId : String) (requestHash : ResolutionRequest) (outcome : ExternalResolutionOutcome)
    (externalId : Option String) (note : String) (now : ℕ) : Store RouterErrorCode Unit :=
  liftCode (insertResolutionRow (workspace, resolutionId)
    { operationId, resolverActorId := actorId, requestHash, outcome, externalId, note,
      createdAt := now })

def completeNotAppliedResolution (caller : CallerContext) (operation : ExternalOperationSummary)
    (resolutionId : Uuid) (note : String) (requestHash : ResolutionRequest) :
    Store RouterErrorCode ExternalResolutionCompletion := do
  let now ← Store.nowMillis
  insertResolution caller.workspace resolutionId operation.id caller.actorId requestHash
    .notApplied none note now
  let changed ← liftCode (updateOperation (caller.workspace, operation.id)
    (fun r => r.status = .unconfirmed) fun r => { r with
      status := .failed
      error := some "operator_confirmed_not_applied"
      updatedAt := now })
  Txn.require (changed = 1) .externalConflict
  let operation := { operation with
    status := .failed
    error := some ExternalErrorCode.operatorConfirmedNotApplied.asStr
    updatedAt := now }
  let resolution : ExternalResolution :=
    { id := resolutionId, operationId := operation.id, actorId := caller.actorId,
      outcome := .notApplied, externalId := none, note, createdAt := now }
  let event ← appendResolutionEvent caller.workspace caller.actorId operation resolution
  liftCode commit
  pure { operation, resolution, event, taskEvent := none }

/-- An operator credential of the caller that may resolve operations of the workspace. -/
def requireResolver (credentialId : Uuid) (workspace : WorkspaceName) :
    Store RouterErrorCode Unit := do
  let credential ← Store.read fun db => credentialById db credentialId
  let credential ← Txn.orFail .permissionDenied credential
  Txn.require (credential.claims.role = .operator && credentialGrants credential workspace)
    .permissionDenied

def OperationPayload.marker? : OperationPayload → Option String
  | publishIssue _ _ _ marker | publishReport _ _ _ _ marker => some marker
  | importTask .. | link .. => none

def prepareExternalResolution (caller : CallerContext) (active : ActiveIntegration)
    (operationId resolutionId : Uuid) (outcome : ExternalResolutionOutcome)
    (externalId : Option String) (note : String) :
    Store RouterErrorCode ResolutionPreparation := do
  Txn.require (note ≠ "" && note.utf8ByteSize ≤ 4 * 1024) .invalidMessage
  requireResolver caller.credentialId caller.workspace
  let requestHash : ResolutionRequest := { resolutionId, outcome, externalId, note }
  match ← Store.read fun db => resolutionReceipt db caller.workspace operationId with
  | some (id, row) =>
    Txn.require (id = resolutionId && row.resolverActorId = caller.actorId &&
      row.requestHash = requestHash) .requestConflict
    let operation ← Store.read fun db => operationSummary db caller.workspace operationId
    let operation ← Txn.orFail .storageError operation
    let resolution ← Store.read fun db => loadResolution db caller.workspace operationId
    let resolution ← Txn.orFail .storageError resolution
    pure (.replay operation resolution)
  | none =>
    let used ← Store.read fun db => db.resolutions.contains (caller.workspace, resolutionId)
    Txn.require (!used) .requestConflict
    let row ← Store.read fun db => db.operations.get? (caller.workspace, operationId)
    let row ← Txn.orFail .integrationError row
    let operation := operationSummaryOf operationId row
    Txn.require (operation.status = .unconfirmed &&
      (operation.kind = .publishIssue || operation.kind = .publishReport)) .externalConflict
    Txn.require (row.phase = .terminal && active.connection.workspace = caller.workspace &&
      active.connection.provider = operation.provider && active.connection.ns = row.ns)
      .externalConflict
    match outcome with
    | .notApplied =>
      Txn.require externalId.isNone .invalidMessage
      let completion ← completeNotAppliedResolution caller operation resolutionId note requestHash
      pure (.completed completion)
    | .applied =>
      let externalId ← Txn.orFail .invalidMessage
        (externalId.filter fun value => value ≠ "" && value.utf8ByteSize ≤ 4 * 1024)
      let marker ← Txn.orFail .externalConflict row.payload.marker?
      Txn.require (marker ≠ "") .storageError
      let instant ← nowInstant
      pure (.verify
        { workspace := caller.workspace, operationId, resolutionId, actorId := caller.actorId,
          credentialId := caller.credentialId, provider := operation.provider, ns := row.ns,
          bindingRevision := active.revision, taskId := operation.taskId, payload := row.payload,
          externalId, note, requestHash, deadline := instant + integrationRequestTimeout })

def markExternalDispatched (prepared : PreparedExternalOperation) :
    Store RouterErrorCode WorkspaceEvent := do
  let now ← Store.nowMillis
  let changed ← liftCode (updateOperation (prepared.workspace, prepared.summary.id)
    (fun r => r.phase = .prepared && r.status = .running) fun r => { r with
      phase := .dispatched
      updatedAt := now })
  Txn.require (changed = 1) .externalConflict
  let operation ← Store.read fun db =>
    operationSummary db prepared.workspace prepared.summary.id
  let operation ← Txn.orFail .storageError operation
  let event ← appendOperationEvent prepared.workspace prepared.actorId operation
  liftCode commit
  pure event

def updateTerminalOperation (prepared : PreparedExternalOperation)
    (status : ExternalOperationStatus) (externalId url error : Option String) (now : ℕ) :
    Store RouterErrorCode ExternalOperationSummary := do
  let changed ← liftCode (updateOperation (prepared.workspace, prepared.summary.id)
    (fun r => r.status = .running) fun r => { r with
      taskId := prepared.summary.taskId
      phase := .terminal
      status
      externalId
      url
      error
      updatedAt := now })
  Txn.require (changed = 1) .externalConflict
  pure { prepared.summary with status, externalId, url, error, updatedAt := now }

def terminalSemanticConflict (prepared : PreparedExternalOperation) (code : RouterErrorCode)
    (now : ℕ) : Store RouterErrorCode ExternalCompletion := do
  let operation ← updateTerminalOperation prepared .failed none none (some code.asStr) now
  let event ← appendOperationEvent prepared.workspace prepared.actorId operation
  liftCode commit
  pure { event, taskEvent := none }

def appendExternalTaskEvent (workspace : WorkspaceName) (actorId : String) (taskId : ℕ)
    (operationId : Uuid) : Store RouterErrorCode WorkspaceEvent := do
  let task ← liftCode (storeQuery fun db => getTaskDetail db workspace taskId)
  let task ← Txn.orFail .taskNotFound task
  liftCode (appendTaskEvent workspace actorId taskId .external none (some operationId)
    task.summary)

/-- The task an external issue is linked to. -/
def findLink (db : Db) (provider : ExternalProvider) (ns externalId : String) :
    Option (WorkspaceName × ℕ) :=
  (db.links.toList.find? fun e =>
      e.1.2.2 = provider && e.2.ns = ns && e.2.externalId = externalId).map
    fun e => (e.1.1, e.1.2.1)

/-- Bump the version of a task for an external change. -/
def touchTask (workspace : WorkspaceName) (taskId : ℕ) (actorId : String) (now : ℕ) :
    Store RouterErrorCode ℕ :=
  liftCode (updateTask (workspace, taskId) (fun _ => true) fun r => { r with
    version := r.version + 1
    updatedBy := actorId
    updatedAt := now })

/-- Create the task of an imported issue with its note and its link. -/
def importIssue (prepared : PreparedExternalOperation) (issue : ExternalIssue) (now : ℕ) :
    Store RouterErrorCode (ℕ × WorkspaceEvent) := do
  let taskId ← liftCode (takeTaskId prepared.workspace)
  let taskId ← Txn.orFail .storageError taskId
  liftCode (insertTask (prepared.workspace, taskId)
    { version := 1, title := issue.title, description := issue.description, state := .todo,
      assignedAgentId := none, currentAttemptId := none, lastAttemptId := none,
      lastCheckpointId := none, resultReportId := none, pauseReason := none,
      createdBy := prepared.actorId, updatedBy := prepared.actorId, createdAt := now,
      updatedAt := now })
  let noteId ← Store.newUuid
  let note := "Imported from " ++ prepared.summary.provider.asStr ++ " " ++ issue.externalId ++
    " in external state " ++ issue.state ++ "."
  liftCode (insertReport noteId
    { workspace := prepared.workspace, taskId, attemptId := none, actorId := prepared.actorId,
      kind := .note, body := .text note, createdAt := now })
  liftCode (insertLink (prepared.workspace, taskId, prepared.summary.provider)
    { ns := prepared.ns, externalId := issue.externalId, url := issue.url, linkedAt := now })
  let event ← appendExternalTaskEvent prepared.workspace prepared.actorId taskId
    prepared.summary.id
  pure (taskId, event)

def completeImport (prepared : PreparedExternalOperation) (issue : ExternalIssue) :
    Store RouterErrorCode ExternalCompletion := do
  Txn.require (validateTitle issue.title) .invalidMessage
  Txn.require (validateDescription issue.description) .invalidMessage
  let now ← Store.nowMillis
  match ← Store.read fun db =>
      findLink db prepared.summary.provider prepared.ns issue.externalId with
  | some (workspace, taskId) =>
    if workspace ≠ prepared.workspace then
      terminalSemanticConflict prepared .externalConflict now
    else
      let adjusted := { prepared with summary := { prepared.summary with taskId := some taskId } }
      let operation ← updateTerminalOperation adjusted .succeeded (some issue.externalId)
        (some issue.url) none now
      let event ← appendOperationEvent prepared.workspace prepared.actorId operation
      liftCode commit
      pure { event, taskEvent := none }
  | none =>
    let (taskId, taskEvent) ← importIssue prepared issue now
    let adjusted := { prepared with summary := { prepared.summary with taskId := some taskId } }
    let operation ← updateTerminalOperation adjusted .succeeded (some issue.externalId)
      (some issue.url) none now
    let event ← appendOperationEvent prepared.workspace prepared.actorId operation
    liftCode commit
    pure { event, taskEvent := some taskEvent }

def completeLink (prepared : PreparedExternalOperation) (issue : ExternalIssue) :
    Store RouterErrorCode ExternalCompletion := do
  match prepared.payload, prepared.summary.taskId with
  | some (.link _ expectedVersion replace), some taskId =>
    let key := (prepared.workspace, taskId, prepared.summary.provider)
    let now ← Store.nowMillis
    let row ← Store.read fun db => db.tasks.get? (prepared.workspace, taskId)
    let row ← Txn.orFail .taskNotFound row
    let collision ← Store.read fun db =>
      (findLink db prepared.summary.provider prepared.ns issue.externalId).any
        fun e => e.1 ≠ prepared.workspace || e.2 ≠ taskId
    let existing ← Store.read fun db => db.links.get? key
    let unchanged := existing.any fun r => r.ns = prepared.ns && r.externalId = issue.externalId
    if row.version ≠ expectedVersion then terminalSemanticConflict prepared .taskConflict now
    else if collision then terminalSemanticConflict prepared .externalConflict now
    else if existing.isSome && !unchanged && !replace then
      terminalSemanticConflict prepared .externalConflict now
    else
      let taskEvent ← if unchanged then pure none else do
        liftCode (upsertLink key
          { ns := prepared.ns, externalId := issue.externalId, url := issue.url, linkedAt := now })
        let _ ← touchTask prepared.workspace taskId prepared.actorId now
        let event ← appendExternalTaskEvent prepared.workspace prepared.actorId taskId
          prepared.summary.id
        pure (some event)
      let operation ← updateTerminalOperation prepared .succeeded (some issue.externalId)
        (some issue.url) none now
      let event ← appendOperationEvent prepared.workspace prepared.actorId operation
      liftCode commit
      pure { event, taskEvent }
  | _, _ => Txn.fail .storageError

def completeExternalRead (prepared : PreparedExternalOperation) (issue : ExternalIssue) :
    Store RouterErrorCode ExternalCompletion :=
  match prepared.payload with
  | some (.importTask _) => completeImport prepared issue
  | some (.link ..) => completeLink prepared issue
  | _ => Txn.fail .storageError

/-- Link a task to the issue that was just published for it. -/
def linkPublishedIssue (workspace : WorkspaceName) (taskId : ℕ) (provider : ExternalProvider)
    (ns actorId : String) (operationId : Uuid) (mutation : ExternalMutation) (now : ℕ) :
    Store RouterErrorCode (ℕ × WorkspaceEvent) := do
  liftCode (insertLink (workspace, taskId, provider)
    { ns, externalId := mutation.externalId, url := mutation.url, linkedAt := now })
  let changed ← touchTask workspace taskId actorId now
  let event ← appendExternalTaskEvent workspace actorId taskId operationId
  pure (changed, event)

def completeExternalMutation (prepared : PreparedExternalOperation) (mutation : ExternalMutation) :
    Store RouterErrorCode ExternalCompletion := do
  let now ← Store.nowMillis
  let taskEvent ← match prepared.payload with
    | some (.publishIssue ..) => do
      let taskId ← Txn.orFail .storageError prepared.summary.taskId
      let (_, event) ← linkPublishedIssue prepared.workspace taskId prepared.summary.provider
        prepared.ns prepared.actorId prepared.summary.id mutation now
      pure (some event)
    | some (.publishReport ..) => pure none
    | _ => Txn.fail .storageError
  let operation ← updateTerminalOperation prepared .succeeded (some mutation.externalId)
    (some mutation.url) none now
  let event ← appendOperationEvent prepared.workspace prepared.actorId operation
  liftCode commit
  pure { event, taskEvent }

def terminalExternalError (prepared : PreparedExternalOperation)
    (status : ExternalOperationStatus) (error : String) :
    Store RouterErrorCode ExternalCompletion := do
  let now ← Store.nowMillis
  let operation ← updateTerminalOperation prepared status none none (some error) now
  let event ← appendOperationEvent prepared.workspace prepared.actorId operation
  liftCode commit
  pure { event, taskEvent := none }

def completeExternalError (prepared : PreparedExternalOperation)
    (error : IntegrationClientError) : Store RouterErrorCode ExternalCompletion :=
  match error with
  | .busy => terminalExternalError prepared .failed "integration_busy"
  | .failed code => terminalExternalError prepared .failed code.asStr
  | .unconfirmed _ => terminalExternalError prepared .unconfirmed "external_unconfirmed"

/-- The link an open operation was prepared for is still the task's link. -/
def linkUnchanged (db : Db) (workspace : WorkspaceName) (taskId : Option ℕ)
    (provider : ExternalProvider) (ns : String) (payload : OperationPayload) :
    Option RouterErrorCode :=
  let link (id : ℕ) := db.links.get? (workspace, id, provider)
  match payload, taskId with
  | .publishIssue .., none | .publishReport .., none => some .storageError
  | .publishIssue .., some id => if (link id).isSome then some .externalConflict else none
  | .publishReport _ issueId .., some id =>
    if (link id).map (fun r => (r.ns, r.externalId)) = some (ns, issueId) then none
    else some .externalConflict
  | .importTask .., _ | .link .., _ => none

def validateExternalSnapshot (active : ActiveIntegration) (prepared : PreparedExternalOperation)
    (dispatchMutation : Bool) : Store RouterErrorCode Unit := do
  Txn.require (active.revision = prepared.bindingRevision &&
    active.connection.ns = prepared.ns &&
    active.connection.provider = prepared.summary.provider &&
    active.connection.workspace = prepared.workspace) .integrationNotConfigured
  let credential ← Store.read fun db => credentialById db prepared.credentialId
  let credential ← Txn.orFail .permissionDenied credential
  Txn.require (credentialGrants credential prepared.workspace) .permissionDenied
  match prepared.payload with
  | none => Txn.fail .externalConflict
  | some payload =>
    match ← Store.read fun db => linkUnchanged db prepared.workspace prepared.summary.taskId
        prepared.summary.provider prepared.ns payload with
    | some code => Txn.fail code
    | none =>
      if dispatchMutation then
        let _ ← markExternalDispatched prepared
      else pure ()

def validateResolutionSnapshot (active : ActiveIntegration)
    (prepared : PreparedExternalResolution) : Store RouterErrorCode Unit := do
  let instant ← nowInstant
  Txn.require (instant < prepared.deadline) .requestTimeout
  Txn.require (active.revision = prepared.bindingRevision &&
    active.connection.ns = prepared.ns &&
    active.connection.provider = prepared.provider &&
    active.connection.workspace = prepared.workspace) .integrationNotConfigured
  requireResolver prepared.credentialId prepared.workspace
  let unresolved ← Store.read fun db =>
    ((db.operations.get? (prepared.workspace, prepared.operationId)).any
      fun r => r.status = .unconfirmed) &&
    (resolutionReceipt db prepared.workspace prepared.operationId).isNone
  Txn.require unresolved .externalConflict
  match prepared.payload with
  | .importTask .. | .link .. => Txn.fail .externalConflict
  | payload =>
    match ← Store.read fun db => linkUnchanged db prepared.workspace prepared.taskId
        prepared.provider prepared.ns payload with
    | some code => Txn.fail code
    | none => pure ()

def completeAppliedResolution (prepared : PreparedExternalResolution)
    (mutation : ExternalMutation) : Store RouterErrorCode ExternalResolutionCompletion := do
  Txn.require (mutation.externalId = prepared.externalId) .externalConflict
  let now ← Store.nowMillis
  let taskEvent ← match prepared.payload with
    | .publishIssue .. => do
      let taskId ← Txn.orFail .storageError prepared.taskId
      let (changed, event) ← linkPublishedIssue prepared.workspace taskId prepared.provider
        prepared.ns prepared.actorId prepared.operationId mutation now
      Txn.require (changed = 1) .taskNotFound
      pure (some event)
    | .publishReport .. => pure none
    | .importTask .. | .link .. => Txn.fail .externalConflict
  let changed ← liftCode (updateOperation (prepared.workspace, prepared.operationId)
    (fun r => r.status = .unconfirmed) fun r => { r with
      status := .succeeded
      externalId := some mutation.externalId
      url := some mutation.url
      error := none
      updatedAt := now })
  Txn.require (changed = 1) .externalConflict
  insertResolution prepared.workspace prepared.resolutionId prepared.operationId
    prepared.actorId prepared.requestHash .applied (some mutation.externalId) prepared.note now
  let operation ← Store.read fun db =>
    operationSummary db prepared.workspace prepared.operationId
  let operation ← Txn.orFail .storageError operation
  let resolution : ExternalResolution :=
    { id := prepared.resolutionId, operationId := prepared.operationId,
      actorId := prepared.actorId, outcome := .applied,
      externalId := some mutation.externalId, note := prepared.note, createdAt := now }
  let event ← appendResolutionEvent prepared.workspace prepared.actorId operation resolution
  liftCode commit
  pure { operation, resolution, event, taskEvent }

end

end SessionRouter
