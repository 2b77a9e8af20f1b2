import SessionRouter.Tasks.Queries

/-!
The task commands: `apply_task` with its receipts, and the operations by which the router itself
interrupts attempts and records that an execution stopped.
-/

namespace SessionRouter

structure TaskError where
  code : RouterErrorCode
  currentVersion : Option ℕ := none
  operationId : Option Uuid := none
  deriving DecidableEq

/-- `impl From<StoreError> for TaskError`. -/
def TaskError.ofStore (e : StoreError) : TaskError := { code := e.code }

structure TaskApplyResult where
  mutation : TaskMutationResult
  event : WorkspaceEvent
  closedAttemptId : Option Uuid

section

variable [World]

/-- Run a store operation inside a task command. -/
def liftStore {α : Type} (x : Store StoreError α) : Store TaskError α := Txn.mapError .ofStore x

def storeQuery {α : Type} (f : Db → Except StoreError α) : Store StoreError α := fun t =>
  match f t.db with
  | .ok a => .ok (a, t)
  | .error e => .error e

def failTask {α : Type} (code : RouterErrorCode) (operationId : Option Uuid) :
    Store TaskError α := Txn.fail { code, operationId }

def requireTask (b : Bool) (code : RouterErrorCode) (operationId : Option Uuid) :
    Store TaskError Unit := Txn.require b { code, operationId }

def requireExecutor (caller : CallerContext) : Bool :=
  (caller.role = .agent || caller.role = .delegate) && caller.agentId.isSome

/-- The checks of `validate_command`: the error code of the first that fails. -/
def validateCommand (caller : CallerContext) (command : TaskCommand) : Option RouterErrorCode :=
  let invalid (b : Bool) : Option RouterErrorCode := if b then none else some .invalidMessage
  let executor : Option RouterErrorCode :=
    if requireExecutor caller then none else some .permissionDenied
  let operator : Option RouterErrorCode :=
    if caller.role = .operator || caller.role = .admin then none else some .permissionDenied
  match command with
  | .create _ title description => invalid (validateTitle title && validateDescription description)
  | .edit _ _ _ title description =>
    invalid ((title.isSome || description.isSome) && title.all validateTitle &&
      description.all validateDescription)
  | .assign _ _ _ agentId => invalid (agentId.all isAgentId)
  | .note _ _ text => invalid (validateNote text)
  | .begin _ _ workRequestId _ _ resumeNote =>
    (invalid (validateHandoffNote resumeNote && isRequestId workRequestId)).or executor
  | .checkpoint _ _ _ _ checkpoint | .pause _ _ _ _ checkpoint _ | .complete _ _ _ _ checkpoint =>
    (invalid checkpoint.validate).or executor
  | .cancel _ _ _ note | .reopen _ _ _ note => invalid (validateHandoffNote note)
  | .interrupt _ _ _ note | .confirmStopped _ _ _ _ note =>
    (invalid (validateHandoffNote note)).or operator

def taskStateVersion (workspace : WorkspaceName) (taskId : ℕ) (operationId : Uuid) :
    Store TaskError TaskRow := do
  let row ← Store.read fun db => db.tasks.get? (workspace, taskId)
  Txn.orFail { code := .taskNotFound, operationId := some operationId } row

def checkVersion (current expected : ℕ) (operationId : Uuid) : Store TaskError Unit :=
  Txn.require (current = expected)
    { code := .taskConflict, currentVersion := some current, operationId := some operationId }

def insertTextReport (caller : CallerContext) (taskId : ℕ) (attemptId : Option Uuid)
    (kind : ReportKind) (text : String) (createdAt : ℕ) : Store TaskError Uuid := do
  let reportId ← Store.newUuid
  liftStore (insertReport reportId
    { workspace := caller.workspace, taskId, attemptId, actorId := caller.actorId, kind,
      body := .text text, createdAt })
  pure reportId

def insertCheckpointReport (caller : CallerContext) (taskId : ℕ) (attemptId : Uuid)
    (kind : ReportKind) (checkpoint : TaskCheckpoint) (createdAt : ℕ) : Store TaskError Uuid := do
  let reportId ← Store.newUuid
  liftStore (insertReport reportId
    { workspace := caller.workspace, taskId, attemptId := some attemptId,
      actorId := caller.actorId, kind, body := .checkpoint checkpoint, createdAt })
  pure reportId

/-- Append the event of a mutation and its receipt. -/
def finishMutation (caller : CallerContext) (command : TaskCommand) (taskId appliedVersion : ℕ)
    (change : TaskChange) (attemptId reportId closedAttemptId : Option Uuid) (createdAt : ℕ) :
    Store TaskError TaskApplyResult := do
  let operationId := command.operationId
  let task ← liftStore (storeQuery fun db => getTaskDetail db caller.workspace taskId)
  let task ← Txn.orFail { code := .taskNotFound, operationId := some operationId } task
  let event ← liftStore (appendEventInTransaction
    { workspace := caller.workspace, kind := .task, actorId := caller.actorId,
      taskId := some taskId,
      content := some (.task
        { change, task := task.summary, attemptId, reportId, externalOperationId := none }) })
  liftStore (insertMutation (caller.workspace, operationId)
    { actorId := caller.actorId, requestHash := command, taskId, appliedVersion, attemptId,
      reportId, createdAt })
  pure
    { mutation := { operationId, appliedVersion, reportId, task }, event, closedAttemptId }

def applyCreate (caller : CallerContext) (command : TaskCommand) (title description : String) :
    Store TaskError TaskApplyResult := do
  let operationId := command.operationId
  let taskId ← liftStore (takeTaskId caller.workspace)
  let taskId ← Txn.orFail { code := .storageError, operationId := some operationId } taskId
  let now ← Store.nowMillis
  liftStore (insertTask (caller.workspace, taskId)
    { version := 1, title, description, state := .todo, assignedAgentId := none,
      currentAttemptId := none, lastAttemptId := none, lastCheckpointId := none,
      resultReportId := none, pauseReason := none, createdBy := caller.actorId,
      updatedBy := caller.actorId, createdAt := now, updatedAt := now })
  finishMutation caller command taskId 1 .created none none none now

def applyEdit (caller : CallerContext) (command : TaskCommand) (taskId expectedVersion : ℕ)
    (title description : Option String) : Store TaskError TaskApplyResult := do
  let operationId := command.operationId
  let row ← taskStateVersion caller.workspace taskId operationId
  checkVersion row.version expectedVersion operationId
  requireTask (!(row.state.isTerminal || row.state = .inProgress)) .taskInvalidTransition
    (some operationId)
  let version := expectedVersion + 1
  let now ← Store.nowMillis
  let _ ← liftStore (updateTask (caller.workspace, taskId) (fun _ => true) fun r => { r with
    title := title.getD r.title
    description := description.getD r.description
    version
    updatedBy := caller.actorId
    updatedAt := now })
  finishMutation caller command taskId version .edited none none none now

/-- An unrevoked agent credential with this subject grants the workspace. -/
def assignable (db : Db) (workspace : WorkspaceName) (agentId : String) : Bool :=
  db.credentials.toList.any fun e =>
    e.2.role = .agent && e.2.subject = agentId && e.2.revokedAt.isNone &&
    decide (workspace ∈ e.2.workspaces)

def applyAssign (caller : CallerContext) (command : TaskCommand) (taskId expectedVersion : ℕ)
    (agentId : Option String) : Store TaskError TaskApplyResult := do
  let operationId := command.operationId
  let row ← taskStateVersion caller.workspace taskId operationId
  checkVersion row.version expectedVersion operationId
  requireTask (!row.state.isTerminal) .taskInvalidTransition (some operationId)
  let known ← Store.read fun db => agentId.all fun id => assignable db caller.workspace id
  requireTask known .permissionDenied (some operationId)
  let version := expectedVersion + 1
  let now ← Store.nowMillis
  let _ ← liftStore (updateTask (caller.workspace, taskId) (fun _ => true) fun r => { r with
    assignedAgentId := agentId
    version
    updatedBy := caller.actorId
    updatedAt := now })
  finishMutation caller command taskId version .assigned none none none now

def applyNote (caller : CallerContext) (command : TaskCommand) (taskId : ℕ) (text : String) :
    Store TaskError TaskApplyResult := do
  let row ← taskStateVersion caller.workspace taskId command.operationId
  let attemptId := row.lastAttemptId
  let now ← Store.nowMillis
  let reportId ← insertTextReport caller taskId attemptId .note text now
  finishMutation caller command taskId row.version .noted attemptId (some reportId) none now

/-- The reservation of the caller names this task and this work request. -/
def reservationMatches (caller : CallerContext) (taskId : ℕ) (workRequestId : String) : Bool :=
  caller.reservation.any fun r => r.taskId = taskId && r.workRequestId = workRequestId

/-- A violated constraint of the new attempt means an earlier execution may still run. -/
def beginError (operationId : Uuid) : StoreError → TaskError
  | .sqlite .constraint => { code := .taskStopUnconfirmed, operationId := some operationId }
  | e => .ofStore e

def applyBegin (caller : CallerContext) (command : TaskCommand) (taskId : ℕ)
    (workRequestId : String) (expectedVersion : ℕ) (lastCheckpointId : Option Uuid)
    (resumeNote : String) : Store TaskError TaskApplyResult := do
  let operationId := command.operationId
  let denied : TaskError := { code := .permissionDenied, operationId := some operationId }
  let agentId ← Txn.orFail denied caller.agentId
  let sessionId ← Txn.orFail denied caller.sessionId
  requireTask (reservationMatches caller taskId workRequestId) .taskStaleAttempt
    (some operationId)
  let row ← taskStateVersion caller.workspace taskId operationId
  checkVersion row.version expectedVersion operationId
  requireTask (row.state.isBeginable && row.currentAttemptId.isNone) .taskActive
    (some operationId)
  requireTask (row.assignedAgentId = some agentId) .taskNotAssigned (some operationId)
  requireTask (row.lastCheckpointId = lastCheckpointId) .taskConflict (some operationId)
  let attemptId ← Store.newUuid
  let now ← Store.nowMillis
  Txn.mapError (beginError operationId) (insertAttempt attemptId
    { workspace := caller.workspace, taskId, agentId, credentialId := caller.credentialId,
      sessionId, connectionGeneration := caller.connectionGeneration, workRequestId,
      resumedFromCheckpointId := lastCheckpointId, status := .running, stopEvidence := .unknown,
      reason := none, startedAt := now, endedAt := none, stoppedAt := none })
  let reportId ← insertTextReport caller taskId (some attemptId) .note resumeNote now
  let version := expectedVersion + 1
  let _ ← liftStore (updateTask (caller.workspace, taskId) (fun _ => true) fun r => { r with
    state := .inProgress
    version
    currentAttemptId := some attemptId
    lastAttemptId := some attemptId
    pauseReason := none
    updatedBy := caller.actorId
    updatedAt := now })
  finishMutation caller command taskId version .begun (some attemptId) (some reportId) none now

/-- The caller's own session runs this attempt and it is the task's current one. -/
def ownsAttempt (db : Db) (caller : CallerContext) (taskId : ℕ) (attemptId : Uuid)
    (agentId : String) (sessionId : Uuid) : Bool :=
  match db.attempts.get? attemptId, db.tasks.get? (caller.workspace, taskId) with
  | some a, some r =>
    a.workspace = caller.workspace && a.taskId = taskId && a.agentId = agentId &&
    a.credentialId = caller.credentialId && a.sessionId = sessionId &&
    a.connectionGeneration = caller.connectionGeneration && a.status = .running &&
    r.currentAttemptId = some attemptId
  | _, _ => false

def requireAttemptOwner (caller : CallerContext) (taskId : ℕ) (attemptId : Uuid)
    (expectedVersion : ℕ) (operationId : Uuid) : Store TaskError Unit := do
  let row ← taskStateVersion caller.workspace taskId operationId
  checkVersion row.version expectedVersion operationId
  let denied : TaskError := { code := .permissionDenied, operationId := some operationId }
  let agentId ← Txn.orFail denied caller.agentId
  let sessionId ← Txn.orFail denied caller.sessionId
  let owned ← Store.read fun db => ownsAttempt db caller taskId attemptId agentId sessionId
  requireTask owned .taskStaleAttempt (some operationId)

def applyCheckpoint (caller : CallerContext) (command : TaskCommand) (taskId : ℕ)
    (attemptId : Uuid) (expectedVersion : ℕ) (checkpoint : TaskCheckpoint) :
    Store TaskError TaskApplyResult := do
  requireAttemptOwner caller taskId attemptId expectedVersion command.operationId
  let now ← Store.nowMillis
  let reportId ← insertCheckpointReport caller taskId attemptId .checkpoint checkpoint now
  let version := expectedVersion + 1
  let _ ← liftStore (updateTask (caller.workspace, taskId) (fun _ => true) fun r => { r with
    version
    lastCheckpointId := some reportId
    updatedBy := caller.actorId
    updatedAt := now })
  finishMutation caller command taskId version .checkpoint (some attemptId) (some reportId) none
    now

/-- `apply_release`, for a pause (`completed = false`) or a completion. -/
def applyRelease (caller : CallerContext) (command : TaskCommand) (taskId : ℕ)
    (attemptId : Uuid) (expectedVersion : ℕ) (checkpoint : TaskCheckpoint)
    (nextState : TaskState) (completed : Bool) : Store TaskError TaskApplyResult := do
  requireAttemptOwner caller taskId attemptId expectedVersion command.operationId
  let now ← Store.nowMillis
  let kind : ReportKind := if completed then .result else .checkpoint
  let reportId ← insertCheckpointReport caller taskId attemptId kind checkpoint now
  let _ ← liftStore (updateAttempt attemptId (fun r => r.status = .running) fun r => { r with
    status := if completed then .completed else .released
    stopEvidence := .released
    reason := if completed then none
      else if nextState = .blocked then some .blocked else some .paused
    endedAt := some now
    stoppedAt := some now })
  let version := expectedVersion + 1
  let _ ← liftStore (updateTask (caller.workspace, taskId) (fun _ => true) fun r => { r with
    state := nextState
    version
    assignedAgentId := if nextState = .done then none else r.assignedAgentId
    currentAttemptId := none
    lastAttemptId := some attemptId
    lastCheckpointId := some reportId
    resultReportId := if nextState = .done then some reportId else r.resultReportId
    pauseReason := if nextState = .blocked then some .blocked
      else if nextState = .paused then some .paused else none
    updatedBy := caller.actorId
    updatedAt := now })
  finishMutation caller command taskId version (if completed then .completed else .paused)
    (some attemptId) (some reportId) (some attemptId) now

/-- Some attempt of the task was interrupted and its stop is not confirmed. -/
def stopUnconfirmed (db : Db) (workspace : WorkspaceName) (taskId : ℕ) : Bool :=
  db.attempts.toList.any fun e =>
    e.2.workspace = workspace && e.2.taskId = taskId && e.2.status = .interrupted &&
    e.2.stopEvidence = .unknown

/-- `apply_terminal`, for a cancellation or, back to `todo`, a reopening. -/
def applyTerminal (caller : CallerContext) (command : TaskCommand) (taskId expectedVersion : ℕ)
    (note : String) (nextState : TaskState) : Store TaskError TaskApplyResult := do
  let operationId := command.operationId
  let row ← taskStateVersion caller.workspace taskId operationId
  checkVersion row.version expectedVersion operationId
  let valid := match nextState with
    | .cancelled => !row.state.isTerminal && row.state ≠ .inProgress
    | .todo => row.state.isTerminal
    | _ => false
  requireTask valid .taskInvalidTransition (some operationId)
  let blocked ← Store.read fun db => stopUnconfirmed db caller.workspace taskId
  requireTask (!blocked) .taskStopUnconfirmed (some operationId)
  let now ← Store.nowMillis
  let attemptId := row.lastAttemptId
  let reportId ← insertTextReport caller taskId attemptId .note note now
  let version := expectedVersion + 1
  let _ ← liftStore (updateTask (caller.workspace, taskId) (fun _ => true) fun r => { r with
    state := nextState
    version
    assignedAgentId := none
    currentAttemptId := none
    resultReportId := if nextState = .todo then none else r.resultReportId
    pauseReason := none
    updatedBy := caller.actorId
    updatedAt := now })
  finishMutation caller command taskId version
    (if nextState = .todo then .reopened else .cancelled) attemptId (some reportId) none now

def applyInterrupt (caller : CallerContext) (command : TaskCommand) (taskId expectedVersion : ℕ)
    (note : String) : Store TaskError TaskApplyResult := do
  let operationId := command.operationId
  let row ← taskStateVersion caller.workspace taskId operationId
  checkVersion row.version expectedVersion operationId
  requireTask (row.state = .inProgress) .taskInvalidTransition (some operationId)
  let attemptId ← Txn.orFail { code := .taskStaleAttempt, operationId := some operationId }
    row.currentAttemptId
  let now ← Store.nowMillis
  let reportId ← insertTextReport caller taskId (some attemptId) .note note now
  let _ ← liftStore (updateAttempt attemptId (fun r => r.status = .running) fun r => { r with
    status := .interrupted
    stopEvidence := .unknown
    reason := some .operatorInterrupt
    endedAt := some now })
  let version := expectedVersion + 1
  let _ ← liftStore (updateTask (caller.workspace, taskId) (fun _ => true) fun r => { r with
    state := .paused
    version
    currentAttemptId := none
    lastAttemptId := some attemptId
    pauseReason := some .operatorInterrupt
    updatedBy := caller.actorId
    updatedAt := now })
  finishMutation caller command taskId version .interrupted (some attemptId) (some reportId)
    (some attemptId) now

/-- This attempt of the task was interrupted and its stop is not confirmed. -/
def attemptUnconfirmed (db : Db) (workspace : WorkspaceName) (taskId : ℕ) (attemptId : Uuid) :
    Bool :=
  (db.attempts.get? attemptId).any fun a =>
    a.workspace = workspace && a.taskId = taskId && a.status = .interrupted &&
    a.stopEvidence = .unknown

def applyConfirmStopped (caller : CallerContext) (command : TaskCommand) (taskId : ℕ)
    (attemptId : Uuid) (expectedVersion : ℕ) (note : String) :
    Store TaskError TaskApplyResult := do
  let operationId := command.operationId
  let row ← taskStateVersion caller.workspace taskId operationId
  checkVersion row.version expectedVersion operationId
  let pending ← Store.read fun db => attemptUnconfirmed db caller.workspace taskId attemptId
  requireTask pending .taskStaleAttempt (some operationId)
  let now ← Store.nowMillis
  let reportId ← insertTextReport caller taskId (some attemptId) .note note now
  let _ ← liftStore (updateAttempt attemptId (fun _ => true) fun r => { r with
    stopEvidence := .confirmed
    stoppedAt := some now })
  let version := expectedVersion + 1
  let _ ← liftStore (updateTask (caller.workspace, taskId) (fun _ => true) fun r => { r with
    version
    updatedBy := caller.actorId
    updatedAt := now })
  finishMutation caller command taskId version .stopped (some attemptId) (some reportId) none now

/-- The dispatch of `apply_task` to the operation of a new command. -/
def applyCommand (caller : CallerContext) (command : TaskCommand) :
    Store TaskError TaskApplyResult :=
  match command with
  | .create _ title description => applyCreate caller command title description
  | .edit _ taskId expectedVersion title description =>
    applyEdit caller command taskId expectedVersion title description
  | .assign _ taskId expectedVersion agentId =>
    applyAssign caller command taskId expectedVersion agentId
  | .note _ taskId text => applyNote caller command taskId text
  | .begin _ taskId workRequestId expectedVersion lastCheckpointId resumeNote =>
    applyBegin caller command taskId workRequestId expectedVersion lastCheckpointId resumeNote
  | .checkpoint _ taskId attemptId expectedVersion checkpoint =>
    applyCheckpoint caller command taskId attemptId expectedVersion checkpoint
  | .pause _ taskId attemptId expectedVersion checkpoint blocked =>
    applyRelease caller command taskId attemptId expectedVersion checkpoint
      (if blocked then .blocked else .paused) false
  | .complete _ taskId attemptId expectedVersion result =>
    applyRelease caller command taskId attemptId expectedVersion result .done true
  | .cancel _ taskId expectedVersion note =>
    applyTerminal caller command taskId expectedVersion note .cancelled
  | .reopen _ taskId expectedVersion note =>
    applyTerminal caller command taskId expectedVersion note .todo
  | .interrupt _ taskId expectedVersion note =>
    applyInterrupt caller command taskId expectedVersion note
  | .confirmStopped _ taskId attemptId expectedVersion note =>
    applyConfirmStopped caller command taskId attemptId expectedVersion note

/-- The caller's own session still runs this attempt. -/
def exactActiveOwnerAttempt (db : Db) (caller : CallerContext) (attemptId : Uuid) : Bool :=
  match caller.agentId, caller.sessionId, db.attempts.get? attemptId with
  | some agentId, some sessionId, some a =>
    a.agentId = agentId && a.credentialId = caller.credentialId && a.sessionId = sessionId &&
    a.connectionGeneration = caller.connectionGeneration && a.status = .running
  | _, _, _ => false

def TaskCommand.isBegin : TaskCommand → Bool
  | .begin .. => true
  | _ => false

/-- Answer a command from its receipt. -/
def replayReceipt (caller : CallerContext) (command : TaskCommand) (receipt : MutationRow) :
    Store TaskError TaskApplyResult := do
  let operationId := command.operationId
  requireTask (receipt.actorId = caller.actorId && receipt.requestHash = command) .requestConflict
    (some operationId)
  let active ← Store.read fun db =>
    !command.isBegin || receipt.attemptId.any fun id => exactActiveOwnerAttempt db caller id
  requireTask active .taskStaleAttempt (some operationId)
  let task ← liftStore (storeQuery fun db => getTaskDetail db caller.workspace receipt.taskId)
  let task ← Txn.orFail { code := .taskNotFound, operationId := some operationId } task
  let event ← Store.read fun db => lastTaskEvent db caller.workspace receipt.taskId
  let event ← Txn.orFail { code := .storageError, operationId := some operationId } event
  liftStore commit
  pure
    { mutation := { operationId, appliedVersion := receipt.appliedVersion,
                    reportId := receipt.reportId, task },
      event, closedAttemptId := none }

def applyTask (caller : CallerContext) (command : TaskCommand) :
    Store TaskError TaskApplyResult := do
  match validateCommand caller command with
  | some code => failTask code (some command.operationId)
  | none =>
    match ← Store.read fun db => db.mutations.get? (caller.workspace, command.operationId) with
    | some receipt => replayReceipt caller command receipt
    | none =>
      let applied ← applyCommand caller command
      liftStore commit
      pure applied

/-- The event by which an operation of the router reports a change of a task. -/
def appendTaskEvent (workspace : WorkspaceName) (actorId : String) (taskId : ℕ)
    (change : TaskChange) (attemptId externalOperationId : Option Uuid) (task : TaskSummary) :
    Store StoreError WorkspaceEvent :=
  appendEventInTransaction
    { workspace, kind := .task, actorId, taskId := some taskId,
      content := some (.task { change, task, attemptId, reportId := none, externalOperationId }) }

def interruptAttempt (attemptId : Uuid) (reason : PauseReason) :
    Store StoreError (Option WorkspaceEvent) := do
  match ← Store.read fun db => db.attempts.get? attemptId with
  | none => pure none
  | some row =>
    if row.status ≠ .running then
      commit
      pure none
    else
      let now ← Store.nowMillis
      let _ ← updateAttempt attemptId (fun r => r.status = .running) fun r => { r with
        status := .interrupted
        stopEvidence := .unknown
        reason := some reason
        endedAt := some now }
      let changed ← updateTask (row.workspace, row.taskId)
        (fun r => r.currentAttemptId = some attemptId) fun r => { r with
        state := .paused
        version := r.version + 1
        currentAttemptId := none
        lastAttemptId := some attemptId
        pauseReason := some reason
        updatedBy := "system:router"
        updatedAt := now }
      Txn.require (changed = 1) .invalidData
      let task ← storeQuery fun db => getTaskDetail db row.workspace row.taskId
      let task ← Txn.orFail .invalidData task
      let event ← appendTaskEvent row.workspace "system:router" row.taskId .interrupted
        (some attemptId) none task.summary
      commit
      pure (some event)

/-- The running attempts of one session of an agent. -/
def sessionAttempts (db : Db) (agentId : String) (credentialId sessionId : Uuid)
    (connectionGeneration : ℕ) : List Uuid :=
  (db.attempts.ofFilter fun _ r =>
    r.agentId = agentId && r.credentialId = credentialId && r.sessionId = sessionId &&
    r.connectionGeneration = connectionGeneration && r.status = .running).map Prod.fst

/-- Interrupt the attempts one after the other, each in a transaction of its own. -/
def interruptAttempts (reason : PauseReason) : List Uuid → Session StoreError (List WorkspaceEvent)
  | [] => pure []
  | attemptId :: attempts => do
    let event ← transaction (interruptAttempt attemptId reason)
    let events ← interruptAttempts reason attempts
    pure (event.toList ++ events)

def interruptSessionAttempts (agentId : String) (credentialId sessionId : Uuid)
    (connectionGeneration : ℕ) (reason : PauseReason) :
    Session StoreError (List WorkspaceEvent) := do
  let attempts ← Actor.read fun s =>
    sessionAttempts s.db agentId credentialId sessionId connectionGeneration
  interruptAttempts reason attempts

def recordExecutionStopped (workspace : WorkspaceName) (taskId : ℕ)
    (attemptId endedSessionId : Uuid) (agentId : String) (credentialId : Uuid)
    (reason : PauseReason) : Store TaskError (Option WorkspaceEvent) := do
  let stale : TaskError := { code := .taskStaleAttempt }
  let row ← Store.read fun db => db.attempts.get? attemptId
  let row ← Txn.orFail stale
    (row.filter fun r => r.workspace = workspace && r.taskId = taskId)
  Txn.require (row.agentId = agentId && row.credentialId = credentialId &&
    row.sessionId = endedSessionId) stale
  if row.status = .released ∨ row.status = .completed ∨ row.stopEvidence = .confirmed then
    liftStore commit
    pure none
  else
    Txn.require (row.status = .running ||
      (row.status = .interrupted && row.stopEvidence = .unknown)) stale
    let now ← Store.nowMillis
    let changed ← if row.status = .running then do
        let _ ← liftStore (updateAttempt attemptId (fun r => r.status = .running)
          fun r => { r with
            status := .interrupted
            stopEvidence := .confirmed
            reason := some reason
            endedAt := some now
            stoppedAt := some now })
        liftStore (updateTask (workspace, taskId) (fun r => r.currentAttemptId = some attemptId)
          fun r => { r with
            state := .paused
            version := r.version + 1
            currentAttemptId := none
            lastAttemptId := some attemptId
            pauseReason := some reason
            updatedBy := agentId
            updatedAt := now })
      else do
        let _ ← liftStore (updateAttempt attemptId
          (fun r => r.status = .interrupted && r.stopEvidence = .unknown)
          fun r => { r with stopEvidence := .confirmed, stoppedAt := some now })
        liftStore (updateTask (workspace, taskId)
          (fun r => r.currentAttemptId.isNone && r.lastAttemptId = some attemptId)
          fun r => { r with
            version := r.version + 1
            updatedBy := agentId
            updatedAt := now })
    Txn.require (changed = 1) (.ofStore .invalidData)
    let task ← liftStore (storeQuery fun db => getTaskDetail db workspace taskId)
    let task ← Txn.orFail { code := .taskNotFound } task
    let event ← liftStore (appendTaskEvent workspace agentId taskId .stopped (some attemptId)
      none task.summary)
    liftStore commit
    pure (some event)

end

end SessionRouter
