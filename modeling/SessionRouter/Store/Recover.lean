import SessionRouter.Integrations.Operations

/-!
What opening the database does after a crash: unfinished requests get a result, running attempts
are interrupted and open external operations become terminal.
-/

namespace SessionRouter

/-- The `request` events without a `result`, by workspace and sequence number. -/
def unfinishedRequests (db : Db) : List WorkspaceEvent :=
  (db.events.filter fun r => r.kind = .request && !db.events.any fun x =>
      x.kind = .result && x.workspace = r.workspace && x.requestId = r.requestId).insertionSort
    fun a b => a.workspace.asStr < b.workspace.asStr ∨
      (a.workspace.asStr = b.workspace.asStr ∧ a.seq ≤ b.seq)

def runningAttempts (db : Db) : List (Uuid × AttemptRow) :=
  db.attempts.ofFilter fun _ r => r.status = .running

/-- The open external operations, by workspace, age and id. -/
def openOperations (db : Db) : List ((WorkspaceName × Uuid) × OperationRow) :=
  (db.operations.ofFilter fun _ r => r.status = .running &&
      (r.phase = .prepared || r.phase = .dispatched)).insertionSort fun a b =>
    a.1.1.asStr < b.1.1.asStr ∨ (a.1.1.asStr = b.1.1.asStr ∧
      (a.2.createdAt < b.2.createdAt ∨
        (a.2.createdAt = b.2.createdAt ∧ a.1.2.val ≤ b.1.2.val)))

section

variable [World]

def recoverRequest (request : WorkspaceEvent) : Store StoreError WorkspaceEvent :=
  appendEventInTransaction
    { workspace := request.workspace, kind := .result, actorId := "system:router",
      requestId := request.requestId, targetId := some request.actorId,
      taskId := request.taskId, ok := some false, error := some .routerRestarted }

def recoverUnfinishedRequests : Store StoreError Unit := do
  let requests ← Store.read unfinishedRequests
  let _ ← Txn.each recoverRequest requests

def recoverAttempt (now : ℕ) (attempt : Uuid × AttemptRow) : Store StoreError WorkspaceEvent := do
  let workspace := attempt.2.workspace
  let taskId := attempt.2.taskId
  let _ ← updateAttempt attempt.1 (fun r => r.status = .running) fun r => { r with
    status := .interrupted
    stopEvidence := .unknown
    reason := some .routerRestarted
    endedAt := some now }
  let _ ← updateTask (workspace, taskId) (fun r => r.currentAttemptId = some attempt.1)
    fun r => { r with
      state := .paused
      currentAttemptId := none
      pauseReason := some .routerRestarted
      version := r.version + 1
      updatedBy := "system:router"
      updatedAt := now }
  let task ← storeQuery fun db => getTaskDetail db workspace taskId
  let task ← Txn.orFail .invalidData task
  appendTaskEvent workspace "system:router" taskId .interrupted (some attempt.1) none task.summary

def recoverRunningAttempts : Store StoreError Unit := do
  let now ← Store.nowMillis
  let attempts ← Store.read runningAttempts
  let _ ← Txn.each (recoverAttempt now) attempts

/-- The terminal status of an interrupted operation and its error text. -/
def recoveredStatus (r : OperationRow) : ExternalOperationStatus × String :=
  if r.phase = .dispatched then (.unconfirmed, "external_unconfirmed")
  else if r.kind = .publishIssue ∨ r.kind = .publishReport then (.failed, "not_dispatched")
  else (.failed, "not_applied")

def recoverOperation (now : ℕ) (operation : (WorkspaceName × Uuid) × OperationRow) :
    Store StoreError WorkspaceEvent := do
  let (status, error) := recoveredStatus operation.2
  let _ ← updateOperation operation.1 (fun r => r.status = .running) fun r => { r with
    phase := .terminal
    status
    error := some error
    updatedAt := now }
  let summary := { operationSummaryOf operation.1.2 operation.2 with
    status, error := some error, updatedAt := now }
  appendEventInTransaction
    { workspace := operation.1.1, kind := .integration, actorId := "system:router",
      taskId := operation.2.taskId,
      content := some (.integration
        { change := .operation, integration := none, operation := some summary,
          resolution := none }) }

def recoverExternalOperations : Store StoreError Unit := do
  let now ← Store.nowMillis
  let operations ← Store.read openOperations
  let _ ← Txn.each (recoverOperation now) operations

def recoverExternalInflight : Store StoreError Unit := do
  recoverExternalOperations
  commit

/-- `RouterStore::recover`: the three passes in one transaction. -/
def recover : Store StoreError Unit := do
  recoverUnfinishedRequests
  recoverRunningAttempts
  recoverExternalOperations
  commit

end

end SessionRouter
