import SessionRouter.Store.Events

/-!
The queries of the task domain: attempts, reports, task details and the two ways in which a task
summary is computed.
-/

namespace SessionRouter

/-- `load_attempt`; a missing row is an error of the query. -/
def loadAttempt (db : Db) (id : Uuid) : Except StoreError TaskAttempt :=
  match db.attempts.get? id with
  | none => .error (.sqlite .noRows)
  | some r => .ok
    { id, taskId := r.taskId, agentId := r.agentId, sessionId := r.sessionId,
      workRequestId := r.workRequestId, resumedFromCheckpointId := r.resumedFromCheckpointId,
      status := r.status, stopEvidence := r.stopEvidence, reason := r.reason,
      startedAt := r.startedAt, endedAt := r.endedAt, stoppedAt := r.stoppedAt }

/-- Whether a stored body decodes as its kind asks: a text for a note, else a checkpoint. -/
def bodyMatches : ReportKind → ReportBody → Bool
  | .note, .text _ => true
  | .checkpoint, .checkpoint _ | .result, .checkpoint _ => true
  | _, _ => false

def loadReport (db : Db) (id : Uuid) : Except StoreError TaskReportRecord :=
  match db.reports.get? id with
  | none => .error (.sqlite .noRows)
  | some r =>
    if bodyMatches r.kind r.body then .ok
      { id, taskId := r.taskId, attemptId := r.attemptId, actorId := r.actorId, kind := r.kind,
        body := r.body, createdAt := r.createdAt }
    else .error (.sqlite .invalidQuery)

/-- Load the row an optional reference names. -/
def loadOptional {α : Type} (load : Uuid → Except StoreError α) :
    Option Uuid → Except StoreError (Option α)
  | none => .ok none
  | some id => (load id).map some

def loadLinks (db : Db) (workspace : WorkspaceName) (taskId : ℕ) : List ExternalLink :=
  [ExternalProvider.github, .linear].filterMap fun provider =>
    (db.links.get? (workspace, taskId, provider)).map fun r =>
      { provider, ns := r.ns, externalId := r.externalId, url := r.url, linkedAt := r.linkedAt }

def operationSummaryOf (id : Uuid) (r : OperationRow) : ExternalOperationSummary :=
  { id, taskId := r.taskId, provider := r.provider, kind := r.kind, status := r.status,
    sourceVersion := r.sourceVersion, externalId := r.externalId, url := r.url, error := r.error,
    createdAt := r.createdAt, updatedAt := r.updatedAt }

/-- The latest operation of a task with each provider. -/
def loadExternalOperations (db : Db) (workspace : WorkspaceName) (taskId : ℕ) :
    List ExternalOperationSummary :=
  [ExternalProvider.github, .linear].filterMap fun provider =>
    ((db.operations.ofFilter fun key r =>
        key.1 = workspace && r.taskId = some taskId && r.provider = provider).insertionSort
      fun a b => b.2.updatedAt ≤ a.2.updatedAt).head?.map fun e => operationSummaryOf e.1.2 e.2

def getTaskDetail (db : Db) (workspace : WorkspaceName) (taskId : ℕ) :
    Except StoreError (Option TaskDetail) :=
  match db.tasks.get? (workspace, taskId) with
  | none => .ok none
  | some r => do
    let currentAttempt ← loadOptional (loadAttempt db) r.currentAttemptId
    let lastAttempt ← loadOptional (loadAttempt db) r.lastAttemptId
    let checkpoint ← loadOptional (loadReport db) r.lastCheckpointId
    let result ← loadOptional (loadReport db) r.resultReportId
    let executor := currentAttempt.or lastAttempt
    let summary : TaskSummary :=
      { id := taskId, workspace, title := r.title, state := r.state, version := r.version,
        assignedAgentId := r.assignedAgentId, currentAttemptId := r.currentAttemptId,
        lastExecutorId := executor.map TaskAttempt.agentId,
        executionSessionId := executor.map TaskAttempt.sessionId,
        lastCheckpointAt := checkpoint.map TaskReportRecord.createdAt,
        pauseReason := r.pauseReason, stopEvidence := executor.map TaskAttempt.stopEvidence,
        createdAt := r.createdAt, updatedAt := r.updatedAt }
    pure (some
      { summary, description := r.description, createdBy := r.createdBy, updatedBy := r.updatedBy,
        currentAttempt, lastAttempt, checkpoint, result, links := loadLinks db workspace taskId,
        externalOperations := loadExternalOperations db workspace taskId })

/-- `task_summary_from_row`, the summary shown in lists. -/
def taskSummaryFromRow (db : Db) (workspace : WorkspaceName) (taskId : ℕ) (r : TaskRow) :
    Except StoreError TaskSummary := do
  let attempt ← loadOptional (loadAttempt db) (r.currentAttemptId.or r.lastAttemptId)
  let checkpoint ← loadOptional (loadReport db) r.lastCheckpointId
  pure
    { id := taskId, workspace, title := r.title, state := r.state, version := r.version,
      assignedAgentId := r.assignedAgentId, currentAttemptId := r.currentAttemptId,
      lastExecutorId := attempt.map TaskAttempt.agentId,
      executionSessionId := attempt.map TaskAttempt.sessionId,
      lastCheckpointAt := checkpoint.map TaskReportRecord.createdAt,
      pauseReason := r.pauseReason, stopEvidence := attempt.map TaskAttempt.stopEvidence,
      createdAt := r.createdAt, updatedAt := r.updatedAt }

def attemptAgentId (db : Db) (attemptId : Uuid) : Option String :=
  (db.attempts.get? attemptId).map AttemptRow.agentId

def executionAttempt (db : Db) (attemptId : Uuid) :
    Except StoreError (Option (WorkspaceName × TaskAttempt)) :=
  match db.attempts.get? attemptId with
  | none => .ok none
  | some r => (loadAttempt db attemptId).map fun attempt => some (r.workspace, attempt)

/-- The attempts that bar an agent from new work, the latest first. -/
def barrierAttempts (db : Db) (agentId : String) : List (Uuid × AttemptRow) :=
  (db.attempts.ofFilter fun _ r => r.agentId = agentId && r.barrier).insertionSort
    fun a b => b.2.startedAt ≤ a.2.startedAt

/-- Put one row into the slot its status selects; a second row in a slot is invalid data. -/
def fenceSlots : List (Uuid × AttemptRow) → Option TaskFence × Option TaskFence →
    Except StoreError (Option TaskFence × Option TaskFence)
  | [], slots => .ok slots
  | (id, r) :: rows, (current, stopPending) =>
    let fence : TaskFence := { taskId := r.taskId, attemptId := id }
    if r.status = .running then
      if current.isSome then .error .invalidData else fenceSlots rows (some fence, stopPending)
    else
      if stopPending.isSome then .error .invalidData else fenceSlots rows (current, some fence)

/-- The running attempt and the attempt whose stop is unconfirmed, for one agent. -/
def agentExecutionFences (db : Db) (agentId : String) :
    Except StoreError (Option TaskFence × Option TaskFence) :=
  fenceSlots (barrierAttempts db agentId) (none, none)

def agentExecutionBarriers (db : Db) (agentId : String) : Except StoreError (Bool × Bool) :=
  (agentExecutionFences db agentId).map fun fences => (fences.1.isSome, fences.2.isSome)

def agentHasExecutionBarrier (db : Db) (agentId : String) : Except StoreError Bool :=
  (agentExecutionBarriers db agentId).map fun barriers => barriers.1 || barriers.2

def lastTaskId (after : ℕ) (tasks : List TaskSummary) : ℕ :=
  (tasks.getLast?.map TaskSummary.id).getD after

def listTasks (db : Db) (workspace : WorkspaceName) (states : List TaskState)
    (assignedAgentId : Option String) (after limit : ℕ) :
    Except StoreError (List TaskSummary × ℕ × Bool) :=
  if states.isEmpty then .error .invalidData
  else do
    let rows := (db.tasks.ofFilter fun key r =>
        key.1 = workspace && after < key.2 && r.state ∈ states &&
        assignedAgentId.all fun id => r.assignedAgentId = some id).insertionSort
      fun a b => a.1.2 ≤ b.1.2
    let fetched ← (rows.take (limit + 1)).mapM fun e => taskSummaryFromRow db e.1.1 e.1.2 e.2
    let page := cutPage limit fetched
    pure (page.1, lastTaskId after page.1, page.2)

structure StoredTaskHistoryEvent where
  event : WorkspaceEvent
  attempt : Option TaskAttempt
  report : Option TaskReportRecord

/-- The attempt an event names, when it belongs to the event's task. -/
def joinedAttempt (db : Db) (e : WorkspaceEvent) : Option TaskAttempt :=
  match e.content with
  | some (.task event) => event.attemptId.bind fun id =>
    (db.attempts.get? id).bind fun r =>
      if r.workspace = e.workspace ∧ some r.taskId = e.taskId then (loadAttempt db id).toOption
      else none
  | _ => none

def joinedReport (db : Db) (e : WorkspaceEvent) : Option TaskReportRecord :=
  match e.content with
  | some (.task event) => event.reportId.bind fun id =>
    (db.reports.get? id).bind fun r =>
      if r.workspace = e.workspace ∧ some r.taskId = e.taskId then some
        { id, taskId := r.taskId, attemptId := r.attemptId, actorId := r.actorId, kind := r.kind,
          body := r.body, createdAt := r.createdAt }
      else none
  | _ => none

def taskEvents (db : Db) (workspace : WorkspaceName) (taskId : ℕ) : List WorkspaceEvent :=
  db.events.filter fun e => e.workspace = workspace && e.taskId = some taskId && e.kind = .task

def storedTaskHistory (db : Db) (workspace : WorkspaceName) (taskId after limit : ℕ) :
    List StoredTaskHistoryEvent × ℕ × Bool :=
  let rows := ((taskEvents db workspace taskId).filter fun e => after < e.seq).insertionSort
    fun a b => a.seq ≤ b.seq
  let page := cutPage limit (rows.map fun e =>
    { event := e, attempt := joinedAttempt db e, report := joinedReport db e })
  (page.1, (page.1.getLast?.map fun e => e.event.seq).getD after, page.2)

/-- `last_task_event`: the event of the task with the largest sequence number. -/
def lastTaskEvent (db : Db) (workspace : WorkspaceName) (taskId : ℕ) : Option WorkspaceEvent :=
  ((taskEvents db workspace taskId).insertionSort fun a b => b.seq ≤ a.seq).head?

end SessionRouter
