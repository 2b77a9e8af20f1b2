import SessionRouter.Router.Requests

/-!
The task handlers: queries and the mutation path with its effects on requests and connections.
-/

namespace SessionRouter

/-- The commands that change the attempt of a task. -/
def TaskCommand.changesAttempt : TaskCommand → Bool
  | begin .. | pause .. | complete .. | interrupt .. | confirmStopped .. => true
  | _ => false

/-- The commands that are allowed while the task is dispatched. -/
def TaskCommand.allowedWhileDispatched : TaskCommand → Bool
  | begin .. | note .. | checkpoint .. | pause .. | complete .. | interrupt .. => true
  | _ => false

/-- The identity under which an agent or operator connection acts. -/
structure ActingIdentity where
  role : CallerRole
  agentId : Option String
  credentialId : Uuid
  sessionId : Option Uuid

def ConnectionState.acting? (c : ConnectionState) (direct : Bool) : Option ActingIdentity :=
  match c.role with
  | some (.agent claims descriptor _) => some
    { role := if direct then .agent else .delegate, agentId := some descriptor.agentId,
      credentialId := claims.id, sessionId := some descriptor.sessionId }
  | some (.operator claims admin) => some
    { role := if admin then .admin else .operator, agentId := none, credentialId := claims.id,
      sessionId := none }
  | _ => none

namespace Router

def taskList [World] (id : Uuid) (generation : ℕ) (requestId : String) (workspace : WorkspaceName)
    (states : Option (List TaskState)) (assignedAgentId : Option String) (after limit : Option ℕ) :
    Router ActorError Unit := do
  requireWorkspaceMatch id workspace
  let states := states.getD [.todo, .inProgress, .blocked, .paused]
  requireThat (!states.isEmpty && states.length ≤ 6) .invalidMessage
  requireThat (decide states.Nodup) .invalidMessage
  let (after, limit) ← Actor.orFail { code := .invalidMessage } (validatePage after limit)
  let (tasks, _, sourceHasMore) ← lift (query fun db =>
    listTasks db workspace states assignedAgentId after limit)
  let (tasks, nextCursor, hasMore) ← ask fun _ =>
    boundTaskList requestId workspace tasks after sourceHasMore
  let _ ← send id generation (.tasks requestId workspace tasks nextCursor hasMore)

def taskGet [World] (id : Uuid) (generation : ℕ) (requestId : String) (workspace : WorkspaceName)
    (taskId : ℕ) : Router ActorError Unit := do
  requireWorkspaceMatch id workspace
  let task ← lift (query fun db => getTaskDetail db workspace taskId)
  let task ← Actor.orFail { code := .taskNotFound } task
  let _ ← send id generation (.task requestId workspace task)

/-- A stored event of the task's history; one that does not fit its rows is a storage error. -/
def historyEvent (workspace : WorkspaceName) (taskId : ℕ) (stored : StoredTaskHistoryEvent) :
    Except ActorError TaskHistoryEvent :=
  match stored.event.content with
  | some (.task event) =>
    if stored.event.taskId ≠ some taskId ∨ event.task.id ≠ taskId ∨
        event.task.workspace ≠ workspace ∨ event.attemptId ≠ stored.attempt.map TaskAttempt.id ∨
        event.reportId ≠ stored.report.map TaskReportRecord.id ∨
        (stored.attempt.any fun a => a.taskId ≠ taskId) ∨
        (stored.report.any fun r => r.taskId ≠ taskId) then
      .error { code := .storageError }
    else .ok
      { seq := stored.event.seq, actorId := stored.event.actorId,
        createdAt := stored.event.createdAt, event, attempt := stored.attempt,
        report := stored.report }
  | _ => .error { code := .storageError }

def taskHistory [World] (id : Uuid) (generation : ℕ) (requestId : String)
    (workspace : WorkspaceName) (taskId : ℕ) (after limit : Option ℕ) :
    Router ActorError Unit := do
  requireWorkspaceMatch id workspace
  let task ← lift (query fun db => getTaskDetail db workspace taskId)
  requireThat task.isSome .taskNotFound
  let (after, limit) ← Actor.orFail { code := .invalidMessage } (validatePage after limit)
  let latest ← Actor.read fun s => (latestSeq s.db workspace).getD 0
  requireThat (after ≤ latest) .invalidMessage
  let (events, _, sourceHasMore) ← Actor.read fun s =>
    storedTaskHistory s.db workspace taskId after limit
  let events ← ask fun _ => events.mapM (historyEvent workspace taskId)
  let (events, nextCursor, hasMore) ← ask fun _ =>
    boundTaskHistory requestId workspace taskId events after sourceHasMore
  let _ ← send id generation (.taskHistory requestId workspace taskId events nextCursor hasMore)

/-- The reservation a `Begin` runs under: a request for this task delivered to the caller. -/
def reservation (s : RouterState) (effective : Uuid) (workspace : WorkspaceName) :
    TaskCommand → Option ReservationFence
  | .begin _ taskId workRequestId .. =>
    ((s.pending.get? (workspace, workRequestId)).filter fun p =>
      p.recipient = effective && p.task.any fun task => task.id = taskId).map
        fun _ => { workRequestId, taskId }
  | _ => none

/-- The caller as the store sees it, from the connection it acts through. -/
def callerOf (s : RouterState) (id : Uuid) (workspace : WorkspaceName)
    (reservation : Option ReservationFence) : Except ActorError CallerContext :=
  let effective := s.effective id
  match s.connections.get? effective with
  | none => .error { code := .notRegistered }
  | some c =>
    match c.acting? (effective = id) with
    | none => .error { code := .notRegistered }
    | some acting => (s.actorId id).map fun actorId =>
      { actorId, role := acting.role, workspace, agentId := acting.agentId,
        credentialId := acting.credentialId, sessionId := acting.sessionId,
        connectionGeneration := c.generation, reservation }

def callerContext (id : Uuid) (workspace : WorkspaceName) (command : TaskCommand) :
    Router ActorError CallerContext := do
  let effective ← Actor.read fun s => s.effective id
  let connection ← Actor.read fun s => s.connections.get? effective
  requireThat connection.isSome .notRegistered
  if command.isBegin then requireUnblocked connection else pure ()
  ask fun s => callerOf s id workspace (reservation s effective workspace command)

/-- The request an interruption ends: one that dispatches the task. -/
def interruptedRequest [World] (workspace : WorkspaceName) (command : TaskCommand) :
    Router ActorError (Option (WorkspaceName × String)) :=
  match command with
  | .interrupt _ taskId .. => do
    let entries ← Actor.read fun s => s.pending.toList
    let entries ← traverse entries
    pure ((entries.find? fun e => e.1.1 = workspace &&
      e.2.task.any fun dispatch => dispatch.id = taskId).map Prod.fst)
  | _ => pure none

/-- The agent a confirmation of a stop is about. -/
def stoppedAgent (db : Db) : TaskCommand → Option String
  | .confirmStopped _ _ attemptId .. => attemptAgentId db attemptId
  | _ => none

/-- After a `Begin`, the request it runs under carries the attempt. -/
def bindAttempt (workspace : WorkspaceName) (command : TaskCommand) (attemptId : Option Uuid) :
    Router ActorError Unit :=
  match command with
  | .begin _ _ workRequestId .. =>
    Actor.modify fun s => { s with
      pending := s.pending.adjust (workspace, workRequestId) fun p => { p with attemptId } }
  | _ => pure ()

/-- A confirmed stop frees the agent's connection. -/
def freeStopped (agentId : Option String) : Router ActorError Unit := do
  match ← Actor.read fun s => agentId.bind s.primaries.get? with
  | none => pure ()
  | some id => setBusy id false

variable [World]

/-- Tell the subscribers about a mutation and end the request it interrupts. -/
def announceMutation (workspace : WorkspaceName) (command : TaskCommand)
    (interrupted : Option (WorkspaceName × String)) (result : TaskApplyResult) :
    Router ActorError Unit := do
  -- Subscribers see the task event before the result of the request it interrupts.
  lift (fanout result.event)
  match interrupted with
  | some key => lift (finishPendingError key.1 key.2 .taskInterrupted)
  | none =>
    let attempt := result.mutation.task.currentAttempt.or result.mutation.task.lastAttempt
    match (if command.changesAttempt then attempt else none) with
    | none => pure ()
    | some attempt =>
      lift (notifyTaskAttemptChanged workspace attempt.taskId (some attempt)
        result.closedAttemptId attempt.agentId)

def taskMutate (id : Uuid) (generation : ℕ) (requestId : String) (workspace : WorkspaceName)
    (command : TaskCommand) : Router ActorError Unit := do
  requireWorkspaceMatch id workspace
  let dispatched ← Actor.read fun s =>
    command.taskId?.any fun taskId => s.taskDispatched workspace taskId
  requireThat (command.allowedWhileDispatched || !dispatched) .taskActive
  let interrupted ← interruptedRequest workspace command
  let stopped ← Actor.read fun s => stoppedAgent s.db command
  let caller ← callerContext id workspace command
  let result ← Actor.mapError (taskActorError workspace) (inStore (applyTask caller command))
  bindAttempt workspace command result.mutation.task.summary.currentAttemptId
  freeStopped stopped
  let _ ← send id generation (.taskMutated requestId workspace result.mutation)
  announceMutation workspace command interrupted result

end Router

end SessionRouter
