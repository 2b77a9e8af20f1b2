import SessionRouter.Router.Membership

/-!
Requests between connections: how one is started, answered, and how its recipient reports that it
is idle again.
-/

namespace SessionRouter

/-- The effect of `WorkIdle` on the connection that canceled its work. -/
def ConnectionState.idle (ready blocked : Bool) (c : ConnectionState) : ConnectionState :=
  { c.mapDescriptor fun d => { d with
      status := .idle
      ready := ready && !blocked && c.workspace.isSome } with
    canceling := none
    storedReady := ready }

namespace Router

/-- An agent whose stop is unconfirmed, or that still cancels work, may not start new work. -/
def requireUnblocked (connection : Option ConnectionState) : Router ActorError Unit := do
  requireThat (connection.all fun c => c.canceling.isNone) .sessionBusy
  match connection.bind ConnectionState.agentId? with
  | none => pure ()
  | some agentId =>
    let (_, stopPending) ← lift (query fun db => agentExecutionBarriers db agentId)
    requireThat (!stopPending) .sessionBusy

/-- The connection that is to receive a request: an idle and ready agent of the workspace. -/
def findRecipient (workspace : WorkspaceName) (recipientId : String) :
    Router ActorError (Uuid × ConnectionState) := do
  let s ← Actor.get
  let recipient ← Actor.orFail { code := .targetOffline } (s.primaries.get? recipientId)
  let connection ← Actor.orFail { code := .targetOffline } (s.connections.get? recipient)
  requireThat (connection.workspace = some workspace) .targetOffline
  let descriptor ← Actor.orFail { code := .targetOffline } connection.descriptor?
  requireThat (!(connection.canceling.isSome || descriptor.status = .busy)) .sessionBusy
  let blocked ← lift (query fun db => agentHasExecutionBarrier db descriptor.agentId)
  requireThat (!blocked) .sessionBusy
  requireThat descriptor.ready .targetNotReady
  pure (recipient, connection)

/-- A request ends no later than the requests its requester works on. -/
def requestDeadline (s : RouterState) (requester : Uuid) (requested : ℕ) : ℕ :=
  (((s.pending.ofFilter fun _ p => p.recipient = requester).map fun e => e.2.deadline).foldl min
    requested)

def nanosPerMilli : ℕ := 1000000

variable [World]

/-- Store a request and hand it to its recipient, which is busy from now on. -/
def deliverRequest (p : PendingRequest) (content : String) (timeoutMs : ℕ) :
    Router ActorError (WorkspaceEvent × Bool) := do
  let event ← lift (inStore (appendRequest
    { workspace := p.workspace, kind := .request, actorId := p.requesterId,
      requestId := some p.requestId, targetId := some p.recipientId,
      taskId := p.task.map TaskDispatch.id, content := some (.text content) }))
  Actor.modify fun s => { s with pending := s.pending.put (p.workspace, p.requestId) p }
  setBusy p.recipient true
  let sender ← ask fun s => s.actorId p.requester
  let sent ← send p.recipient p.recipientGeneration
    (.deliver p.workspace p.requestId sender content timeoutMs p.task)
  pure (event, sent)

def startRequest (requester : Uuid) (requesterGeneration : ℕ)
    (requestId recipientId content : String)
    (timeoutMs : Option ℕ) (task : Option TaskDispatch) : Router ActorError Unit := do
  let workspace ← ask fun s => s.currentWorkspace requester
  let effectiveRequester ← Actor.read fun s => s.effective requester
  let connection ← Actor.read fun s => s.connections.get? effectiveRequester
  requireUnblocked connection
  let pendingCount ← Actor.read fun s => s.pending.size
  requireThat (pendingCount < pendingRequestLimit) .rateLimited
  let used ← Actor.read fun s => s.pending.contains (workspace, requestId)
  requireThat (!used) .requestConflict
  let (recipient, target) ← findRecipient workspace recipientId
  let requesterId ← ask fun s => s.actorId requester
  let now ← nowInstant
  let requestedDeadline := now + normalizeTimeoutMs timeoutMs * nanosPerMilli
  let deadline ← Actor.read fun s => requestDeadline s effectiveRequester requestedDeadline
  let timeoutMs := max ((deadline - now) / nanosPerMilli) 1
  let (event, sent) ← deliverRequest
    { workspace, requestId, requester, requesterGeneration, requesterId, recipient,
      recipientGeneration := target.generation, recipientId, deadline, task, attemptId := none }
    content timeoutMs
  if sent then
    let _ ← send requester requesterGeneration (.accepted requestId workspace recipientId)
    lift (fanout event)
  else
    -- The failed delivery appends a terminal result; the request is published before it.
    lift (fanout event)
    lift (finishPendingError workspace requestId .targetDisconnected)
    failWith .targetDisconnected

/-- The content and error of a reply, with the defaults of absent fields. -/
def replyOutcome (ok : Bool) (content : Option String) (error : Option RouterErrorCode) :
    Option String × Option RouterErrorCode :=
  if ok then (some (content.getD ""), none) else (none, some (error.getD .providerError))

def finishReply (id : Uuid) (generation : ℕ) (requestId : String) (ok : Bool)
    (content : Option String) (error : Option RouterErrorCode) : Router ActorError Unit := do
  let workspace ← ask fun s => s.currentWorkspace id
  let p ← Actor.read fun s => s.pending.get? (workspace, requestId)
  let p ← Actor.orFail { code := .requestNotFound } p
  requireThat (p.recipient = id && p.recipientGeneration = generation) .permissionDenied
  Actor.modify fun s => { s with pending := s.pending.remove (workspace, requestId) }
  let (taskEvent, attemptChange) ← lift (closeAttempt p.attemptId
    (if ok then .replyWithoutRelease else .hostError))
  let (content, error) := replyOutcome ok content error
  let taskId := p.task.map TaskDispatch.id
  let event ← lift (inStore (appendEvent
    { workspace, kind := .result, actorId := p.recipientId, requestId := some p.requestId,
      targetId := some p.requesterId, taskId, content := content.map .text, ok := some ok,
      error }))
  setBusy id false
  let _ ← send p.requester p.requesterGeneration
    (.result workspace p.requestId p.recipientId ok content error taskId)
  lift (notifyClosed p workspace (fun attempt => some attempt.taskId = taskId) attemptChange)
  lift (Actor.forEach fanout taskEvent.toList)
  lift (fanout event)

/-- The agent whose cancelled work a `WorkIdle` message ends. -/
def idleAgent (s : RouterState) (id : Uuid) (generation : ℕ) (expected : CancelingWork) :
    Except ActorError String :=
  let ownedByOther := s.connections.toList.any fun e =>
    e.1 ≠ id && e.2.canceling = some expected
  match s.connections.get? id with
  | none => .error { code := .permissionDenied }
  | some c =>
    match c.agentId? with
    | none => .error { code := .permissionDenied }
    | some agentId =>
      if c.generation = generation ∧ c.canceling = some expected then .ok agentId
      else if ownedByOther then .error { code := .permissionDenied }
      else .error { code := .requestNotFound }

def workIdle (id : Uuid) (generation : ℕ) (requestId : String) (workspace : WorkspaceName)
    (workRequestId : String) (task : Option TaskFence) (ready : Bool) :
    Router ActorError Unit := do
  requireWorkspaceMatch id workspace
  let agentId ← ask fun s =>
    idleAgent s id generation { workspace, requestId := workRequestId, task }
  let blocked ← lift (query fun db => agentHasExecutionBarrier db agentId)
  updateConnection id (ConnectionState.idle ready blocked)
  let _ ← send id generation (.workIdleAck requestId workspace workRequestId)

omit [World] in
/-- The agent id and credential of an agent connection. -/
def agentIdentity (s : RouterState) (id : Uuid) : Except ActorError (String × Uuid) :=
  match (s.connections.get? id).bind ConnectionState.role with
  | some (.agent claims descriptor _) => .ok (descriptor.agentId, claims.id)
  | _ => .error { code := .permissionDenied }

omit [World] in
/-- The error a handler reports for a failed task operation. -/
def taskActorError (workspace : WorkspaceName) (e : TaskError) : ActorError :=
  { code := e.code, workspace := some workspace, operationId := e.operationId,
    currentVersion := e.currentVersion }

omit [World] in
/-- Free a connection unless it works on a request. -/
def freeIdle (id : Uuid) : Router ActorError Unit := do
  let working ← Actor.read fun s => s.hasWork id
  if working then pure () else setBusy id false

omit [World] in
/-- The attempt of a task, which has just been written. -/
def readAttempt (workspace : WorkspaceName) (taskId : ℕ) (attemptId : Uuid) :
    Router ActorError TaskAttempt := do
  let attempt ← lift (query fun db => executionAttempt db attemptId)
  let (attemptWorkspace, attempt) ← Actor.orFail (.ofStore .invalidData) attempt
  Actor.require (attemptWorkspace = workspace && attempt.taskId = taskId) (.ofStore .invalidData)
  pure attempt

def taskExecutionStopped (id : Uuid) (generation : ℕ) (requestId : String)
    (workspace : WorkspaceName) (taskId : ℕ) (attemptId endedSessionId : Uuid)
    (reason : PauseReason) : Router ActorError Unit := do
  requireWorkspaceMatch id workspace
  let (agentId, credentialId) ← ask fun s => agentIdentity s id
  let event ← Actor.mapError (fun e => { taskActorError workspace e with operationId := none })
    (inStore (recordExecutionStopped workspace taskId attemptId endedSessionId agentId
      credentialId reason))
  freeIdle id
  let attempt ← readAttempt workspace taskId attemptId
  let _ ← send id generation (.taskExecutionStoppedAck requestId workspace taskId attemptId)
  lift (notifyTaskAttemptChanged workspace taskId (some attempt) (some attemptId) agentId)
  lift (Actor.forEach fanout event.toList)

omit [World] in
def defaultTaskMessage : String :=
  "Perform the assigned task and record checkpoints before releasing it."

def taskRequest (id : Uuid) (generation : ℕ) (requestId : String) (workspace : WorkspaceName)
    (taskId expectedVersion : ℕ) (message : Option String) (timeoutMs : Option ℕ) :
    Router ActorError Unit := do
  requireWorkspaceMatch id workspace
  let task ← lift (query fun db => getTaskDetail db workspace taskId)
  let task ← Actor.orFail { code := .taskNotFound } task
  Actor.require (task.summary.version = expectedVersion)
    { code := .taskConflict, workspace := some workspace,
      currentVersion := some task.summary.version }
  requireThat (!task.summary.state.isTerminal) .taskInvalidTransition
  requireThat task.summary.currentAttemptId.isNone .taskActive
  requireThat (task.summary.stopEvidence ≠ some .unknown) .taskStopUnconfirmed
  let agentId ← Actor.orFail { code := .taskNotAssigned } task.summary.assignedAgentId
  let blocked ← lift (query fun db => agentHasExecutionBarrier db agentId)
  requireThat (!blocked) .taskStopUnconfirmed
  let dispatched ← Actor.read fun s => s.taskDispatched workspace taskId
  requireThat (!dispatched) .taskActive
  startRequest id generation requestId agentId (message.getD defaultTaskMessage) timeoutMs
    (some { id := taskId, expectedVersion })

end Router

end SessionRouter
