import SessionRouter.Router.State

/-!
Sending, publishing and disconnecting. Publishing an event disconnects the subscribers whose queue
is full, which interrupts their attempts, ends their requests and publishes further events, so the
three operations call each other. Every nested disconnect removes a connection, and the number of
connections bounds the depth.
-/

namespace SessionRouter

/-- The execution barrier as the handlers read it: a failed query counts as a barrier. -/
def barred (db : Db) (agentId : String) : Bool :=
  match agentHasExecutionBarrier db agentId with
  | .ok blocked => blocked
  | .error _ => true

def terminalPauseReason : RouterErrorCode → PauseReason
  | .requestTimeout => .requestTimeout
  | .requestCancelled => .requestCancelled
  | .routerRestarted => .routerRestarted
  | .taskInterrupted => .operatorInterrupt
  | _ => .transportLost

/-- The effect of `set_busy` on one connection. -/
def ConnectionState.setBusy (db : Db) (busy : Bool) (c : ConnectionState) : ConnectionState :=
  let effectiveBusy := busy || c.canceling.isSome
  c.mapDescriptor fun d => { d with
    status := if effectiveBusy then .busy else .idle
    ready := !effectiveBusy && !barred db d.agentId && c.storedReady && c.workspace.isSome }

/-- The effect of a cancelled request on its recipient. -/
def ConnectionState.cancel (canceling : CancelingWork) (c : ConnectionState) : ConnectionState :=
  { c.mapDescriptor fun d => { d with status := .busy, ready := false } with
    storedReady := false
    canceling := some canceling }

namespace Router

section

variable {ε : Type}

def setBusy (id : Uuid) (busy : Bool) : Router ε Unit :=
  Actor.modify fun s =>
    { s with connections := s.connections.adjust id (ConnectionState.setBusy s.db busy) }

def markUnhealthy : Router ε Unit :=
  Actor.modify fun s => { s with healthy := false, shuttingDown := true }

variable [World]

/-- `send`; false when the connection is gone or its queue refuses the message. -/
def send (id : Uuid) (generation : ℕ) (message : ServerMessage) : Router ε Bool := fun s =>
  match s.connections.get? id with
  | none => (.ok false, s)
  | some c =>
    if c.generation = generation then
      let accepted := World.accepts s.tick
      (.ok accepted, { s with
        store := { s.store with tick := s.tick + 1 }
        outbox := if accepted then s.outbox ++ [(id, message)] else s.outbox })
    else (.ok false, s)

def sendError (id : Uuid) (generation : ℕ) (requestId : Option String) (error : ActorError) :
    Router ε Unit := do
  let _ ← send id generation
    (.error requestId error.code error.workspace error.operationId error.currentVersion)

/-- Hand an event to the recipients in turn; the result lists those whose queue refused it. -/
def publish (event : WorkspaceEvent) : List Uuid → Router ε (List (Uuid × ℕ))
  | [] => pure []
  | id :: ids => do
    match ← Actor.read fun s => s.connections.get? id with
    | none => publish event ids
    | some c =>
      let sent ← send id c.generation (.workspaceEvent event)
      let failed ← publish event ids
      pure (if sent then failed else (id, c.generation) :: failed)

end

section

variable [World]

/-- Disconnect the connections that refused an event. A disconnect that fails stops the router. -/
def dropFailed (disconnect : Uuid → ℕ → Router StoreError Unit) :
    List (Uuid × ℕ) → Router StoreError Unit
  | [] => pure ()
  | (id, generation) :: failed => do
    match ← Actor.outcome (disconnect id generation) with
    | .ok () => pure ()
    | .error _ => markUnhealthy
    dropFailed disconnect failed

/-- `fanout`, with the disconnect it runs on the subscribers it could not reach. -/
def fanoutWith (disconnect : Uuid → ℕ → Router StoreError Unit) (event : WorkspaceEvent) :
    Router StoreError Unit := do
  let recipients ← Actor.read fun s => s.subscribersOf event.workspace
  let recipients ← traverse recipients
  let failed ← publish event recipients
  dropFailed disconnect failed

def notifyTaskAttemptChanged (workspace : WorkspaceName) (taskId : ℕ)
    (attempt : Option TaskAttempt) (closedAttemptId : Option Uuid) (agentId : String) :
    Router StoreError Unit := do
  let (current, stopPending) ← query fun db => agentExecutionFences db agentId
  let s ← Actor.get
  match s.primaries.get? agentId with
  | none => pure ()
  | some id =>
    match s.connections.get? id with
    | none => pure ()
    | some c =>
      let _ ← send id c.generation
        (.taskAttemptChanged workspace taskId attempt closedAttemptId current stopPending)

/-- Interrupt the attempt of a request that ends, and read it back. -/
def closeAttempt (attemptId : Option Uuid) (reason : PauseReason) :
    Router StoreError (Option WorkspaceEvent × Option (WorkspaceName × TaskAttempt)) :=
  match attemptId with
  | none => pure (none, none)
  | some id => do
    let taskEvent ← inStore (interruptAttempt id reason)
    let attemptChange ← query fun db => executionAttempt db id
    pure (taskEvent, attemptChange)

def pendingFence (p : PendingRequest) : Option TaskFence :=
  match p.task, p.attemptId with
  | some task, some attemptId => some { taskId := task.id, attemptId }
  | _, _ => none

/-- Mark the recipient of a cancelled request, when it is still the same connection, and tell it
to stop. -/
def cancelRecipient (p : PendingRequest) (canceling : CancelingWork) (code : RouterErrorCode) :
    Router StoreError Unit := do
  let s ← Actor.get
  match s.connections.get? p.recipient with
  | none => pure ()
  | some c =>
    if c.generation = p.recipientGeneration ∧ c.descriptor?.isSome then do
      updateConnection p.recipient (ConnectionState.cancel canceling)
      let _ ← send p.recipient p.recipientGeneration
        (.cancelWork canceling.workspace canceling.requestId code canceling.task)
    else pure ()

/-- Tell the agent of a closed attempt how it stands; an attempt of other work is an error. -/
def notifyClosed (p : PendingRequest) (workspace : WorkspaceName) (expected : TaskAttempt → Bool) :
    Option (WorkspaceName × TaskAttempt) → Router StoreError Unit
  | none => pure ()
  | some (attemptWorkspace, attempt) => do
    Actor.require (attemptWorkspace = workspace && expected attempt) .invalidData
    notifyTaskAttemptChanged workspace attempt.taskId (some attempt) p.attemptId p.recipientId

/-- `finish_pending_error`: the request ends with an error and its recipient must stop. -/
def finishPendingErrorWith (fanout : WorkspaceEvent → Router StoreError Unit)
    (workspace : WorkspaceName) (requestId : String) (code : RouterErrorCode) :
    Router StoreError Unit := do
  match ← Actor.read fun s => s.pending.get? (workspace, requestId) with
  | none => pure ()
  | some p =>
    Actor.modify fun s => { s with pending := s.pending.remove (workspace, requestId) }
    let (taskEvent, attemptChange) ← closeAttempt p.attemptId (terminalPauseReason code)
    let event ← inStore (appendEvent
      { workspace, kind := .result, actorId := "system:router", requestId := some requestId,
        targetId := some p.requesterId, taskId := p.task.map TaskDispatch.id, ok := some false,
        error := some code })
    cancelRecipient p { workspace, requestId, task := pendingFence p } code
    notifyClosed p workspace (fun _ => true) attemptChange
    let _ ← send p.requester p.requesterGeneration
      (.result workspace requestId "system:router" false none (some code)
        (p.task.map TaskDispatch.id))
    Actor.forEach fanout taskEvent.toList
    fanout event

/-- Forget a family of connections and their subscriptions. -/
def removeFamily (family : List Uuid) : Router StoreError Unit :=
  Actor.modify fun s => { s with
    connections := family.foldl Table.remove s.connections
    subscribers := s.subscribers.mapValues fun ids => ids.filter fun id => id ∉ family }

/-- Forget the message budget of a credential that is no longer connected. -/
def dropBucket (credentialId : Option Uuid) : Router StoreError Unit :=
  Actor.modify fun s =>
    match credentialId with
    | none => s
    | some id =>
      if s.connections.toList.any fun e => s.connectionCredentialId e.1 = some id then s
      else { s with credentialBuckets := s.credentialBuckets.remove id }

/-- Announce that an agent left with its connection; a failed insert is ignored. -/
def announceLeft (fanout : WorkspaceEvent → Router StoreError Unit)
    (workspace : Option WorkspaceName) (actor : Option String) : Router StoreError Unit :=
  match workspace, actor with
  | some workspace, some actorId => do
    match ← Actor.outcome (ε := StoreError)
        (inStore (appendEvent { workspace, kind := .memberLeft, actorId })) with
    | .ok event => fanout event
    | .error _ => pure ()
  | _, _ => pure ()

/-- Undo the registration of a connection that is gone. -/
def unregister (fanout : WorkspaceEvent → Router StoreError Unit) (id : Uuid)
    (c : ConnectionState) (actor : Option String) : Router StoreError Unit :=
  match c.role with
  | some (.agent _ descriptor _) => do
    Actor.modify fun s => { s with
      primaries := s.primaries.remove descriptor.agentId
      delegates := s.delegates.remove descriptor.agentId }
    announceLeft fanout c.workspace actor
  | some (.delegate ownerId) =>
    Actor.modify fun s => { s with
      delegates := s.delegates.adjust ownerId fun ids => ids.filter fun d => d ≠ id }
  | _ => pure ()

/-- The pending requests of a family with the error that ends each. -/
def affectedRequests (s : RouterState) (family : List Uuid) :
    List (WorkspaceName × String × RouterErrorCode) :=
  (s.pending.toList.filter fun e => e.2.requester ∈ family || e.2.recipient ∈ family).map fun e =>
    (e.2.workspace, e.2.requestId,
      if e.2.requester ∈ family then .requesterDisconnected else .targetDisconnected)

/-- Interrupt the attempts an agent connection runs. -/
def interruptConnection (c : ConnectionState) (reason : PauseReason) :
    Router StoreError (List WorkspaceEvent) :=
  match c.role with
  | some (.agent claims descriptor _) =>
    inSession (interruptSessionAttempts descriptor.agentId claims.id descriptor.sessionId
      c.generation reason)
  | _ => pure []

/-- A connection and its family leave the tables; the attempts it runs are interrupted first. -/
def depart (fanout : WorkspaceEvent → Router StoreError Unit) (id : Uuid) (c : ConnectionState)
    (family : List Uuid) (credentialId : Option Uuid) (actor : Option String)
    (reason : PauseReason) : Router StoreError Unit := do
  let interrupted ← interruptConnection c reason
  removeFamily family
  dropBucket credentialId
  Actor.forEach fanout interrupted
  unregister fanout id c actor

/-- End the requests that name a family which is gone. -/
def closeFamily (fanout : WorkspaceEvent → Router StoreError Unit) (family : List Uuid) :
    Router StoreError Unit := do
  let affected ← Actor.read fun s => affectedRequests s family
  let affected ← traverse affected
  Actor.forEach (fun (request : WorkspaceName × String × RouterErrorCode) =>
    finishPendingErrorWith fanout request.1 request.2.1 request.2.2) affected

/-- `disconnect_with_reason`. -/
def disconnectWith (fanout : WorkspaceEvent → Router StoreError Unit) (id : Uuid)
    (generation : ℕ) (reason : PauseReason) : Router StoreError Unit := do
  let s ← Actor.get
  match s.connections.get? id with
  | none => pure ()
  | some c =>
    if c.generation ≠ generation then pure ()
    else
      let family := s.connectionFamily id
      depart fanout id c family (s.connectionCredentialId id) (s.actorId id).toOption reason
      closeFamily fanout family

/-- `fanout` down to a given depth of nested disconnects. -/
def fanoutDepth : ℕ → WorkspaceEvent → Router StoreError Unit
  | 0, _ => pure ()
  | depth + 1, event =>
    fanoutWith (fun id generation =>
      disconnectWith (fanoutDepth depth) id generation .transportLost) event

def fanout (event : WorkspaceEvent) : Router StoreError Unit := fun s =>
  fanoutDepth (s.connections.size + 1) event s

def finishPendingError (workspace : WorkspaceName) (requestId : String)
    (code : RouterErrorCode) : Router StoreError Unit :=
  finishPendingErrorWith fanout workspace requestId code

def disconnectWithReason (id : Uuid) (generation : ℕ) (reason : PauseReason) :
    Router StoreError Unit := disconnectWith fanout id generation reason

def disconnect (id : Uuid) (generation : ℕ) : Router StoreError Unit :=
  disconnectWithReason id generation .transportLost

/-- Tell a family that its credential is gone and disconnect it. -/
def revokeConnection (target : Uuid × ℕ) : Router StoreError Unit := do
  let family ← Actor.read fun s => s.connectionFamily target.1
  let family ← traverse family
  Actor.forEach (fun id => do
    match ← Actor.read fun s => s.connections.get? id with
    | none => pure ()
    | some c => sendError id c.generation none { code := .unauthorized }) family
  disconnectWithReason target.1 target.2 .credentialRevoked

/-- `revoke_credential`; false when there is nothing to revoke. -/
def revokeCredential (credentialId : Uuid) : Router StoreError Bool := do
  let revoked ← inStore (revokeCredentialRow credentialId)
  if revoked then
    let matching ← Actor.read fun s => (s.connections.ofFilter fun _ c =>
      c.claims?.any fun claims => claims.id = credentialId).map fun e => (e.1, e.2.generation)
    let matching ← traverse matching
    Actor.forEach revokeConnection matching
    pure true
  else pure false

/-- End the listed requests with the same error. -/
def finishAll (code : RouterErrorCode) (requests : List (WorkspaceName × String)) :
    Router StoreError Unit :=
  Actor.forEach (fun (key : WorkspaceName × String) => finishPendingError key.1 key.2 code) requests

def expireDeadlines : Router StoreError Unit := do
  let now ← nowInstant
  let expired ← Actor.read fun s => (s.pending.ofFilter fun _ p => p.deadline ≤ now).map
    fun e => (e.2.workspace, e.2.requestId)
  let expired ← traverse expired
  finishAll .requestTimeout expired

def shutdownPending : Router StoreError Unit := do
  let requests ← Actor.read fun s => s.pending.toList.map fun e => (e.2.workspace, e.2.requestId)
  let requests ← traverse requests
  finishAll .routerRestarted requests

def closeAll : Router StoreError Unit :=
  Actor.modify fun s => { s with
    healthy := false
    connections := ∅
    primaries := ∅
    delegates := ∅
    subscribers := ∅ }

end

end Router

end SessionRouter
