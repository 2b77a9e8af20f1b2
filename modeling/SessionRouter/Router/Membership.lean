import SessionRouter.Router.Delivery
import SessionRouter.Router.Pages

/-!
Registration, readiness and workspace membership.
-/

namespace SessionRouter

/-- The effect of a readiness message on a pulling agent. -/
def ConnectionState.setReadiness (db : Db) (ready : Bool) (c : ConnectionState) :
    ConnectionState :=
  { c.mapDescriptor fun d => { d with
      ready := ready && c.canceling.isNone && !barred db d.agentId && d.status = .idle &&
        c.workspace.isSome } with
    storedReady := ready }

/-- The effect of joining a workspace on the connection that joins. -/
def ConnectionState.join (db : Db) (workspace : WorkspaceName) (c : ConnectionState) :
    ConnectionState :=
  match c.descriptor? with
  | none => { c with workspace := some workspace }
  | some d =>
    let push := d.deliveryMode = .push
    { c.mapDescriptor fun d => { d with ready := push && !barred db d.agentId } with
      workspace := some workspace
      storedReady := push }

def ConnectionState.leave (c : ConnectionState) : ConnectionState :=
  { c.mapDescriptor fun d => { d with ready := false } with
    workspace := none
    storedReady := false }

namespace Router

def requireRegistered (id : Uuid) : Router ActorError Unit := do
  let known ← Actor.read fun s => (s.connections.get? id).any fun c => c.role.isSome
  requireThat known .notRegistered

def requireUnregistered (id : Uuid) : Router ActorError Unit := do
  let unknown ← Actor.read fun s => (s.connections.get? id).any fun c => c.role.isNone
  requireThat unknown .agentConflict

def requireOperator (id : Uuid) : Router ActorError Unit := do
  let operator ← Actor.read fun s => (s.connections.get? id).any ConnectionState.isOperator
  requireThat operator .permissionDenied

def requireAdmin (id : Uuid) : Router ActorError Unit := do
  let admin ← Actor.read fun s => (s.connections.get? id).any ConnectionState.isAdmin
  requireThat admin .permissionDenied

def requireWorkspaceMatch (id : Uuid) (workspace : WorkspaceName) : Router ActorError Unit := do
  let current ← ask fun s => s.currentWorkspace id
  Actor.require (current = workspace) { code := .workspaceMismatch, workspace := some current }

def authorizeWorkspace (id : Uuid) (workspace : WorkspaceName) : Router ActorError Unit := do
  let (claims, admin) ← ask fun s => s.claims id
  requireThat (admin || decide (workspace ∈ claims.workspaces)) .workspaceNotFound

def authenticate (token : String) : Router ActorError PublicCredentialClaims := do
  let credential ← Actor.read fun s => credentialByHash s.db token
  let credential ← Actor.orFail { code := .unauthorized } credential
  requireThat credential.revokedAt.isNone .unauthorized
  pure credential.claims

variable [World]

def sendExecutionSnapshot (id : Uuid) (generation : ℕ) (agentId : String) :
    Router ActorError Unit := do
  let (current, stopPending) ← lift (query fun db => agentExecutionFences db agentId)
  match current.or stopPending with
  | none => pure ()
  | some selected =>
    let attempt ← lift (query fun db => executionAttempt db selected.attemptId)
    let (workspace, attempt) ← Actor.orFail (.ofStore .invalidData) attempt
    let _ ← send id generation
      (.taskAttemptChanged workspace selected.taskId (some attempt)
        (stopPending.map TaskFence.attemptId) current stopPending)

/-- Whether a credential is the one of the agent that registers. -/
def matchesRegistration (claims : PublicCredentialClaims) (registration : AgentRegistration) :
    Bool :=
  claims.role = .agent && claims.subject = registration.agentId &&
  claims.agentSide = some registration.side && claims.agentClient = some registration.client

def registerAgent (id : Uuid) (generation : ℕ) (registration : AgentRegistration)
    (token : String) (delegationToken : Option String) : Router ActorError Unit := do
  requireUnregistered id
  let claims ← authenticate token
  let taken ← Actor.read fun s => s.primaries.contains registration.agentId
  requireThat (!taken) .agentConflict
  requireThat (matchesRegistration claims registration) .unauthorized
  let sessionId ← newUuid
  let descriptor : AgentDescriptor :=
    { agentId := registration.agentId, side := registration.side, client := registration.client,
      activity := registration.activity, status := .idle,
      deliveryMode := registration.deliveryMode, ready := false, sessionId }
  Actor.modify fun s => { s with
    connections := s.connections.adjust id fun c =>
      { c with role := some (.agent claims descriptor delegationToken) }
    primaries := s.primaries.put registration.agentId id }
  let _ ← send id generation (.registered protocolVersion descriptor .agent none 0)
  sendExecutionSnapshot id generation registration.agentId

/-- The owner of a delegation token: its descriptor and workspace. -/
def delegationOwner (s : RouterState) (ownerId token : String) :
    Option (AgentDescriptor × Option WorkspaceName) :=
  ((s.primaries.get? ownerId).bind s.connections.get?).bind fun owner =>
    match owner.role with
    | some (.agent _ descriptor (some expected)) =>
      if expected = token then some (descriptor, owner.workspace) else none
    | _ => none

def registerDelegate (id : Uuid) (generation : ℕ) (ownerId token : String) :
    Router ActorError Unit := do
  requireUnregistered id
  let owner ← Actor.read fun s => delegationOwner s ownerId token
  let (descriptor, workspace) ← Actor.orFail { code := .unauthorized } owner
  let cursor ← Actor.read fun s => (workspace.bind (latestSeq s.db)).getD 0
  Actor.modify fun s => { s with
    connections := s.connections.adjust id fun c =>
      { c with role := some (.delegate ownerId), workspace }
    delegates := s.delegates.put ownerId ((s.delegatesOf ownerId).insert id) }
  let _ ← send id generation (.registered protocolVersion descriptor .delegate workspace cursor)

def registerOperator (id : Uuid) (generation : ℕ) (token : String) : Router ActorError Unit := do
  requireUnregistered id
  let claims ← authenticate token
  requireThat (claims.role = .operator) .unauthorized
  let admin := claims.subject = "admin" && claims.workspaces.isEmpty
  updateConnection id fun c => { c with role := some (.operator claims admin) }
  let _ ← send id generation
    (.registeredOperator protocolVersion claims.subject admin none 0)

omit [World] in
def setReadiness (id : Uuid) (ready : Bool) : Router ActorError Unit := do
  let s ← Actor.get
  match s.connections.get? id with
  | none => failWith .notRegistered
  | some c =>
    match c.descriptor? with
    | none => failWith .permissionDenied
    | some d =>
      if d.deliveryMode = .pull then
        updateConnection id (ConnectionState.setReadiness s.db ready)
      else failWith .invalidMessage

def listAgents (id : Uuid) (generation : ℕ) (requestId : String) : Router ActorError Unit := do
  let workspace ← ask fun s => s.currentWorkspace id
  let agents ← Actor.read fun s => s.agentsInWorkspace workspace
  let _ ← send id generation (.agents requestId workspace agents)

/-- The largest number `connected_agents` can hold. -/
def maxConnectedAgents : ℕ := 4294967295

def workspaceSummaries (s : RouterState) (rows : List (WorkspaceName × ℕ)) :
    List WorkspaceSummary :=
  rows.map fun row => { name := row.1, createdAt := row.2,
                        connectedAgents := (s.agentsInWorkspace row.1).length }

def workspaceList (id : Uuid) (generation : ℕ) (requestId : String) (after : Option String)
    (limit : Option ℕ) : Router ActorError Unit := do
  let (claims, admin) ← ask fun s => s.claims id
  let limit := limit.getD defaultPageLimit
  requireThat (1 ≤ limit && limit ≤ maxPageLimit) .invalidMessage
  requireThat (after.all isWorkspaceName) .invalidMessage
  let (rows, _, sourceHasMore) ← Actor.read fun s =>
    listWorkspaceRows s.db (if admin then none else some claims.workspaces) after limit
  let summaries ← Actor.read fun s => workspaceSummaries s rows
  requireThat (summaries.all fun w => w.connectedAgents ≤ maxConnectedAgents) .storageError
  let (workspaces, nextCursor, hasMore) ← ask fun _ =>
    boundWorkspaceList requestId summaries after sourceHasMore
  let _ ← send id generation (.workspaces requestId workspaces nextCursor hasMore)

omit [World] in
/-- `sync_delegates`: the delegates of an agent share its workspace. -/
def syncDelegates (owner : Uuid) (workspace : Option WorkspaceName) : Router ActorError Unit :=
  Actor.modify fun s =>
    match (s.connections.get? owner).bind ConnectionState.agentId? with
    | none => s
    | some agentId => { s with
        connections := (s.delegatesOf agentId).foldl
          (fun m d => m.adjust d fun c => { c with workspace }) s.connections }

/-- Tell a connection that its membership changed. -/
def notifyChanged (workspace : Option WorkspaceName) (cursor : ℕ) (id : Uuid) :
    Router ActorError Unit := do
  match ← Actor.read fun s => s.connections.get? id with
  | none => pure ()
  | some c =>
    let _ ← send id c.generation (.workspaceChanged workspace cursor)

def notifyMembership (owner : Uuid) (workspace : Option WorkspaceName) (cursor : ℕ) :
    Router ActorError Unit := do
  let s ← Actor.get
  match (s.connections.get? owner).bind ConnectionState.role with
  | some (.agent _ descriptor _) =>
    notifyChanged workspace cursor owner
    let delegates ← traverse (s.delegatesOf descriptor.agentId)
    Actor.forEach (notifyChanged workspace cursor) delegates
  | some (.operator ..) => notifyChanged workspace cursor owner
  | _ => pure ()

omit [World] in
def removeSubscriptionsForOwner (owner : Uuid) : Router ActorError Unit :=
  Actor.modify fun s =>
    let ownerId := ((s.connections.get? owner).bind ConnectionState.agentId?).getD ""
    let gone := owner :: s.delegatesOf ownerId
    { s with subscribers := s.subscribers.mapValues fun ids => ids.filter fun id => id ∉ gone }

/-- The membership event of an agent; operators come and go silently. -/
def membershipEvent (kind : WorkspaceEventKind) (workspace : WorkspaceName) (actorId : String)
    (isOperator : Bool) : Router ActorError (Option WorkspaceEvent) :=
  if isOperator then pure none
  else do
    let event ← lift (inStore (appendEvent { workspace, kind, actorId }))
    pure (some event)

omit [World] in
/-- The cursor a member starts from: its own event, or the latest one. -/
def joinCursor (name : WorkspaceName) : Option WorkspaceEvent → Router ActorError ℕ
  | some event => pure event.seq
  | none => Actor.read fun s => (latestSeq s.db name).getD 0

def workspaceJoin (id : Uuid) (generation : ℕ) (requestId : String) (name : WorkspaceName) :
    Router ActorError Unit := do
  let effective ← Actor.read fun s => s.effective id
  authorizeWorkspace effective name
  let known ← Actor.read fun s => s.db.workspaces.contains name
  requireThat known .workspaceNotFound
  let connection ← Actor.read fun s => s.connections.get? effective
  let current := connection.bind ConnectionState.workspace
  if current = some name then
    let cursor ← Actor.read fun s => (latestSeq s.db name).getD 0
    let _ ← send id generation (.workspaceJoined requestId name cursor)
  else
    requireThat current.isNone .workspaceAlreadyJoined
    let actor ← ask fun s => s.actorId id
    let event ← membershipEvent .memberJoined name actor
      (connection.any ConnectionState.isOperator)
    let cursor ← joinCursor name event
    let s ← Actor.get
    updateConnection effective (ConnectionState.join s.db name)
    syncDelegates effective (some name)
    let _ ← send id generation (.workspaceJoined requestId name cursor)
    notifyMembership effective (some name) cursor
    lift (Actor.forEach fanout event.toList)

/-- The reasons for which an agent may not leave its workspace yet. -/
def requireLeavable (agentId : Option String) : Router ActorError Unit :=
  match agentId with
  | none => pure ()
  | some agentId => do
    let (running, unconfirmed) ← lift (query fun db => agentExecutionBarriers db agentId)
    requireThat (!running) .workspaceBusy
    requireThat (!unconfirmed) .leaveUnconfirmed

def workspaceLeave (id : Uuid) (generation : ℕ) (requestId : String) :
    Router ActorError Unit := do
  let effective ← Actor.read fun s => s.effective id
  let connection ← Actor.read fun s => s.connections.get? effective
  match connection.bind ConnectionState.workspace with
  | none =>
    let _ ← send id generation (.workspaceLeft requestId none)
  | some workspace =>
    requireThat (connection.all fun c => c.canceling.isNone) .workspaceBusy
    let busy ← Actor.read fun s =>
      let family := s.connectionFamily effective
      s.pending.toList.any fun e => e.2.workspace = workspace &&
        (decide (e.2.requester ∈ family) || decide (e.2.recipient ∈ family))
    requireThat (!busy) .workspaceBusy
    requireLeavable (connection.bind ConnectionState.agentId?)
    let actor ← ask fun s => s.actorId id
    let event ← membershipEvent .memberLeft workspace actor
      (connection.any ConnectionState.isOperator)
    updateConnection effective ConnectionState.leave
    syncDelegates effective none
    removeSubscriptionsForOwner effective
    let _ ← send id generation (.workspaceLeft requestId (some workspace))
    notifyMembership effective none 0
    lift (Actor.forEach fanout event.toList)

def workspacePost (id : Uuid) (generation : ℕ) (requestId content : String) :
    Router ActorError Unit := do
  let workspace ← ask fun s => s.currentWorkspace id
  let actor ← ask fun s => s.actorId id
  let (event, inserted) ← lift (inStore (appendChatIdempotent workspace actor requestId content))
  let _ ← send id generation (.workspacePosted requestId workspace event.seq)
  if inserted then lift (fanout event) else pure ()

def workspaceHistory (id : Uuid) (generation : ℕ) (requestId : String)
    (after limit : Option ℕ) : Router ActorError Unit := do
  let workspace ← ask fun s => s.currentWorkspace id
  let recent := after.isNone
  let (after, limit) ← Actor.orFail { code := .invalidMessage } (validatePage after limit)
  let latest ← Actor.read fun s => (latestSeq s.db workspace).getD 0
  requireThat (recent || after ≤ latest) .invalidMessage
  let (events, _, sourceHasMore) ← lift (query fun db =>
    if recent then recentHistory db workspace limit
    else SessionRouter.history db workspace after limit)
  let (events, nextCursor, hasMore) ← ask fun _ =>
    boundHistoryPage "workspace_history" requestId workspace events after sourceHasMore
  let _ ← send id generation (.workspaceHistory requestId workspace events nextCursor hasMore)

omit [World] in
/-- Publish the events of a workspace to a connection from now on. -/
def subscribe (id : Uuid) (workspace : WorkspaceName) : Router ActorError Unit :=
  Actor.modify fun s => { s with
    subscribers := s.subscribers.put workspace ((s.subscribersOf workspace).insert id)
    connections := s.connections.adjust id fun c => { c with subscribed := true } }

def workspaceSubscribe (id : Uuid) (generation : ℕ) (requestId : String) (after : ℕ) :
    Router ActorError Unit := do
  let workspace ← ask fun s => s.currentWorkspace id
  let delegate ← Actor.read fun s => (s.connections.get? id).any ConnectionState.isDelegate
  requireThat (!delegate) .permissionDenied
  let latest ← Actor.read fun s => (latestSeq s.db workspace).getD 0
  requireThat (after ≤ latest) .invalidMessage
  let (events, _, sourceHasMore) ← lift (query fun db =>
    SessionRouter.history db workspace after maxPageLimit)
  let (events, nextCursor, hasMore) ← ask fun _ =>
    boundHistoryPage "workspace_subscription" requestId workspace events after sourceHasMore
  if hasMore then pure () else subscribe id workspace
  let _ ← send id generation
    (.workspaceSubscription requestId workspace events nextCursor !hasMore)

def workspaceUnsubscribe (id : Uuid) (generation : ℕ) (requestId : String) :
    Router ActorError Unit := do
  let workspace ← ask fun s => s.currentWorkspace id
  Actor.modify fun s => { s with
    subscribers := s.subscribers.adjust workspace fun ids => ids.filter fun d => d ≠ id
    connections := s.connections.adjust id fun c => { c with subscribed := false } }
  let _ ← send id generation (.workspaceUnsubscribed requestId workspace)

end Router

end SessionRouter
