import SessionRouter.Router.External

/-!
The dispatch of client messages, and the administrative handlers that are part of it.
-/

namespace SessionRouter

namespace Router

variable [World]

def credentialIssue (id : Uuid) (generation : ℕ) (requestId : String) (role : CredentialRole)
    (subject : String) (agentSide : Option AgentSide) (agentClient : Option AgentClient)
    (workspaces : List WorkspaceName) : Router ActorError Unit := do
  requireAdmin id
  requireThat (!(role = .operator && subject = "admin")) .permissionDenied
  let known ← Actor.read fun s => workspaces.all s.db.workspaces.contains
  requireThat known .workspaceNotFound
  let credential ← Actor.mapError (fun _ => { code := .invalidMessage })
    (inStore (generateCredential role subject agentSide agentClient workspaces))
  lift (inStore (insertCredential credential))
  let _ ← send id generation (.credentialIssued requestId credential)

def credentialList (id : Uuid) (generation : ℕ) (requestId : String) (after : Option Uuid)
    (limit : Option ℕ) : Router ActorError Unit := do
  requireAdmin id
  let limit := limit.getD defaultPageLimit
  requireThat (1 ≤ limit && limit ≤ maxPageLimit) .invalidMessage
  let (credentials, nextCursor, hasMore) ← Actor.read fun s => listCredentials s.db after limit
  let summaries := credentials.map fun c =>
    { claims := c.claims, createdAt := c.createdAt, revokedAt := c.revokedAt }
  let _ ← send id generation (.credentials requestId summaries nextCursor hasMore)

def credentialRevoke (id : Uuid) (generation : ℕ) (requestId : String) (credentialId : Uuid) :
    Router ActorError Unit := do
  requireAdmin id
  let revoked ← Actor.mapError (fun _ => { code := .storageError }) (revokeCredential credentialId)
  requireThat revoked .requestNotFound
  let _ ← send id generation (.credentialRevoked requestId credentialId)

def onboardingInviteIssue (id : Uuid) (generation : ℕ) (requestId : String)
    (workspace : WorkspaceName) (createWorkspace : Bool) (provider : Option OnboardingProvider) :
    Router ActorError Unit := do
  requireAdmin id
  let now ← nowMillis
  let invite ← lift (inStore (issueOnboardingInvite workspace createWorkspace provider now))
  let _ ← send id generation (.onboardingInviteIssued requestId invite.serverId invite.inviteId
    invite.inviteToken invite.expiresAt invite.workspace invite.provider)

def onboardingInviteRevoke (id : Uuid) (generation : ℕ) (requestId : String) (inviteId : Uuid) :
    Router ActorError Unit := do
  requireAdmin id
  let now ← nowMillis
  lift (inStore (revokeOnboardingInvite inviteId now))
  let _ ← send id generation (.onboardingInviteRevoked requestId inviteId)

def workspaceCreate (id : Uuid) (generation : ℕ) (requestId : String) (name : WorkspaceName) :
    Router ActorError Unit := do
  requireAdmin id
  let (createdAt, created) ← lift (inStore (createWorkspace name))
  requireThat created .workspaceConflict
  let _ ← send id generation
    (.workspaceCreated requestId { name, createdAt, connectedAgents := 0 })

def routerShutdown (id : Uuid) (generation : ℕ) (requestId : String) : Router ActorError Unit := do
  requireAdmin id
  let _ ← send id generation (.routerStopping requestId)
  Actor.modify fun s => { s with shuttingDown := true }

def ping (id : Uuid) (generation : ℕ) (requestId : String) : Router ActorError Unit := do
  requireRegistered id
  let _ ← send id generation (.pong requestId)

def dispatch (id : Uuid) (generation : ℕ) : ClientMessage → Router ActorError Unit
  | .register _ agent token delegationToken =>
    registerAgent id generation agent token delegationToken
  | .registerDelegate _ ownerId delegationToken =>
    registerDelegate id generation ownerId delegationToken
  | .registerOperator _ token => registerOperator id generation token
  | .ping requestId => ping id generation requestId
  | .readiness ready => setReadiness id ready
  | .list requestId | .workspaceMembers requestId => listAgents id generation requestId
  | .send requestId target content timeoutMs =>
    startRequest id generation requestId target content timeoutMs none
  | .reply requestId ok content error => finishReply id generation requestId ok content error
  | .workIdle requestId workspace workRequestId task ready =>
    workIdle id generation requestId workspace workRequestId task ready
  | .taskExecutionStopped requestId workspace taskId attemptId endedSessionId _ reason =>
    taskExecutionStopped id generation requestId workspace taskId attemptId endedSessionId reason
  | .credentialIssue requestId role subject agentSide agentClient workspaces =>
    credentialIssue id generation requestId role subject agentSide agentClient workspaces
  | .credentialList requestId after limit => credentialList id generation requestId after limit
  | .credentialRevoke requestId credentialId =>
    credentialRevoke id generation requestId credentialId
  | .onboardingInviteIssue requestId workspace createWorkspace provider =>
    onboardingInviteIssue id generation requestId workspace createWorkspace provider
  | .onboardingInviteRevoke requestId inviteId =>
    onboardingInviteRevoke id generation requestId inviteId
  | .workspaceCreate requestId name => workspaceCreate id generation requestId name
  | .workspaceList requestId after limit => workspaceList id generation requestId after limit
  | .workspaceJoin requestId name => workspaceJoin id generation requestId name
  | .workspaceLeave requestId => workspaceLeave id generation requestId
  | .workspacePost requestId content => workspacePost id generation requestId content
  | .workspaceHistory requestId after limit =>
    workspaceHistory id generation requestId after limit
  | .workspaceSubscribe requestId after => workspaceSubscribe id generation requestId after
  | .workspaceUnsubscribe requestId => workspaceUnsubscribe id generation requestId
  | .taskList requestId workspace states assignedAgentId after limit =>
    taskList id generation requestId workspace states assignedAgentId after limit
  | .taskGet requestId workspace taskId => taskGet id generation requestId workspace taskId
  | .taskHistory requestId workspace taskId after limit =>
    taskHistory id generation requestId workspace taskId after limit
  | .taskCreate requestId workspace operationId title description =>
    taskMutate id generation requestId workspace (.create operationId title description)
  | .taskEdit requestId workspace operationId taskId expectedVersion title description =>
    taskMutate id generation requestId workspace
      (.edit operationId taskId expectedVersion title description)
  | .taskAssign requestId workspace operationId taskId expectedVersion agentId =>
    taskMutate id generation requestId workspace
      (.assign operationId taskId expectedVersion agentId)
  | .taskNote requestId workspace operationId taskId text =>
    taskMutate id generation requestId workspace (.note operationId taskId text)
  | .taskBegin requestId workspace operationId taskId workRequestId expectedVersion
      lastCheckpointId resumeNote =>
    taskMutate id generation requestId workspace
      (.begin operationId taskId workRequestId expectedVersion lastCheckpointId resumeNote)
  | .taskCheckpoint requestId workspace operationId taskId attemptId expectedVersion checkpoint =>
    taskMutate id generation requestId workspace
      (.checkpoint operationId taskId attemptId expectedVersion checkpoint)
  | .taskPause requestId workspace operationId taskId attemptId expectedVersion checkpoint
      reason =>
    taskMutate id generation requestId workspace
      (.pause operationId taskId attemptId expectedVersion checkpoint (reason = .blocked))
  | .taskComplete requestId workspace operationId taskId attemptId expectedVersion result =>
    taskMutate id generation requestId workspace
      (.complete operationId taskId attemptId expectedVersion result)
  | .taskCancel requestId workspace operationId taskId expectedVersion note =>
    taskMutate id generation requestId workspace
      (.cancel operationId taskId expectedVersion note)
  | .taskReopen requestId workspace operationId taskId expectedVersion note =>
    taskMutate id generation requestId workspace
      (.reopen operationId taskId expectedVersion note)
  | .taskInterrupt requestId workspace operationId taskId expectedVersion note =>
    taskMutate id generation requestId workspace
      (.interrupt operationId taskId expectedVersion note)
  | .taskConfirmStopped requestId workspace operationId taskId attemptId expectedVersion note =>
    taskMutate id generation requestId workspace
      (.confirmStopped operationId taskId attemptId expectedVersion note)
  | .taskRequest requestId workspace taskId expectedVersion message timeoutMs =>
    taskRequest id generation requestId workspace taskId expectedVersion message timeoutMs
  | .taskImport requestId workspace provider externalId operationId =>
    externalStart id generation requestId workspace (.importTask operationId provider externalId)
  | .taskLink requestId workspace operationId taskId expectedVersion provider externalId
      replace =>
    externalStart id generation requestId workspace
      (.link operationId taskId expectedVersion provider externalId replace)
  | .taskPublish requestId workspace operationId taskId expectedVersion provider kind reportId =>
    externalStart id generation requestId workspace
      (.publish operationId taskId expectedVersion provider kind reportId)
  | .taskExternalStatus requestId workspace operationId =>
    externalStatusReply id generation requestId workspace operationId
  | .taskExternalResolve requestId workspace operationId resolutionId outcome externalId note =>
    externalResolve id generation requestId workspace operationId resolutionId outcome externalId
      note
  | .integrationList requestId workspace => integrationList id generation requestId workspace
  | .integrationCheck requestId workspace provider =>
    integrationCheck id generation requestId workspace provider
  | .integrationReload requestId => integrationReload id generation requestId
  | .routerShutdown requestId => routerShutdown id generation requestId

/-- Whether the credential of a connection may send another message now. -/
def chargeCredential (credentialId : Uuid) : Router StoreError Bool := do
  let now ← nowInstant
  let bucket ← Actor.read fun s =>
    (s.credentialBuckets.get? credentialId).getD (CredentialBucket.new now)
  let (allowed, bucket) := bucket.allow now
  Actor.modify fun s => { s with credentialBuckets := s.credentialBuckets.put credentialId bucket }
  pure allowed

/-- Dispatch a message and answer its error; a storage error stops the router. -/
def dispatchReported (id : Uuid) (generation : ℕ) (message : ClientMessage) :
    Router StoreError Unit := do
  match ← Actor.outcome (dispatch id generation message) with
  | .ok () => pure ()
  | .error error =>
    sendError id generation message.requestId? error
    if error.code = .storageError then markUnhealthy else pure ()

def handleMessage (id : Uuid) (generation : ℕ) (message : ClientMessage) :
    Router StoreError Unit := do
  match ← Actor.read fun s => s.connections.get? id with
  | none => pure ()
  | some c =>
    if c.generation ≠ generation then pure ()
    else
      let allowed ← match ← Actor.read fun s => s.connectionCredentialId id with
        | none => pure true
        | some credentialId => chargeCredential credentialId
      if allowed then dispatchReported id generation message
      else sendError id generation message.requestId? { code := .rateLimited }

end Router

end SessionRouter
