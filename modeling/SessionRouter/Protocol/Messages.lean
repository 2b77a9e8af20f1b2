import SessionRouter.Tasks.Types

/-!
The messages of the wire protocol and the checks a client message passes before the router
handles it.
-/

namespace SessionRouter

inductive WorkspaceEventKind where
  | chat | request | result | memberJoined | memberLeft | task | integration
  deriving DecidableEq, Repr

def WorkspaceEventKind.asStr : WorkspaceEventKind → String
  | chat => "chat"
  | request => "request"
  | result => "result"
  | memberJoined => "member_joined"
  | memberLeft => "member_left"
  | task => "task"
  | integration => "integration"

/-- The text of an event. Task and integration events hold the encoding of a record. -/
inductive EventContent where
  | text (value : String)
  | task (value : TaskEvent)
  | integration (value : IntegrationEvent)
  deriving DecidableEq

structure WorkspaceEvent where
  workspace : WorkspaceName
  seq : ℕ
  kind : WorkspaceEventKind
  actorId : String
  createdAt : ℕ
  requestId : Option String
  targetId : Option String
  taskId : Option ℕ
  content : Option EventContent
  ok : Option Bool
  error : Option RouterErrorCode
  deriving DecidableEq

structure CredentialSummary where
  claims : PublicCredentialClaims
  createdAt : ℕ
  revokedAt : Option ℕ
  deriving DecidableEq

structure WorkspaceSummary where
  name : WorkspaceName
  createdAt : ℕ
  connectedAgents : ℕ
  deriving DecidableEq

structure TaskHistoryEvent where
  seq : ℕ
  actorId : String
  createdAt : ℕ
  event : TaskEvent
  attempt : Option TaskAttempt
  report : Option TaskReportRecord
  deriving DecidableEq

inductive TaskExecutionEvidence where
  | providerTerminal | providerClosed | hostIdle
  deriving DecidableEq, Repr

inductive TaskPauseKind where
  | paused | blocked
  deriving DecidableEq, Repr

inductive ClientMessage where
  | register (protocolVersion : ℕ) (agent : AgentRegistration) (token : String)
      (delegationToken : Option String)
  | registerDelegate (protocolVersion : ℕ) (ownerId delegationToken : String)
  | registerOperator (protocolVersion : ℕ) (token : String)
  | ping (requestId : String)
  | readiness (ready : Bool)
  | list (requestId : String)
  | send (requestId target content : String) (timeoutMs : Option ℕ)
  | reply (requestId : String) (ok : Bool) (content : Option String)
      (error : Option RouterErrorCode)
  | workIdle (requestId : String) (workspace : WorkspaceName) (workRequestId : String)
      (task : Option TaskFence) (ready : Bool)
  | taskExecutionStopped (requestId : String) (workspace : WorkspaceName) (taskId : ℕ)
      (attemptId endedSessionId : Uuid) (evidence : TaskExecutionEvidence) (reason : PauseReason)
  | credentialIssue (requestId : String) (role : CredentialRole) (subject : String)
      (agentSide : Option AgentSide) (agentClient : Option AgentClient)
      (workspaces : List WorkspaceName)
  | credentialList (requestId : String) (after : Option Uuid) (limit : Option ℕ)
  | credentialRevoke (requestId : String) (id : Uuid)
  | onboardingInviteIssue (requestId : String) (workspace : WorkspaceName)
      (createWorkspace : Bool) (provider : Option OnboardingProvider)
  | onboardingInviteRevoke (requestId : String) (inviteId : Uuid)
  | workspaceCreate (requestId : String) (name : WorkspaceName)
  | workspaceList (requestId : String) (after : Option String) (limit : Option ℕ)
  | workspaceJoin (requestId : String) (name : WorkspaceName)
  | workspaceLeave (requestId : String)
  | workspaceMembers (requestId : String)
  | workspacePost (requestId content : String)
  | workspaceHistory (requestId : String) (after limit : Option ℕ)
  | workspaceSubscribe (requestId : String) (after : ℕ)
  | workspaceUnsubscribe (requestId : String)
  | taskList (requestId : String) (workspace : WorkspaceName) (states : Option (List TaskState))
      (assignedAgentId : Option String) (after limit : Option ℕ)
  | taskGet (requestId : String) (workspace : WorkspaceName) (taskId : ℕ)
  | taskHistory (requestId : String) (workspace : WorkspaceName) (taskId : ℕ)
      (after limit : Option ℕ)
  | taskCreate (requestId : String) (workspace : WorkspaceName) (operationId : Uuid)
      (title description : String)
  | taskEdit (requestId : String) (workspace : WorkspaceName) (operationId : Uuid)
      (taskId expectedVersion : ℕ) (title description : Option String)
  | taskAssign (requestId : String) (workspace : WorkspaceName) (operationId : Uuid)
      (taskId expectedVersion : ℕ) (agentId : Option String)
  | taskNote (requestId : String) (workspace : WorkspaceName) (operationId : Uuid) (taskId : ℕ)
      (text : String)
  | taskBegin (requestId : String) (workspace : WorkspaceName) (operationId : Uuid) (taskId : ℕ)
      (workRequestId : String) (expectedVersion : ℕ) (lastCheckpointId : Option Uuid)
      (resumeNote : String)
  | taskCheckpoint (requestId : String) (workspace : WorkspaceName) (operationId : Uuid)
      (taskId : ℕ) (attemptId : Uuid) (expectedVersion : ℕ) (checkpoint : TaskCheckpoint)
  | taskPause (requestId : String) (workspace : WorkspaceName) (operationId : Uuid) (taskId : ℕ)
      (attemptId : Uuid) (expectedVersion : ℕ) (checkpoint : TaskCheckpoint)
      (reason : TaskPauseKind)
  | taskComplete (requestId : String) (workspace : WorkspaceName) (operationId : Uuid)
      (taskId : ℕ) (attemptId : Uuid) (expectedVersion : ℕ) (result : TaskCheckpoint)
  | taskCancel (requestId : String) (workspace : WorkspaceName) (operationId : Uuid)
      (taskId expectedVersion : ℕ) (note : String)
  | taskReopen (requestId : String) (workspace : WorkspaceName) (operationId : Uuid)
      (taskId expectedVersion : ℕ) (note : String)
  | taskRequest (requestId : String) (workspace : WorkspaceName) (taskId expectedVersion : ℕ)
      (message : Option String) (timeoutMs : Option ℕ)
  | taskInterrupt (requestId : String) (workspace : WorkspaceName) (operationId : Uuid)
      (taskId expectedVersion : ℕ) (note : String)
  | taskConfirmStopped (requestId : String) (workspace : WorkspaceName) (operationId : Uuid)
      (taskId : ℕ) (attemptId : Uuid) (expectedVersion : ℕ) (note : String)
  | taskImport (requestId : String) (workspace : WorkspaceName) (provider : ExternalProvider)
      (externalId : String) (operationId : Uuid)
  | taskLink (requestId : String) (workspace : WorkspaceName) (operationId : Uuid)
      (taskId expectedVersion : ℕ) (provider : ExternalProvider) (externalId : String)
      (replace : Bool)
  | taskPublish (requestId : String) (workspace : WorkspaceName) (operationId : Uuid)
      (taskId expectedVersion : ℕ) (provider : ExternalProvider) (kind : ExternalPublishKind)
      (reportId : Option Uuid)
  | taskExternalStatus (requestId : String) (workspace : WorkspaceName) (operationId : Uuid)
  | taskExternalResolve (requestId : String) (workspace : WorkspaceName)
      (operationId resolutionId : Uuid) (outcome : ExternalResolutionOutcome)
      (externalId : Option String) (note : String)
  | integrationList (requestId : String) (workspace : WorkspaceName)
  | integrationCheck (requestId : String) (workspace : WorkspaceName)
      (provider : ExternalProvider)
  | integrationReload (requestId : String)
  | routerShutdown (requestId : String)

/-- `ClientMessage::request_id`. -/
def ClientMessage.requestId? : ClientMessage → Option String
  | register .. | registerDelegate .. | registerOperator .. | readiness .. => none
  | ping r | list r | send r .. | reply r .. | workIdle r .. | taskExecutionStopped r ..
  | credentialIssue r .. | credentialList r .. | credentialRevoke r ..
  | onboardingInviteIssue r .. | onboardingInviteRevoke r .. | workspaceCreate r ..
  | workspaceList r .. | workspaceJoin r .. | workspaceLeave r | workspaceMembers r
  | workspacePost r .. | workspaceHistory r .. | workspaceSubscribe r ..
  | workspaceUnsubscribe r | taskList r .. | taskGet r .. | taskHistory r .. | taskCreate r ..
  | taskEdit r .. | taskAssign r .. | taskNote r .. | taskBegin r .. | taskCheckpoint r ..
  | taskPause r .. | taskComplete r .. | taskCancel r .. | taskReopen r .. | taskRequest r ..
  | taskInterrupt r .. | taskConfirmStopped r .. | taskImport r .. | taskLink r ..
  | taskPublish r .. | taskExternalStatus r .. | taskExternalResolve r .. | integrationList r ..
  | integrationCheck r .. | integrationReload r | routerShutdown r => some r

inductive RegistrationRole where
  | agent | delegate
  deriving DecidableEq, Repr

inductive ServerMessage where
  | registered (protocolVersion : ℕ) (agent : AgentDescriptor) (role : RegistrationRole)
      (workspace : Option WorkspaceName) (cursor : ℕ)
  | registeredOperator (protocolVersion : ℕ) (subject : String) (admin : Bool)
      (workspace : Option WorkspaceName) (cursor : ℕ)
  | pong (requestId : String)
  | error (requestId : Option String) (code : RouterErrorCode) (workspace : Option WorkspaceName)
      (operationId : Option Uuid) (currentVersion : Option ℕ)
  | agents (requestId : String) (workspace : WorkspaceName) (agents : List AgentDescriptor)
  | accepted (requestId : String) (workspace : WorkspaceName) (target : String)
  | deliver (workspace : WorkspaceName) (requestId sender content : String) (timeoutMs : ℕ)
      (task : Option TaskDispatch)
  | result (workspace : WorkspaceName) (requestId sender : String) (ok : Bool)
      (content : Option String) (error : Option RouterErrorCode) (taskId : Option ℕ)
  | cancelWork (workspace : WorkspaceName) (requestId : String) (reason : RouterErrorCode)
      (task : Option TaskFence)
  | workIdleAck (requestId : String) (workspace : WorkspaceName) (workRequestId : String)
  | taskExecutionStoppedAck (requestId : String) (workspace : WorkspaceName) (taskId : ℕ)
      (attemptId : Uuid)
  | taskAttemptChanged (workspace : WorkspaceName) (taskId : ℕ) (attempt : Option TaskAttempt)
      (closedAttemptId : Option Uuid) (current stopPending : Option TaskFence)
  | workspaceCreated (requestId : String) (workspace : WorkspaceSummary)
  | workspaces (requestId : String) (workspaces : List WorkspaceSummary)
      (nextCursor : Option String) (hasMore : Bool)
  | credentialIssued (requestId : String) (credential : CredentialFile)
  | credentials (requestId : String) (credentials : List CredentialSummary)
      (nextCursor : Option Uuid) (hasMore : Bool)
  | credentialRevoked (requestId : String) (id : Uuid)
  | onboardingInviteIssued (requestId : String) (serverId inviteId : Uuid) (inviteToken : String)
      (expiresAt : ℕ) (workspace : WorkspaceName) (provider : Option OnboardingProvider)
  | onboardingInviteRevoked (requestId : String) (inviteId : Uuid)
  | integrations (requestId : String) (workspace : WorkspaceName)
      (integrations : List IntegrationPublic)
  | integrationChecked (requestId : String) (workspace : WorkspaceName)
      (integration : IntegrationPublic)
  | integrationsReloaded (requestId : String) (integrations : List IntegrationPublic)
  | externalOperation (requestId : String) (workspace : WorkspaceName)
      (operation : ExternalOperationSummary)
  | externalStatus (requestId : String) (workspace : WorkspaceName)
      (operation : ExternalOperationSummary) (resolution : Option ExternalResolution)
  | externalResolved (requestId : String) (workspace : WorkspaceName)
      (operation : ExternalOperationSummary) (resolution : ExternalResolution)
  | workspaceJoined (requestId : String) (workspace : WorkspaceName) (cursor : ℕ)
  | workspaceLeft (requestId : String) (workspace : Option WorkspaceName)
  | workspaceChanged (workspace : Option WorkspaceName) (cursor : ℕ)
  | workspacePosted (requestId : String) (workspace : WorkspaceName) (seq : ℕ)
  | workspaceHistory (requestId : String) (workspace : WorkspaceName)
      (events : List WorkspaceEvent) (nextCursor : ℕ) (hasMore : Bool)
  | workspaceSubscription (requestId : String) (workspace : WorkspaceName)
      (events : List WorkspaceEvent) (nextCursor : ℕ) (live : Bool)
  | workspaceEvent (event : WorkspaceEvent)
  | workspaceUnsubscribed (requestId : String) (workspace : WorkspaceName)
  | tasks (requestId : String) (workspace : WorkspaceName) (tasks : List TaskSummary)
      (nextCursor : ℕ) (hasMore : Bool)
  | task (requestId : String) (workspace : WorkspaceName) (task : TaskDetail)
  | taskHistory (requestId : String) (workspace : WorkspaceName) (taskId : ℕ)
      (events : List TaskHistoryEvent) (nextCursor : ℕ) (hasMore : Bool)
  | taskMutated (requestId : String) (workspace : WorkspaceName) (result : TaskMutationResult)
  | routerStopping (requestId : String)

def validSharedContent (value : String) : Bool :=
  value ≠ "" && value.utf8ByteSize ≤ maxSharedContentBytes &&
  JsonValue.stringLen value ≤ maxJsonStringBytes

def validTimeout : Option ℕ → Bool
  | some timeout => 1 ≤ timeout && timeout ≤ maxRequestTimeoutMs
  | none => true

def validLimit : Option ℕ → Bool
  | some limit => 1 ≤ limit && limit ≤ maxPageLimit
  | none => true

def validCursor : Option ℕ → Bool
  | some cursor => cursor ≤ maxSafeInteger
  | none => true

def validateTaskVersion (taskId expectedVersion : ℕ) : Bool :=
  validatePositiveSafeInteger taskId && validatePositiveSafeInteger expectedVersion

def validExternalId (externalId : String) : Bool :=
  externalId ≠ "" && externalId.utf8ByteSize ≤ maxErrorBytes

def normalizeTimeoutMs (value : Option ℕ) : ℕ :=
  min (max (value.getD defaultRequestTimeoutMs) 1) maxRequestTimeoutMs

/-- `validate_page` with the defaults for an absent cursor and limit. -/
def validatePage (after limit : Option ℕ) : Option (ℕ × ℕ) :=
  let limit := limit.getD defaultPageLimit
  if 1 ≤ limit ∧ limit ≤ maxPageLimit then some (after.getD 0, limit) else none

/-- The part of `validate_client_message` that depends on the kind of message. -/
def ClientMessage.validBody : ClientMessage → Bool
  | register _ agent token delegationToken =>
    isAgentId agent.agentId && validBearer token && delegationToken.all validBearer &&
    validAgentClient agent.side agent.client &&
    agent.activity.all fun value =>
      value.utf8ByteSize ≤ maxErrorBytes && value.toList.all fun c => !isControl c
  | registerDelegate _ ownerId delegationToken => isAgentId ownerId && validBearer delegationToken
  | registerOperator _ token => validBearer token
  | send _ target content timeoutMs =>
    isAgentId target && validSharedContent content && validTimeout timeoutMs
  | reply _ true content error => content.any validSharedContent && error.isNone
  | reply _ false content error => content.isNone && error.isSome
  | workIdle _ _ workRequestId task _ =>
    isRequestId workRequestId && task.all fun fence => validatePositiveSafeInteger fence.taskId
  | taskExecutionStopped _ _ taskId _ _ _ reason =>
    validatePositiveSafeInteger taskId &&
    decide (reason ∈ [.sessionEnded, .turnEnded, .hostError, .operatorInterrupt, .requestTimeout,
      .requestCancelled])
  | credentialIssue _ role subject agentSide agentClient workspaces =>
    (match role with
    | .agent => isAgentId subject && CredentialFile.validAgentClaims agentSide agentClient &&
        !workspaces.isEmpty
    | .operator => subject ≠ "" && subject.utf8ByteSize ≤ 119 && isAscii subject &&
        !startsWith "system:" subject && agentSide.isNone && agentClient.isNone) &&
    workspaces.length ≤ maxGrants && decide workspaces.Nodup
  | onboardingInviteRevoke _ inviteId => !inviteId.isNil
  | credentialList _ _ limit => validLimit limit
  | workspaceList _ after limit => after.all isWorkspaceName && validLimit limit
  | workspaceHistory _ after limit => validCursor after && validLimit limit
  | workspaceSubscribe _ after => after ≤ maxSafeInteger
  | workspacePost _ content => validSharedContent content
  | taskList _ _ states assignedAgentId after limit =>
    (states.all fun values => !values.isEmpty && values.length ≤ 6 && decide values.Nodup) &&
    assignedAgentId.all isAgentId && validCursor after && validLimit limit
  | taskGet _ _ taskId => validatePositiveSafeInteger taskId
  | taskHistory _ _ taskId after limit =>
    validatePositiveSafeInteger taskId && validCursor after && validLimit limit
  | taskCreate _ _ _ title description => validateTitle title && validateDescription description
  | taskEdit _ _ _ taskId expectedVersion title description =>
    validateTaskVersion taskId expectedVersion && (title.isSome || description.isSome) &&
    title.all validateTitle && description.all validateDescription
  | taskAssign _ _ _ taskId expectedVersion agentId =>
    validateTaskVersion taskId expectedVersion && agentId.all isAgentId
  | taskNote _ _ _ taskId text => validatePositiveSafeInteger taskId && validateNote text
  | taskBegin _ _ _ taskId workRequestId expectedVersion _ resumeNote =>
    validateTaskVersion taskId expectedVersion && isRequestId workRequestId &&
    validateHandoffNote resumeNote
  | taskCheckpoint _ _ _ taskId _ expectedVersion checkpoint
  | taskPause _ _ _ taskId _ expectedVersion checkpoint _
  | taskComplete _ _ _ taskId _ expectedVersion checkpoint =>
    validateTaskVersion taskId expectedVersion && checkpoint.validate
  | taskCancel _ _ _ taskId expectedVersion note
  | taskReopen _ _ _ taskId expectedVersion note
  | taskInterrupt _ _ _ taskId expectedVersion note
  | taskConfirmStopped _ _ _ taskId _ expectedVersion note =>
    validateTaskVersion taskId expectedVersion && validateHandoffNote note
  | taskRequest _ _ taskId expectedVersion message timeoutMs =>
    validateTaskVersion taskId expectedVersion && message.all validSharedContent &&
    validTimeout timeoutMs
  | taskImport _ _ _ externalId _ => validExternalId externalId
  | taskLink _ _ _ taskId expectedVersion _ externalId _ =>
    validateTaskVersion taskId expectedVersion && validExternalId externalId
  | taskPublish _ _ _ taskId expectedVersion _ kind reportId =>
    validateTaskVersion taskId expectedVersion &&
    (match kind, reportId with
    | .issue, some _ | .report, none => false
    | _, _ => true)
  | taskExternalResolve _ _ _ _ outcome externalId note =>
    validateHandoffNote note && (decide (outcome = .applied) == externalId.any validExternalId)
  | ping .. | readiness .. | list .. | onboardingInviteIssue .. | workspaceCreate ..
  | workspaceJoin .. | workspaceLeave .. | workspaceMembers .. | workspaceUnsubscribe ..
  | integrationList .. | integrationCheck .. | integrationReload .. | taskExternalStatus ..
  | routerShutdown .. | credentialRevoke .. => true

/-- The messages `parse_client_message` returns: well-formed request ids, the supported protocol
version on registration, and valid fields. -/
def ClientMessage.accepted (m : ClientMessage) : Bool :=
  m.requestId?.all isRequestId && m.validBody &&
  match m with
  | register v .. | registerDelegate v .. | registerOperator v .. => v = 2
  | _ => true

end SessionRouter
