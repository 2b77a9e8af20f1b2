import SessionRouter.Router.Tasks

/-!
The integration handlers: checks, reloads and the external operations that run beside the router
and report back to it.
-/

namespace SessionRouter

def integrationRouterCode : IntegrationClientError → RouterErrorCode
  | .busy => .integrationBusy
  | .failed .configurationInvalid => .integrationConfigurationInvalid
  | .failed _ | .unconfirmed _ => .integrationError

/-- What the worker of an external operation reports. -/
inductive ExternalWorkerResult where
  | read (issue : ExternalIssue)
  | mutation (mutation : ExternalMutation)
  | clientError (error : IntegrationClientError)
  | gateDenied (code : RouterErrorCode)

namespace Router

def externalError (workspace : WorkspaceName) (operationId : Option Uuid)
    (code : RouterErrorCode) : ActorError :=
  { code, workspace := some workspace, operationId }

/-- The active integration of a workspace, with the error a handler reports without one. -/
def activeBinding (workspace : WorkspaceName) (provider : ExternalProvider)
    (operationId : Option Uuid) : Router ActorError ActiveIntegration :=
  ask fun s => (s.integrations.binding workspace provider).mapError
    (externalError workspace operationId)

def reserve (slot : Option (WorkspaceName × ℕ × ExternalProvider)) : Router ActorError Unit :=
  Actor.modify fun s => { s with
    integrationRequests := s.integrationRequests + 1
    integrationTaskSlots := slot.elim s.integrationTaskSlots s.integrationTaskSlots.insert }

def release {ε : Type} (slot : Option (WorkspaceName × ℕ × ExternalProvider)) : Router ε Unit :=
  Actor.modify fun s => { s with
    integrationRequests := s.integrationRequests - 1
    integrationTaskSlots := s.integrationTaskSlots.filter fun key => some key ≠ slot }

def spawn (worker : Worker) : Router ActorError Unit :=
  Actor.modify fun s => { s with workers := s.workers ++ [worker] }

/-- A free integration slot and a client to use it with. -/
def requireIntegrationSlot (slot : Option (WorkspaceName × ℕ × ExternalProvider)) :
    Router ActorError Unit := do
  let s ← Actor.get
  requireThat (s.integrationRequests < integrationRequestLimit) .integrationBusy
  requireThat (slot.all fun key => key ∉ s.integrationTaskSlots) .integrationBusy
  requireThat s.integrationClient .integrationConfigurationInvalid

variable [World]

def integrationList (id : Uuid) (generation : ℕ) (requestId : String)
    (workspace : WorkspaceName) : Router ActorError Unit := do
  requireWorkspaceMatch id workspace
  let integrations ← ask fun s =>
    (s.integrations.list workspace).mapError (externalError workspace none)
  let _ ← send id generation (.integrations requestId workspace integrations)

def integrationCheck (id : Uuid) (generation : ℕ) (requestId : String)
    (workspace : WorkspaceName) (provider : ExternalProvider) : Router ActorError Unit := do
  requireOperator id
  authorizeWorkspace id workspace
  let s ← Actor.get
  requireThat (s.integrationRequests < integrationRequestLimit) .integrationBusy
  let _ ← activeBinding workspace provider none
  requireThat s.integrationClient .integrationConfigurationInvalid
  reserve none
  spawn (.check id generation requestId workspace provider)

/-- `IntegrationRegistry::reload`, with the public description and the events. -/
def reloadRegistry : Router ActorError (List IntegrationPublic × List WorkspaceEvent) := do
  let (active, events) ← Actor.mapError (fun code => { code }) (inSession reloadCatalog)
  Actor.modify fun s => { s with integrations := { configurationInvalid := false, active } }
  let integrations ← Actor.read fun s => s.integrations.publicAll
  pure (integrations, events)

/-- The client of the active integrations; building it may fail. -/
def renewClient : Router ActorError Unit := do
  let active ← Actor.read fun s => s.integrations.hasActive
  if active then
    let t ← drawTick
    requireThat (World.clientReady t) .integrationConfigurationInvalid
    Actor.modify fun s => { s with integrationClient := true }
  else Actor.modify fun s => { s with integrationClient := false }

def integrationReload (id : Uuid) (generation : ℕ) (requestId : String) :
    Router ActorError Unit := do
  requireAdmin id
  let (integrations, events) ← reloadRegistry
  renewClient
  let _ ← send id generation (.integrationsReloaded requestId integrations)
  lift (Actor.forEach fanout events)

def externalStatusReply (id : Uuid) (generation : ℕ) (requestId : String)
    (workspace : WorkspaceName) (operationId : Uuid) : Router ActorError Unit := do
  requireWorkspaceMatch id workspace
  let status ← Actor.read fun s => externalStatus s.db workspace operationId
  let (operation, resolution) ← Actor.orFail { code := .integrationError } status
  let _ ← send id generation (.externalStatus requestId workspace operation resolution)

def externalCallerContext (id : Uuid) (workspace : WorkspaceName) :
    Router ActorError CallerContext := ask fun s => callerOf s id workspace none

/-- Write the operation down under its reservation; a failure gives the reservation back. -/
def prepareReserved (caller : CallerContext) (active : ActiveIntegration)
    (command : ExternalCommand) (slot : Option (WorkspaceName × ℕ × ExternalProvider)) :
    Router ActorError PreparedExternalOperation := do
  reserve slot
  match ← Actor.outcome (inStore (prepareExternalOperation caller active command)) with
  | .ok prepared => pure prepared
  | .error code =>
    release slot
    Actor.fail (externalError caller.workspace (some command.operationId) code)

def externalStart (id : Uuid) (generation : ℕ) (requestId : String) (workspace : WorkspaceName)
    (command : ExternalCommand) : Router ActorError Unit := do
  requireWorkspaceMatch id workspace
  let caller ← externalCallerContext id workspace
  let replayed ← ask fun s => (replayExternalOperation s.db caller command).mapError
    (externalError workspace (some command.operationId))
  match replayed with
  | some operation =>
    let _ ← send id generation (.externalOperation requestId workspace operation)
  | none =>
    let active ← activeBinding workspace command.provider (some command.operationId)
    let slot := command.taskId.map fun taskId => (workspace, taskId, command.provider)
    requireIntegrationSlot slot
    let prepared ← prepareReserved caller active command slot
    let _ ← send id generation (.externalOperation requestId workspace prepared.summary)
    lift (Actor.forEach fanout prepared.event.toList)
    if prepared.payload.isNone then release (prepared.summary.taskId.map fun taskId =>
      (prepared.workspace, taskId, prepared.summary.provider))
    else spawn (.operation prepared false)

def externalResolve (id : Uuid) (generation : ℕ) (requestId : String) (workspace : WorkspaceName)
    (operationId resolutionId : Uuid) (outcome : ExternalResolutionOutcome)
    (externalId : Option String) (note : String) : Router ActorError Unit := do
  requireOperator id
  authorizeWorkspace id workspace
  let status ← Actor.read fun s => externalStatus s.db workspace operationId
  let (operation, _) ← Actor.orFail { code := .integrationError } status
  let active ← activeBinding workspace operation.provider (some operationId)
  let caller ← externalCallerContext id workspace
  let prepared ← Actor.mapError (externalError workspace (some operationId))
    (inStore (prepareExternalResolution caller active operationId resolutionId outcome externalId
      note))
  match prepared with
  | .replay operation resolution =>
    let _ ← send id generation (.externalResolved requestId workspace operation resolution)
  | .completed completion =>
    let _ ← send id generation
      (.externalResolved requestId workspace completion.operation completion.resolution)
    lift (Actor.forEach fanout completion.taskEvent.toList)
    lift (fanout completion.event)
  | .verify prepared =>
    let slot := prepared.taskId.map fun taskId => (workspace, taskId, prepared.provider)
    requireIntegrationSlot slot
    reserve slot
    spawn (.resolution id generation requestId prepared)

/-- The reservation of an operation, for when its worker reports back. -/
def operationSlot (prepared : PreparedExternalOperation) :
    Option (WorkspaceName × ℕ × ExternalProvider) :=
  prepared.summary.taskId.map fun taskId => (prepared.workspace, taskId, prepared.summary.provider)

def resolutionSlot (prepared : PreparedExternalResolution) :
    Option (WorkspaceName × ℕ × ExternalProvider) :=
  prepared.taskId.map fun taskId => (prepared.workspace, taskId, prepared.provider)

def integrationCheckFinished (id : Uuid) (generation : ℕ) (requestId : String)
    (workspace : WorkspaceName) (provider : ExternalProvider)
    (result : Except IntegrationClientError Unit) : Router StoreError Unit := do
  Actor.modify fun s => { s with integrationRequests := s.integrationRequests - 1 }
  let s ← Actor.get
  let answer : Except RouterErrorCode ActiveIntegration := match result with
    | .ok () => s.integrations.binding workspace provider
    | .error error => .error (integrationRouterCode error)
  match answer with
  | .ok active =>
    let _ ← send id generation
      (.integrationChecked requestId workspace active.connection.public)
  | .error code => sendError id generation (some requestId) { code, workspace := some workspace }

/-- The active integration of an open operation, as a session result. -/
def currentBinding (workspace : WorkspaceName) (provider : ExternalProvider) :
    Router RouterErrorCode ActiveIntegration :=
  ask fun s => s.integrations.binding workspace provider

/-- Whether a publication may go out now; if so it is recorded as dispatched. -/
def passGate (prepared : PreparedExternalOperation) : Router RouterErrorCode WorkspaceEvent := do
  let stopping ← Actor.read RouterState.shuttingDown
  Actor.require (!stopping) .configurationRequired
  let now ← nowInstant
  Actor.require (now < prepared.deadline) .requestTimeout
  let active ← currentBinding prepared.workspace prepared.summary.provider
  inStore (validateExternalSnapshot active prepared false)
  inStore (markExternalDispatched prepared)

def externalGate (prepared : PreparedExternalOperation) : Router StoreError Bool := do
  match ← Actor.outcome (passGate prepared) with
  | .ok event =>
    fanout event
    pure true
  | .error _ => pure false

/-- Record what the worker of an operation reports. -/
def recordResult (prepared : PreparedExternalOperation) :
    ExternalWorkerResult → Router RouterErrorCode ExternalCompletion
  | .read issue => do
    let active ← currentBinding prepared.workspace prepared.summary.provider
    inStore (validateExternalSnapshot active prepared false)
    inStore (completeExternalRead prepared issue)
  | .mutation mutation => inStore (completeExternalMutation prepared mutation)
  | .clientError error => inStore (completeExternalError prepared error)
  | .gateDenied code => inStore (terminalExternalError prepared .failed code.asStr)

/-- Record an operation as failed; when even this fails the router stops. -/
def failOperation (prepared : PreparedExternalOperation) (code : RouterErrorCode) :
    Router StoreError ExternalCompletion :=
  Actor.mapError (fun _ => .io) (inStore (terminalExternalError prepared .failed code.asStr))

/-- The completion of an operation. A result that cannot be recorded makes the operation fail. -/
def externalFinished (prepared : PreparedExternalOperation) (result : ExternalWorkerResult) :
    Router StoreError Unit := do
  release (operationSlot prepared)
  let completion ← match ← Actor.outcome (recordResult prepared result) with
    | .ok completion => pure completion
    | .error code => failOperation prepared code
  Actor.forEach fanout completion.taskEvent.toList
  fanout completion.event

/-- Record an applied resolution after its marker was found. -/
def applyResolution (prepared : PreparedExternalResolution) (mutation : ExternalMutation) :
    Router RouterErrorCode ExternalResolutionCompletion := do
  let active ← currentBinding prepared.workspace prepared.provider
  inStore (validateResolutionSnapshot active prepared)
  inStore (completeAppliedResolution prepared mutation)

def resolutionFinished (id : Uuid) (generation : ℕ) (requestId : String)
    (prepared : PreparedExternalResolution)
    (result : Except IntegrationClientError ExternalMutation) : Router StoreError Unit := do
  release (resolutionSlot prepared)
  let failed (code : RouterErrorCode) : Router StoreError Unit :=
    sendError id generation (some requestId)
      (externalError prepared.workspace (some prepared.operationId) code)
  match result with
  | .error error => failed (integrationRouterCode error)
  | .ok mutation =>
    match ← Actor.outcome (applyResolution prepared mutation) with
    | .error code => failed code
    | .ok completion =>
      let _ ← send id generation
        (.externalResolved requestId prepared.workspace completion.operation completion.resolution)
      Actor.forEach fanout completion.taskEvent.toList
      fanout completion.event

end Router

end SessionRouter
