import SessionRouter.Store.Recover

/-!
The state of the router actor: its connections, its routing tables and the requests that wait for
an answer, next to the open database.
-/

namespace SessionRouter

def pendingRequestLimit : ℕ := 256
def integrationRequestLimit : ℕ := 4
def credentialMessagesPerSecond : ℕ := 20
def credentialMessageBurst : ℕ := 40
def protocolVersion : ℕ := 2

inductive ConnectionRole where
  | agent (claims : PublicCredentialClaims) (descriptor : AgentDescriptor)
      (delegationToken : Option String)
  | delegate (ownerId : String)
  | operator (claims : PublicCredentialClaims) (admin : Bool)
  deriving DecidableEq

structure CancelingWork where
  workspace : WorkspaceName
  requestId : String
  task : Option TaskFence
  deriving DecidableEq

structure ConnectionState where
  generation : ℕ
  role : Option ConnectionRole
  workspace : Option WorkspaceName
  subscribed : Bool
  storedReady : Bool
  canceling : Option CancelingWork
  deriving DecidableEq

namespace ConnectionState

def opened (generation : ℕ) : ConnectionState :=
  { generation, role := none, workspace := none, subscribed := false, storedReady := false,
    canceling := none }

/-- The descriptor of an agent connection. -/
def descriptor? (c : ConnectionState) : Option AgentDescriptor :=
  match c.role with
  | some (.agent _ descriptor _) => some descriptor
  | _ => none

def agentId? (c : ConnectionState) : Option String := c.descriptor?.map AgentDescriptor.agentId

/-- The credential a connection presented itself. -/
def claims? (c : ConnectionState) : Option PublicCredentialClaims :=
  match c.role with
  | some (.agent claims _ _) | some (.operator claims _) => some claims
  | _ => none

def isOperator (c : ConnectionState) : Bool :=
  match c.role with
  | some (.operator ..) => true
  | _ => false

def isAdmin (c : ConnectionState) : Bool :=
  match c.role with
  | some (.operator _ admin) => admin
  | _ => false

def isDelegate (c : ConnectionState) : Bool :=
  match c.role with
  | some (.delegate _) => true
  | _ => false

/-- Change the descriptor of an agent connection. -/
def mapDescriptor (c : ConnectionState) (f : AgentDescriptor → AgentDescriptor) :
    ConnectionState :=
  match c.role with
  | some (.agent claims descriptor token) =>
    { c with role := some (.agent claims (f descriptor) token) }
  | _ => c

end ConnectionState

structure PendingRequest where
  workspace : WorkspaceName
  requestId : String
  requester : Uuid
  requesterGeneration : ℕ
  requesterId : String
  recipient : Uuid
  recipientGeneration : ℕ
  recipientId : String
  deadline : ℕ
  task : Option TaskDispatch
  attemptId : Option Uuid
  deriving DecidableEq

/-- The pending request dispatches this task. -/
def PendingRequest.dispatches (p : PendingRequest) (workspace : WorkspaceName) (taskId : ℕ) :
    Bool :=
  p.workspace = workspace && p.task.any fun dispatch => dispatch.id = taskId

structure CredentialBucket where
  availableUnits : ℕ
  updatedAt : ℕ
  deriving DecidableEq

namespace CredentialBucket

/-- One message, as units that accrue once a nanosecond and message of the allowed rate. -/
def unit : ℕ := 1000000000

def new (now : ℕ) : CredentialBucket :=
  { availableUnits := credentialMessageBurst * unit, updatedAt := now }

/-- `CredentialBucket::allow`, with the bucket after the attempt. -/
def allow (b : CredentialBucket) (now : ℕ) : Bool × CredentialBucket :=
  let refilled := min (b.availableUnits + (now - b.updatedAt) * credentialMessagesPerSecond)
    (credentialMessageBurst * unit)
  if refilled < unit then (false, { availableUnits := refilled, updatedAt := now })
  else (true, { availableUnits := refilled - unit, updatedAt := now })

end CredentialBucket

/-- The tasks spawned for an issue tracker that have not reported back. `gated` tells whether the
router let a publication go out. -/
inductive Worker where
  | check (connectionId : Uuid) (generation : ℕ) (requestId : String) (workspace : WorkspaceName)
      (provider : ExternalProvider)
  | operation (prepared : PreparedExternalOperation) (gated : Bool)
  | resolution (connectionId : Uuid) (generation : ℕ) (requestId : String)
      (prepared : PreparedExternalResolution)

/-- The state of the router. `outbox` is the log of messages handed to the connections' writers
and `workers` the spawned tasks. -/
structure RouterState where
  store : RouterStore
  connections : Table Uuid ConnectionState := ∅
  primaries : Table String Uuid := ∅
  delegates : Table String (List Uuid) := ∅
  pending : Table (WorkspaceName × String) PendingRequest := ∅
  credentialBuckets : Table Uuid CredentialBucket := ∅
  subscribers : Table WorkspaceName (List Uuid) := ∅
  integrations : IntegrationRegistry
  integrationClient : Bool
  integrationRequests : ℕ := 0
  integrationTaskSlots : List (WorkspaceName × ℕ × ExternalProvider) := []
  shuttingDown : Bool := false
  healthy : Bool := true
  outbox : List (Uuid × ServerMessage) := []
  workers : List Worker := []

structure ActorError where
  code : RouterErrorCode
  workspace : Option WorkspaceName := none
  operationId : Option Uuid := none
  currentVersion : Option ℕ := none
  deriving DecidableEq

/-- `impl From<StoreError> for ActorError`. -/
def ActorError.ofStore (e : StoreError) : ActorError := { code := e.code }

abbrev Router (ε α : Type) := Actor RouterState ε α

namespace RouterState

def db (s : RouterState) : Db := s.store.db

def tick (s : RouterState) : ℕ := s.store.tick

def delegatesOf (s : RouterState) (ownerId : String) : List Uuid :=
  (s.delegates.get? ownerId).getD []

def subscribersOf (s : RouterState) (workspace : WorkspaceName) : List Uuid :=
  (s.subscribers.get? workspace).getD []

/-- The primary a delegate connection acts for. -/
def effectivePrimary (s : RouterState) (id : Uuid) : Option Uuid :=
  match (s.connections.get? id).bind ConnectionState.role with
  | some (.delegate ownerId) => s.primaries.get? ownerId
  | _ => none

def effective (s : RouterState) (id : Uuid) : Uuid := (s.effectivePrimary id).getD id

/-- The connection in whose name `id` acts. -/
def effectiveConnection (s : RouterState) (id : Uuid) : Option ConnectionState :=
  s.connections.get? (s.effective id)

def connectionFamily (s : RouterState) (id : Uuid) : List Uuid :=
  match (s.connections.get? id).bind ConnectionState.agentId? with
  | some agentId => (s.delegatesOf agentId).insert id
  | none => [id]

def currentWorkspace (s : RouterState) (id : Uuid) : Except ActorError WorkspaceName :=
  match (s.effectiveConnection id).bind ConnectionState.workspace with
  | some workspace => .ok workspace
  | none => .error { code := .workspaceRequired }

def claims (s : RouterState) (id : Uuid) : Except ActorError (PublicCredentialClaims × Bool) :=
  match (s.effectiveConnection id).bind ConnectionState.role with
  | some (.agent claims _ _) => .ok (claims, false)
  | some (.operator claims admin) => .ok (claims, admin)
  | _ => .error { code := .notRegistered }

def connectionCredentialId (s : RouterState) (id : Uuid) : Option Uuid :=
  ((s.effectiveConnection id).bind ConnectionState.claims?).map PublicCredentialClaims.id

def actorId (s : RouterState) (id : Uuid) : Except ActorError String :=
  match (s.effectiveConnection id).bind ConnectionState.role with
  | some (.agent _ descriptor _) => .ok descriptor.agentId
  | some (.operator claims _) => .ok ("operator:" ++ claims.subject)
  | _ => .error { code := .notRegistered }

def agentsInWorkspace (s : RouterState) (workspace : WorkspaceName) : List AgentDescriptor :=
  ((s.connections.ofFilter fun _ c => c.workspace = some workspace).filterMap
    fun e => e.2.descriptor?).insertionSort fun a b => a.agentId ≤ b.agentId

/-- Some pending request dispatches the task. -/
def taskDispatched (s : RouterState) (workspace : WorkspaceName) (taskId : ℕ) : Bool :=
  s.pending.toList.any fun e => e.2.dispatches workspace taskId

/-- The connection is the recipient of a pending request. -/
def hasWork (s : RouterState) (id : Uuid) : Bool :=
  s.pending.toList.any fun e => e.2.recipient = id

end RouterState

section

variable {ε α : Type}

namespace Router

def setStore (f : RouterStore → RouterStore) : Router ε Unit :=
  Actor.modify fun s => { s with store := f s.store }

/-- Run an operation on the database. -/
def inSession (x : Session ε α) : Router ε α := fun s =>
  ((x s.store).1, { s with store := (x s.store).2 })

def inStore (x : Store ε α) : Router ε α := inSession (transaction x)

/-- Query the database. -/
def query (f : Db → Except StoreError α) : Router StoreError α := fun s =>
  match f s.db with
  | .ok a => (.ok a, s)
  | .error e => (.error e, s)

/-- Compute from the state and continue with the result or its error. -/
def ask (f : RouterState → Except ε α) : Router ε α := fun s => (f s, s)

def updateConnection (id : Uuid) (f : ConnectionState → ConnectionState) : Router ε Unit :=
  Actor.modify fun s => { s with connections := s.connections.adjust id f }

def failWith (code : RouterErrorCode) : Router ActorError α := Actor.fail { code }

def requireThat (b : Bool) (code : RouterErrorCode) : Router ActorError Unit :=
  Actor.require b { code }

/-- Run a store operation inside a handler. -/
def lift (x : Router StoreError α) : Router ActorError α := Actor.mapError .ofStore x

variable [World]

def drawTick : Router ε ℕ := fun s =>
  (.ok s.tick, { s with store := { s.store with tick := s.tick + 1 } })

def nowInstant : Router ε ℕ := do
  let t ← drawTick
  pure (World.instant t)

def nowMillis : Router ε ℕ := do
  let t ← drawTick
  pure (World.now t)

def newUuid : Router ε Uuid := do
  let t ← drawTick
  pure (World.uuid t)

/-- The elements of a hash map or a hash set in the order of a traversal. -/
def traverse (l : List α) : Router ε (List α) := do
  let t ← drawTick
  pure (World.arrange t l)

end Router

end

end SessionRouter
