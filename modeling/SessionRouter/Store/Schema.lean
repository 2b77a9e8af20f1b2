import SessionRouter.Lib.Effects
import SessionRouter.Lib.Table
import SessionRouter.World

/-!
The tables of the router's database with the constraints their schema declares. A digest column
holds the value it is a digest of, and text columns with a fixed set of values hold that set.
-/

namespace SessionRouter

structure WorkspaceRow where
  createdAt : ℕ
  nextSeq : ℕ
  nextTaskId : ℕ
  deriving DecidableEq

structure CredentialRow where
  tokenHash : String
  role : CredentialRole
  subject : String
  agentSide : Option AgentSide
  agentClient : Option AgentClient
  workspaces : List WorkspaceName
  createdAt : ℕ
  revokedAt : Option ℕ
  deriving DecidableEq

structure TaskRow where
  version : ℕ
  title : String
  description : String
  state : TaskState
  assignedAgentId : Option String
  currentAttemptId : Option Uuid
  lastAttemptId : Option Uuid
  lastCheckpointId : Option Uuid
  resultReportId : Option Uuid
  pauseReason : Option PauseReason
  createdBy : String
  updatedBy : String
  createdAt : ℕ
  updatedAt : ℕ
  deriving DecidableEq

structure AttemptRow where
  workspace : WorkspaceName
  taskId : ℕ
  agentId : String
  credentialId : Uuid
  sessionId : Uuid
  connectionGeneration : ℕ
  workRequestId : String
  resumedFromCheckpointId : Option Uuid
  status : AttemptStatus
  stopEvidence : StopEvidence
  reason : Option PauseReason
  startedAt : ℕ
  endedAt : Option ℕ
  stoppedAt : Option ℕ
  deriving DecidableEq

structure ReportRow where
  workspace : WorkspaceName
  taskId : ℕ
  attemptId : Option Uuid
  actorId : String
  kind : ReportKind
  body : ReportBody
  createdAt : ℕ
  deriving DecidableEq

structure MutationRow where
  actorId : String
  requestHash : TaskCommand
  taskId : ℕ
  appliedVersion : ℕ
  attemptId : Option Uuid
  reportId : Option Uuid
  createdAt : ℕ
  deriving DecidableEq

structure BindingRow where
  target : String
  access : IntegrationAccess
  enabled : Bool
  configHash : IntegrationConnection
  revision : ℕ
  updatedAt : ℕ
  deriving DecidableEq

structure LinkRow where
  ns : String
  externalId : String
  url : String
  linkedAt : ℕ
  deriving DecidableEq

inductive OperationPhase where
  | prepared | dispatched | terminal
  deriving DecidableEq, Repr

structure OperationRow where
  actorId : String
  provider : ExternalProvider
  ns : String
  kind : ExternalOperationKind
  taskId : Option ℕ
  sourceVersion : Option ℕ
  requestHash : ExternalCommand
  payload : OperationPayload
  phase : OperationPhase
  status : ExternalOperationStatus
  externalId : Option String
  url : Option String
  error : Option String
  createdAt : ℕ
  updatedAt : ℕ
  deriving DecidableEq

structure ResolutionRow where
  operationId : Uuid
  resolverActorId : String
  requestHash : ResolutionRequest
  outcome : ExternalResolutionOutcome
  externalId : Option String
  note : String
  createdAt : ℕ
  deriving DecidableEq

structure InviteRow where
  tokenHash : String
  provider : Option OnboardingProvider
  workspace : WorkspaceName
  subject : String
  createdAt : ℕ
  expiresAt : ℕ
  revokedAt : Option ℕ
  enrollmentId : Option Uuid
  credentialId : Option Uuid
  redeemedAt : Option ℕ
  deriving DecidableEq

/-- The database. Events are kept in the order in which they were inserted. -/
structure Db where
  serverId : Uuid
  workspaces : Table WorkspaceName WorkspaceRow := ∅
  events : List WorkspaceEvent := []
  credentials : Table Uuid CredentialRow := ∅
  tasks : Table (WorkspaceName × ℕ) TaskRow := ∅
  attempts : Table Uuid AttemptRow := ∅
  reports : Table Uuid ReportRow := ∅
  mutations : Table (WorkspaceName × Uuid) MutationRow := ∅
  bindings : Table (WorkspaceName × ExternalProvider) BindingRow := ∅
  links : Table (WorkspaceName × ℕ × ExternalProvider) LinkRow := ∅
  operations : Table (WorkspaceName × Uuid) OperationRow := ∅
  resolutions : Table (WorkspaceName × Uuid) ResolutionRow := ∅
  invites : Table Uuid InviteRow := ∅

/-- SQLite's `length` of a text: the characters before the first NUL. -/
def sqlLength (s : String) : ℕ := (s.toList.takeWhile fun c => c ≠ '\x00').length

def safeTime (t : ℕ) : Bool := t ≤ maxSafeInteger

def WorkspaceRow.check (r : WorkspaceRow) : Bool :=
  safeTime r.createdAt && 1 ≤ r.nextSeq && r.nextSeq ≤ maxSafeInteger &&
  1 ≤ r.nextTaskId && r.nextTaskId ≤ maxSafeInteger

/-- The shape of an event, by kind. -/
def eventShape (e : WorkspaceEvent) : Bool :=
  match e.kind with
  | .chat => e.content.isSome && e.requestId.isSome && e.targetId.isNone && e.taskId.isNone &&
      e.ok.isNone && e.error.isNone
  | .request => e.content.isSome && e.requestId.isSome && e.targetId.isSome && e.ok.isNone &&
      e.error.isNone
  | .result => e.requestId.isSome && e.targetId.isSome &&
      ((e.ok = some true && e.content.isSome && e.error.isNone) ||
        (e.ok = some false && e.content.isNone && e.error.isSome))
  | .memberJoined | .memberLeft => e.requestId.isNone && e.targetId.isNone && e.taskId.isNone &&
      e.content.isNone && e.ok.isNone && e.error.isNone
  | .task | .integration => e.requestId.isNone && e.targetId.isNone && e.content.isSome &&
      e.ok.isNone && e.error.isNone

def eventCheck (e : WorkspaceEvent) : Bool :=
  1 ≤ e.seq && e.seq ≤ maxSafeInteger &&
  1 ≤ sqlLength e.actorId && sqlLength e.actorId ≤ 128 && safeTime e.createdAt &&
  (e.taskId.all fun id => 1 ≤ id && id ≤ maxSafeInteger) && eventShape e

/-- The key of the unique index an event falls under, if any. -/
inductive EventKey where
  | request (workspace : WorkspaceName) (requestId : Option String)
  | result (workspace : WorkspaceName) (requestId : Option String)
  | chat (workspace : WorkspaceName) (actorId : String) (requestId : Option String)
  deriving DecidableEq

def eventKey (e : WorkspaceEvent) : Option EventKey :=
  match e.kind with
  | .request => some (.request e.workspace e.requestId)
  | .result => some (.result e.workspace e.requestId)
  | .chat => some (.chat e.workspace e.actorId e.requestId)
  | _ => none

def CredentialRow.check (r : CredentialRow) : Bool :=
  1 ≤ sqlLength r.subject && sqlLength r.subject ≤ 128 && r.workspaces.length ≤ 64 &&
  safeTime r.createdAt && r.revokedAt.all safeTime &&
  match r.role with
  | .agent => r.agentSide.isSome && r.agentClient.isSome
  | .operator => r.agentSide.isNone && r.agentClient.isNone

def TaskRow.check (id : ℕ) (r : TaskRow) : Bool :=
  1 ≤ id && id ≤ maxSafeInteger && 1 ≤ r.version && r.version ≤ maxSafeInteger &&
  0 < sqlLength r.title && r.title.utf8ByteSize ≤ 1024 && r.description.utf8ByteSize ≤ 65536 &&
  safeTime r.createdAt && safeTime r.updatedAt &&
  (decide (r.state = .inProgress) == r.currentAttemptId.isSome) &&
  (!r.state.isTerminal || r.assignedAgentId.isNone)

def AttemptRow.check (r : AttemptRow) : Bool :=
  1 ≤ r.connectionGeneration && r.connectionGeneration ≤ maxSafeInteger &&
  safeTime r.startedAt && r.endedAt.all safeTime && r.stoppedAt.all safeTime &&
  ((r.status = .running && r.endedAt.isNone && r.stopEvidence = .unknown) ||
    (r.status ≠ .running && r.endedAt.isSome))

/-- The attempts of the partial index `agent_execution_barrier_unique`. -/
def AttemptRow.barrier (r : AttemptRow) : Bool :=
  r.status = .running || (r.status = .interrupted && r.stopEvidence = .unknown)

def ReportRow.check (r : ReportRow) : Bool :=
  r.body.toJson.encodedLen ≤ 131072 && safeTime r.createdAt

def LinkRow.check (r : LinkRow) : Bool := safeTime r.linkedAt

def OperationRow.check (r : OperationRow) : Bool := r.payload.toJson.encodedLen ≤ 131072

def ResolutionRow.check (r : ResolutionRow) : Bool :=
  1 ≤ r.note.utf8ByteSize && r.note.utf8ByteSize ≤ 4096

def InviteRow.check (r : InviteRow) : Bool :=
  safeTime r.createdAt && r.expiresAt = r.createdAt + 600000 && safeTime r.expiresAt &&
  r.revokedAt.all safeTime && (r.redeemedAt.all fun t => t < r.expiresAt) &&
  ((r.enrollmentId.isNone && r.credentialId.isNone && r.redeemedAt.isNone) ||
    (r.enrollmentId.isSome && r.credentialId.isSome && r.redeemedAt.isSome))

def BindingRow.check (r : BindingRow) : Bool := 1 ≤ r.revision && safeTime r.updatedAt

inductive SqliteError where
  | constraint | noRows | invalidQuery
  deriving DecidableEq, Repr

inductive StoreError where
  | inUse | conflict | workspaceNotFound | requestNotFound | unsupportedSchema
  | sqlite (error : SqliteError)
  | io | invalidData | overflow
  deriving DecidableEq, Repr

/-- `impl From<StoreError> for RouterErrorCode`. -/
def StoreError.code : StoreError → RouterErrorCode
  | inUse => .storeInUse
  | conflict => .requestConflict
  | workspaceNotFound => .workspaceNotFound
  | requestNotFound => .requestNotFound
  | unsupportedSchema | invalidData => .configurationRequired
  | sqlite _ | io | overflow => .storageError

/-- The state of a transaction: the database and the next tick of the world. -/
structure Tx where
  db : Db
  tick : ℕ

abbrev Store (ε α : Type) := Txn Tx ε α

namespace Store

variable {ε α : Type}

def read (f : Db → α) : Store ε α := Txn.read fun t => f t.db

def write (f : Db → Db) : Store ε Unit := Txn.modify fun t => { t with db := f t.db }

def nowMillis [World] : Store ε ℕ := fun t => .ok (World.now t.tick, { t with tick := t.tick + 1 })

def newUuid [World] : Store ε Uuid := fun t =>
  .ok (World.uuid t.tick, { t with tick := t.tick + 1 })

def randomToken [World] : Store ε String := fun t =>
  .ok (World.token t.tick, { t with tick := t.tick + 1 })

/-- A statement whose constraints are `ok` and whose effect is `f`. -/
def execute (ok : Db → Bool) (f : Db → Db) : Store StoreError Unit := fun t =>
  if ok t.db then .ok ((), { t with db := f t.db }) else .error (.sqlite .constraint)

variable {E : ε → Prop} {t : Tx}

@[simp] theorem wp_read {Q : α → Tx → Prop} (f : Db → α) :
    Txn.wp (read f : Store ε α) Q E t ↔ Q (f t.db) t := Iff.rfl

@[simp] theorem wp_write {Q : Unit → Tx → Prop} (f : Db → Db) :
    Txn.wp (write f : Store ε Unit) Q E t ↔ Q () { t with db := f t.db } := Iff.rfl

@[simp] theorem wp_nowMillis [World] {Q : ℕ → Tx → Prop} :
    Txn.wp (nowMillis : Store ε ℕ) Q E t ↔ Q (World.now t.tick) { t with tick := t.tick + 1 } :=
  Iff.rfl

@[simp] theorem wp_newUuid [World] {Q : Uuid → Tx → Prop} :
    Txn.wp (newUuid : Store ε Uuid) Q E t ↔ Q (World.uuid t.tick) { t with tick := t.tick + 1 } :=
  Iff.rfl

@[simp] theorem wp_randomToken [World] {Q : String → Tx → Prop} :
    Txn.wp (randomToken : Store ε String) Q E t ↔
      Q (World.token t.tick) { t with tick := t.tick + 1 } := Iff.rfl

end Store

end SessionRouter
