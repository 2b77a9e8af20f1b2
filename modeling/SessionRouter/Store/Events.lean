import SessionRouter.Store.Statements
import Mathlib.Data.List.Sort

/-!
The durable journal of workspace events, the credentials, the workspaces and the onboarding
invitations.
-/

namespace SessionRouter

structure StoredCredential where
  claims : PublicCredentialClaims
  tokenHash : String
  createdAt : ℕ
  revokedAt : Option ℕ
  deriving DecidableEq

def credentialFromRow (id : Uuid) (r : CredentialRow) : StoredCredential :=
  { claims :=
      { version := 1, id, role := r.role, subject := r.subject, agentSide := r.agentSide,
        agentClient := r.agentClient, workspaces := r.workspaces }
    tokenHash := r.tokenHash, createdAt := r.createdAt, revokedAt := r.revokedAt }

structure EventInsert where
  workspace : WorkspaceName
  kind : WorkspaceEventKind
  actorId : String
  requestId : Option String := none
  targetId : Option String := none
  taskId : Option ℕ := none
  content : Option EventContent := none
  ok : Option Bool := none
  error : Option RouterErrorCode := none

def EventInsert.toEvent (i : EventInsert) (seq createdAt : ℕ) : WorkspaceEvent :=
  { workspace := i.workspace, seq, kind := i.kind, actorId := i.actorId, createdAt,
    requestId := i.requestId, targetId := i.targetId, taskId := i.taskId, content := i.content,
    ok := i.ok, error := i.error }

section

variable [World]

def appendEventInTransaction (insert : EventInsert) : Store StoreError WorkspaceEvent := do
  let seq ← takeSeq insert.workspace
  let seq ← Txn.orFail .overflow seq
  let createdAt ← Store.nowMillis
  let event := insert.toEvent seq createdAt
  insertEvent event
  pure event

def appendEvent (insert : EventInsert) : Store StoreError WorkspaceEvent := do
  let event ← appendEventInTransaction insert
  commit
  pure event

/-- The stored chat message of an actor under a request id. -/
def findChat (db : Db) (workspace : WorkspaceName) (actorId requestId : String) :
    Option WorkspaceEvent :=
  db.events.find? fun e =>
    e.workspace = workspace && e.actorId = actorId && e.requestId = some requestId &&
    e.kind = .chat

/-- `append_chat_idempotent`; the flag tells whether a row was inserted. -/
def appendChatIdempotent (workspace : WorkspaceName) (actorId requestId content : String) :
    Store StoreError (WorkspaceEvent × Bool) := do
  match ← Store.read fun db => findChat db workspace actorId requestId with
  | some event =>
    Txn.require (event.content = some (.text content)) .conflict
    commit
    pure (event, false)
  | none =>
    let event ← appendEventInTransaction
      { workspace, kind := .chat, actorId, requestId := some requestId,
        content := some (.text content) }
    commit
    pure (event, true)

def hasRequest (db : Db) (workspace : WorkspaceName) (requestId : String) : Bool :=
  db.events.any fun e =>
    e.workspace = workspace && e.requestId = some requestId && e.kind = .request

def appendRequest (insert : EventInsert) : Store StoreError WorkspaceEvent := do
  Txn.require (insert.kind = .request) .invalidData
  let requestId ← Txn.orFail .invalidData insert.requestId
  let used ← Store.read fun db => hasRequest db insert.workspace requestId
  Txn.require (!used) .conflict
  let event ← appendEventInTransaction insert
  commit
  pure event

def latestSeq (db : Db) (workspace : WorkspaceName) : Option ℕ :=
  (db.workspaces.get? workspace).map fun r => r.nextSeq - 1

/-- The events of a workspace after a cursor, in sequence order. -/
def eventsAfter (db : Db) (workspace : WorkspaceName) (after : ℕ) : List WorkspaceEvent :=
  (db.events.filter fun e => e.workspace = workspace && after < e.seq).insertionSort
    fun a b => a.seq ≤ b.seq

/-- Cut a result fetched with `LIMIT limit+1` back to `limit` and report whether more follow. -/
def cutPage {α : Type} (limit : ℕ) (rows : List α) : List α × Bool :=
  let fetched := rows.take (limit + 1)
  if limit < fetched.length then (fetched.dropLast, true) else (fetched, false)

def lastSeq (after : ℕ) (events : List WorkspaceEvent) : ℕ :=
  (events.getLast?.map WorkspaceEvent.seq).getD after

def history (db : Db) (workspace : WorkspaceName) (after limit : ℕ) :
    Except StoreError (List WorkspaceEvent × ℕ × Bool) :=
  match latestSeq db workspace with
  | none => .error .invalidData
  | some latest =>
    if latest < after then .error .invalidData
    else
      let page := cutPage limit (eventsAfter db workspace after)
      .ok (page.1, lastSeq after page.1, page.2)

def recentHistory (db : Db) (workspace : WorkspaceName) (limit : ℕ) :
    Except StoreError (List WorkspaceEvent × ℕ × Bool) :=
  match latestSeq db workspace with
  | none => .error .invalidData
  | some _ =>
    let events := ((eventsAfter db workspace 0).reverse.take limit).reverse
    .ok (events, lastSeq 0 events, false)

def createWorkspace (name : WorkspaceName) : Store StoreError (ℕ × Bool) := do
  let now ← Store.nowMillis
  let inserted ← insertWorkspace name now
  pure (now, inserted)

def listWorkspaceRows (db : Db) (allowed : Option (List WorkspaceName)) (after : Option String)
    (limit : ℕ) : List (WorkspaceName × ℕ) × Option String × Bool :=
  let after := after.getD ""
  let rows := (db.workspaces.ofFilter fun name _ =>
      decide (after < name.asStr) && allowed.all fun grants => name ∈ grants).insertionSort
    fun a b => a.1.asStr ≤ b.1.asStr
  let page := cutPage limit (rows.map fun e => (e.1, e.2.createdAt))
  let cursor := match page.1.getLast? with
    | some row => some row.1.asStr
    | none => if after = "" then none else some after
  (page.1, cursor, page.2)

def insertCredentialConnection (credential : CredentialFile) (now : ℕ) :
    Store StoreError Unit := do
  Txn.require credential.validate .invalidData
  Txn.require (!credential.id.isNil && now ≤ maxSafeInteger) .invalidData
  insertCredentialRow credential.id
    { tokenHash := credential.token, role := credential.role, subject := credential.subject,
      agentSide := credential.agentSide, agentClient := credential.agentClient,
      workspaces := credential.workspaces, createdAt := now, revokedAt := none }

def insertCredential (credential : CredentialFile) : Store StoreError Unit := do
  let now ← Store.nowMillis
  insertCredentialConnection credential now

def credentialById (db : Db) (id : Uuid) : Option StoredCredential :=
  (db.credentials.get? id).map (credentialFromRow id)

def credentialByHash (db : Db) (tokenHash : String) : Option StoredCredential :=
  (db.credentials.toList.find? fun e => e.2.tokenHash = tokenHash).map
    fun e => credentialFromRow e.1 e.2

/-- `UPDATE credentials SET revoked_at=.. ` for a live credential other than the admin's. -/
def revokeCredentialRow (id : Uuid) : Store StoreError Bool := do
  let now ← Store.nowMillis
  let changed ← updateCredential id
    (fun r => r.revokedAt.isNone && !(r.role = .operator && r.subject = "admin"))
    fun r => { r with revokedAt := some now }
  pure (changed = 1)

def listCredentials (db : Db) (after : Option Uuid) (limit : ℕ) :
    List StoredCredential × Option Uuid × Bool :=
  let rows := (db.credentials.ofFilter fun id _ => after.all fun a => a.val < id.val).insertionSort
    fun a b => a.1.val ≤ b.1.val
  let page := cutPage limit (rows.map fun e => credentialFromRow e.1 e.2)
  (page.1, page.1.getLast?.map fun c => c.claims.id, page.2)

/-- `CredentialFile::generate`: a fresh id and token, checked by `validate`. -/
def generateCredential (role : CredentialRole) (subject : String) (agentSide : Option AgentSide)
    (agentClient : Option AgentClient) (workspaces : List WorkspaceName) :
    Store Unit CredentialFile := do
  let token ← Store.randomToken
  let id ← Store.newUuid
  let credential : CredentialFile :=
    { version := CredentialFile.credentialVersion, id, token, role, subject, agentSide,
      agentClient, workspaces }
  Txn.require credential.validate ()
  pure credential

end

section onboarding

variable [World]

def inviteLifetimeMs : ℕ := 600000

def inviteSubject (inviteId : Uuid) : String := "asr-" ++ inviteId.simple

structure IssuedInvite where
  serverId : Uuid
  inviteId : Uuid
  inviteToken : String
  expiresAt : ℕ
  workspace : WorkspaceName
  provider : Option OnboardingProvider

structure EnrollmentRequest where
  version : ℕ
  serverId : Uuid
  inviteId : Uuid
  inviteToken : String
  enrollmentId : Uuid
  provider : OnboardingProvider
  credentialId : Uuid
  credentialToken : String

inductive EnrollmentError where
  | malformed | unavailable | inviteUnavailable
  deriving DecidableEq, Repr

/-- `server_id_connection`: the stored id must not be nil. -/
def serverIdConnection : Store StoreError Uuid := do
  let id ← Store.read Db.serverId
  Txn.require (!id.isNil) .invalidData
  pure id

def issueOnboardingInvite (workspace : WorkspaceName) (createWorkspace : Bool)
    (provider : Option OnboardingProvider) (now : ℕ) : Store StoreError IssuedInvite := do
  Txn.require (now ≤ maxSafeInteger - inviteLifetimeMs) .invalidData
  let inviteId ← Store.newUuid
  let inviteToken ← Store.randomToken
  let expiresAt := now + inviteLifetimeMs
  let serverId ← serverIdConnection
  if createWorkspace then
    let _ ← insertWorkspace workspace now
  else
    let known ← Store.read fun db => db.workspaces.contains workspace
    Txn.require known .workspaceNotFound
  insertInvite inviteId
    { tokenHash := inviteToken, provider, workspace, subject := inviteSubject inviteId,
      createdAt := now, expiresAt, revokedAt := none, enrollmentId := none, credentialId := none,
      redeemedAt := none }
  commit
  pure { serverId, inviteId, inviteToken, expiresAt, workspace, provider }

def revokeOnboardingInvite (inviteId : Uuid) (now : ℕ) : Store StoreError Unit := do
  Txn.require (!inviteId.isNil && now ≤ maxSafeInteger) .invalidData
  let changed ← updateInvite inviteId (fun _ => true)
    fun r => { r with revokedAt := some (r.revokedAt.getD now) }
  Txn.require (changed ≠ 0) .requestNotFound

/-- `enrollment_insert_error`: a used id or token means the invitation cannot be redeemed. -/
def enrollmentInsertError : StoreError → EnrollmentError
  | .sqlite .constraint => .inviteUnavailable
  | .invalidData => .malformed
  | _ => .unavailable

def redeemOnboarding (request : EnrollmentRequest) (now : ℕ) :
    Store EnrollmentError PublicCredentialClaims := do
  Txn.require (request.version = 1 && !request.serverId.isNil && !request.inviteId.isNil &&
    !request.enrollmentId.isNil && !request.credentialId.isNil &&
    canonicalToken request.inviteToken) .malformed
  Txn.require (now ≤ maxSafeInteger) .unavailable
  let (agentSide, agentClient) := request.provider.identity
  let credential : CredentialFile :=
    { version := CredentialFile.credentialVersion, id := request.credentialId,
      token := request.credentialToken, role := .agent, subject := inviteSubject request.inviteId,
      agentSide := some agentSide, agentClient := some agentClient, workspaces := [] }
  Txn.require credential.validate .malformed
  let serverId ← Txn.mapError (fun _ => .unavailable) serverIdConnection
  Txn.require (serverId = request.serverId) .inviteUnavailable
  let invite ← Store.read fun db => db.invites.get? request.inviteId
  let invite ← Txn.orFail .inviteUnavailable invite
  Txn.require (invite.tokenHash = request.inviteToken && invite.revokedAt.isNone &&
    invite.provider.all fun provider => provider = request.provider) .inviteUnavailable
  Txn.require (invite.subject = credential.subject) .unavailable
  let credential := { credential with workspaces := [invite.workspace] }
  match invite.enrollmentId with
  | some enrollmentId =>
    Txn.require (enrollmentId = request.enrollmentId &&
      invite.credentialId = some request.credentialId) .inviteUnavailable
    let stored ← Store.read fun db => credentialById db request.credentialId
    let stored ← Txn.orFail .inviteUnavailable stored
    Txn.require (stored.tokenHash = credential.token && stored.revokedAt.isNone &&
      stored.claims = credential.publicClaims) .inviteUnavailable
    Txn.mapError (fun _ => .unavailable) commit
    pure stored.claims
  | none =>
    Txn.require (now < invite.expiresAt) .inviteUnavailable
    Txn.mapError enrollmentInsertError (insertCredentialConnection credential now)
    let changed ← Txn.mapError (fun _ => .unavailable)
      (updateInvite request.inviteId (fun r => r.enrollmentId.isNone && r.revokedAt.isNone)
        fun r => { r with
          enrollmentId := some request.enrollmentId
          credentialId := some request.credentialId
          redeemedAt := some now })
    Txn.require (changed = 1) .inviteUnavailable
    Txn.mapError (fun _ => .unavailable) commit
    pure credential.publicClaims

end onboarding

end SessionRouter
