import SessionRouter.Store.Recover

/-!
The invariant of the database. It is local to a task: a task row, the attempts of the task, the
reports it names and its events fit together, and a change of one task leaves the others alone.
-/

namespace SessionRouter

def AttemptRow.unconfirmed (a : AttemptRow) : Bool :=
  a.status = .interrupted && a.stopEvidence = .unknown

/-- The combinations of status and stop evidence an attempt can have. -/
def AttemptRow.wellFormed (a : AttemptRow) : Bool :=
  match a.status, a.stopEvidence with
  | .running, .unknown | .interrupted, .unknown | .interrupted, .confirmed
  | .released, .released | .completed, .released => true
  | _, _ => false

/-- The attempt belongs to the task. -/
def AttemptRow.isOf (a : AttemptRow) (w : WorkspaceName) (t : ℕ) : Prop :=
  a.workspace = w ∧ a.taskId = t

/-- What stays the same over the life of an attempt. -/
structure AttemptOrigin where
  workspace : WorkspaceName
  taskId : ℕ
  agentId : String
  credentialId : Uuid
  sessionId : Uuid
  connectionGeneration : ℕ
  workRequestId : String
  deriving DecidableEq

def AttemptRow.origin (a : AttemptRow) : AttemptOrigin :=
  { workspace := a.workspace, taskId := a.taskId, agentId := a.agentId,
    credentialId := a.credentialId, sessionId := a.sessionId,
    connectionGeneration := a.connectionGeneration, workRequestId := a.workRequestId }

theorem AttemptRow.isOf_of_origin {a b : AttemptRow} {w : WorkspaceName} {t : ℕ}
    (h : a.origin = b.origin) (hof : a.isOf w t) : b.isOf w t :=
  ⟨(congrArg AttemptOrigin.workspace h).symm.trans hof.1,
    (congrArg AttemptOrigin.taskId h).symm.trans hof.2⟩

def ReportRow.isOf (r : ReportRow) (w : WorkspaceName) (t : ℕ) : Prop :=
  r.workspace = w ∧ r.taskId = t

theorem AttemptRow.barrier_iff (a : AttemptRow) :
    a.barrier = true ↔ a.status = .running ∨ a.unconfirmed = true := by
  simp [AttemptRow.barrier, AttemptRow.unconfirmed]

/-- The record a task event carries. -/
def WorkspaceEvent.taskEvent? (e : WorkspaceEvent) : Option TaskEvent :=
  match e.content with
  | some (.task event) => some event
  | _ => none

/-- The versions that a list of task events announces, notes left out. -/
def announcedVersions (es : List WorkspaceEvent) : List ℕ :=
  ((es.filterMap WorkspaceEvent.taskEvent?).filter fun e => e.change ≠ .noted).map
    fun e => e.task.version

/-- The summary of a task row. -/
def taskSummaryOf (db : Db) (w : WorkspaceName) (t : ℕ) (r : TaskRow) : TaskSummary :=
  let executor := (r.currentAttemptId.or r.lastAttemptId).bind db.attempts.get?
  { id := t, workspace := w, title := r.title, state := r.state, version := r.version,
    assignedAgentId := r.assignedAgentId, currentAttemptId := r.currentAttemptId,
    lastExecutorId := executor.map AttemptRow.agentId,
    executionSessionId := executor.map AttemptRow.sessionId,
    lastCheckpointAt := (r.lastCheckpointId.bind db.reports.get?).map ReportRow.createdAt,
    pauseReason := r.pauseReason, stopEvidence := executor.map AttemptRow.stopEvidence,
    createdAt := r.createdAt, updatedAt := r.updatedAt }

/-- The events of a task announce its versions in order, and the last one shows the task. -/
structure TaskJournal (db : Db) (w : WorkspaceName) (t : ℕ) (r : TaskRow) : Prop where
  versions : announcedVersions (taskEvents db w t) = List.range' 1 r.version
  latest : ∃ e event, (taskEvents db w t).getLast? = some e ∧ e.taskEvent? = some event ∧
    event.task = taskSummaryOf db w t r

/-- A task row fits the attempts of its task: the running one is the current one, the live one is
the last one, and a finished task has none of either. -/
structure TaskFit (db : Db) (w : WorkspaceName) (t : ℕ) (r : TaskRow) : Prop where
  current : ∀ id, r.currentAttemptId = some id →
    r.lastAttemptId = some id ∧ ∃ a, db.attempts.get? id = some a ∧ a.status = .running
  last : ∀ id, r.lastAttemptId = some id → ∃ a, db.attempts.get? id = some a ∧ a.isOf w t
  running : ∀ id a, db.attempts.get? id = some a → a.isOf w t → a.status = .running →
    r.currentAttemptId = some id
  live : ∀ id a, db.attempts.get? id = some a → a.isOf w t → a.barrier = true →
    r.lastAttemptId = some id
  terminal : r.state.isTerminal = true → ∀ id a, db.attempts.get? id = some a → a.isOf w t →
    a.barrier = false

/-- The report a task row names exists and decodes. -/
def ReportLoads (db : Db) (id : Option Uuid) : Prop :=
  ∀ r, id = some r → ∃ p, db.reports.get? r = some p ∧ bodyMatches p.kind p.body = true

/-- What holds of one task. -/
structure TaskLocal (db : Db) (w : WorkspaceName) (t : ℕ) (r : TaskRow) : Prop where
  check : r.check t = true
  fit : TaskFit db w t r
  checkpoint : ReportLoads db r.lastCheckpointId
  result : ReportLoads db r.resultReportId
  journal : TaskJournal db w t r

section

variable [World]

/-- An identifier the router drew before `tick`. -/
def Drawn (tick : ℕ) (id : Uuid) : Prop := ∃ t, t < tick ∧ id = World.uuid t

structure AttemptInv (db : Db) (a : AttemptRow) : Prop where
  check : a.check = true
  wellFormed : a.wellFormed = true
  task : ∃ r, db.tasks.get? (a.workspace, a.taskId) = some r
  credential : ∃ c, db.credentials.get? a.credentialId = some c
  resumed : ∀ r, a.resumedFromCheckpointId = some r → ∃ p, db.reports.get? r = some p

structure ReportInv (db : Db) (tick : ℕ) (id : Uuid) (p : ReportRow) : Prop where
  body : bodyMatches p.kind p.body = true
  task : ∃ r, db.tasks.get? (p.workspace, p.taskId) = some r
  drawn : Drawn tick id

/-- A task event names its task and rows of its task. -/
structure TaskEventInv (db : Db) (e : WorkspaceEvent) (t : ℕ) (event : TaskEvent) : Prop where
  content : e.content = some (.task event)
  taskId : e.taskId = some t
  summary : event.task.id = t ∧ event.task.workspace = e.workspace
  task : ∃ r, db.tasks.get? (e.workspace, t) = some r
  attempt : ∀ id, event.attemptId = some id →
    ∃ a, db.attempts.get? id = some a ∧ a.isOf e.workspace t
  report : ∀ id, event.reportId = some id →
    ∃ p, db.reports.get? id = some p ∧ p.isOf e.workspace t

def TaskCommand.isNote : TaskCommand → Bool
  | .note .. => true
  | _ => false

/-- The request a `Begin` runs under. -/
def TaskCommand.workRequest? : TaskCommand → Option String
  | .begin _ _ workRequestId .. => some workRequestId
  | _ => none

structure ReceiptInv (db : Db) (key : WorkspaceName × Uuid) (m : MutationRow) : Prop where
  task : ∃ r, db.tasks.get? (key.1, m.taskId) = some r ∧ m.appliedVersion ≤ r.version
  command : m.requestHash.operationId = key.2
  begun : ∀ work, m.requestHash.workRequest? = some work → ∃ id a, m.attemptId = some id ∧
    db.attempts.get? id = some a ∧ a.isOf key.1 m.taskId ∧ a.workRequestId = work ∧
    m.requestHash.taskId? = some m.taskId

/-- The tasks, their attempts, reports, receipts and events. -/
structure TaskTables (db : Db) (tick : ℕ) : Prop where
  locals : ∀ w t r, db.tasks.get? (w, t) = some r → TaskLocal db w t r
  ids : ∀ w t r, db.tasks.get? (w, t) = some r →
    ∃ row, db.workspaces.get? w = some row ∧ t < row.nextTaskId
  attempts : ∀ id a, db.attempts.get? id = some a → AttemptInv db a
  barriers : ∀ id id' a a', db.attempts.get? id = some a → db.attempts.get? id' = some a' →
    a.barrier = true → a'.barrier = true → a.agentId = a'.agentId → id = id'
  reports : ∀ id p, db.reports.get? id = some p → ReportInv db tick id p
  events : ∀ e ∈ db.events, e.kind = .task → ∃ t event, TaskEventInv db e t event
  receipts : ∀ key m, db.mutations.get? key = some m → ReceiptInv db key m
  versions : ∀ key key' m m', db.mutations.get? key = some m → db.mutations.get? key' = some m' →
    key.1 = key'.1 → m.taskId = m'.taskId → m.appliedVersion = m'.appliedVersion →
    m.requestHash.isNote = false → m'.requestHash.isNote = false → key = key'

/-- The request of this id was made in the workspace. -/
def Asked (db : Db) (w : WorkspaceName) (requestId : Option String) : Prop :=
  ∃ e ∈ db.events, e.kind = .request ∧ e.workspace = w ∧ e.requestId = requestId

/-- The events of each workspace are numbered without gaps, no key is used twice and every result
answers a request. -/
structure Journal (db : Db) : Prop where
  row : ∀ w row, db.workspaces.get? w = some row → row.check = true
  numbered : ∀ w row, db.workspaces.get? w = some row →
    (db.events.filter fun e => e.workspace = w).map WorkspaceEvent.seq =
      List.range' 1 (row.nextSeq - 1)
  workspace : ∀ e ∈ db.events, ∃ row, db.workspaces.get? e.workspace = some row
  check : ∀ e ∈ db.events, eventCheck e = true
  keys : db.events.Pairwise fun e e' => eventKey e' = none ∨ eventKey e ≠ eventKey e'
  asked : ∀ e ∈ db.events, e.kind = .result → Asked db e.workspace e.requestId

/-- The subject of a credential as `CredentialFile::validate` admits it. -/
def CredentialRow.subjectValid (r : CredentialRow) : Bool :=
  match r.role with
  | .agent => isAgentId r.subject
  | .operator => r.subject ≠ "" && r.subject.utf8ByteSize ≤ 119 && isAscii r.subject &&
      r.subject.toList.all fun c => !isControl c

structure InviteInv (db : Db) (tick : ℕ) (id : Uuid) (r : InviteRow) : Prop where
  check : r.check = true
  drawn : Drawn tick id
  subject : r.subject = inviteSubject id
  workspace : ∃ row, db.workspaces.get? r.workspace = some row
  credential : ∀ c, r.credentialId = some c → ∃ row, db.credentials.get? c = some row

/-- Credentials and invitations. -/
structure AdminTables (db : Db) (tick : ℕ) : Prop where
  server : db.serverId ≠ Uuid.nil
  credentials : ∀ id r, db.credentials.get? id = some r → r.check = true ∧ r.subjectValid = true
  tokens : ∀ id id' r r', db.credentials.get? id = some r → db.credentials.get? id' = some r' →
    r.tokenHash = r'.tokenHash → id = id'
  invites : ∀ id r, db.invites.get? id = some r → InviteInv db tick id r
  inviteTokens : ∀ id id' r r', db.invites.get? id = some r → db.invites.get? id' = some r' →
    r.tokenHash = r'.tokenHash → id = id'

structure OperationInv (db : Db) (key : WorkspaceName × Uuid) (r : OperationRow) : Prop where
  check : r.check = true
  phase : r.status = .running → r.phase ≠ .terminal
  marker : ∀ m, r.payload.marker? = some m → m ≠ ""
  task : ∀ t, r.taskId = some t → ∃ row, db.tasks.get? (key.1, t) = some row
  workspace : ∃ row, db.workspaces.get? key.1 = some row

/-- External operations, their resolutions and the bindings. -/
structure ExternalTables (db : Db) : Prop where
  operations : ∀ key r, db.operations.get? key = some r → OperationInv db key r
  resolutions : ∀ key r, db.resolutions.get? key = some r →
    ∃ o, db.operations.get? (key.1, r.operationId) = some o
  bindings : ∀ key r, db.bindings.get? key = some r →
    1 ≤ r.revision ∧ ∃ row, db.workspaces.get? key.1 = some row

structure DbInv (db : Db) (tick : ℕ) : Prop where
  tasks : TaskTables db tick
  journal : Journal db
  admin : AdminTables db tick
  external : ExternalTables db

end

/-- Some counter is about to run out: a transaction takes up to two sequence numbers. -/
def Exhausted (db : Db) : Prop :=
  (∃ w row, db.workspaces.get? w = some row ∧
    (maxSafeInteger ≤ row.nextSeq + 1 ∨ maxSafeInteger ≤ row.nextTaskId)) ∨
  ∃ key r, db.tasks.get? key = some r ∧ maxSafeInteger ≤ r.version

/-- The journal of a workspace is full. -/
def JournalFull (db : Db) (w : WorkspaceName) : Prop :=
  ∃ row, db.workspaces.get? w = some row ∧ maxSafeInteger ≤ row.nextSeq

theorem JournalFull.exhausted {db : Db} {w : WorkspaceName} (h : JournalFull db w) :
    Exhausted db := by
  obtain ⟨row, hrow, hmax⟩ := h
  exact .inl ⟨w, row, hrow, .inl (by omega)⟩

end SessionRouter
