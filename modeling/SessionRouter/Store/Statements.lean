import SessionRouter.Store.Schema

/-!
The SQL statements of the store. An insert fails on a used primary key, an insert or update fails
when a row breaks a declared constraint, and an update reports how many rows it changed.
-/

namespace SessionRouter

namespace Store

variable {κ ν : Type} [DecidableEq κ] {t : Tx}

/-- `INSERT` of the row `r` under the key `k` of the table `view`. -/
def insertRow (view : Db → Table κ ν) (put : Table κ ν → Db → Db) (ok : Db → κ → ν → Bool)
    (k : κ) (r : ν) : Store StoreError Unit :=
  execute (fun db => !(view db).contains k && ok db k r) fun db => put ((view db).put k r) db

/-- `UPDATE` of the row under `k` where it satisfies `p`, with the number of changed rows. -/
def updateRow (view : Db → Table κ ν) (put : Table κ ν → Db → Db) (ok : Db → κ → ν → Bool)
    (k : κ) (p : ν → Bool) (f : ν → ν) : Store StoreError ℕ := fun t =>
  match (view t.db).get? k with
  | none => .ok (0, t)
  | some r =>
    if p r then
      if ok t.db k (f r) then .ok (1, { t with db := put ((view t.db).put k (f r)) t.db })
      else .error (.sqlite .constraint)
    else .ok (0, t)

theorem wp_execute {ok : Db → Bool} {f : Db → Db} {Q : Unit → Tx → Prop} {E : StoreError → Prop} :
    Txn.wp (execute ok f) Q E t ↔
      (ok t.db = true → Q () { t with db := f t.db }) ∧
      (ok t.db = false → E (.sqlite .constraint)) := by
  unfold Txn.wp execute
  cases ok t.db <;> simp

theorem wp_insertRow {view : Db → Table κ ν} {put : Table κ ν → Db → Db}
    {ok : Db → κ → ν → Bool} {k : κ} {r : ν} {Q : Unit → Tx → Prop} {E : StoreError → Prop}
    (hQ : (view t.db).get? k = none → ok t.db k r = true →
      Q () { t with db := put ((view t.db).put k r) t.db })
    (hE : (∃ v, (view t.db).get? k = some v) ∨ ok t.db k r = false → E (.sqlite .constraint)) :
    Txn.wp (insertRow view put ok k r) Q E t := by
  unfold insertRow
  rw [wp_execute]
  constructor
  · intro h
    simp only [Bool.and_eq_true, Bool.not_eq_true', Table.contains, Option.isSome_eq_false_iff,
      Option.isNone_iff_eq_none] at h
    exact hQ h.1 h.2
  · intro h
    apply hE
    cases hg : (view t.db).get? k with
    | none => simp [Table.contains, hg] at h; exact .inr h
    | some v => exact .inl ⟨v, rfl⟩

theorem wp_updateRow {view : Db → Table κ ν} {put : Table κ ν → Db → Db}
    {ok : Db → κ → ν → Bool} {k : κ} {p : ν → Bool} {f : ν → ν} {Q : ℕ → Tx → Prop}
    {E : StoreError → Prop}
    (hnone : (∀ r, (view t.db).get? k = some r → p r = false) → Q 0 t)
    (hsome : ∀ r, (view t.db).get? k = some r → p r = true → ok t.db k (f r) = true →
      Q 1 { t with db := put ((view t.db).put k (f r)) t.db })
    (hE : ∀ r, (view t.db).get? k = some r → p r = true → ok t.db k (f r) = false →
      E (.sqlite .constraint)) :
    Txn.wp (updateRow view put ok k p f) Q E t := by
  unfold Txn.wp updateRow
  cases hg : (view t.db).get? k with
  | none => exact hnone (by simp [hg])
  | some r =>
    simp only
    by_cases hp : p r = true
    · cases hok : ok t.db k (f r) with
      | true => simpa [hp, hok] using hsome r hg hp hok
      | false => simpa [hp, hok] using hE r hg hp hok
    · simpa [hp] using hnone (by intro r' hr'; rw [hg] at hr'; cases hr'; simpa using hp)

end Store

section tables

variable {ε : Type}

def setWorkspaces (m : Table WorkspaceName WorkspaceRow) (db : Db) : Db :=
  { db with workspaces := m }
def setCredentials (m : Table Uuid CredentialRow) (db : Db) : Db := { db with credentials := m }
def setTasks (m : Table (WorkspaceName × ℕ) TaskRow) (db : Db) : Db := { db with tasks := m }
def setAttempts (m : Table Uuid AttemptRow) (db : Db) : Db := { db with attempts := m }
def setReports (m : Table Uuid ReportRow) (db : Db) : Db := { db with reports := m }
def setMutations (m : Table (WorkspaceName × Uuid) MutationRow) (db : Db) : Db :=
  { db with mutations := m }
def setBindings (m : Table (WorkspaceName × ExternalProvider) BindingRow) (db : Db) : Db :=
  { db with bindings := m }
def setLinks (m : Table (WorkspaceName × ℕ × ExternalProvider) LinkRow) (db : Db) : Db :=
  { db with links := m }
def setOperations (m : Table (WorkspaceName × Uuid) OperationRow) (db : Db) : Db :=
  { db with operations := m }
def setResolutions (m : Table (WorkspaceName × Uuid) ResolutionRow) (db : Db) : Db :=
  { db with resolutions := m }
def setInvites (m : Table Uuid InviteRow) (db : Db) : Db := { db with invites := m }

def workspaceOk (_ : Db) (_ : WorkspaceName) (r : WorkspaceRow) : Bool := r.check

def credentialOk (db : Db) (id : Uuid) (r : CredentialRow) : Bool :=
  r.check && db.credentials.toList.all fun e => e.1 = id || e.2.tokenHash ≠ r.tokenHash

def taskOk (db : Db) (key : WorkspaceName × ℕ) (r : TaskRow) : Bool :=
  r.check key.2 && db.workspaces.contains key.1

/-- The references of an attempt and the two partial unique indexes. -/
def attemptOk (db : Db) (id : Uuid) (r : AttemptRow) : Bool :=
  r.check && db.tasks.contains (r.workspace, r.taskId) && db.credentials.contains r.credentialId &&
  (db.attempts.toList.all fun e => e.1 = id ||
    !(r.status = .running && e.2.status = .running &&
      e.2.workspace = r.workspace && e.2.taskId = r.taskId)) &&
  (db.attempts.toList.all fun e => e.1 = id ||
    !(r.barrier && e.2.barrier && e.2.agentId = r.agentId))

def reportOk (db : Db) (_ : Uuid) (r : ReportRow) : Bool :=
  r.check && db.tasks.contains (r.workspace, r.taskId) && r.attemptId.all db.attempts.contains

def mutationOk (db : Db) (key : WorkspaceName × Uuid) (r : MutationRow) : Bool :=
  db.tasks.contains (key.1, r.taskId) && r.reportId.all db.reports.contains

def bindingOk (db : Db) (key : WorkspaceName × ExternalProvider) (r : BindingRow) : Bool :=
  r.check && db.workspaces.contains key.1

def linkOk (db : Db) (key : WorkspaceName × ℕ × ExternalProvider) (r : LinkRow) : Bool :=
  r.check && db.tasks.contains (key.1, key.2.1) &&
  db.links.toList.all fun e => e.1 = key ||
    !(e.1.2.2 = key.2.2 && e.2.ns = r.ns && e.2.externalId = r.externalId)

def operationOk (db : Db) (key : WorkspaceName × Uuid) (r : OperationRow) : Bool :=
  r.check && r.taskId.all fun id => db.tasks.contains (key.1, id)

def resolutionOk (db : Db) (key : WorkspaceName × Uuid) (r : ResolutionRow) : Bool :=
  r.check && db.operations.contains (key.1, r.operationId) &&
  db.resolutions.toList.all fun e => e.1 = key ||
    !(e.1.1 = key.1 && e.2.operationId = r.operationId)

def inviteOk (db : Db) (id : Uuid) (r : InviteRow) : Bool :=
  r.check && db.workspaces.contains r.workspace && r.credentialId.all db.credentials.contains &&
  db.invites.toList.all fun e => e.1 = id ||
    (e.2.tokenHash ≠ r.tokenHash && e.2.subject ≠ r.subject)

def insertCredentialRow := Store.insertRow Db.credentials setCredentials credentialOk
def updateCredential := Store.updateRow Db.credentials setCredentials credentialOk
def insertTask := Store.insertRow Db.tasks setTasks taskOk
def updateTask := Store.updateRow Db.tasks setTasks taskOk
def insertAttempt := Store.insertRow Db.attempts setAttempts attemptOk
def updateAttempt := Store.updateRow Db.attempts setAttempts attemptOk
def insertReport := Store.insertRow Db.reports setReports reportOk
def insertMutation := Store.insertRow Db.mutations setMutations mutationOk
def insertLink := Store.insertRow Db.links setLinks linkOk
def insertOperation := Store.insertRow Db.operations setOperations operationOk
def updateOperation := Store.updateRow Db.operations setOperations operationOk
def insertResolutionRow := Store.insertRow Db.resolutions setResolutions resolutionOk
def insertInvite := Store.insertRow Db.invites setInvites inviteOk
def updateInvite := Store.updateRow Db.invites setInvites inviteOk
def updateWorkspace := Store.updateRow Db.workspaces setWorkspaces workspaceOk

/-- `INSERT .. ON CONFLICT(workspace,task_id,provider) DO UPDATE`. -/
def upsertLink (key : WorkspaceName × ℕ × ExternalProvider) (r : LinkRow) :
    Store StoreError Unit :=
  Store.execute (fun db => linkOk db key r) fun db => setLinks (db.links.put key r) db

def upsertBinding (key : WorkspaceName × ExternalProvider) (r : BindingRow) :
    Store StoreError Unit :=
  Store.execute (fun db => bindingOk db key r) fun db => setBindings (db.bindings.put key r) db

/-- `INSERT INTO workspaces .. ON CONFLICT(name) DO NOTHING`; true when a row was inserted. -/
def insertWorkspace (name : WorkspaceName) (createdAt : ℕ) : Store StoreError Bool := fun t =>
  if t.db.workspaces.contains name then .ok (false, t)
  else
    let row : WorkspaceRow := { createdAt, nextSeq := 1, nextTaskId := 1 }
    if row.check then
      .ok (true, { t with db := setWorkspaces (t.db.workspaces.put name row) t.db })
    else .error (.sqlite .constraint)

/-- `UPDATE workspaces SET next_seq=next_seq+1 .. RETURNING next_seq-1`. -/
def takeSeq (name : WorkspaceName) : Store StoreError (Option ℕ) := do
  let seq ← Store.read fun db => (db.workspaces.get? name).map WorkspaceRow.nextSeq
  let changed ← updateWorkspace name (fun r => r.nextSeq ≤ maxSafeInteger)
    fun r => { r with nextSeq := r.nextSeq + 1 }
  pure (if changed = 1 then seq else none)

/-- `UPDATE workspaces SET next_task_id=next_task_id+1 .. RETURNING next_task_id-1`. -/
def takeTaskId (name : WorkspaceName) : Store StoreError (Option ℕ) := do
  let id ← Store.read fun db => (db.workspaces.get? name).map WorkspaceRow.nextTaskId
  let changed ← updateWorkspace name (fun r => r.nextTaskId ≤ maxSafeInteger)
    fun r => { r with nextTaskId := r.nextTaskId + 1 }
  pure (if changed = 1 then id else none)

def eventOk (db : Db) (e : WorkspaceEvent) : Bool :=
  eventCheck e && db.workspaces.contains e.workspace &&
  db.events.all fun e' => !(e'.workspace = e.workspace && e'.seq = e.seq) &&
    (eventKey e = none || eventKey e' ≠ eventKey e)

def insertEvent (e : WorkspaceEvent) : Store StoreError Unit :=
  Store.execute (fun db => eventOk db e) fun db => { db with events := db.events ++ [e] }

/-- The references that are checked only when a transaction commits. -/
def deferredOk (db : Db) : Bool :=
  (db.tasks.toList.all fun e =>
    e.2.currentAttemptId.all db.attempts.contains && e.2.lastAttemptId.all db.attempts.contains &&
    e.2.lastCheckpointId.all db.reports.contains && e.2.resultReportId.all db.reports.contains) &&
  db.attempts.toList.all fun e => e.2.resumedFromCheckpointId.all db.reports.contains

def commit : Store StoreError Unit := Store.execute deferredOk id

end tables

/-- The open database. The journal holds the states committed since the current command began,
the latest first. -/
structure RouterStore where
  db : Db
  tick : ℕ
  journal : List Db

abbrev Session (ε α : Type) := Actor RouterStore ε α

/-- Run a transaction: its writes are committed together, or not at all. -/
def transaction {ε α : Type} (x : Store ε α) : Session ε α := fun s =>
  match x { db := s.db, tick := s.tick } with
  | .ok (a, t) => (.ok a, { db := t.db, tick := t.tick, journal := t.db :: s.journal })
  | .error e => (.error e, s)

theorem wp_transaction {ε α : Type} {x : Store ε α} {Q : α → RouterStore → Prop}
    {E : ε → RouterStore → Prop} {s : RouterStore} :
    Actor.wp (transaction x) Q E s ↔
      Txn.wp x (fun a t => Q a { db := t.db, tick := t.tick, journal := t.db :: s.journal })
        (fun e => E e s) { db := s.db, tick := s.tick } := by
  unfold Actor.wp Txn.wp transaction
  cases x { db := s.db, tick := s.tick } with
  | error e => rfl
  | ok r => rfl

end SessionRouter
