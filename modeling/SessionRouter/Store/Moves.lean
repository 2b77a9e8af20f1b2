import SessionRouter.Store.Recover

/-!
What a transaction can do to the database, statement by statement. A relation that is blind to the
tables an operation writes holds between the databases before and after it.
-/

namespace SessionRouter

/-- The relation `R` between the databases of two transaction states, the second of which comes
later. -/
structure OnDb (R : Db → Db → Prop) (t t' : Tx) : Prop where
  db : R t.db t'.db
  tick : t.tick ≤ t'.tick

instance {R : Db → Db → Prop} [Std.Refl R] : Std.Refl (OnDb R) :=
  ⟨fun t => ⟨Std.Refl.refl t.db, le_rfl⟩⟩

instance {R : Db → Db → Prop} [IsTrans Db R] : IsTrans Tx (OnDb R) :=
  ⟨fun a b c hab hbc => ⟨IsTrans.trans a.db b.db c.db hab.db hbc.db, hab.tick.trans hbc.tick⟩⟩

theorem OnDb.same {R : Db → Db → Prop} [Std.Refl R] (t : Tx) : OnDb R t t := Std.Refl.refl t

/-- What `f` reads of the database stays. -/
def Keeps {β : Type} (f : Db → β) (db db' : Db) : Prop := f db' = f db

instance {β : Type} {f : Db → β} : Std.Refl (Keeps f) := ⟨fun _ => rfl⟩

instance {β : Type} {f : Db → β} : IsTrans Db (Keeps f) := ⟨fun _ _ _ hab hbc => Eq.trans hbc hab⟩

/-- `R` does not look at the events and the counters of the workspaces. -/
structure BlindJournal (R : Db → Db → Prop) : Prop where
  events : ∀ db es, R db { db with events := es }
  workspaces : ∀ db m, R db (setWorkspaces m db)

/-- `R` does not look at the tables of the tasks. -/
structure BlindTasks (R : Db → Db → Prop) : Prop extends BlindJournal R where
  tasks : ∀ db m, R db (setTasks m db)
  attempts : ∀ db m, R db (setAttempts m db)
  reports : ∀ db m, R db (setReports m db)
  mutations : ∀ db m, R db (setMutations m db)

/-- `R` allows what the statements on the credentials and the invitations do, other than the
redemption of an invitation. -/
structure AdminWrites (R : Db → Db → Prop) : Prop extends BlindJournal R where
  insertCredential : ∀ db id r, db.credentials.get? id = none → r.revokedAt = none →
    R db (setCredentials (db.credentials.put id r) db)
  revokeCredential : ∀ db id r now, db.credentials.get? id = some r → r.revokedAt = none →
    R db (setCredentials (db.credentials.put id { r with revokedAt := some now }) db)
  insertInvite : ∀ db id r, db.invites.get? id = none → r.enrollmentId = none →
    R db (setInvites (db.invites.put id r) db)
  revokeInvite : ∀ db id r now, db.invites.get? id = some r →
    R db (setInvites (db.invites.put id { r with revokedAt := some (r.revokedAt.getD now) }) db)

/-- `R` does not look at the credentials and the invitations. -/
structure BlindAdmin (R : Db → Db → Prop) : Prop extends BlindJournal R where
  credentials : ∀ db m, R db (setCredentials m db)
  invites : ∀ db m, R db (setInvites m db)

theorem BlindAdmin.writes {R : Db → Db → Prop} (h : BlindAdmin R) : AdminWrites R where
  toBlindJournal := h.toBlindJournal
  insertCredential db _ _ _ _ := h.credentials db _
  revokeCredential db _ _ _ _ _ := h.credentials db _
  insertInvite db _ _ _ _ := h.invites db _
  revokeInvite db _ _ _ _ := h.invites db _

/-- How the row of an external operation changes. -/
inductive OperationRow.Next (r : OperationRow) : OperationRow → Prop
  | dispatched (now : ℕ) (hphase : r.phase = .prepared) (hstatus : r.status = .running) :
      Next r { r with phase := .dispatched, updatedAt := now }
  | finished (taskId : Option ℕ) (status : ExternalOperationStatus)
      (externalId url error : Option String) (now : ℕ) (hstatus : r.status = .running)
      (hfinal : status ≠ .running) :
      Next r { r with taskId, phase := .terminal, status, externalId, url, error, updatedAt := now }
  | resolved (status : ExternalOperationStatus) (externalId url error : Option String) (now : ℕ)
      (hstatus : r.status = .unconfirmed) (hfinal : status = .succeeded ∨ status = .failed) :
      Next r { r with status, externalId, url, error, updatedAt := now }

/-- `R` allows what the statements on the tables of the external operations do. -/
structure ExternalWrites (R : Db → Db → Prop) : Prop extends BlindTasks R where
  insertOperation : ∀ db key r, db.operations.get? key = none →
    R db (setOperations (db.operations.put key r) db)
  updateOperation : ∀ db key r r', db.operations.get? key = some r → r.Next r' →
    R db (setOperations (db.operations.put key r') db)
  resolution : ∀ db key r, db.resolutions.get? key = none → resolutionOk db key r = true →
    R db (setResolutions (db.resolutions.put key r) db)
  link : ∀ db key r, linkOk db key r = true → R db (setLinks (db.links.put key r) db)

section

variable {ε α κ ν : Type} [DecidableEq κ] {R : Db → Db → Prop}

namespace Store

theorem execute_moves {ok : Db → Bool} {f : Db → Db} (h : ∀ db, ok db = true → R db (f db)) :
    (execute ok f).Moves (OnDb R) :=
  .of_wp fun t => wp_execute.mpr ⟨fun hok => ⟨h t.db hok, le_rfl⟩, fun _ => trivial⟩

theorem insertRow_moves' {view : Db → Table κ ν} {put : Table κ ν → Db → Db}
    {ok : Db → κ → ν → Bool} {k : κ} {r : ν}
    (h : ∀ db, (view db).get? k = none → ok db k r = true → R db (put ((view db).put k r) db)) :
    (insertRow view put ok k r).Moves (OnDb R) :=
  .of_wp fun t => wp_insertRow (fun hnone hok => ⟨h t.db hnone hok, le_rfl⟩) fun _ => trivial

theorem insertRow_moves {view : Db → Table κ ν} {put : Table κ ν → Db → Db}
    {ok : Db → κ → ν → Bool} {k : κ} {r : ν} (h : ∀ db m, R db (put m db)) :
    (insertRow view put ok k r).Moves (OnDb R) :=
  execute_moves fun _ _ => h _ _

variable [Std.Refl R]

theorem read_moves (f : Db → α) : (read f : Store ε α).Moves (OnDb R) := .read _

theorem updateRow_moves' {view : Db → Table κ ν} {put : Table κ ν → Db → Db}
    {ok : Db → κ → ν → Bool} {k : κ} {p : ν → Bool} {f : ν → ν}
    (h : ∀ db r, (view db).get? k = some r → p r = true → R db (put ((view db).put k (f r)) db)) :
    (updateRow view put ok k p f).Moves (OnDb R) :=
  .of_wp fun t => wp_updateRow (fun _ => .same t) (fun r hr hp _ => ⟨h t.db r hr hp, le_rfl⟩)
    fun _ _ _ _ => trivial

theorem updateRow_moves {view : Db → Table κ ν} {put : Table κ ν → Db → Db}
    {ok : Db → κ → ν → Bool} {k : κ} {p : ν → Bool} {f : ν → ν} (h : ∀ db m, R db (put m db)) :
    (updateRow view put ok k p f).Moves (OnDb R) :=
  .of_wp fun t => wp_updateRow (fun _ => .same t) (fun _ _ _ _ => ⟨h _ _, le_rfl⟩)
    fun _ _ _ _ => trivial

variable [World]

theorem nowMillis_moves : (nowMillis : Store ε ℕ).Moves (OnDb R) :=
  .of_wp fun t => ⟨Std.Refl.refl t.db, Nat.le_succ _⟩

theorem newUuid_moves : (newUuid : Store ε Uuid).Moves (OnDb R) :=
  .of_wp fun t => ⟨Std.Refl.refl t.db, Nat.le_succ _⟩

theorem randomToken_moves : (randomToken : Store ε String).Moves (OnDb R) :=
  .of_wp fun t => ⟨Std.Refl.refl t.db, Nat.le_succ _⟩

end Store

section statements

variable [Std.Refl R]

theorem commit_moves : commit.Moves (OnDb R) := Store.execute_moves fun db _ => Std.Refl.refl db

theorem storeQuery_moves (f : Db → Except StoreError α) : (storeQuery f).Moves (OnDb R) := by
  intro t a t' h
  unfold storeQuery at h
  split at h
  · cases h
    exact .same t
  · cases h

theorem insertWorkspace_moves (h : BlindJournal R) (name : WorkspaceName) (createdAt : ℕ) :
    (insertWorkspace name createdAt).Moves (OnDb R) := by
  intro t a t' hx
  unfold insertWorkspace at hx
  split at hx
  · cases hx
    exact .same t
  · dsimp only at hx
    split at hx
    · cases hx
      exact ⟨h.workspaces _ _, le_rfl⟩
    · cases hx

variable [IsTrans Db R]

theorem takeSeq_moves (h : BlindJournal R) (name : WorkspaceName) :
    (takeSeq name).Moves (OnDb R) :=
  .bind (Store.read_moves _) fun _ => .bind (Store.updateRow_moves h.workspaces) fun _ => .pure _

theorem takeTaskId_moves (h : BlindJournal R) (name : WorkspaceName) :
    (takeTaskId name).Moves (OnDb R) :=
  .bind (Store.read_moves _) fun _ => .bind (Store.updateRow_moves h.workspaces) fun _ => .pure _

variable [World]

theorem appendEventInTransaction_moves (h : BlindJournal R) (insert : EventInsert) :
    (appendEventInTransaction insert).Moves (OnDb R) :=
  .bind (takeSeq_moves h _) fun _ => .bind (.orFail _ _) fun _ =>
    .bind Store.nowMillis_moves fun _ =>
    .bind (Store.execute_moves fun _ _ => h.events _ _) fun _ => .pure _

theorem appendEvent_moves (h : BlindJournal R) (insert : EventInsert) :
    (appendEvent insert).Moves (OnDb R) :=
  .bind (appendEventInTransaction_moves h _) fun _ => .bind commit_moves fun _ => .pure _

theorem appendRequest_moves (h : BlindJournal R) (insert : EventInsert) :
    (appendRequest insert).Moves (OnDb R) :=
  .bind (.require _ _) fun _ => .bind (.orFail _ _) fun _ => .bind (Store.read_moves _) fun _ =>
    .bind (.require _ _) fun _ => appendEvent_moves h insert

theorem appendChatIdempotent_moves (h : BlindJournal R) (workspace : WorkspaceName)
    (actorId requestId content : String) :
    (appendChatIdempotent workspace actorId requestId content).Moves (OnDb R) := by
  refine .bind (Store.read_moves _) fun found => ?_
  cases found with
  | some event => exact .bind (.require _ _) fun _ => .bind commit_moves fun _ => .pure _
  | none =>
    exact .bind (appendEventInTransaction_moves h _) fun _ => .bind commit_moves fun _ => .pure _

theorem createWorkspace_moves (h : BlindJournal R) (name : WorkspaceName) :
    (createWorkspace name).Moves (OnDb R) :=
  .bind Store.nowMillis_moves fun _ => .bind (insertWorkspace_moves h _ _) fun _ => .pure _

end statements

section tasks

variable [Std.Refl R]

theorem requireTask_moves (b : Bool) (code : RouterErrorCode) (operationId : Option Uuid) :
    (requireTask b code operationId).Moves (OnDb R) := .require _ _

theorem checkVersion_moves (current expected : ℕ) (operationId : Uuid) :
    (checkVersion current expected operationId).Moves (OnDb R) := .require _ _

variable [IsTrans Db R]

theorem taskStateVersion_moves (workspace : WorkspaceName) (taskId : ℕ) (operationId : Uuid) :
    (taskStateVersion workspace taskId operationId).Moves (OnDb R) :=
  .bind (Store.read_moves _) fun _ => .orFail _ _

theorem requireAttemptOwner_moves (caller : CallerContext) (taskId : ℕ) (attemptId : Uuid)
    (expectedVersion : ℕ) (operationId : Uuid) :
    (requireAttemptOwner caller taskId attemptId expectedVersion operationId).Moves (OnDb R) :=
  .bind (taskStateVersion_moves _ _ _) fun _ => .bind (checkVersion_moves _ _ _) fun _ =>
    .bind (.orFail _ _) fun _ => .bind (.orFail _ _) fun _ => .bind (Store.read_moves _) fun _ =>
    requireTask_moves _ _ _

/-- The version fence in front of most commands. -/
theorem fenced_moves {x : TaskRow → Store TaskError α} {workspace : WorkspaceName}
    {taskId expected : ℕ} {operationId : Uuid} (hx : ∀ row, (x row).Moves (OnDb R)) :
    (taskStateVersion workspace taskId operationId >>= fun row =>
      checkVersion row.version expected operationId >>= fun _ => x row).Moves (OnDb R) :=
  .bind (taskStateVersion_moves _ _ _) fun row => .bind (checkVersion_moves _ _ _) fun _ => hx row

variable [World]

theorem insertTextReport_moves (h : BlindTasks R) (caller : CallerContext) (taskId : ℕ)
    (attemptId : Option Uuid) (kind : ReportKind) (text : String) (createdAt : ℕ) :
    (insertTextReport caller taskId attemptId kind text createdAt).Moves (OnDb R) :=
  .bind Store.newUuid_moves fun _ =>
    .bind (.mapError (Store.insertRow_moves h.reports) _) fun _ => .pure _

theorem insertCheckpointReport_moves (h : BlindTasks R) (caller : CallerContext) (taskId : ℕ)
    (attemptId : Uuid) (kind : ReportKind) (checkpoint : TaskCheckpoint) (createdAt : ℕ) :
    (insertCheckpointReport caller taskId attemptId kind checkpoint createdAt).Moves (OnDb R) :=
  .bind Store.newUuid_moves fun _ =>
    .bind (.mapError (Store.insertRow_moves h.reports) _) fun _ => .pure _

theorem finishMutation_moves (h : BlindTasks R) (caller : CallerContext) (command : TaskCommand)
    (taskId appliedVersion : ℕ) (change : TaskChange)
    (attemptId reportId closedAttemptId : Option Uuid) (createdAt : ℕ) :
    (finishMutation caller command taskId appliedVersion change attemptId reportId closedAttemptId
      createdAt).Moves (OnDb R) :=
  .bind (.mapError (storeQuery_moves _) _) fun _ => .bind (.orFail _ _) fun _ =>
    .bind (.mapError (appendEventInTransaction_moves h.toBlindJournal _) _) fun _ =>
    .bind (.mapError (Store.insertRow_moves h.mutations) _) fun _ => .pure _

theorem applyCommand_moves (h : BlindTasks R) (caller : CallerContext) (command : TaskCommand) :
    (applyCommand caller command).Moves (OnDb R) := by
  have hupdate : ∀ key p f, (liftStore (updateTask key p f)).Moves (OnDb R) :=
    fun _ _ _ => .mapError (Store.updateRow_moves h.tasks) _
  have hattempt : ∀ id p f, (liftStore (updateAttempt id p f)).Moves (OnDb R) :=
    fun _ _ _ => .mapError (Store.updateRow_moves h.attempts) _
  have hfinish := finishMutation_moves h caller command
  have htext := insertTextReport_moves h caller
  have hcheckpoint := insertCheckpointReport_moves h caller
  cases command with
  | create operationId title description =>
    exact .bind (.mapError (takeTaskId_moves h.toBlindJournal _) _) fun _ =>
      .bind (.orFail _ _) fun _ => .bind Store.nowMillis_moves fun _ =>
      .bind (.mapError (Store.insertRow_moves h.tasks) _) fun _ => hfinish _ _ _ _ _ _ _
  | edit operationId taskId version title description =>
    exact fenced_moves fun _ => .bind (requireTask_moves _ _ _) fun _ =>
      .bind Store.nowMillis_moves fun _ => .bind (hupdate _ _ _) fun _ => hfinish _ _ _ _ _ _ _
  | assign operationId taskId version agentId =>
    exact fenced_moves fun _ => .bind (requireTask_moves _ _ _) fun _ =>
      .bind (Store.read_moves _) fun _ => .bind (requireTask_moves _ _ _) fun _ =>
      .bind Store.nowMillis_moves fun _ => .bind (hupdate _ _ _) fun _ => hfinish _ _ _ _ _ _ _
  | note operationId taskId text =>
    exact .bind (taskStateVersion_moves _ _ _) fun _ => .bind Store.nowMillis_moves fun _ =>
      .bind (htext _ _ _ _ _) fun _ => hfinish _ _ _ _ _ _ _
  | begin operationId taskId work version checkpoint note =>
    exact .bind (.orFail _ _) fun _ => .bind (.orFail _ _) fun _ =>
      .bind (requireTask_moves _ _ _) fun _ => fenced_moves fun _ =>
      .bind (requireTask_moves _ _ _) fun _ => .bind (requireTask_moves _ _ _) fun _ =>
      .bind (requireTask_moves _ _ _) fun _ => .bind Store.newUuid_moves fun _ =>
      .bind Store.nowMillis_moves fun _ =>
      .bind (.mapError (Store.insertRow_moves h.attempts) _) fun _ =>
      .bind (htext _ _ _ _ _) fun _ => .bind (hupdate _ _ _) fun _ => hfinish _ _ _ _ _ _ _
  | checkpoint operationId taskId attemptId version checkpoint =>
    exact .bind (requireAttemptOwner_moves _ _ _ _ _) fun _ => .bind Store.nowMillis_moves fun _ =>
      .bind (hcheckpoint _ _ _ _ _) fun _ => .bind (hupdate _ _ _) fun _ => hfinish _ _ _ _ _ _ _
  | pause operationId taskId attemptId version checkpoint blocked =>
    exact .bind (requireAttemptOwner_moves _ _ _ _ _) fun _ => .bind Store.nowMillis_moves fun _ =>
      .bind (hcheckpoint _ _ _ _ _) fun _ => .bind (hattempt _ _ _) fun _ =>
      .bind (hupdate _ _ _) fun _ => hfinish _ _ _ _ _ _ _
  | complete operationId taskId attemptId version checkpoint =>
    exact .bind (requireAttemptOwner_moves _ _ _ _ _) fun _ => .bind Store.nowMillis_moves fun _ =>
      .bind (hcheckpoint _ _ _ _ _) fun _ => .bind (hattempt _ _ _) fun _ =>
      .bind (hupdate _ _ _) fun _ => hfinish _ _ _ _ _ _ _
  | cancel operationId taskId version note =>
    exact fenced_moves fun _ => .bind (requireTask_moves _ _ _) fun _ =>
      .bind (Store.read_moves _) fun _ => .bind (requireTask_moves _ _ _) fun _ =>
      .bind Store.nowMillis_moves fun _ => .bind (htext _ _ _ _ _) fun _ =>
      .bind (hupdate _ _ _) fun _ => hfinish _ _ _ _ _ _ _
  | reopen operationId taskId version note =>
    exact fenced_moves fun _ => .bind (requireTask_moves _ _ _) fun _ =>
      .bind (Store.read_moves _) fun _ => .bind (requireTask_moves _ _ _) fun _ =>
      .bind Store.nowMillis_moves fun _ => .bind (htext _ _ _ _ _) fun _ =>
      .bind (hupdate _ _ _) fun _ => hfinish _ _ _ _ _ _ _
  | interrupt operationId taskId version note =>
    exact fenced_moves fun _ => .bind (requireTask_moves _ _ _) fun _ =>
      .bind (.orFail _ _) fun _ =>
      .bind Store.nowMillis_moves fun _ => .bind (htext _ _ _ _ _) fun _ =>
      .bind (hattempt _ _ _) fun _ => .bind (hupdate _ _ _) fun _ => hfinish _ _ _ _ _ _ _
  | confirmStopped operationId taskId attemptId version note =>
    exact fenced_moves fun _ => .bind (Store.read_moves _) fun _ =>
      .bind (requireTask_moves _ _ _) fun _ => .bind Store.nowMillis_moves fun _ =>
      .bind (htext _ _ _ _ _) fun _ => .bind (hattempt _ _ _) fun _ =>
      .bind (hupdate _ _ _) fun _ => hfinish _ _ _ _ _ _ _

theorem applyTask_moves (h : BlindTasks R) (caller : CallerContext) (command : TaskCommand) :
    (applyTask caller command).Moves (OnDb R) := by
  unfold applyTask
  cases validateCommand caller command with
  | some code => exact .fail _
  | none =>
    refine .bind (Store.read_moves _) fun found => ?_
    cases found with
    | some receipt =>
      exact .bind (requireTask_moves _ _ _) fun _ => .bind (Store.read_moves _) fun _ =>
        .bind (requireTask_moves _ _ _) fun _ => .bind (.mapError (storeQuery_moves _) _) fun _ =>
        .bind (.orFail _ _) fun _ => .bind (Store.read_moves _) fun _ =>
        .bind (.orFail _ _) fun _ => .bind (.mapError commit_moves _) fun _ => .pure _
    | none =>
      exact .bind (applyCommand_moves h caller command) fun _ =>
        .bind (.mapError commit_moves _) fun _ => .pure _

theorem appendTaskEvent_moves (h : BlindJournal R) (workspace : WorkspaceName) (actorId : String)
    (taskId : ℕ) (change : TaskChange) (attemptId externalOperationId : Option Uuid)
    (task : TaskSummary) :
    (appendTaskEvent workspace actorId taskId change attemptId externalOperationId task).Moves
      (OnDb R) := appendEventInTransaction_moves h _

theorem interruptAttempt_moves (h : BlindTasks R) (attemptId : Uuid) (reason : PauseReason) :
    (interruptAttempt attemptId reason).Moves (OnDb R) := by
  refine .bind (Store.read_moves _) fun found => ?_
  cases found with
  | none => exact .pure _
  | some row =>
    refine .ite (.bind commit_moves fun _ => .pure _) ?_
    exact .bind Store.nowMillis_moves fun _ => .bind (Store.updateRow_moves h.attempts) fun _ =>
      .bind (Store.updateRow_moves h.tasks) fun _ => .bind (.require _ _) fun _ =>
      .bind (storeQuery_moves _) fun _ => .bind (.orFail _ _) fun _ =>
      .bind (appendTaskEvent_moves h.toBlindJournal _ _ _ _ _ _ _) fun _ =>
      .bind commit_moves fun _ => .pure _

theorem recordExecutionStopped_moves (h : BlindTasks R) (workspace : WorkspaceName) (taskId : ℕ)
    (attemptId endedSessionId : Uuid) (agentId : String) (credentialId : Uuid)
    (reason : PauseReason) :
    (recordExecutionStopped workspace taskId attemptId endedSessionId agentId credentialId
      reason).Moves (OnDb R) := by
  have hupdate : ∀ key p f, (liftStore (updateTask key p f)).Moves (OnDb R) :=
    fun _ _ _ => .mapError (Store.updateRow_moves h.tasks) _
  have hattempt : ∀ id p f, (liftStore (updateAttempt id p f)).Moves (OnDb R) :=
    fun _ _ _ => .mapError (Store.updateRow_moves h.attempts) _
  -- What follows the two updates is the same for a running and an interrupted attempt.
  have hfinish : ∀ changed : ℕ, (Txn.require (changed = 1) (.ofStore .invalidData) >>= fun _ =>
      liftStore (storeQuery fun db => getTaskDetail db workspace taskId) >>= fun task =>
      Txn.orFail { code := .taskNotFound } task >>= fun task =>
      liftStore (appendTaskEvent workspace agentId taskId .stopped (some attemptId) none
        task.summary) >>= fun event =>
      liftStore commit >>= fun _ => pure (some event)).Moves (OnDb R) := fun _ =>
    .bind (.require _ _) fun _ => .bind (.mapError (storeQuery_moves _) _) fun _ =>
      .bind (.orFail _ _) fun _ =>
      .bind (.mapError (appendTaskEvent_moves h.toBlindJournal _ _ _ _ _ _ _) _) fun _ =>
      .bind (.mapError commit_moves _) fun _ => .pure _
  refine .bind (Store.read_moves _) fun _ => .bind (.orFail _ _) fun row =>
    .bind (.require _ _) fun _ => .ite (.bind (.mapError commit_moves _) fun _ => .pure _) ?_
  refine .bind (.require _ _) fun _ => .bind Store.nowMillis_moves fun _ => ?_
  exact .ite (.bind (hattempt _ _ _) fun _ => .bind (hupdate _ _ _) hfinish)
    (.bind (hattempt _ _ _) fun _ => .bind (hupdate _ _ _) hfinish)

end tasks

section admin

variable [Std.Refl R] [IsTrans Db R]

theorem serverIdConnection_moves : serverIdConnection.Moves (OnDb R) :=
  .bind (Store.read_moves _) fun _ => .bind (.require _ _) fun _ => .pure _

variable [World]

omit [World] in
theorem insertCredentialConnection_moves (h : AdminWrites R) (credential : CredentialFile)
    (now : ℕ) : (insertCredentialConnection credential now).Moves (OnDb R) :=
  .bind (.require _ _) fun _ => .bind (.require _ _) fun _ =>
    Store.insertRow_moves' fun db hnone _ => h.insertCredential db _ _ hnone rfl

theorem insertCredential_moves (h : AdminWrites R) (credential : CredentialFile) :
    (insertCredential credential).Moves (OnDb R) :=
  .bind Store.nowMillis_moves fun _ => insertCredentialConnection_moves h _ _

theorem generateCredential_moves (role : CredentialRole) (subject : String)
    (agentSide : Option AgentSide) (agentClient : Option AgentClient)
    (workspaces : List WorkspaceName) :
    (generateCredential role subject agentSide agentClient workspaces).Moves (OnDb R) :=
  .bind Store.randomToken_moves fun _ => .bind Store.newUuid_moves fun _ =>
    .bind (.require _ _) fun _ => .pure _

theorem revokeCredentialRow_moves (h : AdminWrites R) (id : Uuid) :
    (revokeCredentialRow id).Moves (OnDb R) := by
  refine .bind Store.nowMillis_moves fun _ => .bind (Store.updateRow_moves' fun db r hr hp => ?_)
    fun _ => .pure _
  rw [Bool.and_eq_true, Option.isNone_iff_eq_none] at hp
  exact h.revokeCredential db id r _ hr hp.1

theorem issueOnboardingInvite_moves (h : AdminWrites R) (workspace : WorkspaceName) (create : Bool)
    (provider : Option OnboardingProvider) (now : ℕ) :
    (issueOnboardingInvite workspace create provider now).Moves (OnDb R) := by
  have hinsert : ∀ id row result, row.enrollmentId = none → (insertInvite id row >>= fun _ =>
      commit >>= fun _ => pure (result : IssuedInvite)).Moves (OnDb R) := fun id row _ hrow =>
    .bind (Store.insertRow_moves' fun db hnone _ => h.insertInvite db id row hnone hrow) fun _ =>
      .bind commit_moves fun _ => .pure _
  refine .bind (.require _ _) fun _ => .bind Store.newUuid_moves fun _ =>
    .bind Store.randomToken_moves fun _ => .bind serverIdConnection_moves fun _ => ?_
  refine .ite (.bind (insertWorkspace_moves h.toBlindJournal _ _) fun _ => hinsert _ _ _ rfl) ?_
  exact .bind (Store.read_moves _) fun _ => .bind (.require _ _) fun _ => hinsert _ _ _ rfl

omit [World] in
theorem revokeOnboardingInvite_moves (h : AdminWrites R) (inviteId : Uuid) (now : ℕ) :
    (revokeOnboardingInvite inviteId now).Moves (OnDb R) :=
  .bind (.require _ _) fun _ => .bind (Store.updateRow_moves' fun db r hr _ =>
    h.revokeInvite db inviteId r now hr) fun _ => .require _ _

omit [World] in
theorem redeemOnboarding_moves (h : BlindAdmin R) (request : EnrollmentRequest) (now : ℕ) :
    (redeemOnboarding request now).Moves (OnDb R) := by
  refine .bind (.require _ _) fun _ => .bind (.require _ _) fun _ => .bind (.require _ _) fun _ =>
    .bind (.mapError serverIdConnection_moves _) fun _ => .bind (.require _ _) fun _ =>
    .bind (Store.read_moves _) fun _ => .bind (.orFail _ _) fun invite =>
    .bind (.require _ _) fun _ => .bind (.require _ _) fun _ => ?_
  dsimp only
  cases invite.enrollmentId with
  | some enrollmentId =>
    exact .bind (.require _ _) fun _ => .bind (Store.read_moves _) fun _ =>
      .bind (.orFail _ _) fun _ => .bind (.require _ _) fun _ =>
      .bind (.mapError commit_moves _) fun _ => .pure _
  | none =>
    exact .bind (.require _ _) fun _ =>
      .bind (.mapError (insertCredentialConnection_moves h.writes _ _) _) fun _ =>
      .bind (.mapError (Store.updateRow_moves h.invites) _) fun _ => .bind (.require _ _) fun _ =>
      .bind (.mapError commit_moves _) fun _ => .pure _

end admin

section external

variable [Std.Refl R] [IsTrans Db R] [World]

omit [IsTrans Db R] in
theorem nowInstant_moves : (nowInstant : Store ε ℕ).Moves (OnDb R) :=
  .of_wp fun t => ⟨Std.Refl.refl t.db, Nat.le_succ _⟩

theorem appendIntegrationEvent_moves (h : BlindJournal R) (workspace : WorkspaceName)
    (actorId : String) (taskId : Option ℕ) (event : IntegrationEvent) :
    (appendIntegrationEvent workspace actorId taskId event).Moves (OnDb R) :=
  .mapError (appendEventInTransaction_moves h _) _

omit [World] in
theorem requireTaskVersion_moves (workspace : WorkspaceName) (taskId expectedVersion : ℕ) :
    (requireTaskVersion workspace taskId expectedVersion).Moves (OnDb R) :=
  .bind (.mapError (storeQuery_moves _) _) fun _ => .bind (.orFail _ _) fun _ =>
    .bind (.require _ _) fun _ => .pure _

omit [World] in
theorem requireNoBlockingOperation_moves (workspace : WorkspaceName) (taskId : ℕ)
    (provider : ExternalProvider) :
    (requireNoBlockingOperation workspace taskId provider).Moves (OnDb R) := by
  refine .bind (Store.read_moves _) fun found => ?_
  split
  all_goals first | exact .fail _ | exact .pure _

theorem operationPayload_moves (caller : CallerContext) (active : ActiveIntegration)
    (command : ExternalCommand) : (operationPayload caller active command).Moves (OnDb R) := by
  cases command with
  | importTask operationId provider externalId => exact .pure _
  | link operationId taskId version provider externalId replace =>
    exact .bind (requireTaskVersion_moves _ _ _) fun _ =>
      .bind (requireNoBlockingOperation_moves _ _ _) fun _ => .pure _
  | publish operationId taskId version provider kind reportId =>
    refine .bind (.require _ _) fun _ => .bind (requireTaskVersion_moves _ _ _) fun _ =>
      .bind (requireNoBlockingOperation_moves _ _ _) fun _ => .bind Store.newUuid_moves fun _ => ?_
    cases kind with
    | issue => exact .bind (.require _ _) fun _ => .bind (.require _ _) fun _ => .pure _
    | report =>
      exact .bind (.orFail _ _) fun _ => .bind (.orFail _ _) fun _ =>
        .bind (.bind (Store.read_moves _) fun _ => .bind (.orFail _ _) fun _ => .pure _) fun _ =>
        .bind (.require _ _) fun _ => .pure _

theorem appendOperationEvent_moves (h : BlindJournal R) (workspace : WorkspaceName)
    (actorId : String) (operation : ExternalOperationSummary) :
    (appendOperationEvent workspace actorId operation).Moves (OnDb R) :=
  appendIntegrationEvent_moves h _ _ _ _

theorem prepareExternalOperation_moves (h : ExternalWrites R) (caller : CallerContext)
    (active : ActiveIntegration) (command : ExternalCommand) :
    (prepareExternalOperation caller active command).Moves (OnDb R) := by
  refine .bind (Store.read_moves _) fun found => ?_
  rcases found with code | (_ | summary)
  · exact .fail _
  · refine .bind (.require _ _) fun _ => .bind (operationPayload_moves _ _ _) fun parts =>
      .bind (.require _ _) fun _ => .bind Store.nowMillis_moves fun _ => ?_
    refine .bind (.mapError (Store.insertRow_moves' fun db hnone _ => ?_) _) fun _ =>
      .bind (appendOperationEvent_moves h.toBlindJournal _ _ _) fun _ =>
      .bind (.mapError commit_moves _) fun _ => .bind nowInstant_moves fun _ => .pure _
    exact h.insertOperation db _ _ hnone
  · exact .bind nowInstant_moves fun _ => .pure _

omit [Std.Refl R] [IsTrans Db R] [World] in
theorem insertResolution_moves (h : ExternalWrites R) (workspace : WorkspaceName)
    (resolutionId operationId : Uuid) (actorId : String) (requestHash : ResolutionRequest)
    (outcome : ExternalResolutionOutcome) (externalId : Option String) (note : String) (now : ℕ) :
    (insertResolution workspace resolutionId operationId actorId requestHash outcome externalId note
      now).Moves (OnDb R) :=
  .mapError (Store.insertRow_moves' fun db hnone hok => h.resolution db _ _ hnone hok) _

theorem completeNotAppliedResolution_moves (h : ExternalWrites R) (caller : CallerContext)
    (operation : ExternalOperationSummary) (resolutionId : Uuid) (note : String)
    (requestHash : ResolutionRequest) :
    (completeNotAppliedResolution caller operation resolutionId note requestHash).Moves
      (OnDb R) := by
  refine .bind Store.nowMillis_moves fun now =>
    .bind (insertResolution_moves h _ _ _ _ _ _ _ _ _) fun _ => ?_
  refine .bind (.mapError (Store.updateRow_moves' fun db r hr hp => ?_) _) fun _ =>
    .bind (.require _ _) fun _ => .bind (appendIntegrationEvent_moves h.toBlindJournal _ _ _ _)
      fun _ => .bind (.mapError commit_moves _) fun _ => .pure _
  exact h.updateOperation db _ r _ hr
    (.resolved .failed r.externalId r.url _ now (of_decide_eq_true hp) (.inr rfl))

omit [World] in
theorem requireResolver_moves (credentialId : Uuid) (workspace : WorkspaceName) :
    (requireResolver credentialId workspace).Moves (OnDb R) :=
  .bind (Store.read_moves _) fun _ => .bind (.orFail _ _) fun _ => .require _ _

theorem prepareExternalResolution_moves (h : ExternalWrites R) (caller : CallerContext)
    (active : ActiveIntegration) (operationId resolutionId : Uuid)
    (outcome : ExternalResolutionOutcome) (externalId : Option String) (note : String) :
    (prepareExternalResolution caller active operationId resolutionId outcome externalId
      note).Moves (OnDb R) := by
  refine .bind (.require _ _) fun _ => .bind (requireResolver_moves _ _) fun _ =>
    .bind (Store.read_moves _) fun found => ?_
  rcases found with _ | ⟨id, row⟩
  · refine .bind (Store.read_moves _) fun _ => .bind (.require _ _) fun _ =>
      .bind (Store.read_moves _) fun _ => .bind (.orFail _ _) fun row =>
      .bind (.require _ _) fun _ => .bind (.require _ _) fun _ => ?_
    cases outcome with
    | notApplied =>
      exact .bind (.require _ _) fun _ =>
        .bind (completeNotAppliedResolution_moves h _ _ _ _ _) fun _ => .pure _
    | applied =>
      exact .bind (.orFail _ _) fun _ => .bind (.orFail _ _) fun _ => .bind (.require _ _) fun _ =>
        .bind nowInstant_moves fun _ => .pure _
  · exact .bind (.require _ _) fun _ => .bind (Store.read_moves _) fun _ =>
      .bind (.orFail _ _) fun _ => .bind (Store.read_moves _) fun _ => .bind (.orFail _ _) fun _ =>
      .pure _

theorem markExternalDispatched_moves (h : ExternalWrites R)
    (prepared : PreparedExternalOperation) : (markExternalDispatched prepared).Moves (OnDb R) := by
  refine .bind Store.nowMillis_moves fun now =>
    .bind (.mapError (Store.updateRow_moves' fun db r hr hp => ?_) _) fun _ =>
    .bind (.require _ _) fun _ => .bind (Store.read_moves _) fun _ => .bind (.orFail _ _) fun _ =>
    .bind (appendOperationEvent_moves h.toBlindJournal _ _ _) fun _ =>
    .bind (.mapError commit_moves _) fun _ => .pure _
  simp only [Bool.and_eq_true, decide_eq_true_eq] at hp
  exact h.updateOperation db _ r _ hr (.dispatched now hp.1 hp.2)

omit [World] in
theorem updateTerminalOperation_moves (h : ExternalWrites R) (prepared : PreparedExternalOperation)
    {status : ExternalOperationStatus} (hfinal : status ≠ .running)
    (externalId url error : Option String) (now : ℕ) :
    (updateTerminalOperation prepared status externalId url error now).Moves (OnDb R) := by
  refine .bind (.mapError (Store.updateRow_moves' fun db r hr hp => ?_) _) fun _ =>
    .bind (.require _ _) fun _ => .pure _
  exact h.updateOperation db _ r _ hr
    (.finished _ status externalId url error now (of_decide_eq_true hp) hfinal)

/-- How every completion ends. -/
theorem terminal_moves (h : ExternalWrites R) (prepared : PreparedExternalOperation)
    {status : ExternalOperationStatus} (hfinal : status ≠ .running)
    (externalId url error : Option String) (now : ℕ) (workspace : WorkspaceName) (actorId : String)
    (taskEvent : Option WorkspaceEvent) :
    (updateTerminalOperation prepared status externalId url error now >>= fun operation =>
      appendOperationEvent workspace actorId operation >>= fun event =>
      liftCode commit >>= fun _ => pure ({ event, taskEvent } : ExternalCompletion)).Moves
      (OnDb R) :=
  .bind (updateTerminalOperation_moves h _ hfinal _ _ _ _) fun _ =>
    .bind (appendOperationEvent_moves h.toBlindJournal _ _ _) fun _ =>
    .bind (.mapError commit_moves _) fun _ => .pure _

theorem terminalSemanticConflict_moves (h : ExternalWrites R)
    (prepared : PreparedExternalOperation) (code : RouterErrorCode) (now : ℕ) :
    (terminalSemanticConflict prepared code now).Moves (OnDb R) :=
  terminal_moves h prepared (by simp) _ _ _ _ _ _ _

theorem appendExternalTaskEvent_moves (h : BlindJournal R) (workspace : WorkspaceName)
    (actorId : String) (taskId : ℕ) (operationId : Uuid) :
    (appendExternalTaskEvent workspace actorId taskId operationId).Moves (OnDb R) :=
  .bind (.mapError (storeQuery_moves _) _) fun _ => .bind (.orFail _ _) fun _ =>
    .mapError (appendTaskEvent_moves h _ _ _ _ _ _ _) _

omit [IsTrans Db R] [World] in
theorem touchTask_moves (h : BlindTasks R) (workspace : WorkspaceName) (taskId : ℕ)
    (actorId : String) (now : ℕ) : (touchTask workspace taskId actorId now).Moves (OnDb R) :=
  .mapError (Store.updateRow_moves h.tasks) _

theorem importIssue_moves (h : ExternalWrites R) (prepared : PreparedExternalOperation)
    (issue : ExternalIssue) (now : ℕ) : (importIssue prepared issue now).Moves (OnDb R) :=
  .bind (.mapError (takeTaskId_moves h.toBlindJournal _) _) fun _ => .bind (.orFail _ _) fun _ =>
    .bind (.mapError (Store.insertRow_moves h.tasks) _) fun _ => .bind Store.newUuid_moves fun _ =>
    .bind (.mapError (Store.insertRow_moves h.reports) _) fun _ =>
    .bind (.mapError (Store.insertRow_moves' fun db _ hok => h.link db _ _ hok) _) fun _ =>
    .bind (appendExternalTaskEvent_moves h.toBlindJournal _ _ _ _) fun _ => .pure _

theorem completeImport_moves (h : ExternalWrites R) (prepared : PreparedExternalOperation)
    (issue : ExternalIssue) : (completeImport prepared issue).Moves (OnDb R) := by
  refine .bind (.require _ _) fun _ => .bind (.require _ _) fun _ =>
    .bind Store.nowMillis_moves fun now => .bind (Store.read_moves _) fun found => ?_
  rcases found with _ | ⟨workspace, taskId⟩
  · exact .bind (importIssue_moves h _ _ _) fun _ => terminal_moves h _ (by simp) _ _ _ _ _ _ _
  · exact .ite (terminalSemanticConflict_moves h _ _ _) (terminal_moves h _ (by simp) _ _ _ _ _ _ _)

theorem completeLink_moves (h : ExternalWrites R) (prepared : PreparedExternalOperation)
    (issue : ExternalIssue) : (completeLink prepared issue).Moves (OnDb R) := by
  have hfail : (Txn.fail .storageError : Store RouterErrorCode ExternalCompletion).Moves (OnDb R) :=
    .fail _
  unfold completeLink
  split
  · refine .bind Store.nowMillis_moves fun now => .bind (Store.read_moves _) fun _ =>
      .bind (.orFail _ _) fun row => .bind (Store.read_moves _) fun _ =>
      .bind (Store.read_moves _) fun _ => ?_
    refine .ite (terminalSemanticConflict_moves h _ _ _)
      (.ite (terminalSemanticConflict_moves h _ _ _)
      (.ite (terminalSemanticConflict_moves h _ _ _) (.ite ?_ ?_)))
    · exact .bind (.pure _) fun _ => terminal_moves h _ (by simp) _ _ _ _ _ _ _
    · exact .bind (.mapError (Store.execute_moves fun db hok => h.link db _ _ hok) _) fun _ =>
        .bind (touchTask_moves h.toBlindTasks _ _ _ _) fun _ =>
        .bind (appendExternalTaskEvent_moves h.toBlindJournal _ _ _ _) fun _ =>
        .bind (.pure _) fun _ => terminal_moves h _ (by simp) _ _ _ _ _ _ _
  · exact hfail

theorem completeExternalRead_moves (h : ExternalWrites R) (prepared : PreparedExternalOperation)
    (issue : ExternalIssue) : (completeExternalRead prepared issue).Moves (OnDb R) := by
  unfold completeExternalRead
  split
  · exact completeImport_moves h _ _
  · exact completeLink_moves h _ _
  · exact .fail _

theorem linkPublishedIssue_moves (h : ExternalWrites R) (workspace : WorkspaceName) (taskId : ℕ)
    (provider : ExternalProvider) (ns actorId : String) (operationId : Uuid)
    (mutation : ExternalMutation) (now : ℕ) :
    (linkPublishedIssue workspace taskId provider ns actorId operationId mutation now).Moves
      (OnDb R) :=
  .bind (.mapError (Store.insertRow_moves' fun db _ hok => h.link db _ _ hok) _) fun _ =>
    .bind (touchTask_moves h.toBlindTasks _ _ _ _) fun _ =>
    .bind (appendExternalTaskEvent_moves h.toBlindJournal _ _ _ _) fun _ => .pure _

theorem completeExternalMutation_moves (h : ExternalWrites R)
    (prepared : PreparedExternalOperation) (mutation : ExternalMutation) :
    (completeExternalMutation prepared mutation).Moves (OnDb R) := by
  refine .bind Store.nowMillis_moves fun now => ?_
  dsimp only
  split
  · exact .bind (.orFail _ _) fun _ => .bind (linkPublishedIssue_moves h _ _ _ _ _ _ _ _) fun _ =>
      .bind (.pure _) fun _ => terminal_moves h _ (by simp) _ _ _ _ _ _ _
  · exact .bind (.pure _) fun _ => terminal_moves h _ (by simp) _ _ _ _ _ _ _
  · exact .bind (.fail _) fun _ => terminal_moves h _ (by simp) _ _ _ _ _ _ _

theorem terminalExternalError_moves (h : ExternalWrites R) (prepared : PreparedExternalOperation)
    {status : ExternalOperationStatus} (hfinal : status ≠ .running) (error : String) :
    (terminalExternalError prepared status error).Moves (OnDb R) :=
  .bind Store.nowMillis_moves fun _ => terminal_moves h prepared hfinal _ _ _ _ _ _ _

theorem completeExternalError_moves (h : ExternalWrites R) (prepared : PreparedExternalOperation)
    (error : IntegrationClientError) : (completeExternalError prepared error).Moves (OnDb R) := by
  cases error with
  | busy => exact terminalExternalError_moves h _ (by simp) _
  | failed code => exact terminalExternalError_moves h _ (by simp) _
  | unconfirmed code => exact terminalExternalError_moves h _ (by simp) _

theorem validateExternalSnapshot_moves (h : ExternalWrites R) (active : ActiveIntegration)
    (prepared : PreparedExternalOperation) (dispatchMutation : Bool) :
    (validateExternalSnapshot active prepared dispatchMutation).Moves (OnDb R) := by
  refine .bind (.require _ _) fun _ => .bind (Store.read_moves _) fun _ =>
    .bind (.orFail _ _) fun _ => .bind (.require _ _) fun _ => ?_
  cases prepared.payload with
  | none => exact .fail _
  | some payload =>
    refine .bind (Store.read_moves _) fun found => ?_
    cases found with
    | some code => exact .fail _
    | none => exact .ite (.bind (markExternalDispatched_moves h _) fun _ => .pure _) (.pure _)

omit [IsTrans Db R] [World] in
theorem refusal_moves (found : Option RouterErrorCode) :
    (match found with
      | some code => (Txn.fail code : Store RouterErrorCode Unit)
      | none => pure ()).Moves (OnDb R) := by
  cases found with
  | some code => exact .fail _
  | none => exact .pure _

theorem validateResolutionSnapshot_moves (active : ActiveIntegration)
    (prepared : PreparedExternalResolution) :
    (validateResolutionSnapshot active prepared).Moves (OnDb R) := by
  refine .bind nowInstant_moves fun _ => .bind (.require _ _) fun _ => .bind (.require _ _) fun _ =>
    .bind (requireResolver_moves _ _) fun _ => .bind (Store.read_moves _) fun _ =>
    .bind (.require _ _) fun _ => ?_
  cases prepared.payload with
  | importTask externalId => exact .fail _
  | link externalId version replace => exact .fail _
  | publishIssue creationId title body marker => exact .bind (Store.read_moves _) refusal_moves
  | publishReport creationId issueId reportId body marker =>
    exact .bind (Store.read_moves _) refusal_moves

theorem completeAppliedResolution_moves (h : ExternalWrites R)
    (prepared : PreparedExternalResolution) (mutation : ExternalMutation) :
    (completeAppliedResolution prepared mutation).Moves (OnDb R) := by
  refine .bind (.require _ _) fun _ => .bind Store.nowMillis_moves fun now => ?_
  -- What follows the change of the task is the same for both kinds of publication.
  have hfinish : ∀ taskEvent : Option WorkspaceEvent,
      (liftCode (updateOperation (prepared.workspace, prepared.operationId)
          (fun r => r.status = .unconfirmed) fun r => { r with
            status := .succeeded
            externalId := some mutation.externalId
            url := some mutation.url
            error := none
            updatedAt := now }) >>= fun changed =>
        Txn.require (changed = 1) .externalConflict >>= fun _ =>
        insertResolution prepared.workspace prepared.resolutionId prepared.operationId
          prepared.actorId prepared.requestHash .applied (some mutation.externalId) prepared.note
          now >>= fun _ =>
        (Store.read fun db => operationSummary db prepared.workspace prepared.operationId) >>=
          fun operation =>
        Txn.orFail .storageError operation >>= fun operation =>
        appendResolutionEvent prepared.workspace prepared.actorId operation
          { id := prepared.resolutionId, operationId := prepared.operationId,
            actorId := prepared.actorId, outcome := .applied,
            externalId := some mutation.externalId, note := prepared.note,
            createdAt := now } >>= fun event =>
        liftCode commit >>= fun _ =>
        pure ({ operation, event, taskEvent,
                resolution := { id := prepared.resolutionId, operationId := prepared.operationId,
                                actorId := prepared.actorId, outcome := .applied,
                                externalId := some mutation.externalId, note := prepared.note,
                                createdAt := now } } : ExternalResolutionCompletion)).Moves
        (OnDb R) := by
    intro taskEvent
    refine .bind (.mapError (Store.updateRow_moves' fun db r hr hp => ?_) _) fun _ =>
      .bind (.require _ _) fun _ => .bind (insertResolution_moves h _ _ _ _ _ _ _ _ _) fun _ =>
      .bind (Store.read_moves _) fun _ => .bind (.orFail _ _) fun _ =>
      .bind (appendIntegrationEvent_moves h.toBlindJournal _ _ _ _) fun _ =>
      .bind (.mapError commit_moves _) fun _ => .pure _
    exact h.updateOperation db _ r _ hr
      (.resolved .succeeded _ _ _ now (of_decide_eq_true hp) (.inl rfl))
  dsimp only
  cases prepared.payload with
  | importTask externalId => exact .bind (.fail _) fun taskEvent => hfinish taskEvent
  | link externalId version replace => exact .bind (.fail _) fun taskEvent => hfinish taskEvent
  | publishIssue creationId title body marker =>
    exact .bind (.orFail _ _) fun _ => .bind (linkPublishedIssue_moves h _ _ _ _ _ _ _ _) fun _ =>
      .bind (.require _ _) fun _ => .bind (.pure _) fun taskEvent => hfinish taskEvent
  | publishReport creationId issueId reportId body marker =>
    exact .bind (.pure _) fun taskEvent => hfinish taskEvent

end external

section recovery

variable [Std.Refl R] [IsTrans Db R] [World]

theorem recoverUnfinishedRequests_moves (h : BlindJournal R) :
    recoverUnfinishedRequests.Moves (OnDb R) :=
  .bind (Store.read_moves _) fun _ =>
    .bind (.each (fun _ => appendEventInTransaction_moves h _) _) fun _ => .pure _

theorem recoverAttempt_moves (h : BlindTasks R) (now : ℕ) (attempt : Uuid × AttemptRow) :
    (recoverAttempt now attempt).Moves (OnDb R) :=
  .bind (Store.updateRow_moves h.attempts) fun _ => .bind (Store.updateRow_moves h.tasks) fun _ =>
    .bind (storeQuery_moves _) fun _ => .bind (.orFail _ _) fun _ =>
    appendTaskEvent_moves h.toBlindJournal _ _ _ _ _ _ _

theorem recoverRunningAttempts_moves (h : BlindTasks R) :
    recoverRunningAttempts.Moves (OnDb R) :=
  .bind Store.nowMillis_moves fun _ => .bind (Store.read_moves _) fun _ =>
    .bind (.each (fun _ => recoverAttempt_moves h _ _) _) fun _ => .pure _

omit [Std.Refl R] [IsTrans Db R] [World] in
theorem recoveredStatus_final (r : OperationRow) : (recoveredStatus r).1 ≠ .running := by
  unfold recoveredStatus
  split
  · simp
  · split <;> simp

theorem recoverExternalOperations_moves (h : ExternalWrites R) :
    recoverExternalOperations.Moves (OnDb R) := by
  refine .bind Store.nowMillis_moves fun now => .bind (Store.read_moves _) fun _ =>
    .bind (.each (fun operation => ?_) _) fun _ => .pure _
  refine .bind (Store.updateRow_moves' fun db r hr hp => ?_) fun _ =>
    appendEventInTransaction_moves h.toBlindJournal _
  exact h.updateOperation db _ r _ hr (.finished r.taskId _ r.externalId r.url _ now
    (of_decide_eq_true hp) (recoveredStatus_final operation.2))

theorem recoverExternalInflight_moves (h : ExternalWrites R) :
    recoverExternalInflight.Moves (OnDb R) :=
  .bind (recoverExternalOperations_moves h) fun _ => commit_moves

theorem recover_moves (h : ExternalWrites R) : recover.Moves (OnDb R) :=
  .bind (recoverUnfinishedRequests_moves h.toBlindJournal) fun _ =>
    .bind (recoverRunningAttempts_moves h.toBlindTasks) fun _ =>
    .bind (recoverExternalOperations_moves h) fun _ => commit_moves

end recovery

section catalog

variable [Std.Refl R] [IsTrans Db R] [World]

theorem applyConnection_moves (h : BlindJournal R) (hb : ∀ db m, R db (setBindings m db))
    (stored : List StoredBinding) (now : ℕ) (connection : IntegrationConnection) :
    (applyConnection stored now connection).Moves (OnDb R) :=
  .bind (.mapError (Store.execute_moves fun _ _ => hb _ _) _) fun _ =>
    .ite (.bind (appendIntegrationEvent_moves h _ _ _ _) fun _ => .bind (.pure _) fun _ => .pure _)
      (.bind (.pure _) fun _ => .pure _)

omit [Std.Refl R] [IsTrans Db R] [World] in
theorem disableBindings_moves (hb : ∀ db m, R db (setBindings m db))
    (f : BindingRow → BindingRow) : (disableBindings f).Moves (OnDb R) :=
  .of_wp fun t => ⟨hb t.db _, le_rfl⟩

theorem applyCatalog_moves (h : BlindJournal R) (hb : ∀ db m, R db (setBindings m db))
    (connections : List IntegrationConnection) :
    (applyCatalog connections).Moves (OnDb R) := by
  refine .bind (Store.read_moves _) fun stored => .bind (Store.read_moves _) fun found => ?_
  cases found with
  | some code => exact .fail _
  | none =>
    exact .bind Store.nowMillis_moves fun _ =>
      .bind (.mapError (disableBindings_moves hb _) _) fun _ =>
      .bind (.each (applyConnection_moves h hb _ _) _) fun _ =>
      .bind (.each (fun _ => appendIntegrationEvent_moves h _ _ _ _) _) fun _ =>
      .bind (.mapError commit_moves _) fun _ => .pure _

end catalog

end

end SessionRouter
