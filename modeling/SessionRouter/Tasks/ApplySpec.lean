import SessionRouter.Tasks.Finish

/-!
What each task command does when it is applied for the first time. A command fails with a storage
error only when a counter is at its limit or its title is empty to the database.
-/

namespace SessionRouter

/-- The caller of a command as the router presents it. -/
structure CallerContext.Sound (caller : CallerContext) (db : Db) : Prop where
  actor : ValidActor caller.actorId
  workspace : ∃ row, db.workspaces.get? caller.workspace = some row
  reserved : ∀ r, caller.reservation = some r →
    stopUnconfirmed db caller.workspace r.taskId = false

/-- The new title begins with NUL, and the database counts no character of it. -/
def TaskCommand.hidesTitle : TaskCommand → Bool
  | .create _ title _ => sqlLength title = 0
  | .edit _ _ _ title _ => title.any fun value => sqlLength value = 0
  | _ => false

/-- A storage error has one of the two known causes. -/
def Excused (db : Db) (command : TaskCommand) (e : TaskError) : Prop :=
  e.code = .storageError → Exhausted db ∨ command.hidesTitle = true

def TaskCommand.interrupts? : TaskCommand → Option ℕ
  | .interrupt _ taskId .. => some taskId
  | _ => none

def TaskCommand.confirms? : TaskCommand → Option Uuid
  | .confirmStopped _ _ attemptId .. => some attemptId
  | _ => none

/-- A new attempt is the one its command begins. -/
structure Begun (caller : CallerContext) (command : TaskCommand) (result : TaskApplyResult)
    (id : Uuid) (a : AttemptRow) : Prop where
  command : command.workRequest? = some a.workRequestId
  running : a.status = .running
  workspace : a.workspace = caller.workspace
  agent : caller.agentId = some a.agentId
  session : caller.sessionId = some a.sessionId
  credential : a.credentialId = caller.credentialId
  generation : a.connectionGeneration = caller.connectionGeneration
  reservation : ∃ r, caller.reservation = some r ∧ r.taskId = a.taskId ∧
    r.workRequestId = a.workRequestId
  current : result.mutation.task.summary.currentAttemptId = some id

/-- What a command does when it is applied for the first time. -/
structure Applied [World] (caller : CallerContext) (command : TaskCommand) (t : Tx)
    (result : TaskApplyResult) (t' : Tx) : Prop where
  inv : DbInv t'.db t'.tick
  tick : t.tick ≤ t'.tick
  grows : Extends t.db t'.db [result.event]
  kind : result.event.kind = .task
  workspace : result.event.workspace = caller.workspace
  attempts : AttemptsFrom t.db t'.db (Begun caller command result)
    fun _ a => ∃ taskId, command.interrupts? = some taskId ∧ a.isOf caller.workspace taskId
  begun : ∀ work, command.workRequest? = some work → ∃ id a, t.db.attempts.get? id = none ∧
    t'.db.attempts.get? id = some a ∧ Begun caller command result id a
  confirmed : ∀ id, command.confirms? = some id →
    ∃ a, t.db.attempts.get? id = some a ∧ a.unconfirmed = true

section

variable [World] {t : Tx} {caller : CallerContext} {command : TaskCommand}

omit [World] in
theorem taskStateVersion_spec {workspace : WorkspaceName} {taskId : ℕ} {operationId : Uuid}
    {Q : TaskRow → Tx → Prop} {E : TaskError → Prop}
    (hQ : ∀ r, t.db.tasks.get? (workspace, taskId) = some r → Q r t)
    (hE : E { code := .taskNotFound, operationId := some operationId }) :
    Txn.wp (taskStateVersion workspace taskId operationId) Q E t := by
  unfold taskStateVersion
  simp only [Txn.wp_bind, Store.wp_read, Txn.wp_orFail]
  exact ⟨hQ, fun _ => hE⟩

omit [World] in
theorem checkVersion_spec {current expected : ℕ} {operationId : Uuid} {Q : Unit → Tx → Prop}
    {E : TaskError → Prop} (hQ : current = expected → Q () t)
    (hE : E { code := .taskConflict, currentVersion := some current,
              operationId := some operationId }) :
    Txn.wp (checkVersion current expected operationId) Q E t := by
  unfold checkVersion
  rw [Txn.wp_require]
  exact ⟨fun h => hQ (by simpa using h), fun _ => hE⟩

omit [World] in
theorem requireTask_spec {b : Bool} {code : RouterErrorCode} {operationId : Option Uuid}
    {Q : Unit → Tx → Prop} {E : TaskError → Prop} (hQ : b = true → Q () t)
    (hE : E { code, operationId }) : Txn.wp (requireTask b code operationId) Q E t := by
  unfold requireTask
  rw [Txn.wp_require]
  exact ⟨hQ, fun _ => hE⟩

omit [World] in
theorem Excused.of_code {db : Db} {code : RouterErrorCode} {version : Option ℕ}
    {operationId : Option Uuid} (h : code ≠ .storageError) :
    Excused db command { code, currentVersion := version, operationId } :=
  fun hcode => absurd hcode h

/-- A finished draft that leaves the attempts alone. -/
theorem Applied.of_touch {d : TaskDraft} {e : WorkspaceEvent}
    {receipt : Option (Uuid × MutationRow)} {tick : ℕ} {change : TaskChange}
    {result : TaskApplyResult} (hinv : DbInv (t.db.complete d e receipt) tick)
    (hle : t.tick ≤ tick) (hkeeps : d.Keeps t.db) (hfollows : d.follows t.db change)
    (hatt : d.attempt = none)
    (hevent : result.event = e) (hkind : e.kind = .task) (hw : e.workspace = caller.workspace)
    (hbegin : command.workRequest? = none) (hconfirm : command.confirms? = none) :
    Applied caller command t result { db := t.db.complete d e receipt, tick } where
  inv := hinv
  tick := hle
  grows := by
    rw [hevent]
    exact .complete hkeeps hfollows (by simp [hatt])
  kind := by rw [hevent]; exact hkind
  workspace := by rw [hevent]; exact hw
  attempts := .of_eq (Db.draft_attempts_none hatt)
  begun := by simp [hbegin]
  confirmed := by simp [hconfirm]

/-- What fits when only columns of the task row and a report change. -/
theorem TaskDraft.Fits.touch {d : TaskDraft} {tick : ℕ} {r : TaskRow} (h : DbInv t.db t.tick)
    (hr : t.db.tasks.get? (d.workspace, d.taskId) = some r) (hkeeps : d.Keeps t.db)
    (hatt : d.attempt = none)
    (hcheck : d.row.check d.taskId = true)
    (hcurrent : d.row.currentAttemptId = r.currentAttemptId)
    (hlast : d.row.lastAttemptId = r.lastAttemptId)
    (hterminal : d.row.state.isTerminal = true → ∀ i b, t.db.attempts.get? i = some b →
      b.isOf d.workspace d.taskId → b.barrier = false)
    (hreport : ∀ id p, d.report = some (id, p) → t.db.reports.get? id = none ∧
      p.isOf d.workspace d.taskId ∧ bodyMatches p.kind p.body = true ∧ Drawn tick id)
    (hcheckpoint : d.row.lastCheckpointId = r.lastCheckpointId ∨
      ReportLoads (t.db.draft d) d.row.lastCheckpointId)
    (hresult : d.row.resultReportId = r.resultReportId ∨ d.row.resultReportId = none) :
    d.Fits t.db tick := by
  have hlocal := h.tasks.locals _ _ r hr
  have hnew := fun i p hp => (hreport i p hp).1
  refine
    { check := hcheck
      keeps := hkeeps
      fit := hlocal.fit.touch hatt hcurrent hlast hterminal
      checkpoint := ?_
      result := ?_
      id := h.tasks.ids _ _ r hr
      attempt := by simp [hatt]
      report := hreport }
  · rcases hcheckpoint with heq | hload
    · rw [heq]
      exact hlocal.checkpoint.draft hnew
    · exact hload
  · rcases hresult with heq | hnone
    · rw [heq]
      exact hlocal.result.draft hnew
    · rw [hnone]
      intro i hi
      cases hi

omit [World] in
/-- A row whose version is one larger passes its check unless the version is at its limit. -/
theorem check_bump {taskId : ℕ} {r r' : TaskRow} (hfail : r'.check taskId = false)
    (h : r.check taskId = true) (hversion : r'.version = r.version + 1)
    (htitle : 0 < sqlLength r'.title ∧ r'.title.utf8ByteSize ≤ 1024)
    (hdescription : r'.description.utf8ByteSize ≤ 65536) (hcreated : r'.createdAt = r.createdAt)
    (hupdated : r'.updatedAt ≤ maxSafeInteger)
    (hstate : r'.state = .inProgress ↔ r'.currentAttemptId.isSome = true)
    (hassigned : r'.state.isTerminal = true → r'.assignedAgentId = none) :
    maxSafeInteger ≤ r.version := by
  by_contra hlt
  rw [TaskRow.check_iff] at h
  have : r'.check taskId = true := by
    rw [TaskRow.check_iff]
    exact ⟨h.1, by omega, htitle, hdescription, ⟨by omega, hupdated⟩, hstate, hassigned⟩
  rw [this] at hfail
  cases hfail

omit [World] in
theorem ite_none_some {b : Bool} {code : RouterErrorCode}
    (h : (if b then none else some code) = none) : b = true := by
  cases b with
  | true => rfl
  | false => cases h

omit [World] in
theorem validateTitle_size {title : String} (h : validateTitle title = true) :
    title.utf8ByteSize ≤ 1024 := by
  simp only [validateTitle, validateNonemptyText, validateText, Bool.and_eq_true,
    decide_eq_true_eq] at h
  exact h.1.2

omit [World] in
theorem validateNonemptyText_size {text : String} {limit : ℕ}
    (h : validateNonemptyText text limit = true) : text.utf8ByteSize ≤ limit := by
  simp only [validateNonemptyText, validateText, Bool.and_eq_true, decide_eq_true_eq] at h
  exact h.2

theorem applyEdit_spec {operationId : Uuid} {taskId expectedVersion : ℕ}
    {title description : Option String} (h : DbInv t.db t.tick) (hcaller : caller.Sound t.db)
    (hcommand : command = .edit operationId taskId expectedVersion title description)
    (hvalid : validateCommand caller command = none)
    (hunused : t.db.mutations.get? (caller.workspace, command.operationId) = none) :
    Txn.wp (applyEdit caller command taskId expectedVersion title description)
      (Applied caller command t) (Excused t.db command) t := by
  subst hcommand
  unfold applyEdit liftStore
  simp only [Txn.wp_bind, Txn.wp_mapError, Store.wp_nowMillis]
  refine taskStateVersion_spec (fun r hr => ?_) (.of_code (by decide))
  refine checkVersion_spec (fun hversion => ?_) (.of_code (by decide))
  refine requireTask_spec (fun hstate => ?_) (.of_code (by decide))
  subst hversion
  have hlocal := h.tasks.locals _ _ r hr
  obtain ⟨-, -, htitle, hdescription, -, hstates, hassigned⟩ := TaskRow.check_iff.mp hlocal.check
  let d : TaskDraft :=
    { workspace := caller.workspace, taskId
      row := { r with
        title := title.getD r.title
        description := description.getD r.description
        version := r.version + 1
        updatedBy := caller.actorId
        updatedAt := World.now t.tick } }
  refine updateTask_spec hr rfl hcaller.workspace (fun hcheck => ?_) (fun hfail => ?_)
  · have hfits : d.Fits t.db (t.tick + 1) :=
      .touch h hr (by simp [TaskDraft.Keeps, d]) rfl hcheck rfl rfl (hlocal.fit.terminal)
      (by simp [d]) (.inl rfl) (.inl rfl)
    have hfollows : d.follows t.db .edited := by simp [TaskDraft.follows, d, hr]
    refine finishMutation_spec (d := d) h (Nat.le_succ _) hfits hfollows hcaller.actor
      ⟨by simp, by simp⟩ rfl rfl hunused (by simp [TaskCommand.workRequest?]) (by simp) ?_
      (fun hx _ => .inl hx.exhausted)
    intro e task receipt hkind hw hsummary hinv
    exact .of_touch hinv (Nat.le_add_right _ 2) hfits.keeps hfollows rfl rfl hkind hw rfl rfl
  · intro _
    by_cases hhidden : (TaskCommand.edit operationId taskId r.version title description).hidesTitle
    · exact .inr hhidden
    have hchecks := ite_none_some hvalid
    simp only [Bool.and_eq_true] at hchecks
    refine .inl (.inr ⟨_, r, hr, check_bump hfail hlocal.check rfl ?_ ?_ rfl (World.now_le _)
      hstates hassigned⟩)
    · cases title with
      | none => exact htitle
      | some value =>
        have hlen : ¬sqlLength value = 0 := by simpa [TaskCommand.hidesTitle] using hhidden
        exact ⟨Nat.pos_of_ne_zero hlen, validateTitle_size hchecks.1.2⟩
    · cases description with
      | none => exact hdescription
      | some value => exact of_decide_eq_true hchecks.2

theorem applyAssign_spec {operationId : Uuid} {taskId expectedVersion : ℕ}
    {agentId : Option String} (h : DbInv t.db t.tick) (hcaller : caller.Sound t.db)
    (hcommand : command = .assign operationId taskId expectedVersion agentId)
    (hunused : t.db.mutations.get? (caller.workspace, command.operationId) = none) :
    Txn.wp (applyAssign caller command taskId expectedVersion agentId)
      (Applied caller command t) (Excused t.db command) t := by
  subst hcommand
  unfold applyAssign liftStore
  simp only [Txn.wp_bind, Txn.wp_mapError, Store.wp_nowMillis, Store.wp_read]
  refine taskStateVersion_spec (fun r hr => ?_) (.of_code (by decide))
  refine checkVersion_spec (fun hversion => ?_) (.of_code (by decide))
  refine requireTask_spec (fun hstate => ?_) (.of_code (by decide))
  refine requireTask_spec (fun _ => ?_) (.of_code (by decide))
  subst hversion
  have hlocal := h.tasks.locals _ _ r hr
  obtain ⟨-, -, htitle, hdescription, -, hstates, hassigned⟩ := TaskRow.check_iff.mp hlocal.check
  let d : TaskDraft :=
    { workspace := caller.workspace, taskId
      row := { r with
        assignedAgentId := agentId
        version := r.version + 1
        updatedBy := caller.actorId
        updatedAt := World.now t.tick } }
  refine updateTask_spec hr rfl hcaller.workspace (fun hcheck => ?_) (fun hfail => ?_)
  · have hfits : d.Fits t.db (t.tick + 1) :=
      .touch h hr (by simp [TaskDraft.Keeps, d]) rfl hcheck rfl rfl (hlocal.fit.terminal)
        (by simp [d]) (.inl rfl) (.inl rfl)
    have hfollows : d.follows t.db .assigned := by simp [TaskDraft.follows, d, hr]
    refine finishMutation_spec (d := d) h (Nat.le_succ _) hfits hfollows hcaller.actor
      ⟨by simp, by simp⟩ rfl rfl hunused (by simp [TaskCommand.workRequest?]) (by simp) ?_
      (fun hx _ => .inl hx.exhausted)
    intro e task receipt hkind hw hsummary hinv
    exact .of_touch hinv (Nat.le_add_right _ 2) hfits.keeps hfollows rfl rfl hkind hw rfl rfl
  · intro _
    refine .inl (.inr ⟨_, r, hr, check_bump hfail hlocal.check rfl htitle hdescription rfl
      (World.now_le _) hstates ?_⟩)
    intro hterminal
    simp only [hterminal] at hstate
    cases hstate

/-- A report whose id was just drawn is new. -/
theorem TaskTables.report_unused {db : Db} {tick k : ℕ} (h : TaskTables db tick) (hle : tick ≤ k) :
    db.reports.get? (World.uuid k) = none := by
  by_contra hne
  obtain ⟨p, hp⟩ := Option.ne_none_iff_exists'.mp hne
  exact (h.reports _ p hp).drawn.ne_next hle rfl

theorem insertTextReport_spec {taskId : ℕ} {attemptId : Option Uuid} {kind : ReportKind}
    {text : String} {createdAt : ℕ} {Q : Uuid → Tx → Prop} {E : TaskError → Prop}
    (hnew : t.db.reports.get? (World.uuid t.tick) = none) (hsize : text.utf8ByteSize ≤ maxNoteBytes)
    (htime : createdAt ≤ maxSafeInteger)
    (htask : ∃ r, t.db.tasks.get? (caller.workspace, taskId) = some r)
    (hattempt : ∀ i, attemptId = some i → ∃ a, t.db.attempts.get? i = some a)
    (hQ : Q (World.uuid t.tick)
      { db := setReports (t.db.reports.put (World.uuid t.tick)
          { workspace := caller.workspace, taskId, attemptId, actorId := caller.actorId, kind,
            body := .text text, createdAt }) t.db
        tick := t.tick + 1 }) :
    Txn.wp (insertTextReport caller taskId attemptId kind text createdAt) Q E t := by
  unfold insertTextReport liftStore
  simp only [Txn.wp_bind, Store.wp_newUuid, Txn.wp_mapError, Txn.wp_pure]
  exact insertReport_spec hnew (reportRow_check_text rfl hsize htime) htask hattempt hQ

theorem insertCheckpointReport_spec {taskId : ℕ} {attemptId : Uuid} {kind : ReportKind}
    {checkpoint : TaskCheckpoint} {createdAt : ℕ} {Q : Uuid → Tx → Prop} {E : TaskError → Prop}
    (hnew : t.db.reports.get? (World.uuid t.tick) = none) (hvalid : checkpoint.validate = true)
    (htime : createdAt ≤ maxSafeInteger)
    (htask : ∃ r, t.db.tasks.get? (caller.workspace, taskId) = some r)
    (hattempt : ∃ a, t.db.attempts.get? attemptId = some a)
    (hQ : Q (World.uuid t.tick)
      { db := setReports (t.db.reports.put (World.uuid t.tick)
          { workspace := caller.workspace, taskId, attemptId := some attemptId,
            actorId := caller.actorId, kind, body := .checkpoint checkpoint, createdAt }) t.db
        tick := t.tick + 1 }) :
    Txn.wp (insertCheckpointReport caller taskId attemptId kind checkpoint createdAt) Q E t := by
  unfold insertCheckpointReport liftStore
  simp only [Txn.wp_bind, Store.wp_newUuid, Txn.wp_mapError, Txn.wp_pure]
  refine insertReport_spec hnew (reportRow_check_checkpoint rfl hvalid htime) htask ?_ hQ
  intro i hi
  cases hi
  exact hattempt

omit [World] in
/-- The last attempt of a task, as an event may refer to it. -/
theorem TaskLocal.refers_last {d : TaskDraft} {db : Db} {r : TaskRow} {reportId : Option Uuid}
    (h : TaskLocal db d.workspace d.taskId r) (hatt : d.attempt = none)
    (hreport : ∀ id, reportId = some id →
      ∃ p, (db.draft d).reports.get? id = some p ∧ p.isOf d.workspace d.taskId) :
    d.Refers db r.lastAttemptId reportId where
  attempt := by
    rw [Db.draft_attempts_none hatt]
    exact h.fit.last
  report := hreport

theorem applyNote_spec {operationId : Uuid} {taskId : ℕ} {text : String} (h : DbInv t.db t.tick)
    (hcaller : caller.Sound t.db) (hcommand : command = .note operationId taskId text)
    (hvalid : validateCommand caller command = none)
    (hunused : t.db.mutations.get? (caller.workspace, command.operationId) = none) :
    Txn.wp (applyNote caller command taskId text)
      (Applied caller command t) (Excused t.db command) t := by
  subst hcommand
  have hsize : text.utf8ByteSize ≤ maxNoteBytes := validateNonemptyText_size (ite_none_some hvalid)
  unfold applyNote
  simp only [Txn.wp_bind, Store.wp_nowMillis]
  refine taskStateVersion_spec (fun r hr => ?_) (.of_code (by decide))
  have hlocal := h.tasks.locals _ _ r hr
  have hnew := h.tasks.report_unused (Nat.le_succ t.tick)
  refine insertTextReport_spec hnew hsize (World.now_le _) ⟨r, hr⟩ hlocal.loads.last ?_
  let d : TaskDraft :=
    { workspace := caller.workspace, taskId, row := r, kept := true
      report := some (World.uuid (t.tick + 1),
        { workspace := caller.workspace, taskId, attemptId := r.lastAttemptId,
          actorId := caller.actorId, kind := .note, body := .text text,
          createdAt := World.now t.tick }) }
  have hfits : d.Fits t.db (t.tick + 2) := by
    refine .touch h hr (fun _ => hr) rfl hlocal.check rfl rfl hlocal.fit.terminal ?_ (.inl rfl)
      (.inl rfl)
    intro i p hp
    cases hp
    exact ⟨hnew, ⟨rfl, rfl⟩, rfl, t.tick + 1, by omega, rfl⟩
  have hfollows : d.follows t.db .noted := by simp [TaskDraft.follows, d, hr]
  refine finishMutation_spec (d := d) h (Nat.le_add_right _ 2) hfits hfollows hcaller.actor
    (hlocal.refers_last rfl ?_) rfl rfl hunused (by simp [TaskCommand.workRequest?])
    (fun _ => rfl) ?_ (fun hx _ => .inl hx.exhausted)
  · intro id hid
    cases hid
    exact ⟨_, Db.draft_report rfl, rfl, rfl⟩
  intro e task receipt hkind hw hsummary hinv
  exact .of_touch hinv (Nat.le_add_right _ 3) hfits.keeps hfollows rfl rfl hkind hw rfl rfl

omit [World] in
theorem stopUnconfirmed_eq_false {db : Db} {w : WorkspaceName} {taskId : ℕ} :
    stopUnconfirmed db w taskId = false ↔ ∀ id a, db.attempts.get? id = some a →
      a.isOf w taskId → a.unconfirmed = false := by
  simp only [stopUnconfirmed, List.any_eq_false, Prod.forall, Table.mem_toList, AttemptRow.isOf,
    AttemptRow.unconfirmed, Bool.and_eq_true, decide_eq_true_eq, not_and, Bool.and_eq_false_imp,
    decide_eq_false_iff_not, and_imp]

omit [World] in
/-- A task whose current attempt is unset and whose stops are confirmed has no live attempt. -/
theorem TaskFit.quiet {db : Db} {w : WorkspaceName} {taskId : ℕ} {r : TaskRow}
    (h : TaskFit db w taskId r) (hcurrent : r.currentAttemptId = none)
    (hstop : stopUnconfirmed db w taskId = false) {id : Uuid} {a : AttemptRow}
    (ha : db.attempts.get? id = some a) (hof : a.isOf w taskId) : a.barrier = false := by
  rw [← Bool.not_eq_true, AttemptRow.barrier_iff]
  rintro (hrun | hun)
  · have := h.running id a ha hof hrun
    rw [hcurrent] at this
    cases this
  · rw [stopUnconfirmed_eq_false.mp hstop id a ha hof] at hun
    cases hun

theorem applyTerminal_spec {taskId expectedVersion : ℕ} {note : String} {nextState : TaskState}
    (h : DbInv t.db t.tick) (hcaller : caller.Sound t.db)
    (hnext : nextState = .cancelled ∨ nextState = .todo)
    (hnote : validateHandoffNote note = true) (hbegin : command.workRequest? = none)
    (hconfirm : command.confirms? = none)
    (hunused : t.db.mutations.get? (caller.workspace, command.operationId) = none) :
    Txn.wp (applyTerminal caller command taskId expectedVersion note nextState)
      (Applied caller command t) (Excused t.db command) t := by
  have hsize : note.utf8ByteSize ≤ maxNoteBytes :=
    (validateNonemptyText_size hnote).trans (by decide)
  unfold applyTerminal liftStore
  simp only [Txn.wp_bind, Store.wp_nowMillis, Store.wp_read, Txn.wp_mapError]
  refine taskStateVersion_spec (fun r hr => ?_) (.of_code (by decide))
  refine checkVersion_spec (fun hversion => ?_) (.of_code (by decide))
  refine requireTask_spec (fun hvalid => ?_) (.of_code (by decide))
  refine requireTask_spec (fun hstop => ?_) (.of_code (by decide))
  subst hversion
  rw [Bool.not_eq_true'] at hstop
  have hlocal := h.tasks.locals _ _ r hr
  have hnew := h.tasks.report_unused (Nat.le_succ t.tick)
  obtain ⟨-, -, htitle, hdescription, -, hstates, -⟩ := TaskRow.check_iff.mp hlocal.check
  have hidle : r.state ≠ .inProgress := by
    rintro heq
    rcases hnext with rfl | rfl <;> simp [heq, TaskState.isTerminal] at hvalid
  have hcurrent : r.currentAttemptId = none := by
    simpa [hidle] using hstates
  have hstate : nextState ≠ .inProgress := by rcases hnext with rfl | rfl <;> decide
  refine insertTextReport_spec hnew hsize (World.now_le _) ⟨r, hr⟩ hlocal.loads.last ?_
  let d : TaskDraft :=
    { workspace := caller.workspace, taskId
      row := { r with
        state := nextState
        version := r.version + 1
        assignedAgentId := none
        currentAttemptId := none
        resultReportId := if nextState = .todo then none else r.resultReportId
        pauseReason := none
        updatedBy := caller.actorId
        updatedAt := World.now t.tick }
      report := some (World.uuid (t.tick + 1),
        { workspace := caller.workspace, taskId, attemptId := r.lastAttemptId,
          actorId := caller.actorId, kind := .note, body := .text note,
          createdAt := World.now t.tick }) }
  refine updateTask_spec hr rfl hcaller.workspace (fun hcheck => ?_) (fun hfail => ?_)
  · have hfits : d.Fits t.db (t.tick + 2) := by
      refine .touch h hr (by simp [TaskDraft.Keeps, d]) rfl hcheck hcurrent.symm rfl ?_ ?_
        (.inl rfl) ?_
      · intro _ i b hb hof
        exact hlocal.fit.quiet hcurrent hstop hb hof
      · intro i p hp
        cases hp
        exact ⟨hnew, ⟨rfl, rfl⟩, rfl, t.tick + 1, by omega, rfl⟩
      · by_cases htodo : nextState = .todo
        · exact .inr (if_pos htodo)
        · exact .inl (if_neg htodo)
    have hfollows : d.follows t.db (if nextState = .todo then .reopened else .cancelled) := by
      have hchange : (if nextState = .todo then TaskChange.reopened else .cancelled) ≠ .noted := by
        split <;> decide
      simp only [TaskDraft.follows, d, hr, if_neg hchange, true_and]
      exact fun hnoted => absurd hnoted hchange
    have hrefers : d.Refers t.db r.lastAttemptId (some (World.uuid (t.tick + 1))) := by
      refine hlocal.refers_last rfl ?_
      intro id hid
      cases hid
      exact ⟨_, Db.draft_report rfl, rfl, rfl⟩
    change Txn.wp _ _ _ (Tx.mk (t.db.draft d) (t.tick + 2))
    refine finishMutation_spec (d := d) h (Nat.le_add_right _ 2) hfits hfollows hcaller.actor
      hrefers rfl rfl hunused (by simp [hbegin]) ?_ ?_ (fun hx _ => .inl hx.exhausted)
    · intro hnoted
      split at hnoted <;> cases hnoted
    intro e task receipt hkind hw hsummary hinv
    exact .of_touch hinv (Nat.le_add_right _ 3) hfits.keeps hfollows rfl rfl hkind hw
      hbegin hconfirm
  · intro _
    exact .inl (.inr ⟨_, r, hr, check_bump hfail hlocal.check rfl htitle hdescription rfl
      (World.now_le _) (by simp [hstate]) (fun _ => rfl)⟩)

/-- A workspace after one of its task ids was taken. -/
def WorkspaceRow.numbered (r : WorkspaceRow) : WorkspaceRow :=
  { r with nextTaskId := r.nextTaskId + 1 }

omit [World] in
theorem takeTaskId_spec {name : WorkspaceName} {row : WorkspaceRow} {Q : Option ℕ → Tx → Prop}
    {E : StoreError → Prop} (hrow : t.db.workspaces.get? name = some row)
    (hcheck : row.check = true)
    (hQ : row.nextTaskId + 1 ≤ maxSafeInteger → Q (some row.nextTaskId)
      { t with db := setWorkspaces (t.db.workspaces.put name row.numbered) t.db })
    (hE : maxSafeInteger ≤ row.nextTaskId → E (.sqlite .constraint)) :
    Txn.wp (takeTaskId name) Q E t := by
  rw [WorkspaceRow.check_iff] at hcheck
  unfold takeTaskId
  simp only [Txn.wp_bind, Store.wp_read, Txn.wp_pure, hrow, Option.map_some]
  refine Store.wp_updateRow ?_ ?_ ?_
  · intro h
    simpa [hcheck] using h row hrow
  · intro r hr _ hok
    rw [hrow] at hr
    cases hr
    exact hQ (WorkspaceRow.check_iff.mp hok).2.2.2
  · intro r hr _ hok
    rw [hrow] at hr
    cases hr
    refine hE ?_
    by_contra hlt
    have : workspaceOk t.db name row.numbered = true :=
      WorkspaceRow.check_iff.mpr
        ⟨hcheck.1, hcheck.2.1, Nat.le_add_left 1 _, Nat.lt_of_not_le hlt⟩
    exact absurd (this.symm.trans hok) (by decide)

/-- Taking a task id keeps the invariant. -/
theorem DbInv.number {db : Db} {tick : ℕ} (h : DbInv db tick) {name : WorkspaceName}
    {row : WorkspaceRow} (hrow : db.workspaces.get? name = some row)
    (hmax : row.nextTaskId + 1 ≤ maxSafeInteger) :
    DbInv (setWorkspaces (db.workspaces.put name row.numbered) db) tick ∧
      Extends db (setWorkspaces (db.workspaces.put name row.numbered) db) [] := by
  have hget : ∀ w row', db.workspaces.get? w = some row' →
      ∃ row'', (db.workspaces.put name row.numbered).get? w = some row'' ∧
        row''.nextSeq = row'.nextSeq ∧ row'.nextTaskId ≤ row''.nextTaskId := by
    intro w row' hrow'
    rw [Table.get?_put]
    split
    · next hw =>
      subst hw
      rw [hrow] at hrow'
      cases hrow'
      exact ⟨row.numbered, rfl, rfl, Nat.le_succ _⟩
    · exact ⟨row', hrow', rfl, le_rfl⟩
  have hkeep : KeepsWorkspaces db (setWorkspaces (db.workspaces.put name row.numbered) db) := by
    intro w row' hrow'
    obtain ⟨row'', hrow'', -, hle⟩ := hget w row' hrow'
    exact ⟨row'', hrow'', hle⟩
  refine ⟨⟨?_, ?_, ?_, ?_⟩, ?_⟩
  · exact h.tasks.of_same le_rfl rfl rfl rfl rfl (fun _ c hc => ⟨c, hc⟩) hkeep
      (List.append_nil _).symm (by simp)
  · constructor
    · intro w row' hrow'
      change (db.workspaces.put name row.numbered).get? w = some row' at hrow'
      rw [Table.get?_put] at hrow'
      split at hrow'
      · cases hrow'
        have hc := WorkspaceRow.check_iff.mp (h.journal.row name row hrow)
        exact WorkspaceRow.check_iff.mpr ⟨hc.1, hc.2.1, Nat.le_add_left 1 _, hmax⟩
      · exact h.journal.row w row' hrow'
    · intro w row' hrow'
      change (db.workspaces.put name row.numbered).get? w = some row' at hrow'
      rw [Table.get?_put] at hrow'
      split at hrow'
      · next hw =>
        subst hw
        cases hrow'
        exact h.journal.numbered w row hrow
      · exact h.journal.numbered w row' hrow'
    · intro e he
      obtain ⟨row', hrow'⟩ := h.journal.workspace e he
      obtain ⟨row'', hrow'', -, -⟩ := hget _ row' hrow'
      exact ⟨row'', hrow''⟩
    · exact h.journal.check
    · exact h.journal.keys
    · exact h.journal.asked
  · exact h.admin.of_same le_rfl rfl rfl rfl hkeep
  · exact h.external.of_same rfl rfl rfl hkeep fun _ r hr => ⟨r, hr⟩
  · refine ⟨(List.append_nil _).symm, ?_, fun _ r hr => ⟨r, hr, le_rfl, fun _ => rfl⟩,
      fun _ c hc => ⟨c, hc⟩, fun _ a ha => ⟨a, ha, .refl a⟩⟩
    intro w row' hrow'
    obtain ⟨row'', hrow'', hseq, hle⟩ := hget w row' hrow'
    exact ⟨row'', hrow'', hseq.ge, hle⟩

theorem applyCreate_spec {operationId : Uuid} {title description : String} (h : DbInv t.db t.tick)
    (hcaller : caller.Sound t.db) (hcommand : command = .create operationId title description)
    (hvalid : validateCommand caller command = none)
    (hunused : t.db.mutations.get? (caller.workspace, command.operationId) = none) :
    Txn.wp (applyCreate caller command title description)
      (Applied caller command t) (Excused t.db command) t := by
  subst hcommand
  have hchecks := ite_none_some hvalid
  rw [Bool.and_eq_true] at hchecks
  obtain ⟨wrow, hwrow⟩ := hcaller.workspace
  have hwcheck := h.journal.row _ wrow hwrow
  unfold applyCreate liftStore
  simp only [Txn.wp_bind, Store.wp_nowMillis, Txn.wp_mapError]
  refine takeTaskId_spec hwrow hwcheck (fun hmax => ?_)
    (fun hmax _ => .inl (.inl ⟨_, wrow, hwrow, .inr hmax⟩))
  obtain ⟨hinv, hext⟩ := h.number hwrow hmax
  simp only [Txn.orFail, Txn.wp_pure]
  have hid := (WorkspaceRow.check_iff.mp hwcheck).2.2
  set db := setWorkspaces (t.db.workspaces.put caller.workspace wrow.numbered) t.db with hdb
  have hnone : db.tasks.get? (caller.workspace, wrow.nextTaskId) = none := by
    by_contra hne
    obtain ⟨r, hr⟩ := Option.ne_none_iff_exists'.mp hne
    obtain ⟨row, hrow, hlt⟩ := h.tasks.ids _ _ r hr
    rw [hwrow] at hrow
    cases hrow
    omega
  let d : TaskDraft :=
    { workspace := caller.workspace, taskId := wrow.nextTaskId
      row :=
        { version := 1, title, description, state := .todo, assignedAgentId := none,
          currentAttemptId := none, lastAttemptId := none, lastCheckpointId := none,
          resultReportId := none, pauseReason := none, createdBy := caller.actorId,
          updatedBy := caller.actorId, createdAt := World.now t.tick,
          updatedAt := World.now t.tick } }
  have hcontains : db.workspaces.contains caller.workspace = true := by
    simp [hdb, setWorkspaces]
  refine Store.wp_insertRow (fun _ hok => ?_) ?_
  · have hcheck : d.row.check d.taskId = true := by
      simpa only [taskOk, hcontains, Bool.and_true] using hok
    have hnoAttempt : ∀ i b, db.attempts.get? i = some b → ¬b.isOf d.workspace d.taskId := by
      intro i b hb hof
      obtain ⟨r, hr⟩ := (hinv.tasks.attempts i b hb).task
      rw [hof.1, hof.2, hnone] at hr
      cases hr
    have hfits : d.Fits db (t.tick + 1) :=
      { check := hcheck
        keeps := by simp [TaskDraft.Keeps, d]
        fit := by
          refine TaskFit.of_attempts ?_ rfl
          exact ⟨by simp [d], by simp [d], fun i b hb hof => absurd hof (hnoAttempt i b hb),
            fun i b hb hof => absurd hof (hnoAttempt i b hb),
            fun _ i b hb hof => absurd hof (hnoAttempt i b hb)⟩
        checkpoint := by simp [ReportLoads, d]
        result := by simp [ReportLoads, d]
        id := ⟨wrow.numbered, by simp [hdb, setWorkspaces, d], Nat.lt_succ_self _⟩
        attempt := by simp [d]
        report := by simp [d] }
    have hfollows : d.follows db .created := by
      simp [TaskDraft.follows, d, hnone]
    refine finishMutation_spec (d := d) hinv (Nat.le_succ _) hfits hfollows hcaller.actor
      ⟨by simp, by simp⟩ rfl rfl hunused (by simp [TaskCommand.workRequest?]) (by simp) ?_
      (fun hx _ => ?_)
    · intro e task receipt hkind hw hsummary hdone
      exact
        { inv := hdone
          tick := Nat.le_add_right _ 2
          grows := hext.trans (.complete hfits.keeps hfollows (by simp [d]))
          kind := hkind
          workspace := hw
          attempts := .of_eq rfl
          begun := by simp [TaskCommand.workRequest?]
          confirmed := by simp [TaskCommand.confirms?] }
    · obtain ⟨row, hrow, hlimit⟩ := hx
      have heq : row = wrow.numbered := by simpa [hdb, setWorkspaces, d] using hrow.symm
      exact .inl (JournalFull.exhausted ⟨wrow, hwrow, by rw [heq] at hlimit; exact hlimit⟩)
  · rintro (⟨v, hv⟩ | hfail) _
    · exact absurd (hnone.symm.trans hv) (by simp)
    right
    by_contra hhidden
    have hlen : sqlLength title ≠ 0 := by simpa [TaskCommand.hidesTitle] using hhidden
    have : taskOk db (caller.workspace, wrow.nextTaskId) d.row = true := by
      simp only [taskOk, hcontains, Bool.and_true, TaskRow.check_iff]
      exact ⟨hid, ⟨le_rfl, Nat.le_add_left 1 _⟩,
        ⟨Nat.pos_of_ne_zero hlen, validateTitle_size hchecks.1⟩,
        of_decide_eq_true hchecks.2, ⟨World.now_le _, World.now_le _⟩, by simp [d], fun _ => rfl⟩
    exact absurd (this.symm.trans hfail) (by decide)

end

end SessionRouter
