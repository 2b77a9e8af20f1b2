import SessionRouter.Tasks.StopSpec

/-!
What the completion of an external operation does to the database, whatever the provider answered:
every step that succeeds keeps the invariant.
-/

namespace SessionRouter

/-- The databases differ in the tables of the integrations only. -/
structure SameCore (db db' : Db) : Prop where
  server : db'.serverId = db.serverId
  workspaces : db'.workspaces = db.workspaces
  events : db'.events = db.events
  credentials : db'.credentials = db.credentials
  tasks : db'.tasks = db.tasks
  attempts : db'.attempts = db.attempts
  reports : db'.reports = db.reports
  mutations : db'.mutations = db.mutations
  invites : db'.invites = db.invites

section

variable [World] {t : Tx} {tick : ℕ}

@[simp] theorem wp_nowInstant {ε : Type} {Q : ℕ → Tx → Prop} {E : ε → Prop} :
    Txn.wp (nowInstant : Store ε ℕ) Q E t ↔
      Q (World.instant t.tick) { t with tick := t.tick + 1 } := Iff.rfl

omit [World] in
theorem SameCore.extends {db db' : Db} (h : SameCore db db') : Extends db db' [] where
  events := by rw [h.events, List.append_nil]
  workspaces := by rw [h.workspaces]; exact (Extends.refl db).workspaces
  tasks := by rw [h.tasks]; exact (Extends.refl db).tasks
  credentials := by rw [h.credentials]; exact (Extends.refl db).credentials
  attempts := by rw [h.attempts]; exact (Extends.refl db).attempts

theorem DbInv.of_external {db db' : Db} (h : DbInv db tick) (same : SameCore db db')
    (hext : ExternalTables db') : DbInv db' tick where
  tasks := h.tasks.of_same le_rfl same.tasks same.attempts same.reports same.mutations
    same.extends.credentials (keepsWorkspaces_of_eq same.workspaces)
    (by rw [same.events, List.append_nil]) (by simp)
  journal := h.journal.of_eq same.workspaces same.events
  admin := h.admin.of_same le_rfl same.server same.credentials same.invites
    (keepsWorkspaces_of_eq same.workspaces)
  external := hext

theorem Advance.of_external (db' : Db) (h : DbInv t.db t.tick) (same : SameCore t.db db')
    (hext : ExternalTables db') : Advance t { t with db := db' } [] noAttempt where
  inv := h.of_external same hext
  tick := le_rfl
  grows := same.extends
  attempts := .of_eq same.attempts

theorem Advance.link (h : DbInv t.db t.tick)
    (links : Table (WorkspaceName × ℕ × ExternalProvider) LinkRow) :
    Advance t { t with db := setLinks links t.db } [] noAttempt := by
  refine .of_external _ h ⟨rfl, rfl, rfl, rfl, rfl, rfl, rfl, rfl, rfl⟩ ?_
  exact h.external.of_same rfl rfl rfl (keepsWorkspaces_of_eq rfl) fun _ r hr => ⟨r, hr⟩

/-- Advances that start no work compose. -/
theorem Advance.then {t' t'' : Tx} {es es' : List WorkspaceEvent} (h : Advance t t' es noAttempt)
    (h' : Advance t' t'' es' noAttempt) : Advance t t'' (es ++ es') noAttempt :=
  h.trans h' fun _ _ _ _ _ hfalse => hfalse

theorem Advance.draw {t' : Tx} {es : List WorkspaceEvent} {tick : ℕ} (h : Advance t t' es noAttempt)
    (hle : t'.tick ≤ tick) : Advance t { t' with tick } es noAttempt :=
  ⟨h.inv.mono hle, h.tick.trans hle, h.grows, h.attempts⟩

omit [World] in
/-- A row that replaces a stored operation, or is new, keeps the invariant. -/
theorem ExternalTables.put_operation {db : Db} (h : ExternalTables db) {key : WorkspaceName × Uuid}
    {r : OperationRow} (hr : OperationInv db key r) :
    ExternalTables (setOperations (db.operations.put key r) db) where
  operations := by
    intro key' r' hr'
    change (db.operations.put key r).get? key' = some r' at hr'
    rw [Table.get?_put] at hr'
    split at hr'
    · next hk =>
      subst hk
      cases hr'
      exact ⟨hr.check, hr.phase, hr.marker, hr.task, hr.workspace⟩
    · have hi := h.operations key' r' hr'
      exact ⟨hi.check, hi.phase, hi.marker, hi.task, hi.workspace⟩
  resolutions := by
    intro key' q hq
    obtain ⟨o, ho⟩ := h.resolutions key' q hq
    change ∃ o, (db.operations.put key r).get? (key'.1, q.operationId) = some o
    rw [Table.get?_put]
    split
    · exact ⟨_, rfl⟩
    · exact ⟨o, ho⟩
  bindings := h.bindings

theorem updateOperation_advance {key : WorkspaceName × Uuid} {p : OperationRow → Bool}
    {f : OperationRow → OperationRow} (h : DbInv t.db t.tick)
    (hpayload : ∀ r, (f r).payload = r.payload)
    (hphase : ∀ r, r.status = .running → r.phase ≠ .terminal → (f r).status = .running →
      (f r).phase ≠ .terminal)
    (hopen : ∀ r, p r = true → (f r).status = .running → r.status = .running) :
    Txn.wp (updateOperation key p f)
      (fun n t' => Advance t t' [] noAttempt ∧ (n = 1 → ∃ r, t.db.operations.get? key = some r ∧
        p r = true ∧ t'.db.operations.get? key = some (f r))) (fun _ => True) t := by
  refine Store.wp_updateRow (fun _ => ⟨.refl h, by simp⟩) ?_ (fun _ _ _ _ => trivial)
  intro r hr hp hok
  have hi := h.external.operations key r hr
  simp only [operationOk, Bool.and_eq_true] at hok
  refine ⟨.of_external _ h ⟨rfl, rfl, rfl, rfl, rfl, rfl, rfl, rfl, rfl⟩ ?_,
    fun _ => ⟨r, hr, hp, Table.get?_put_self _ _ _⟩⟩
  refine h.external.put_operation
    { check := hok.1
      phase := fun hrun => hphase r (hopen r hp hrun) (hi.phase (hopen r hp hrun)) hrun
      marker := by rw [hpayload]; exact hi.marker
      task := ?_
      workspace := hi.workspace }
  intro taskId htask
  have := hok.2
  rw [htask] at this
  simpa using this

theorem appendIntegrationEvent_advance {workspace : WorkspaceName} {actorId : String}
    {taskId : Option ℕ} {event : IntegrationEvent} (h : DbInv t.db t.tick) :
    Txn.wp (appendIntegrationEvent workspace actorId taskId event)
      (fun e t' => Advance t t' [e] noAttempt ∧ e.kind = .integration ∧ e.workspace = workspace)
      (fun _ => True) t := by
  unfold appendIntegrationEvent liftCode
  rw [Txn.wp_mapError]
  refine Txn.wp_mono (Q := fun e t' => Advance t t' [e] noAttempt ∧ ∃ seq now, e = _)
    (appendEventInTransaction_advance h (by simp) (by simp)) ?_ fun _ h => h
  rintro e t' ⟨hadv, seq, now, rfl⟩
  exact ⟨hadv, rfl, rfl⟩

/-- The event of an external change, appended to a draft that fits. -/
theorem appendExternalTaskEvent_advance {db : Db} {tick₀ tick : ℕ} {d : TaskDraft}
    {actorId : String} {operationId : Uuid} {Q : WorkspaceEvent → Tx → Prop} (h : DbInv db tick₀)
    (hle : tick₀ ≤ tick) (hfits : d.Fits db tick) (hfollows : d.follows db .external)
    (hQ : ∀ e, e.kind = .task → e.workspace = d.workspace →
      DbInv (db.complete d e none) (tick + 1) →
      Q e { db := db.complete d e none, tick := tick + 1 }) :
    Txn.wp (appendExternalTaskEvent d.workspace actorId d.taskId operationId) Q (fun _ => True)
      { db := db.draft d, tick } := by
  obtain ⟨task, htask, hsummary⟩ := hfits.detail
  unfold appendExternalTaskEvent liftCode
  simp only [Txn.wp_bind, Txn.wp_mapError]
  refine wp_storeQuery htask ?_
  simp only [Txn.orFail, Txn.wp_pure, hsummary]
  exact TaskDraft.append_any h hle hfits hfollows ⟨by simp, by simp⟩ hQ

/-- A change of the version of a task and its event. A task that is gone has no event. -/
theorem touchTask_announce {workspace : WorkspaceName} {taskId : ℕ} {actorId : String} {now : ℕ}
    {operationId : Uuid} {Q : ℕ → WorkspaceEvent → Tx → Prop} (h : DbInv t.db t.tick)
    (hQ : ∀ n e t', Advance t t' [e] noAttempt → e.kind = .task → e.workspace = workspace →
      Q n e t') :
    Txn.wp (touchTask workspace taskId actorId now)
      (fun n t' => Txn.wp (appendExternalTaskEvent workspace actorId taskId operationId)
        (fun e t'' => Q n e t'') (fun _ => True) t') (fun _ => True) t := by
  unfold touchTask liftCode
  rw [Txn.wp_mapError]
  refine Store.wp_updateRow ?_ ?_ (fun _ _ _ _ => trivial)
  · intro hnone
    have hmissing : getTaskDetail t.db workspace taskId = .ok none := by
      unfold getTaskDetail
      cases hr : t.db.tasks.get? (workspace, taskId) with
      | none => rfl
      | some r => exact absurd (hnone r hr) (by simp)
    unfold appendExternalTaskEvent liftCode
    simp only [Txn.wp_bind, Txn.wp_mapError]
    exact wp_storeQuery hmissing trivial
  · intro r hr _ hok
    have hlocal := h.tasks.locals _ _ r hr
    simp only [taskOk, Bool.and_eq_true] at hok
    let d : TaskDraft :=
      { workspace, taskId
        row := { r with
          version := r.version + 1
          updatedBy := actorId
          updatedAt := now } }
    have hfits : d.Fits t.db t.tick :=
      .touch h hr (by simp [TaskDraft.Keeps, d]) rfl hok.1 rfl rfl hlocal.fit.terminal (by simp [d])
        (.inl rfl) (.inl rfl)
    have hfollows : d.follows t.db .external := by simp [TaskDraft.follows, d, hr]
    change Txn.wp _ _ _ (Tx.mk (t.db.draft d) t.tick)
    refine appendExternalTaskEvent_advance (d := d) h le_rfl hfits hfollows ?_
    intro e hkind hw hinv
    refine hQ 1 e _ ⟨hinv, Nat.le_succ _, ?_, .of_eq rfl⟩ hkind hw
    exact .complete hfits.keeps hfollows (by simp [d])

omit [World] in
theorem takeTaskId_any {name : WorkspaceName} {Q : Option ℕ → Tx → Prop} (hnone : Q none t)
    (hsome : ∀ row, t.db.workspaces.get? name = some row → row.nextTaskId + 1 ≤ maxSafeInteger →
      Q (some row.nextTaskId)
        { t with db := setWorkspaces (t.db.workspaces.put name row.numbered) t.db }) :
    Txn.wp (takeTaskId name) Q (fun _ => True) t := by
  unfold takeTaskId
  simp only [Txn.wp_bind, Store.wp_read, Txn.wp_pure]
  refine Store.wp_updateRow (fun _ => hnone) ?_ (fun _ _ _ _ => trivial)
  intro row hrow _ hok
  simpa [hrow] using! hsome row hrow (WorkspaceRow.check_iff.mp hok).2.2.2

/-- A task that was just numbered fits without attempts. -/
theorem TaskDraft.Fits.create {db : Db} {tick₀ tick : ℕ} {d : TaskDraft} (h : DbInv db tick₀)
    (hnone : db.tasks.get? (d.workspace, d.taskId) = none) (hkept : d.kept = false)
    (hcheck : d.row.check d.taskId = true) (hcurrent : d.row.currentAttemptId = none)
    (hlast : d.row.lastAttemptId = none) (hcheckpoint : d.row.lastCheckpointId = none)
    (hresult : d.row.resultReportId = none) (hatt : d.attempt = none)
    (hid : ∃ row, db.workspaces.get? d.workspace = some row ∧ d.taskId < row.nextTaskId)
    (hreport : ∀ id p, d.report = some (id, p) → db.reports.get? id = none ∧
      p.isOf d.workspace d.taskId ∧ bodyMatches p.kind p.body = true ∧ Drawn tick id) :
    d.Fits db tick := by
  have hno : ∀ i b, db.attempts.get? i = some b → ¬b.isOf d.workspace d.taskId := by
    intro i b hb hof
    obtain ⟨r, hr⟩ := (h.tasks.attempts i b hb).task
    rw [hof.1, hof.2, hnone] at hr
    cases hr
  refine
    { check := hcheck
      keeps := by simp [TaskDraft.Keeps, hkept]
      fit := ?_
      checkpoint := by simp [ReportLoads, hcheckpoint]
      result := by simp [ReportLoads, hresult]
      id := hid
      attempt := by simp [hatt]
      report := hreport }
  refine TaskFit.of_attempts ?_ (Db.draft_attempts_none hatt)
  exact ⟨by simp [hcurrent], by simp [hlast], fun i b hb hof => absurd hof (hno i b hb),
    fun i b hb hof => absurd hof (hno i b hb), fun _ i b hb hof => absurd hof (hno i b hb)⟩

theorem importIssue_advance {prepared : PreparedExternalOperation} {issue : ExternalIssue}
    {now : ℕ} (h : DbInv t.db t.tick) :
    Txn.wp (importIssue prepared issue now)
      (fun r t' => Advance t t' [r.2] noAttempt ∧ r.2.kind = .task ∧
        r.2.workspace = prepared.workspace) (fun _ => True) t := by
  unfold importIssue
  simp only [Txn.wp_bind, liftCode, Txn.wp_mapError]
  refine takeTaskId_any trivial (fun wrow hwrow hmax => ?_)
  obtain ⟨hinv, hext⟩ := h.number hwrow hmax
  simp only [Txn.orFail, Txn.wp_pure, Store.wp_newUuid]
  refine Store.wp_insertRow (fun hnone hok => ?_) (fun _ => trivial)
  refine Store.wp_insertRow (fun hnew _ => ?_) (fun _ => trivial)
  refine Store.wp_insertRow (fun _ _ => ?_) (fun _ => trivial)
  simp only [taskOk, Bool.and_eq_true] at hok
  let link : LinkRow :=
    { ns := prepared.ns, externalId := issue.externalId, url := issue.url, linkedAt := now }
  let numbered := setWorkspaces (t.db.workspaces.put prepared.workspace wrow.numbered) t.db
  let db := setLinks (t.db.links.put
    (prepared.workspace, wrow.nextTaskId, prepared.summary.provider) link) numbered
  have hlinked := Advance.link (t := { db := numbered, tick := t.tick }) hinv (t.db.links.put
    (prepared.workspace, wrow.nextTaskId, prepared.summary.provider) link)
  let d : TaskDraft :=
    { workspace := prepared.workspace, taskId := wrow.nextTaskId
      row :=
        { version := 1, title := issue.title, description := issue.description, state := .todo,
          assignedAgentId := none, currentAttemptId := none, lastAttemptId := none,
          lastCheckpointId := none, resultReportId := none, pauseReason := none,
          createdBy := prepared.actorId, updatedBy := prepared.actorId, createdAt := now,
          updatedAt := now }
      report := some (World.uuid t.tick,
        { workspace := prepared.workspace, taskId := wrow.nextTaskId, attemptId := none,
          actorId := prepared.actorId, kind := .note
          body := .text ("Imported from " ++ prepared.summary.provider.asStr ++ " " ++
            issue.externalId ++ " in external state " ++ issue.state ++ ".")
          createdAt := now }) }
  have hfits : d.Fits db (t.tick + 1) := by
    refine .create hlinked.inv hnone rfl hok.1 rfl rfl rfl rfl rfl ?_ ?_
    · exact ⟨wrow.numbered, Table.get?_put_self _ _ _, Nat.lt_succ_self _⟩
    · intro i p hp
      cases hp
      exact ⟨hnew, ⟨rfl, rfl⟩, rfl, t.tick, by omega, rfl⟩
  have hfollows : d.follows db .external := by
    have : db.tasks.get? (d.workspace, d.taskId) = none := hnone
    simp [TaskDraft.follows, this, d]
  change Txn.wp _ _ _ (Tx.mk (db.draft d) (t.tick + 1))
  refine appendExternalTaskEvent_advance (d := d) hlinked.inv (Nat.le_succ _) hfits hfollows ?_
  intro e hkind hw hdone
  refine ⟨⟨hdone, Nat.le_add_right _ 2, ?_, .of_eq rfl⟩, hkind, hw⟩
  exact (hext.trans hlinked.grows).trans (.complete hfits.keeps hfollows (by simp [d]))

/-- The events of a completion: the change of the task, if any, and then the operation. -/
structure Completed (t t' : Tx) (workspace : WorkspaceName) (taskEvent : Option WorkspaceEvent)
    (event : WorkspaceEvent) : Prop where
  advance : Advance t t' (taskEvent.toList ++ [event]) noAttempt
  task : ∀ e ∈ taskEvent.toList, e.kind = .task ∧ e.workspace = workspace
  operation : event.kind = .integration ∧ event.workspace = workspace

theorem updateTerminalOperation_advance {prepared : PreparedExternalOperation}
    {status : ExternalOperationStatus} {externalId url error : Option String} {now : ℕ}
    (h : DbInv t.db t.tick) (hstatus : status ≠ .running) :
    Txn.wp (updateTerminalOperation prepared status externalId url error now)
      (fun _ t' => Advance t t' [] noAttempt) (fun _ => True) t := by
  unfold updateTerminalOperation liftCode
  simp only [Txn.wp_bind, Txn.wp_mapError, Txn.wp_pure]
  refine Txn.wp_mono (updateOperation_advance h (fun _ => rfl) ?_ ?_) ?_ fun _ h => h
  · intro r _ _ hrun
    exact absurd hrun hstatus
  · intro r _ hrun
    exact absurd hrun hstatus
  · rintro n t' ⟨hadv, -⟩
    rw [Txn.wp_require]
    exact ⟨fun _ => hadv, fun _ => trivial⟩

/-- The end of every completion: the operation becomes terminal and is announced. -/
theorem terminal_advance {t₀ : Tx} {prepared : PreparedExternalOperation}
    {status : ExternalOperationStatus} {externalId url error : Option String} {now : ℕ}
    {workspace : WorkspaceName} {actorId : String} {taskEvent : Option WorkspaceEvent}
    (h : Advance t₀ t taskEvent.toList noAttempt)
    (htask : ∀ e ∈ taskEvent.toList, e.kind = .task ∧ e.workspace = workspace)
    (hstatus : status ≠ .running) :
    Txn.wp (updateTerminalOperation prepared status externalId url error now >>= fun operation =>
        appendOperationEvent workspace actorId operation >>= fun event =>
        liftCode commit >>= fun _ => pure ({ event, taskEvent } : ExternalCompletion))
      (fun c t' => Completed t₀ t' workspace c.taskEvent c.event) (fun _ => True) t := by
  simp only [Txn.wp_bind, Txn.wp_pure]
  refine Txn.wp_mono (updateTerminalOperation_advance h.inv hstatus) ?_ fun _ h => h
  intro operation t₁ h₁
  refine Txn.wp_mono (appendIntegrationEvent_advance h₁.inv) ?_ fun _ h => h
  rintro event t₂ ⟨h₂, hkind, hw⟩
  unfold liftCode
  rw [Txn.wp_mapError]
  refine commit_any ⟨?_, htask, hkind, hw⟩
  have := (h.then h₁).then h₂
  rwa [List.append_nil] at this

/-- An operation that succeeded after a change of its task. -/
theorem succeeded_advance {t₀ : Tx} {e : WorkspaceEvent} (prepared : PreparedExternalOperation)
    (externalId url : String) (now : ℕ) (h : Advance t₀ t [e] noAttempt) (hkind : e.kind = .task)
    (hw : e.workspace = prepared.workspace) :
    Txn.wp (updateTerminalOperation prepared .succeeded (some externalId) (some url) none now >>=
        fun operation =>
        appendOperationEvent prepared.workspace prepared.actorId operation >>= fun event =>
        liftCode commit >>= fun _ => pure ({ event, taskEvent := some e } : ExternalCompletion))
      (fun c t' => Completed t₀ t' prepared.workspace c.taskEvent c.event) (fun _ => True) t :=
  terminal_advance h (by simpa using ⟨hkind, hw⟩) (by simp)

theorem terminalSemanticConflict_advance {prepared : PreparedExternalOperation}
    {code : RouterErrorCode} {now : ℕ} {t₀ : Tx} (h : Advance t₀ t [] noAttempt) :
    Txn.wp (terminalSemanticConflict prepared code now)
      (fun c t' => Completed t₀ t' prepared.workspace c.taskEvent c.event) (fun _ => True) t :=
  terminal_advance h (by simp) (by simp)

theorem terminalExternalError_advance {prepared : PreparedExternalOperation}
    {status : ExternalOperationStatus} {error : String} (h : DbInv t.db t.tick)
    (hstatus : status ≠ .running) :
    Txn.wp (terminalExternalError prepared status error)
      (fun c t' => Completed t t' prepared.workspace c.taskEvent c.event) (fun _ => True) t := by
  unfold terminalExternalError
  rw [Txn.wp_bind, Store.wp_nowMillis]
  exact terminal_advance ((Advance.refl h).draw (Nat.le_succ _)) (by simp)
    hstatus

theorem completeExternalError_advance {prepared : PreparedExternalOperation}
    {error : IntegrationClientError} (h : DbInv t.db t.tick) :
    Txn.wp (completeExternalError prepared error)
      (fun c t' => Completed t t' prepared.workspace c.taskEvent c.event) (fun _ => True) t := by
  unfold completeExternalError
  split <;> exact terminalExternalError_advance h (by simp)

theorem completeImport_advance {prepared : PreparedExternalOperation} {issue : ExternalIssue}
    (h : DbInv t.db t.tick) :
    Txn.wp (completeImport prepared issue)
      (fun c t' => Completed t t' prepared.workspace c.taskEvent c.event) (fun _ => True) t := by
  have hdrawn := (Advance.refl h).draw (Nat.le_succ _)
  unfold completeImport
  rw [Txn.wp_bind, Txn.wp_require]
  refine ⟨fun _ => ?_, fun _ => trivial⟩
  rw [Txn.wp_bind, Txn.wp_require]
  refine ⟨fun _ => ?_, fun _ => trivial⟩
  rw [Txn.wp_bind, Store.wp_nowMillis, Txn.wp_bind, Store.wp_read]
  split
  · rw [Txn.wp_ite]
    refine ⟨fun _ => terminalSemanticConflict_advance hdrawn, fun _ => ?_⟩
    exact terminal_advance hdrawn (by simp) (by simp)
  · rw [Txn.wp_bind]
    refine Txn.wp_mono (importIssue_advance hdrawn.inv) ?_ fun _ h => h
    rintro ⟨taskId, taskEvent⟩ t₁ ⟨hadv, hkind, hw⟩
    exact terminal_advance (hdrawn.then hadv)
      (by simpa using ⟨hkind, hw⟩) (by simp)

theorem completeLink_advance {prepared : PreparedExternalOperation} {issue : ExternalIssue}
    (h : DbInv t.db t.tick) :
    Txn.wp (completeLink prepared issue)
      (fun c t' => Completed t t' prepared.workspace c.taskEvent c.event) (fun _ => True) t := by
  have hdrawn := (Advance.refl h).draw (Nat.le_succ _)
  unfold completeLink
  split
  · rw [Txn.wp_bind, Store.wp_nowMillis]
    simp only [Txn.wp_bind, Store.wp_read]
    rw [Txn.wp_orFail]
    refine ⟨fun row _ => ?_, fun _ => trivial⟩
    rw [Txn.wp_ite]
    refine ⟨fun _ => terminalSemanticConflict_advance hdrawn, fun _ => ?_⟩
    rw [Txn.wp_ite]
    refine ⟨fun _ => terminalSemanticConflict_advance hdrawn, fun _ => ?_⟩
    rw [Txn.wp_ite]
    refine ⟨fun _ => terminalSemanticConflict_advance hdrawn, fun _ => ?_⟩
    rw [Txn.wp_ite]
    refine ⟨fun _ => ?_, fun _ => ?_⟩
    · exact terminal_advance hdrawn (by simp) (by simp)
    · simp only [Txn.wp_bind, liftCode, Txn.wp_mapError, upsertLink]
      rw [Store.wp_execute]
      refine ⟨fun _ => ?_, fun _ => trivial⟩
      have hlinked := Advance.link hdrawn.inv
      refine touchTask_announce (hlinked _).inv ?_
      intro n e t' hadv hkind hw
      have := succeeded_advance prepared issue.externalId issue.url (World.now t.tick)
        ((hdrawn.then (hlinked _)).then hadv) hkind hw
      simpa only [Txn.wp_bind, Txn.wp_pure, liftCode, Txn.wp_mapError] using! this
  · trivial

theorem linkPublishedIssue_advance {workspace : WorkspaceName} {taskId : ℕ}
    {provider : ExternalProvider} {ns actorId : String} {operationId : Uuid}
    {mutation : ExternalMutation} {now : ℕ} (h : DbInv t.db t.tick) :
    Txn.wp (linkPublishedIssue workspace taskId provider ns actorId operationId mutation now)
      (fun r t' => Advance t t' [r.2] noAttempt ∧ r.2.kind = .task ∧ r.2.workspace = workspace)
      (fun _ => True) t := by
  unfold linkPublishedIssue liftCode
  simp only [Txn.wp_bind, Txn.wp_mapError, Txn.wp_pure]
  refine Store.wp_insertRow (fun _ _ => ?_) (fun _ => trivial)
  have hlinked := Advance.link h
  refine touchTask_announce (hlinked _).inv ?_
  intro n e t' hadv hkind hw
  exact ⟨(hlinked _).then hadv, hkind, hw⟩

theorem completeExternalRead_advance {prepared : PreparedExternalOperation} {issue : ExternalIssue}
    (h : DbInv t.db t.tick) :
    Txn.wp (completeExternalRead prepared issue)
      (fun c t' => Completed t t' prepared.workspace c.taskEvent c.event) (fun _ => True) t := by
  unfold completeExternalRead
  split
  · exact completeImport_advance h
  · exact completeLink_advance h
  · trivial

theorem completeExternalMutation_advance {prepared : PreparedExternalOperation}
    {mutation : ExternalMutation} (h : DbInv t.db t.tick) :
    Txn.wp (completeExternalMutation prepared mutation)
      (fun c t' => Completed t t' prepared.workspace c.taskEvent c.event) (fun _ => True) t := by
  have hdrawn := (Advance.refl h).draw (Nat.le_succ _)
  unfold completeExternalMutation
  rw [Txn.wp_bind, Store.wp_nowMillis]
  dsimp only
  split
  · simp only [Txn.wp_bind]
    rw [Txn.wp_orFail]
    refine ⟨fun taskId _ => ?_, fun _ => trivial⟩
    refine Txn.wp_mono (linkPublishedIssue_advance hdrawn.inv) ?_ fun _ h => h
    rintro ⟨n, e⟩ t₁ ⟨hadv, hkind, hw⟩
    have := succeeded_advance prepared mutation.externalId mutation.url (World.now t.tick)
      (hdrawn.then hadv) hkind hw
    simpa only [Txn.wp_bind, Txn.wp_pure] using! this
  · exact terminal_advance hdrawn (by simp) (by simp)
  · trivial

theorem markExternalDispatched_advance {prepared : PreparedExternalOperation}
    (h : DbInv t.db t.tick) :
    Txn.wp (markExternalDispatched prepared)
      (fun e t' => Advance t t' [e] noAttempt ∧ e.kind = .integration ∧
        e.workspace = prepared.workspace) (fun _ => True) t := by
  have hdrawn := (Advance.refl h).draw (Nat.le_succ _)
  unfold markExternalDispatched
  simp only [Txn.wp_bind, Store.wp_nowMillis, liftCode, Txn.wp_mapError, Store.wp_read,
    Txn.wp_pure]
  refine Txn.wp_mono (updateOperation_advance hdrawn.inv (fun _ => rfl) ?_ ?_) ?_ fun _ h => h
  · intro r _ _ _
    simp
  · intro r hp _
    simp only [Bool.and_eq_true, decide_eq_true_eq] at hp
    exact hp.2
  rintro n t₁ ⟨h₁, -⟩
  rw [Txn.wp_require]
  refine ⟨fun _ => ?_, fun _ => trivial⟩
  rw [Txn.wp_orFail]
  refine ⟨fun operation _ => ?_, fun _ => trivial⟩
  refine Txn.wp_mono (appendIntegrationEvent_advance h₁.inv) ?_ fun _ h => h
  rintro e t₂ ⟨h₂, hkind, hw⟩
  exact commit_any ⟨(hdrawn.then h₁).then h₂, hkind, hw⟩

theorem validateExternalSnapshot_advance {active : ActiveIntegration}
    {prepared : PreparedExternalOperation} (h : DbInv t.db t.tick) :
    Txn.wp (validateExternalSnapshot active prepared false) (fun _ t' => Advance t t' [] noAttempt)
      (fun _ => True) t := by
  unfold validateExternalSnapshot
  simp only [Txn.wp_bind, Store.wp_read]
  rw [Txn.wp_require]
  refine ⟨fun _ => ?_, fun _ => trivial⟩
  rw [Txn.wp_orFail]
  refine ⟨fun credential _ => ?_, fun _ => trivial⟩
  rw [Txn.wp_require]
  refine ⟨fun _ => ?_, fun _ => trivial⟩
  split
  · trivial
  · rw [Txn.wp_bind, Store.wp_read]
    split
    · trivial
    · exact .refl h

omit [World] in
theorem requireResolver_advance {credentialId : Uuid} {workspace : WorkspaceName}
    {Q : Unit → Tx → Prop} {E : RouterErrorCode → Prop} (hQ : Q () t) (hE : E .permissionDenied) :
    Txn.wp (requireResolver credentialId workspace) Q E t := by
  unfold requireResolver
  simp only [Txn.wp_bind, Store.wp_read]
  rw [Txn.wp_orFail]
  refine ⟨fun _ _ => ?_, fun _ => hE⟩
  rw [Txn.wp_require]
  exact ⟨fun _ => hQ, fun _ => hE⟩

theorem validateResolutionSnapshot_advance {active : ActiveIntegration}
    {prepared : PreparedExternalResolution} (h : DbInv t.db t.tick) :
    Txn.wp (validateResolutionSnapshot active prepared) (fun _ t' => Advance t t' [] noAttempt)
      (fun _ => True) t := by
  have hdrawn := (Advance.refl h).draw (Nat.le_succ _)
  unfold validateResolutionSnapshot
  simp only [Txn.wp_bind, wp_nowInstant]
  rw [Txn.wp_require]
  refine ⟨fun _ => ?_, fun _ => trivial⟩
  rw [Txn.wp_require]
  refine ⟨fun _ => ?_, fun _ => trivial⟩
  refine requireResolver_advance ?_ trivial
  simp only [Store.wp_read]
  rw [Txn.wp_require]
  refine ⟨fun _ => ?_, fun _ => trivial⟩
  split
  · trivial
  · trivial
  · rw [Txn.wp_bind, Store.wp_read]
    split
    · trivial
    · exact hdrawn

/-- A new resolution of a stored operation keeps the invariant. -/
theorem insertResolution_advance {workspace : WorkspaceName} {resolutionId operationId : Uuid}
    {actorId : String} {requestHash : ResolutionRequest} {outcome : ExternalResolutionOutcome}
    {externalId : Option String} {note : String} {now : ℕ} (h : DbInv t.db t.tick) :
    Txn.wp (insertResolution workspace resolutionId operationId actorId requestHash outcome
      externalId note now) (fun _ t' => Advance t t' [] noAttempt) (fun _ => True) t := by
  unfold insertResolution liftCode
  rw [Txn.wp_mapError]
  refine Store.wp_insertRow (fun _ hok => ?_) (fun _ => trivial)
  refine .of_external _ h ⟨rfl, rfl, rfl, rfl, rfl, rfl, rfl, rfl, rfl⟩ ?_
  refine
    { operations := fun key r hr => ?_
      resolutions := fun key q hq => ?_
      bindings := h.external.bindings }
  · have hi := h.external.operations key r hr
    exact ⟨hi.check, hi.phase, hi.marker, hi.task, hi.workspace⟩
  · change (t.db.resolutions.put _ _).get? key = some q at hq
    rw [Table.get?_put] at hq
    split at hq
    · next hk =>
      subst hk
      cases hq
      simp only [resolutionOk, Bool.and_eq_true, Table.contains_iff] at hok
      exact hok.1.2
    · exact h.external.resolutions key q hq

theorem completeAppliedResolution_advance {prepared : PreparedExternalResolution}
    {mutation : ExternalMutation} (h : DbInv t.db t.tick) :
    Txn.wp (completeAppliedResolution prepared mutation)
      (fun c t' => Completed t t' prepared.workspace c.taskEvent c.event) (fun _ => True) t := by
  have hdrawn := (Advance.refl h).draw (Nat.le_succ _)
  -- What follows the change of the task is the same for both kinds of publication.
  have hfinish : ∀ (taskEvent : Option WorkspaceEvent) (t₁ : Tx),
      Advance t t₁ taskEvent.toList noAttempt →
      (∀ e ∈ taskEvent.toList, e.kind = .task ∧ e.workspace = prepared.workspace) →
      Txn.wp (liftCode (updateOperation (prepared.workspace, prepared.operationId)
          (fun r => r.status = .unconfirmed) fun r => { r with
            status := .succeeded
            externalId := some mutation.externalId
            url := some mutation.url
            error := none
            updatedAt := World.now t.tick }) >>= fun changed =>
        Txn.require (changed = 1) RouterErrorCode.externalConflict >>= fun _ =>
        insertResolution prepared.workspace prepared.resolutionId prepared.operationId
          prepared.actorId prepared.requestHash .applied (some mutation.externalId) prepared.note
          (World.now t.tick) >>= fun _ =>
        Store.read (fun db => operationSummary db prepared.workspace prepared.operationId) >>=
          fun operation => Txn.orFail RouterErrorCode.storageError operation >>= fun operation =>
        appendResolutionEvent prepared.workspace prepared.actorId operation
          { id := prepared.resolutionId, operationId := prepared.operationId,
            actorId := prepared.actorId, outcome := .applied,
            externalId := some mutation.externalId, note := prepared.note,
            createdAt := World.now t.tick } >>= fun event =>
        liftCode commit >>= fun _ => pure
          ({ operation, event, taskEvent
             resolution :=
               { id := prepared.resolutionId, operationId := prepared.operationId,
                 actorId := prepared.actorId, outcome := .applied,
                 externalId := some mutation.externalId, note := prepared.note,
                 createdAt := World.now t.tick } } : ExternalResolutionCompletion))
        (fun c t' => Completed t t' prepared.workspace c.taskEvent c.event) (fun _ => True) t₁ := by
    intro taskEvent t₁ h₁ htask
    simp only [Txn.wp_bind, liftCode, Txn.wp_mapError, Store.wp_read, Txn.wp_pure]
    refine Txn.wp_mono (updateOperation_advance h₁.inv (fun _ => rfl) ?_ ?_) ?_ fun _ h => h
    · intro r _ _ hrun
      cases hrun
    · intro r _ hrun
      cases hrun
    rintro n t₂ ⟨h₂, -⟩
    rw [Txn.wp_require]
    refine ⟨fun _ => ?_, fun _ => trivial⟩
    refine Txn.wp_mono (insertResolution_advance h₂.inv) ?_ fun _ h => h
    intro _ t₃ h₃
    rw [Txn.wp_orFail]
    refine ⟨fun operation _ => ?_, fun _ => trivial⟩
    refine Txn.wp_mono (appendIntegrationEvent_advance h₃.inv) ?_ fun _ h => h
    rintro e t₄ ⟨h₄, hkind, hw⟩
    refine commit_any ⟨?_, htask, hkind, hw⟩
    have := ((h₁.then h₂).then h₃).then h₄
    simpa using this
  unfold completeAppliedResolution
  rw [Txn.wp_bind, Txn.wp_require]
  refine ⟨fun _ => ?_, fun _ => trivial⟩
  rw [Txn.wp_bind, Store.wp_nowMillis]
  dsimp only
  split
  · rw [Txn.wp_bind, Txn.wp_orFail]
    refine ⟨fun taskId _ => ?_, fun _ => trivial⟩
    rw [Txn.wp_bind]
    refine Txn.wp_mono (linkPublishedIssue_advance hdrawn.inv) ?_ fun _ h => h
    rintro ⟨n, e⟩ t₁ ⟨hadv, hkind, hw⟩
    simp only
    rw [Txn.wp_bind, Txn.wp_require]
    refine ⟨fun _ => ?_, fun _ => trivial⟩
    exact hfinish (some e) t₁ (hdrawn.then hadv) (by simpa using ⟨hkind, hw⟩)
  · exact hfinish none _ hdrawn (by simp)
  · trivial
  · trivial

end

end SessionRouter
