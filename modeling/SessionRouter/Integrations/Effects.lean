import SessionRouter.Store.Moves
import SessionRouter.Store.RecoverSpec

/-!
What the transactions on external operations do to the four tables of the issue trackers. Each
changes the row of one operation, and a completion may write one link beside it.
-/

namespace SessionRouter

/-- The tables of the issue trackers. -/
structure Trackers where
  operations : Table (WorkspaceName × Uuid) OperationRow
  links : Table (WorkspaceName × ℕ × ExternalProvider) LinkRow
  resolutions : Table (WorkspaceName × Uuid) ResolutionRow
  bindings : Table (WorkspaceName × ExternalProvider) BindingRow

def Db.trackers (db : Db) : Trackers :=
  { operations := db.operations, links := db.links, resolutions := db.resolutions,
    bindings := db.bindings }

theorem trackers_tasks : BlindTasks (Keeps Db.trackers) where
  events _ _ := rfl
  workspaces _ _ := rfl
  tasks _ _ := rfl
  attempts _ _ := rfl
  reports _ _ := rfl
  mutations _ _ := rfl

/-- What stays the same over the life of an operation. -/
structure OperationOrigin where
  actorId : String
  provider : ExternalProvider
  ns : String
  kind : ExternalOperationKind
  requestHash : ExternalCommand
  payload : OperationPayload

namespace OperationRow

def origin (r : OperationRow) : OperationOrigin :=
  { actorId := r.actorId, provider := r.provider, ns := r.ns, kind := r.kind,
    requestHash := r.requestHash, payload := r.payload }

/-- An operation whose outcome is not settled; it blocks its task. -/
def isOpen (r : OperationRow) : Bool := r.status = .running || r.status = .unconfirmed

/-- Imports have no task yet, the other operations have one. -/
def Shaped (r : OperationRow) : Prop :=
  match r.payload with
  | .importTask _ => r.taskId = none
  | .link .. | .publishIssue .. | .publishReport .. => r.taskId.isSome = true

/-- The row of an operation that has ended. -/
def finish (r : OperationRow) (taskId : Option ℕ) (status : ExternalOperationStatus)
    (externalId url error : Option String) (now : ℕ) : OperationRow :=
  { r with taskId, phase := .terminal, status, externalId, url, error, updatedAt := now }

/-- The row of an operation after its resolution. -/
def settle (r : OperationRow) (status : ExternalOperationStatus)
    (externalId url error : Option String) (now : ℕ) : OperationRow :=
  { r with status, externalId, url, error, updatedAt := now }

end OperationRow

namespace PreparedExternalOperation

def key (p : PreparedExternalOperation) : WorkspaceName × Uuid := (p.workspace, p.summary.id)

/-- What a worker carries agrees with the row of its operation. -/
structure Matches (p : PreparedExternalOperation) (r : OperationRow) : Prop where
  payload : p.payload = some r.payload
  taskId : p.summary.taskId = r.taskId
  provider : p.summary.provider = r.provider
  ns : p.ns = r.ns

end PreparedExternalOperation

/-- The row of a new operation: it is running, and no other operation of its task with the provider
is open. -/
structure Opening (active : ActiveIntegration) (db : Db) (p : PreparedExternalOperation)
    (r : OperationRow) : Prop where
  fresh : db.operations.get? p.key = none
  agrees : p.Matches r
  status : r.status = .running
  phase : r.phase = .prepared
  shaped : r.Shaped
  workspace : p.workspace = active.connection.workspace
  provider : r.provider = active.connection.provider
  ns : r.ns = active.connection.ns
  revision : p.bindingRevision = active.revision
  free : ∀ t, r.taskId = some t → ∀ k o, db.operations.get? k = some o → k.1 = p.workspace →
    o.taskId = some t → o.provider = r.provider → o.isOpen = false

/-- The links after a completion: at most one more, of the operation's own target, for the task of
the operation or for a task that did not exist. -/
def Linked (db : Db) (p : PreparedExternalOperation)
    (links : Table (WorkspaceName × ℕ × ExternalProvider) LinkRow) : Prop :=
  links = db.links ∨ ∃ t l, links = db.links.put (p.workspace, t, p.summary.provider) l ∧
    l.ns = p.ns ∧ (p.summary.taskId = some t ∨ db.tasks.get? (p.workspace, t) = none)

/-- An operation ended. -/
structure Recorded (db db' : Db) (p : PreparedExternalOperation) (r r' : OperationRow) : Prop where
  row : db.operations.get? p.key = some r
  running : r.status = .running
  final : r'.status ≠ .running
  phase : r'.phase = .terminal
  origin : r'.origin = r.origin
  task : r'.taskId = p.summary.taskId ∨ r'.status = .succeeded
  trackers : ∃ links, Linked db p links ∧
    db'.trackers = { db.trackers with operations := db.operations.put p.key r', links }

/-- An unconfirmed operation was resolved, by the first resolution that names it. -/
structure Resolved (db db' : Db) (w : WorkspaceName) (operationId : Uuid) (r r' : OperationRow)
    (links : Table (WorkspaceName × ℕ × ExternalProvider) LinkRow) : Prop where
  row : db.operations.get? (w, operationId) = some r
  unconfirmed : r.status = .unconfirmed
  final : r'.status = .succeeded ∨ r'.status = .failed
  phase : r'.phase = r.phase
  task : r'.taskId = r.taskId
  origin : r'.origin = r.origin
  first : ∀ k res, db.resolutions.get? k = some res → k.1 = w → res.operationId ≠ operationId
  trackers : ∃ resolutionId res, db.resolutions.get? (w, resolutionId) = none ∧
    res.operationId = operationId ∧ db'.trackers = { db.trackers with
      operations := db.operations.put (w, operationId) r'
      resolutions := db.resolutions.put (w, resolutionId) res
      links }

section

variable [World] {t : Tx}

omit [World] in
/-- What the rest of a transaction does to other tables does not matter. -/
theorem wp_trackers {ε α : Type} {x : Store ε α} (hx : x.Moves (OnDb (Keeps Db.trackers)))
    {Q : α → Tx → Prop} (hQ : ∀ a t', t'.db.trackers = t.db.trackers → Q a t') :
    Txn.wp x Q (fun _ => True) t :=
  Txn.wp_mono hx.wp (fun a t' h => hQ a t' h.db) fun _ h => h

omit [World] in
theorem blockingOperation_none {db : Db} {w : WorkspaceName} {taskId : ℕ}
    {provider : ExternalProvider} (h : blockingOperation db w taskId provider = none) :
    ∀ k o, db.operations.get? k = some o → k.1 = w → o.taskId = some taskId →
      o.provider = provider → o.isOpen = false := by
  intro k o ho hw htask hprovider
  by_contra hopen
  rw [Bool.not_eq_false] at hopen
  unfold blockingOperation at h
  rw [Option.map_eq_none_iff, List.head?_eq_none_iff] at h
  have hmem : (k, o) ∈ db.operations.ofFilter fun key r =>
      key.1 = w && r.taskId = some taskId && r.provider = provider &&
        (r.status = .running || r.status = .unconfirmed) := by
    refine (Table.mem_ofFilter _ _ _ _).mpr ⟨ho, ?_⟩
    simpa [hw, htask, hprovider, OperationRow.isOpen] using hopen
  rw [← List.mem_insertionSort (r := fun a b => b.2.updatedAt ≤ a.2.updatedAt), h] at hmem
  cases hmem

omit [World] in
theorem requireNoBlockingOperation_effect {w : WorkspaceName} {taskId : ℕ}
    {provider : ExternalProvider} {Q : Unit → Tx → Prop}
    (hQ : blockingOperation t.db w taskId provider = none → Q () t) :
    Txn.wp (requireNoBlockingOperation w taskId provider) Q (fun _ => True) t := by
  unfold requireNoBlockingOperation
  rw [Txn.wp_bind, Store.wp_read]
  cases hb : blockingOperation t.db w taskId provider with
  | none => exact hQ hb
  | some status => cases status <;> trivial

omit [World] in
theorem requireTaskVersion_effect {w : WorkspaceName} {taskId version : ℕ}
    {Q : TaskDetail → Tx → Prop} (hQ : ∀ task, Q task t) :
    Txn.wp (requireTaskVersion w taskId version) Q (fun _ => True) t := by
  have hmoves : (requireTaskVersion w taskId version).Moves Eq := by
    refine .bind (.mapError (fun t a t' h => ?_) _) fun _ => .bind (.orFail _ _) fun _ =>
      .bind (.require _ _) fun _ => .pure _
    unfold storeQuery at h
    split at h
    · cases h
      rfl
    · cases h
  exact Txn.wp_mono hmoves.wp (fun task t' h => h ▸ hQ task) fun _ h => h

/-- The new operation fits its command, and nothing is open for its task. -/
theorem operationPayload_effect {caller : CallerContext} {active : ActiveIntegration}
    {command : ExternalCommand} :
    Txn.wp (operationPayload caller active command)
      (fun x t' => t'.db = t.db ∧
        (match x.2.2.2 with
          | .importTask _ => x.2.1 = none
          | .link .. | .publishIssue .. | .publishReport .. => x.2.1.isSome = true) ∧
        ∀ id, x.2.1 = some id →
          blockingOperation t.db caller.workspace id command.provider = none)
      (fun _ => True) t := by
  unfold operationPayload
  cases command with
  | importTask operationId provider externalId => exact ⟨rfl, rfl, by simp⟩
  | link operationId taskId version provider externalId replace =>
    simp only [Txn.wp_bind]
    refine requireTaskVersion_effect fun task => requireNoBlockingOperation_effect fun hfree => ?_
    exact ⟨rfl, rfl, fun id hid => Option.some.inj hid ▸ hfree⟩
  | publish operationId taskId version provider kind reportId =>
    simp only [Txn.wp_bind]
    rw [Txn.wp_require]
    refine ⟨fun _ => ?_, fun _ => trivial⟩
    refine requireTaskVersion_effect fun task => requireNoBlockingOperation_effect fun hfree => ?_
    rw [Store.wp_newUuid]
    cases kind with
    | issue =>
      simp only [Txn.wp_bind]
      rw [Txn.wp_require]
      refine ⟨fun _ => ?_, fun _ => trivial⟩
      unfold validateExternalBody
      rw [Txn.wp_require]
      exact ⟨fun _ => ⟨rfl, rfl, fun id hid => Option.some.inj hid ▸ hfree⟩, fun _ => trivial⟩
    | report =>
      simp only [Txn.wp_bind]
      rw [Txn.wp_orFail]
      refine ⟨fun report _ => ?_, fun _ => trivial⟩
      rw [Txn.wp_orFail]
      refine ⟨fun link _ => ?_, fun _ => trivial⟩
      unfold loadReportSnapshot validateExternalBody
      simp only [Txn.wp_bind, Store.wp_read, Txn.wp_pure]
      rw [Txn.wp_orFail]
      refine ⟨fun row _ => ?_, fun _ => trivial⟩
      rw [Txn.wp_require]
      exact ⟨fun _ => ⟨rfl, rfl, fun id hid => Option.some.inj hid ▸ hfree⟩, fun _ => trivial⟩

/-- Preparing an operation repeats an earlier answer or opens one. -/
theorem prepareExternalOperation_effect {caller : CallerContext} {active : ActiveIntegration}
    {command : ExternalCommand} :
    Txn.wp (prepareExternalOperation caller active command)
      (fun p t' => p.payload = none ∧ t'.db.trackers = t.db.trackers ∨
        ∃ r, Opening active t.db p r ∧ t'.db.trackers =
          { t.db.trackers with operations := t.db.operations.put p.key r })
      (fun _ => True) t := by
  unfold prepareExternalOperation
  rw [Txn.wp_bind, Store.wp_read]
  split
  · trivial
  · exact .inl ⟨rfl, rfl⟩
  simp only [Txn.wp_bind]
  rw [Txn.wp_require]
  refine ⟨fun hactive => ?_, fun _ => trivial⟩
  simp only [Bool.and_eq_true, decide_eq_true_eq] at hactive
  refine Txn.wp_mono operationPayload_effect ?_ fun _ h => h
  rintro ⟨kind, taskId, version, payload⟩ t₁ ⟨hdb, hshape, hfree⟩
  obtain ⟨db, tick⟩ := t₁
  obtain rfl : db = t.db := hdb
  dsimp only at hshape hfree ⊢
  rw [Txn.wp_require]
  refine ⟨fun _ => ?_, fun _ => trivial⟩
  simp only [Store.wp_nowMillis, liftCode, Txn.wp_mapError, insertOperation]
  refine Store.wp_insertRow (fun hfresh _ => ?_) fun _ => trivial
  refine wp_trackers (appendOperationEvent_moves trackers_tasks.toBlindJournal _ _ _)
    fun event t₂ h₂ => ?_
  refine wp_trackers commit_moves fun _ t₃ h₃ => ?_
  refine wp_trackers nowInstant_moves fun _ t₄ h₄ => .inr ⟨_, ?_, h₄.trans (h₃.trans h₂)⟩
  exact
    { fresh := hfresh
      agrees := ⟨rfl, rfl, rfl, rfl⟩
      status := rfl
      phase := rfl
      shaped := hshape
      workspace := hactive.2.symm
      provider := hactive.1.symm
      ns := rfl
      revision := rfl
      free := fun id hid k o ho hw htask hprovider =>
        blockingOperation_none (hfree id hid) k o ho hw htask hprovider }

/-- Marking an operation as dispatched. -/
theorem markExternalDispatched_effect {p : PreparedExternalOperation} :
    Txn.wp (markExternalDispatched p)
      (fun _ t' => ∃ r now, t.db.operations.get? p.key = some r ∧ r.phase = .prepared ∧
        r.status = .running ∧ t'.db.trackers = { t.db.trackers with
          operations := t.db.operations.put p.key
            { r with phase := .dispatched, updatedAt := now } })
      (fun _ => True) t := by
  unfold markExternalDispatched
  simp only [Txn.wp_bind, Store.wp_nowMillis, liftCode, Txn.wp_mapError, updateOperation]
  refine Store.wp_updateRow (fun _ => ?_) (fun r hr hp _ => ?_) fun _ _ _ _ => trivial
  · rw [Txn.wp_require]
    exact ⟨fun hchanged => absurd hchanged (by simp), fun _ => trivial⟩
  simp only [Bool.and_eq_true, decide_eq_true_eq] at hp
  rw [Txn.wp_require]
  refine ⟨fun _ => ?_, fun _ => trivial⟩
  rw [Store.wp_read, Txn.wp_orFail]
  refine ⟨fun operation _ => ?_, fun _ => trivial⟩
  refine wp_trackers (appendOperationEvent_moves trackers_tasks.toBlindJournal _ _ _)
    fun event t₂ h₂ => ?_
  refine wp_trackers commit_moves fun _ t₃ h₃ => ?_
  exact ⟨r, _, hr, hp.1, hp.2, h₃.trans h₂⟩

/-- The end of every completion. -/
theorem terminal_effect {p : PreparedExternalOperation} {status : ExternalOperationStatus}
    {externalId url error : Option String} {now : ℕ} {w : WorkspaceName} {actorId : String}
    {taskEvent : Option WorkspaceEvent} :
    Txn.wp (updateTerminalOperation p status externalId url error now >>= fun operation =>
        appendOperationEvent w actorId operation >>= fun event =>
        liftCode commit >>= fun _ => pure ({ event, taskEvent } : ExternalCompletion))
      (fun _ t' => ∃ r, t.db.operations.get? p.key = some r ∧ r.status = .running ∧
        t'.db.trackers = { t.db.trackers with
          operations := t.db.operations.put p.key
            (r.finish p.summary.taskId status externalId url error now) })
      (fun _ => True) t := by
  unfold updateTerminalOperation
  simp only [Txn.wp_bind, liftCode, Txn.wp_mapError, updateOperation, Txn.wp_pure]
  refine Store.wp_updateRow (fun _ => ?_) (fun r hr hp _ => ?_) fun _ _ _ _ => trivial
  · rw [Txn.wp_require]
    exact ⟨fun hchanged => absurd hchanged (by simp), fun _ => trivial⟩
  rw [Txn.wp_require]
  refine ⟨fun _ => ?_, fun _ => trivial⟩
  refine wp_trackers (appendOperationEvent_moves trackers_tasks.toBlindJournal _ _ _)
    fun event t₂ h₂ => ?_
  refine wp_trackers commit_moves fun _ t₃ h₃ => ?_
  exact ⟨r, hr, of_decide_eq_true hp, h₃.trans h₂⟩

theorem terminalExternalError_effect {p : PreparedExternalOperation}
    {status : ExternalOperationStatus} (hstatus : status ≠ .running) {error : String} :
    Txn.wp (terminalExternalError p status error)
      (fun _ t' => ∃ r r', Recorded t.db t'.db p r r' ∧ r'.status = status) (fun _ => True) t := by
  unfold terminalExternalError
  rw [Txn.wp_bind, Store.wp_nowMillis]
  refine Txn.wp_mono terminal_effect ?_ fun _ h => h
  rintro _ t' ⟨r, hr, hrun, htrackers⟩
  refine ⟨r, r.finish p.summary.taskId status none none (some error) (World.now t.tick), ?_, rfl⟩
  exact ⟨hr, hrun, hstatus, rfl, rfl, .inl rfl, _, .inl rfl, htrackers⟩

theorem completeExternalError_effect {p : PreparedExternalOperation}
    {error : IntegrationClientError} :
    Txn.wp (completeExternalError p error)
      (fun _ t' => ∃ r r', Recorded t.db t'.db p r r' ∧
        ((∃ code, error = .unconfirmed code) → r'.status = .unconfirmed)) (fun _ => True) t := by
  cases error with
  | busy =>
    refine Txn.wp_mono (terminalExternalError_effect (by simp)) ?_ fun _ h => h
    rintro _ t' ⟨r, r', h, -⟩
    exact ⟨r, r', h, by simp⟩
  | failed code =>
    refine Txn.wp_mono (terminalExternalError_effect (by simp)) ?_ fun _ h => h
    rintro _ t' ⟨r, r', h, -⟩
    exact ⟨r, r', h, by simp⟩
  | unconfirmed code =>
    refine Txn.wp_mono (terminalExternalError_effect (by simp)) ?_ fun _ h => h
    rintro _ t' ⟨r, r', h, hstatus⟩
    exact ⟨r, r', h, fun _ => hstatus⟩

/-- The task of an imported issue is new, and so is its link. -/
theorem importIssue_effect {p : PreparedExternalOperation} {issue : ExternalIssue} {now : ℕ} :
    Txn.wp (importIssue p issue now)
      (fun x t' => ∃ l : LinkRow, l.ns = p.ns ∧ t.db.tasks.get? (p.workspace, x.1) = none ∧
        t'.db.trackers = { t.db.trackers with
          links := t.db.links.put (p.workspace, x.1, p.summary.provider) l })
      (fun _ => True) t := by
  unfold importIssue
  simp only [Txn.wp_bind, liftCode, Txn.wp_mapError]
  have htasks : BlindJournal (Keeps fun db => (db.trackers, db.tasks)) :=
    ⟨fun _ _ => rfl, fun _ _ => rfl⟩
  refine Txn.wp_mono (takeTaskId_moves htasks _).wp (fun found t₁ h₁ => ?_) fun _ h => h
  rw [Txn.wp_orFail]
  refine ⟨fun taskId _ => ?_, fun _ => trivial⟩
  obtain ⟨hkept, hsame⟩ := Prod.mk.inj h₁.db
  refine Store.wp_insertRow (fun hfresh _ => ?_) fun _ => trivial
  rw [Store.wp_newUuid]
  refine Store.wp_insertRow (fun _ _ => ?_) fun _ => trivial
  refine Store.wp_insertRow (fun _ _ => ?_) fun _ => trivial
  refine wp_trackers (appendExternalTaskEvent_moves trackers_tasks.toBlindJournal _ _ _ _)
    fun event t₅ h₅ => ?_
  refine ⟨{ ns := p.ns, externalId := issue.externalId, url := issue.url, linkedAt := now }, rfl,
    by rw [← hsame]; exact hfresh, h₅.trans ?_⟩
  have hlinks : t₁.db.links = t.db.links := congrArg Trackers.links hkept
  have hoperations : t₁.db.operations = t.db.operations := congrArg Trackers.operations hkept
  have hresolutions : t₁.db.resolutions = t.db.resolutions := congrArg Trackers.resolutions hkept
  have hbindings : t₁.db.bindings = t.db.bindings := congrArg Trackers.bindings hkept
  simp only [Db.trackers, setLinks, setReports, setTasks, hlinks, hoperations, hresolutions,
    hbindings]

omit [World] in
theorem Recorded.succeeded {db db' : Db} {p : PreparedExternalOperation} {r : OperationRow}
    {taskId : Option ℕ} {externalId url error : Option String} {now : ℕ}
    {links : Table (WorkspaceName × ℕ × ExternalProvider) LinkRow}
    (hr : db.operations.get? p.key = some r) (hrun : r.status = .running)
    (hlinks : Linked db p links)
    (htrackers : db'.trackers = { db.trackers with
      operations := db.operations.put p.key (r.finish taskId .succeeded externalId url error now)
      links }) :
    Recorded db db' p r (r.finish taskId .succeeded externalId url error now) :=
  ⟨hr, hrun, by simp [OperationRow.finish], rfl, rfl, .inr rfl, links, hlinks, htrackers⟩

theorem terminalSemanticConflict_effect {p : PreparedExternalOperation} {code : RouterErrorCode}
    {now : ℕ} :
    Txn.wp (terminalSemanticConflict p code now)
      (fun _ t' => ∃ r r', Recorded t.db t'.db p r r') (fun _ => True) t := by
  refine Txn.wp_mono terminal_effect ?_ fun _ h => h
  rintro _ t' ⟨r, hr, hrun, htrackers⟩
  exact ⟨r, r.finish p.summary.taskId .failed none none (some code.asStr) now, hr, hrun,
    by simp [OperationRow.finish], rfl, rfl, .inl rfl, _, .inl rfl, htrackers⟩

theorem completeImport_effect {p : PreparedExternalOperation} {issue : ExternalIssue} :
    Txn.wp (completeImport p issue)
      (fun _ t' => ∃ r r', Recorded t.db t'.db p r r') (fun _ => True) t := by
  unfold completeImport
  simp only [Txn.wp_bind]
  rw [Txn.wp_require]
  refine ⟨fun _ => ?_, fun _ => trivial⟩
  rw [Txn.wp_require]
  refine ⟨fun _ => ?_, fun _ => trivial⟩
  rw [Store.wp_nowMillis, Store.wp_read]
  split
  · next w taskId _ =>
    rw [Txn.wp_ite]
    refine ⟨fun _ => terminalSemanticConflict_effect, fun _ => ?_⟩
    refine Txn.wp_mono terminal_effect ?_ fun _ h => h
    rintro _ t' ⟨r, hr, hrun, htrackers⟩
    exact ⟨r, _, .succeeded hr hrun (.inl rfl) htrackers⟩
  · rw [Txn.wp_bind]
    refine Txn.wp_mono importIssue_effect ?_ fun _ h => h
    rintro ⟨taskId, event⟩ t₁ ⟨l, hns, hfresh, h₁⟩
    refine Txn.wp_mono terminal_effect ?_ fun _ h => h
    rintro _ t' ⟨r, hr, hrun, htrackers⟩
    have hoperations : t₁.db.operations = t.db.operations := congrArg Trackers.operations h₁
    rw [hoperations] at hr htrackers
    rw [h₁] at htrackers
    exact ⟨r, _, .succeeded hr hrun (.inr ⟨taskId, l, rfl, hns, .inr hfresh⟩) htrackers⟩

/-- An operation that succeeds after a transaction has written its link. -/
theorem succeeded_effect {t₁ : Tx} (p : PreparedExternalOperation) (externalId url : String)
    (now : ℕ) (taskEvent : Option WorkspaceEvent)
    {links : Table (WorkspaceName × ℕ × ExternalProvider) LinkRow} (hlinks : Linked t.db p links)
    (h₁ : t₁.db.trackers = { t.db.trackers with links }) :
    Txn.wp (updateTerminalOperation p .succeeded (some externalId) (some url) none now >>=
        fun operation =>
        appendOperationEvent p.workspace p.actorId operation >>= fun event =>
        liftCode commit >>= fun _ => pure ({ event, taskEvent } : ExternalCompletion))
      (fun _ t' => ∃ r r', Recorded t.db t'.db p r r' ∧ r'.status = .succeeded ∧
        r'.externalId = some externalId) (fun _ => True) t₁ := by
  refine Txn.wp_mono terminal_effect ?_ fun _ h => h
  rintro _ t' ⟨r, hr, hrun, htrackers⟩
  have hoperations : t₁.db.operations = t.db.operations := congrArg Trackers.operations h₁
  rw [hoperations] at hr htrackers
  rw [h₁] at htrackers
  exact ⟨r, _, .succeeded hr hrun hlinks htrackers, rfl, rfl⟩

/-- A link of the operation's own task is written and the task touched. -/
theorem touched_effect {w : WorkspaceName} {taskId : ℕ} {actorId : String} {operationId : Uuid}
    {now : ℕ} {Q : ℕ → WorkspaceEvent → Tx → Prop}
    (hQ : ∀ n event t', t'.db.trackers = t.db.trackers → Q n event t') :
    Txn.wp (touchTask w taskId actorId now)
      (fun n t' => Txn.wp (appendExternalTaskEvent w actorId taskId operationId)
        (fun event t'' => Q n event t'') (fun _ => True) t') (fun _ => True) t := by
  refine wp_trackers (touchTask_moves trackers_tasks _ _ _ _) fun n t₁ h₁ => ?_
  refine wp_trackers (appendExternalTaskEvent_moves trackers_tasks.toBlindJournal _ _ _ _)
    fun event t₂ h₂ => hQ n event t₂ (h₂.trans h₁)

theorem completeLink_effect {p : PreparedExternalOperation} {issue : ExternalIssue} :
    Txn.wp (completeLink p issue)
      (fun _ t' => ∃ r r', Recorded t.db t'.db p r r') (fun _ => True) t := by
  unfold completeLink
  split
  · next externalId version replace taskId _ htask =>
    rw [Txn.wp_bind, Store.wp_nowMillis]
    simp only [Txn.wp_bind, Store.wp_read]
    rw [Txn.wp_orFail]
    refine ⟨fun row _ => ?_, fun _ => trivial⟩
    rw [Txn.wp_ite]
    refine ⟨fun _ => terminalSemanticConflict_effect, fun _ => ?_⟩
    rw [Txn.wp_ite]
    refine ⟨fun _ => terminalSemanticConflict_effect, fun _ => ?_⟩
    rw [Txn.wp_ite]
    refine ⟨fun _ => terminalSemanticConflict_effect, fun _ => ?_⟩
    rw [Txn.wp_ite]
    refine ⟨fun _ => ?_, fun _ => ?_⟩
    · refine Txn.wp_mono terminal_effect ?_ fun _ h => h
      rintro _ t' ⟨r, hr, hrun, htrackers⟩
      exact ⟨r, _, .succeeded hr hrun (.inl rfl) htrackers⟩
    · simp only [Txn.wp_bind, liftCode, Txn.wp_mapError, upsertLink]
      rw [Store.wp_execute]
      refine ⟨fun _ => ?_, fun _ => trivial⟩
      refine touched_effect fun n event t₁ h₁ => ?_
      have hdone := succeeded_effect p issue.externalId issue.url (World.now t.tick) (some event)
        (.inr ⟨taskId, _, rfl, rfl, .inl htask⟩) h₁
      have hrecorded := Txn.wp_mono hdone (fun _ t' h => h.imp fun r h => h.imp fun r' h => h.1)
        fun _ h => h
      simpa only [Txn.wp_bind, Txn.wp_pure, liftCode, Txn.wp_mapError] using! hrecorded
  · trivial

theorem completeExternalRead_effect {p : PreparedExternalOperation} {issue : ExternalIssue} :
    Txn.wp (completeExternalRead p issue)
      (fun _ t' => ∃ r r', Recorded t.db t'.db p r r') (fun _ => True) t := by
  unfold completeExternalRead
  split
  · exact completeImport_effect
  · exact completeLink_effect
  · trivial

/-- The link of a published issue is new. -/
theorem linkPublishedIssue_effect {w : WorkspaceName} {taskId : ℕ} {provider : ExternalProvider}
    {ns actorId : String} {operationId : Uuid} {mutation : ExternalMutation} {now : ℕ} :
    Txn.wp (linkPublishedIssue w taskId provider ns actorId operationId mutation now)
      (fun _ t' => ∃ l : LinkRow, l.ns = ns ∧ t.db.links.get? (w, taskId, provider) = none ∧
        t'.db.trackers = { t.db.trackers with links := t.db.links.put (w, taskId, provider) l })
      (fun _ => True) t := by
  unfold linkPublishedIssue
  simp only [Txn.wp_bind, liftCode, Txn.wp_mapError, insertLink, Txn.wp_pure]
  refine Store.wp_insertRow (fun hnone _ => ?_) fun _ => trivial
  exact touched_effect fun n event t₁ h₁ =>
    ⟨{ ns, externalId := mutation.externalId, url := mutation.url, linkedAt := now }, rfl,
    hnone, h₁⟩

/-- A publication that succeeded is recorded with the id the provider gave it. -/
theorem completeExternalMutation_effect {p : PreparedExternalOperation}
    {mutation : ExternalMutation} :
    Txn.wp (completeExternalMutation p mutation)
      (fun _ t' => ∃ r r', Recorded t.db t'.db p r r' ∧ r'.status = .succeeded ∧
        r'.externalId = some mutation.externalId) (fun _ => True) t := by
  unfold completeExternalMutation
  rw [Txn.wp_bind, Store.wp_nowMillis]
  dsimp only
  split
  · simp only [Txn.wp_bind]
    rw [Txn.wp_orFail]
    refine ⟨fun taskId htask => ?_, fun _ => trivial⟩
    refine Txn.wp_mono linkPublishedIssue_effect ?_ fun _ h => h
    rintro ⟨n, event⟩ t₁ ⟨l, hns, -, h₁⟩
    have hdone := succeeded_effect p mutation.externalId mutation.url (World.now t.tick)
      (some event) (.inr ⟨taskId, l, rfl, hns, .inl htask⟩) h₁
    simpa only [Txn.wp_bind, Txn.wp_pure] using! hdone
  · exact succeeded_effect p mutation.externalId mutation.url (World.now t.tick) none (.inl rfl) rfl
  · trivial

omit [World] in
theorem resolutionOk_first {db : Db} {w : WorkspaceName} {resolutionId : Uuid} {res : ResolutionRow}
    (hnone : db.resolutions.get? (w, resolutionId) = none)
    (hok : resolutionOk db (w, resolutionId) res = true) :
    ∀ k res', db.resolutions.get? k = some res' → k.1 = w →
      res'.operationId ≠ res.operationId := by
  intro k res' hres hw heq
  simp only [resolutionOk, Bool.and_eq_true, List.all_eq_true] at hok
  have hall := hok.2 (k, res') ((Table.mem_toList _ _ _).mpr hres)
  have hne : k ≠ (w, resolutionId) := by
    rintro rfl
    rw [hnone] at hres
    cases hres
  simp [hne, hw, heq] at hall

/-- The operator says that nothing was published. -/
theorem completeNotAppliedResolution_effect {caller : CallerContext}
    {operation : ExternalOperationSummary} {resolutionId : Uuid} {note : String}
    {requestHash : ResolutionRequest} :
    Txn.wp (completeNotAppliedResolution caller operation resolutionId note requestHash)
      (fun _ t' => ∃ r r', Resolved t.db t'.db caller.workspace operation.id r r' t.db.links)
      (fun _ => True) t := by
  unfold completeNotAppliedResolution insertResolution
  simp only [Txn.wp_bind, Store.wp_nowMillis, liftCode, Txn.wp_mapError, insertResolutionRow,
    updateOperation, Txn.wp_pure]
  refine Store.wp_insertRow (fun hnone hok => ?_) fun _ => trivial
  refine Store.wp_updateRow (fun _ => ?_) (fun r hr hp _ => ?_) fun _ _ _ _ => trivial
  · rw [Txn.wp_require]
    exact ⟨fun hchanged => absurd hchanged (by simp), fun _ => trivial⟩
  rw [Txn.wp_require]
  refine ⟨fun _ => ?_, fun _ => trivial⟩
  refine wp_trackers (appendIntegrationEvent_moves trackers_tasks.toBlindJournal _ _ _ _)
    fun event t₂ h₂ => ?_
  refine wp_trackers commit_moves fun _ t₃ h₃ => ?_
  refine ⟨r, r.settle .failed r.externalId r.url (some "operator_confirmed_not_applied")
    (World.now t.tick), hr, of_decide_eq_true hp, .inr rfl, rfl, rfl, rfl,
    resolutionOk_first hnone hok, resolutionId, _, hnone, ?_, h₃.trans h₂⟩
  rfl

/-- Preparing a resolution changes something only when it resolves the operation at once. -/
theorem prepareExternalResolution_effect {caller : CallerContext} {active : ActiveIntegration}
    {operationId resolutionId : Uuid} {outcome : ExternalResolutionOutcome}
    {externalId : Option String} {note : String} :
    Txn.wp (prepareExternalResolution caller active operationId resolutionId outcome
    externalId note)
      (fun x t' => (t'.db.trackers = t.db.trackers ∧ ∀ p, x = .verify p →
          p.workspace = caller.workspace ∧ ∃ r, t.db.operations.get? (p.workspace, p.operationId) =
            some r ∧ r.status = .unconfirmed ∧ p.provider = r.provider ∧ p.ns = r.ns ∧
            p.taskId = r.taskId ∧ p.payload = r.payload) ∨
        (∀ p, x ≠ .verify p) ∧
          ∃ r r', Resolved t.db t'.db caller.workspace operationId r r' t.db.links)
      (fun _ => True) t := by
  unfold prepareExternalResolution
  simp only [Txn.wp_bind]
  rw [Txn.wp_require]
  refine ⟨fun _ => ?_, fun _ => trivial⟩
  have hstill : (requireResolver caller.credentialId caller.workspace).Moves Eq :=
    .bind (.read _) fun _ => .bind (.orFail _ _) fun _ => .require _ _
  refine Txn.wp_mono hstill.wp ?_ fun _ h => h
  rintro _ _ rfl
  rw [Store.wp_read]
  split
  · simp only [Txn.wp_bind]
    rw [Txn.wp_require]
    refine ⟨fun _ => ?_, fun _ => trivial⟩
    rw [Store.wp_read, Txn.wp_orFail]
    refine ⟨fun _ _ => ?_, fun _ => trivial⟩
    rw [Store.wp_read, Txn.wp_orFail]
    exact ⟨fun _ _ => .inl ⟨rfl, by simp⟩, fun _ => trivial⟩
  simp only [Txn.wp_bind]
  rw [Store.wp_read, Txn.wp_require]
  refine ⟨fun _ => ?_, fun _ => trivial⟩
  rw [Store.wp_read, Txn.wp_orFail]
  refine ⟨fun r hr => ?_, fun _ => trivial⟩
  rw [Txn.wp_require]
  refine ⟨fun hstatus => ?_, fun _ => trivial⟩
  rw [Txn.wp_require]
  refine ⟨fun _ => ?_, fun _ => trivial⟩
  simp only [operationSummaryOf, Bool.and_eq_true] at hstatus
  cases outcome with
  | notApplied =>
    simp only [Txn.wp_bind]
    rw [Txn.wp_require]
    refine ⟨fun _ => ?_, fun _ => trivial⟩
    refine Txn.wp_mono completeNotAppliedResolution_effect ?_ fun _ h => h
    exact fun completion t' h => .inr ⟨by simp, h⟩
  | applied =>
    simp only [Txn.wp_bind]
    rw [Txn.wp_orFail]
    refine ⟨fun _ _ => ?_, fun _ => trivial⟩
    rw [Txn.wp_orFail]
    refine ⟨fun _ _ => ?_, fun _ => trivial⟩
    rw [Txn.wp_require]
    refine ⟨fun _ => ?_, fun _ => trivial⟩
    refine .inl ⟨rfl, fun p hp => ?_⟩
    cases hp
    exact ⟨rfl, r, hr, of_decide_eq_true hstatus.1, rfl, rfl, rfl, rfl⟩

omit [World] in
/-- The last writes of an applied resolution. -/
theorem Resolved.of_writes {db db₁ db' : Db} {w : WorkspaceName} {operationId resolutionId : Uuid}
    {r : OperationRow} {externalId url : Option String} {now : ℕ} {res : ResolutionRow}
    {links : Table (WorkspaceName × ℕ × ExternalProvider) LinkRow}
    (h₁ : db₁.trackers = { db.trackers with links })
    (hr : db₁.operations.get? (w, operationId) = some r) (hstatus : r.status = .unconfirmed)
    (hnone : db₁.resolutions.get? (w, resolutionId) = none)
    (hfirst : ∀ k res', db₁.resolutions.get? k = some res' → k.1 = w →
      res'.operationId ≠ operationId) (hres : res.operationId = operationId)
    (htrackers : db'.trackers = { db₁.trackers with
      operations := db₁.operations.put (w, operationId)
        (r.settle .succeeded externalId url none now)
      resolutions := db₁.resolutions.put (w, resolutionId) res }) :
    Resolved db db' w operationId r (r.settle .succeeded externalId url none now) links := by
  have hoperations : db₁.operations = db.operations := congrArg Trackers.operations h₁
  have hresolutions : db₁.resolutions = db.resolutions := congrArg Trackers.resolutions h₁
  rw [h₁, hoperations, hresolutions] at htrackers
  rw [hoperations] at hr
  rw [hresolutions] at hnone hfirst
  exact ⟨hr, hstatus, .inl rfl, rfl, rfl, rfl, hfirst, resolutionId, res, hnone, hres, htrackers⟩

/-- The links after an applied resolution: at most one more, for the task of the operation. -/
def LinkedBy (db : Db) (p : PreparedExternalResolution)
    (links : Table (WorkspaceName × ℕ × ExternalProvider) LinkRow) : Prop :=
  links = db.links ∨ ∃ taskId l, p.taskId = some taskId ∧ l.ns = p.ns ∧
    db.links.get? (p.workspace, taskId, p.provider) = none ∧
    links = db.links.put (p.workspace, taskId, p.provider) l

/-- What follows the link of an applied resolution. -/
theorem recordApplied_effect {p : PreparedExternalResolution} {t₁ : Tx}
    {links : Table (WorkspaceName × ℕ × ExternalProvider) LinkRow} (mutation : ExternalMutation)
    (now : ℕ) (taskEvent : Option WorkspaceEvent)
    (h₁ : t₁.db.trackers = { t.db.trackers with links })
    (hlinks : LinkedBy t.db p links) :
    Txn.wp (do
        let changed ← liftCode (updateOperation (p.workspace, p.operationId)
          (fun r => r.status = .unconfirmed) fun r => { r with
            status := .succeeded
            externalId := some mutation.externalId
            url := some mutation.url
            error := none
            updatedAt := now })
        Txn.require (changed = 1) .externalConflict
        insertResolution p.workspace p.resolutionId p.operationId p.actorId p.requestHash .applied
          (some mutation.externalId) p.note now
        let operation ← Store.read fun db => operationSummary db p.workspace p.operationId
        let operation ← Txn.orFail .storageError operation
        let resolution : ExternalResolution :=
          { id := p.resolutionId, operationId := p.operationId, actorId := p.actorId,
            outcome := .applied, externalId := some mutation.externalId, note := p.note,
            createdAt := now }
        let event ← appendResolutionEvent p.workspace p.actorId operation resolution
        liftCode commit
        pure ({ operation, resolution, event, taskEvent } : ExternalResolutionCompletion))
      (fun _ t' => ∃ r r' links, Resolved t.db t'.db p.workspace p.operationId r r' links ∧
        LinkedBy t.db p links)
      (fun _ => True) t₁ := by
  unfold insertResolution
  simp only [Txn.wp_bind, liftCode, Txn.wp_mapError, insertResolutionRow, updateOperation,
    Txn.wp_pure]
  refine Store.wp_updateRow (fun _ => ?_) (fun r hr hp _ => ?_) fun _ _ _ _ => trivial
  · rw [Txn.wp_require]
    exact ⟨fun hchanged => absurd hchanged (by simp), fun _ => trivial⟩
  rw [Txn.wp_require]
  refine ⟨fun _ => ?_, fun _ => trivial⟩
  refine Store.wp_insertRow (fun hnone hok => ?_) fun _ => trivial
  rw [Store.wp_read, Txn.wp_orFail]
  refine ⟨fun operation _ => ?_, fun _ => trivial⟩
  refine wp_trackers (appendIntegrationEvent_moves trackers_tasks.toBlindJournal _ _ _ _)
    fun event t₂ h₂ => ?_
  refine wp_trackers commit_moves fun _ t₃ h₃ => ?_
  have hfirst := resolutionOk_first hnone hok
  exact ⟨r, _, links, .of_writes h₁ hr (of_decide_eq_true hp) hnone hfirst rfl (h₃.trans h₂),
    hlinks⟩

/-- The operator's finding is recorded, with the link of a published issue. -/
theorem completeAppliedResolution_effect {p : PreparedExternalResolution}
    {mutation : ExternalMutation} :
    Txn.wp (completeAppliedResolution p mutation)
      (fun _ t' => ∃ r r' links, Resolved t.db t'.db p.workspace p.operationId r r' links ∧
        LinkedBy t.db p links)
      (fun _ => True) t := by
  unfold completeAppliedResolution
  rw [Txn.wp_bind, Txn.wp_require]
  refine ⟨fun _ => ?_, fun _ => trivial⟩
  rw [Txn.wp_bind, Store.wp_nowMillis]
  dsimp only
  split
  · simp only [Txn.wp_bind]
    rw [Txn.wp_orFail]
    refine ⟨fun taskId htask => ?_, fun _ => trivial⟩
    refine Txn.wp_mono linkPublishedIssue_effect ?_ fun _ h => h
    rintro ⟨n, event⟩ t₁ ⟨l, hns, hnone, h₁⟩
    rw [Txn.wp_require]
    refine ⟨fun _ => ?_, fun _ => trivial⟩
    have hdone := recordApplied_effect mutation (World.now t.tick) (some event) h₁
      (.inr ⟨taskId, l, htask, hns, hnone, rfl⟩)
    simpa only [Txn.wp_bind, Txn.wp_pure] using! hdone
  · exact recordApplied_effect mutation (World.now t.tick) none rfl (.inl rfl)
  · trivial
  · trivial

/-- The row that recovery leaves of an operation. -/
def OperationRow.recovered (r : OperationRow) (now : ℕ) : OperationRow :=
  if r.status = .running ∧ r.phase ≠ .terminal then
    { r with
      phase := .terminal
      status := (recoveredStatus r).1
      error := some (recoveredStatus r).2
      updatedAt := now }
  else r

/-- Recovery ends every operation that was open and leaves the others. -/
def Recovered (db db' : Db) : Prop :=
  ∃ now, (∀ k, db'.operations.get? k = (db.operations.get? k).map fun r => r.recovered now) ∧
    db'.links = db.links ∧ db'.resolutions = db.resolutions ∧ db'.bindings = db.bindings

theorem recoverOperation_effect {now : ℕ} {key : WorkspaceName × Uuid} {r : OperationRow}
    (hr : t.db.operations.get? key = some r) (hrun : r.status = .running)
    (hphase : r.phase ≠ .terminal) :
    Txn.wp (recoverOperation now (key, r))
      (fun _ t' => t'.db.trackers = { t.db.trackers with
        operations := t.db.operations.put key (r.recovered now) })
      (fun _ => True) t := by
  unfold recoverOperation
  dsimp only
  simp only [Txn.wp_bind, updateOperation]
  refine Store.wp_updateRow (fun hnone => ?_) (fun r' hr' _ _ => ?_) fun _ _ _ _ => trivial
  · have := hnone r hr
    simp [hrun] at this
  rw [hr, Option.some.injEq] at hr'
  subst hr'
  refine wp_trackers (appendEventInTransaction_moves trackers_tasks.toBlindJournal _) ?_
  intro _ t' h'
  rw [OperationRow.recovered, if_pos ⟨hrun, hphase⟩]
  exact h'

theorem recoverExternalOperations_effect :
    Txn.wp recoverExternalOperations (fun _ t' => Recovered t.db t'.db) (fun _ => True) t := by
  unfold recoverExternalOperations
  simp only [Txn.wp_bind, Store.wp_nowMillis, Store.wp_read, Txn.wp_pure]
  have hnodup : ((openOperations t.db).map Prod.fst).Nodup := by
    refine ((List.perm_insertionSort _ _).map _).nodup_iff.mpr ?_
    exact t.db.operations.nodup_toList_keys.sublist (List.filter_sublist.map _)
  -- Operations whose turn has come are recovered, the others are as they were.
  refine Txn.wp_mono (Txn.wp_each
    (I := fun done _ t' => (∀ k, t'.db.operations.get? k = if k ∈ done.map Prod.fst then
        (t.db.operations.get? k).map fun r => r.recovered (World.now t.tick)
      else t.db.operations.get? k) ∧ t'.db.links = t.db.links ∧
        t'.db.resolutions = t.db.resolutions ∧ t'.db.bindings = t.db.bindings)
    ⟨by simp, rfl, rfl, rfl⟩ ?_) ?_ fun _ h => h
  · rintro done results ⟨key, r⟩ rest t' hsplit ⟨hoperations, hlinks, hresolutions, hbindings⟩
    have hmem : (key, r) ∈ openOperations t.db := by simp [hsplit]
    obtain ⟨hr, hrun, hphase⟩ := mem_openOperations.mp hmem
    rw [hsplit, List.map_append, List.map_cons] at hnodup
    have hnew : key ∉ done.map Prod.fst := by
      intro hin
      exact (List.nodup_append.mp hnodup).2.2 _ hin _ (by simp) rfl
    have hr' : t'.db.operations.get? key = some r := by
      rw [hoperations, if_neg hnew, hr]
    refine Txn.wp_mono (recoverOperation_effect hr' hrun hphase) ?_ fun _ h => h
    intro _ t'' h''
    refine ⟨fun k => ?_, (congrArg Trackers.links h'').trans hlinks,
      (congrArg Trackers.resolutions h'').trans hresolutions,
      (congrArg Trackers.bindings h'').trans hbindings⟩
    have hops : t''.db.operations = t'.db.operations.put key (r.recovered (World.now t.tick)) :=
      congrArg Trackers.operations h''
    rw [hops, Table.get?_put, List.map_append, List.map_cons, List.map_nil]
    by_cases hk : k = key
    · subst hk
      simp [hr]
    · rw [if_neg hk, hoperations]
      simp only [List.mem_append, List.mem_singleton, hk, or_false]
  · rintro _ t' ⟨hoperations, hlinks, hresolutions, hbindings⟩
    refine ⟨World.now t.tick, fun k => ?_, hlinks, hresolutions, hbindings⟩
    rw [hoperations]
    split
    · rfl
    · next hk =>
      cases hr : t.db.operations.get? k with
      | none => rfl
      | some r =>
        have hkeep : ¬ (r.status = .running ∧ r.phase ≠ .terminal) := fun hopen =>
          hk (List.mem_map.mpr ⟨(k, r), mem_openOperations.mpr ⟨hr, hopen.1, hopen.2⟩, rfl⟩)
        simp [OperationRow.recovered, hkeep]

theorem recoverExternalInflight_effect :
    Txn.wp recoverExternalInflight (fun _ t' => Recovered t.db t'.db) (fun _ => True) t := by
  unfold recoverExternalInflight
  rw [Txn.wp_bind]
  refine Txn.wp_mono recoverExternalOperations_effect ?_ fun _ h => h
  exact fun _ t' h => commit_any h

theorem recover_effect : Txn.wp recover (fun _ t' => Recovered t.db t'.db) (fun _ => True) t := by
  unfold recover
  simp only [Txn.wp_bind]
  refine wp_trackers (recoverUnfinishedRequests_moves trackers_tasks.toBlindJournal)
    fun _ t₁ h₁ => ?_
  refine wp_trackers (recoverRunningAttempts_moves trackers_tasks) fun _ t₂ h₂ => ?_
  refine Txn.wp_mono recoverExternalOperations_effect ?_ fun _ h => h
  rintro _ t₃ ⟨now, hoperations, hlinks, hresolutions, hbindings⟩
  have h := h₂.trans h₁
  have hops : t₂.db.operations = t.db.operations := congrArg Trackers.operations h
  rw [hops] at hoperations
  exact commit_any ⟨now, hoperations, hlinks.trans (congrArg Trackers.links h),
    hresolutions.trans (congrArg Trackers.resolutions h),
    hbindings.trans (congrArg Trackers.bindings h)⟩

end

end SessionRouter
