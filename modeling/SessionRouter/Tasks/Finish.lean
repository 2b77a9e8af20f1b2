import SessionRouter.Tasks.Shapes

/-!
How a task transaction ends: the summary is read back, one event is appended and, for a command,
a receipt is stored.
-/

namespace SessionRouter

/-- An actor id the event table takes. -/
def ValidActor (actorId : String) : Prop := 1 ≤ sqlLength actorId ∧ sqlLength actorId ≤ 128

theorem wp_storeQuery {α : Type} {f : Db → Except StoreError α} {a : α} {t : Tx}
    {Q : α → Tx → Prop} {E : StoreError → Prop} (h : f t.db = .ok a) (hQ : Q a t) :
    Txn.wp (storeQuery f) Q E t := by
  unfold Txn.wp storeQuery
  rw [h]
  exact hQ

section

variable [World] {db : Db} {tick₀ tick : ℕ} {d : TaskDraft}

theorem TaskDraft.Fits.loads (h : d.Fits db tick) : d.row.Loads (db.draft d) where
  current := by
    intro id hid
    obtain ⟨-, a, ha, -⟩ := h.fit.current id hid
    exact ⟨a, ha⟩
  last := by
    intro id hid
    obtain ⟨a, ha, -⟩ := h.fit.last id hid
    exact ⟨a, ha⟩
  checkpoint := h.checkpoint
  result := h.result

theorem TaskDraft.Fits.mono (h : d.Fits db tick) {tick' : ℕ} (hle : tick ≤ tick') :
    d.Fits db tick' where
  check := h.check
  keeps := h.keeps
  fit := h.fit
  checkpoint := h.checkpoint
  result := h.result
  id := h.id
  attempt := h.attempt
  report := by
    intro id p hp
    obtain ⟨hnew, hof, hbody, hdrawn⟩ := h.report id p hp
    exact ⟨hnew, hof, hbody, hdrawn.mono hle⟩

/-- The task event that closes a draft. -/
def TaskDraft.insert (d : TaskDraft) (db : Db) (actorId : String) (change : TaskChange)
    (attemptId reportId externalOperationId : Option Uuid) : EventInsert :=
  { workspace := d.workspace, kind := .task, actorId, taskId := some d.taskId,
    content := some (.task
      { change, task := taskSummaryOf (db.draft d) d.workspace d.taskId d.row, attemptId, reportId,
        externalOperationId }) }

/-- The rows an event of a draft refers to are rows of its task. -/
structure TaskDraft.Refers (d : TaskDraft) (db : Db) (attemptId reportId : Option Uuid) : Prop where
  attempt : ∀ id, attemptId = some id →
    ∃ a, (db.draft d).attempts.get? id = some a ∧ a.isOf d.workspace d.taskId
  report : ∀ id, reportId = some id →
    ∃ p, (db.draft d).reports.get? id = some p ∧ p.isOf d.workspace d.taskId

theorem TaskDraft.insert_valid (h : d.Fits db tick) {actorId : String} (hactor : ValidActor actorId)
    (change : TaskChange) (attemptId reportId externalOperationId : Option Uuid) :
    (d.insert db actorId change attemptId reportId externalOperationId).Valid where
  actor := hactor
  task := by
    intro id hid
    cases hid
    exact (TaskRow.check_iff.mp h.check).1
  shape := rfl

theorem TaskDraft.announces {actorId : String} {change : TaskChange}
    {attemptId reportId externalOperationId : Option Uuid}
    (hrefers : d.Refers db attemptId reportId) (row : WorkspaceRow) (k : ℕ) :
    d.Announces db ((d.insert db actorId change attemptId reportId externalOperationId).next row k)
      { change, task := taskSummaryOf (db.draft d) d.workspace d.taskId d.row, attemptId, reportId,
        externalOperationId } where
  workspace := rfl
  kind := rfl
  taskId := rfl
  content := rfl
  summary := rfl
  attempt := hrefers.attempt
  report := hrefers.report

/-- A draft that fits is completed by its event, unless a counter is at its limit. -/
theorem TaskDraft.append_spec {actorId : String} {change : TaskChange}
    {attemptId reportId externalOperationId : Option Uuid}
    {Q : WorkspaceEvent → Tx → Prop} {E : StoreError → Prop} (receipt : Option (Uuid × MutationRow))
    (h : DbInv db tick₀) (hle : tick₀ ≤ tick) (hfits : d.Fits db tick)
    (hfollows : d.follows db change) (hactor : ValidActor actorId)
    (hrefers : d.Refers db attemptId reportId)
    (hreceipt : ∀ id m, receipt = some (id, m) → d.Records db change id m)
    (hQ : ∀ e, e.kind = .task → e.workspace = d.workspace →
      DbInv (db.complete d e receipt) (tick + 1) →
      Q e { db := (db.draft d).append e, tick := tick + 1 })
    (hE : JournalFull db d.workspace → E (.sqlite .constraint)) :
    Txn.wp (appendEventInTransaction
      (d.insert db actorId change attemptId reportId externalOperationId)) Q E
      { db := db.draft d, tick } := by
  obtain ⟨row, hrow, -⟩ := hfits.id
  have hj : Journal (db.draft d) := h.journal.of_eq rfl rfl
  have hvalid :=
    TaskDraft.insert_valid hfits hactor change attemptId reportId externalOperationId
  refine appendEventInTransaction_spec hj hrow hvalid (.inl rfl) (fun hmax => ?_) (fun hmax => ?_)
  · refine hQ _ rfl rfl ?_
    refine h.complete (hle.trans (Nat.le_succ _)) (hfits.mono (Nat.le_succ _)) hfollows
      (TaskDraft.announces hrefers row tick) hreceipt hrow rfl hmax ?_
    exact hvalid.check (h.journal.nextSeq_pos hrow) (by omega) (World.now_le tick)
  · exact hE ⟨row, hrow, hmax⟩

/-- A successful append to a draft that fits, whoever the actor is. -/
theorem TaskDraft.append_any {actorId : String} {change : TaskChange}
    {attemptId reportId externalOperationId : Option Uuid} {Q : WorkspaceEvent → Tx → Prop}
    (h : DbInv db tick₀) (hle : tick₀ ≤ tick) (hfits : d.Fits db tick)
    (hfollows : d.follows db change) (hrefers : d.Refers db attemptId reportId)
    (hQ : ∀ e, e.kind = .task → e.workspace = d.workspace →
      DbInv (db.complete d e none) (tick + 1) →
      Q e { db := db.complete d e none, tick := tick + 1 }) :
    Txn.wp (appendEventInTransaction
      (d.insert db actorId change attemptId reportId externalOperationId)) Q (fun _ => True)
      { db := db.draft d, tick } := by
  refine appendEventInTransaction_any fun row hrow hmax hcheck _ => hQ _ rfl rfl ?_
  exact h.complete (hle.trans (Nat.le_succ _)) (hfits.mono (Nat.le_succ _)) hfollows
    (TaskDraft.announces hrefers row tick) (by simp) hrow rfl hmax hcheck

theorem finishMutation_spec {caller : CallerContext} {command : TaskCommand} {version : ℕ}
    {change : TaskChange} {attemptId reportId closedAttemptId : Option Uuid} {createdAt : ℕ}
    {Q : TaskApplyResult → Tx → Prop} {E : TaskError → Prop}
    (h : DbInv db tick₀) (hle : tick₀ ≤ tick) (hfits : d.Fits db tick)
    (hfollows : d.follows db change) (hactor : ValidActor caller.actorId)
    (hrefers : d.Refers db attemptId reportId) (hw : d.workspace = caller.workspace)
    (hversion : d.row.version = version)
    (hunused : db.mutations.get? (caller.workspace, command.operationId) = none)
    (hbegun : ∀ work, command.workRequest? = some work → ∃ i a, attemptId = some i ∧
      (db.draft d).attempts.get? i = some a ∧ a.isOf d.workspace d.taskId ∧
      a.workRequestId = work ∧ command.taskId? = some d.taskId)
    (hnote : change = .noted → command.isNote = true)
    (hQ : ∀ e task receipt, e.kind = .task → e.workspace = caller.workspace →
      task.summary = taskSummaryOf (db.draft d) d.workspace d.taskId d.row →
      DbInv (db.complete d e receipt) (tick + 1) →
      Q { mutation := { operationId := command.operationId, appliedVersion := version, reportId,
                        task },
          event := e, closedAttemptId } { db := db.complete d e receipt, tick := tick + 1 })
    (hE : JournalFull db d.workspace → E (.ofStore (.sqlite .constraint))) :
    Txn.wp (finishMutation caller command d.taskId version change attemptId reportId
      closedAttemptId createdAt) Q E { db := db.draft d, tick } := by
  have hrow : (db.draft d).tasks.get? (caller.workspace, d.taskId) = some d.row := by
    rw [← hw, Db.draft_tasks hfits.keeps]
    exact Table.get?_put_self _ _ _
  obtain ⟨task, htask, hsummary⟩ := getTaskDetail_of_loads hrow hfits.loads
  unfold finishMutation liftStore
  simp only [Txn.wp_bind, Txn.wp_mapError]
  refine wp_storeQuery htask ?_
  simp only [Txn.orFail, Txn.wp_pure, hsummary]
  let receipt : MutationRow :=
    { actorId := caller.actorId, requestHash := command, taskId := d.taskId,
      appliedVersion := version, attemptId, reportId, createdAt }
  have hrecords : d.Records db change command.operationId receipt :=
    { unused := by rw [hw]; exact hunused
      command := rfl
      task := rfl
      version := hversion.symm
      begun := hbegun
      note := hnote }
  rw [← hw]
  refine TaskDraft.append_spec (some (command.operationId, receipt)) h hle hfits hfollows
    hactor hrefers ?_ ?_ hE
  · intro id m hm
    cases hm
    exact hrecords
  intro e hkind hplace hinv
  have hok : mutationOk ((db.draft d).append e) (d.workspace, command.operationId) receipt =
      true := by
    have htasks : ((db.draft d).append e).tasks.contains (d.workspace, receipt.taskId) = true := by
      simpa [hw] using ⟨d.row, hrow⟩
    have hreports : reportId.all ((db.draft d).append e).reports.contains = true := by
      cases hid : reportId with
      | none => rfl
      | some i =>
        obtain ⟨p, hp, -⟩ := hrefers.report i hid
        simpa using ⟨p, hp⟩
    simp only [mutationOk, htasks, Bool.true_and]
    exact hreports
  refine Store.wp_insertRow (fun _ _ => ?_) ?_
  · exact hQ e task (some (command.operationId, receipt)) hkind (hplace.trans hw)
      (hw ▸ hsummary) hinv
  · rintro (⟨v, hv⟩ | hfalse)
    · exact absurd (hrecords.unused.symm.trans hv) (by simp)
    · exact absurd (hok.symm.trans hfalse) (by decide)

end

end SessionRouter
