import SessionRouter.Store.Append

/-!
A transaction on a task first writes its rows and then appends one event. The rows alone are a
draft; when they fit, the event and the receipt complete the change.
-/

namespace SessionRouter

theorem loadAttempt_of_get {db : Db} {id : Uuid} {a : AttemptRow}
    (h : db.attempts.get? id = some a) : ∃ x, loadAttempt db id = .ok x ∧ x.id = id ∧
      x.taskId = a.taskId ∧ x.agentId = a.agentId ∧ x.sessionId = a.sessionId ∧
      x.stopEvidence = a.stopEvidence := by
  unfold loadAttempt
  rw [h]
  exact ⟨_, rfl, rfl, rfl, rfl, rfl, rfl⟩

/-- The rows a task row names can be loaded. -/
structure TaskRow.Loads (db : Db) (r : TaskRow) : Prop where
  current : ∀ id, r.currentAttemptId = some id → ∃ a, db.attempts.get? id = some a
  last : ∀ id, r.lastAttemptId = some id → ∃ a, db.attempts.get? id = some a
  checkpoint : ReportLoads db r.lastCheckpointId
  result : ReportLoads db r.resultReportId

theorem TaskLocal.loads {db : Db} {w : WorkspaceName} {t : ℕ} {r : TaskRow}
    (h : TaskLocal db w t r) : r.Loads db where
  current := by
    intro id hid
    obtain ⟨-, a, ha, -⟩ := h.fit.current id hid
    exact ⟨a, ha⟩
  last := by
    intro id hid
    obtain ⟨a, ha, -⟩ := h.fit.last id hid
    exact ⟨a, ha⟩
  checkpoint := h.checkpoint
  result := h.result

section loading

variable {db : Db} {id : Option Uuid}

theorem loadOptional_attempt (h : ∀ i, id = some i → ∃ a, db.attempts.get? i = some a) :
    ∃ x, loadOptional (loadAttempt db) id = .ok x ∧ x.isSome = id.isSome ∧
      x.map TaskAttempt.agentId = (id.bind db.attempts.get?).map AttemptRow.agentId ∧
      x.map TaskAttempt.sessionId = (id.bind db.attempts.get?).map AttemptRow.sessionId ∧
      x.map TaskAttempt.stopEvidence = (id.bind db.attempts.get?).map AttemptRow.stopEvidence := by
  cases id with
  | none => exact ⟨none, rfl, rfl, rfl, rfl, rfl⟩
  | some i =>
    obtain ⟨a, ha⟩ := h i rfl
    obtain ⟨x, hx, -, -, hagent, hsession, hstop⟩ := loadAttempt_of_get ha
    refine ⟨some x, by simp [loadOptional, hx, Except.map], rfl, ?_, ?_, ?_⟩ <;>
      simp [ha, hagent, hsession, hstop]

theorem loadOptional_report (h : ReportLoads db id) :
    ∃ x, loadOptional (loadReport db) id = .ok x ∧
      x.map TaskReportRecord.createdAt = (id.bind db.reports.get?).map ReportRow.createdAt := by
  cases id with
  | none => exact ⟨none, rfl, rfl⟩
  | some i =>
    obtain ⟨p, hp, hbody⟩ := h i rfl
    have hload : ∃ x, loadReport db i = .ok x ∧ x.createdAt = p.createdAt := by
      unfold loadReport
      rw [hp]
      simp only [hbody, if_true]
      exact ⟨_, rfl, rfl⟩
    obtain ⟨x, hx, hcreated⟩ := hload
    exact ⟨some x, by simp [loadOptional, hx, Except.map], by simp [hp, hcreated]⟩

end loading

theorem map_or_bind {α β γ δ : Type} {x y : Option α} {i j : Option β} {g : β → Option γ}
    {f : α → δ} {k : γ → δ} (hsome : x.isSome = i.isSome) (hx : x.map f = (i.bind g).map k)
    (hy : y.map f = (j.bind g).map k) : (x.or y).map f = ((i.or j).bind g).map k := by
  cases i with
  | none =>
    have : x = none := by simpa using hsome
    simpa [this] using hy
  | some b =>
    obtain ⟨a, rfl⟩ : ∃ a, x = some a := by simpa [Option.isSome_iff_exists] using hsome
    simpa using hx

/-- Both ways of computing a summary succeed and agree. -/
theorem getTaskDetail_of_loads {db : Db} {w : WorkspaceName} {t : ℕ} {r : TaskRow}
    (hr : db.tasks.get? (w, t) = some r) (h : r.Loads db) :
    ∃ detail, getTaskDetail db w t = .ok (some detail) ∧
      detail.summary = taskSummaryOf db w t r := by
  obtain ⟨current, hcurrent, hsome, hagent, hsession, hstop⟩ := loadOptional_attempt h.current
  obtain ⟨last, hlast, -, hagent', hsession', hstop'⟩ := loadOptional_attempt h.last
  obtain ⟨checkpoint, hcheckpoint, hcreated⟩ := loadOptional_report h.checkpoint
  obtain ⟨result, hresult, -⟩ := loadOptional_report h.result
  unfold getTaskDetail
  simp only [hr, hcurrent, hlast, hcheckpoint, hresult]
  refine ⟨_, rfl, ?_⟩
  simp only [taskSummaryOf, map_or_bind hsome hagent hagent',
    map_or_bind hsome hsession hsession', map_or_bind hsome hstop hstop', hcreated]

theorem taskSummaryFromRow_of_loads {db : Db} {w : WorkspaceName} {t : ℕ} {r : TaskRow}
    (h : r.Loads db) : taskSummaryFromRow db w t r = .ok (taskSummaryOf db w t r) := by
  have hor : ∀ i, r.currentAttemptId.or r.lastAttemptId = some i →
      ∃ a, db.attempts.get? i = some a := by
    intro i hi
    cases hc : r.currentAttemptId with
    | none => exact h.last i (by simpa [hc] using hi)
    | some c => exact h.current i (by simpa [hc] using hi)
  obtain ⟨attempt, hattempt, -, hagent, hsession, hstop⟩ := loadOptional_attempt hor
  obtain ⟨checkpoint, hcheckpoint, hcreated⟩ := loadOptional_report h.checkpoint
  unfold taskSummaryFromRow
  simp only [hattempt, hcheckpoint]
  change Except.ok _ = Except.ok _
  simp only [taskSummaryOf, hagent, hsession, hstop, hcreated]

/-- The rows of a task that a transaction writes before it appends its event. A draft that is
`kept` does not write the task row. -/
structure TaskDraft where
  workspace : WorkspaceName
  taskId : ℕ
  row : TaskRow
  kept : Bool := false
  attempt : Option (Uuid × AttemptRow) := none
  report : Option (Uuid × ReportRow) := none

def Db.draft (db : Db) (d : TaskDraft) : Db :=
  { db with
    tasks := bif d.kept then db.tasks else db.tasks.put (d.workspace, d.taskId) d.row
    attempts := db.attempts.putOption d.attempt
    reports := db.reports.putOption d.report }

/-- A kept row is the stored one. -/
def TaskDraft.Keeps (d : TaskDraft) (db : Db) : Prop :=
  d.kept = true → db.tasks.get? (d.workspace, d.taskId) = some d.row

theorem Db.draft_tasks {db : Db} {d : TaskDraft} (h : d.Keeps db) (key : WorkspaceName × ℕ) :
    (db.draft d).tasks.get? key = (db.tasks.put (d.workspace, d.taskId) d.row).get? key := by
  unfold Db.draft TaskDraft.Keeps at *
  cases hk : d.kept with
  | false => rfl
  | true =>
    rw [Table.get?_put]
    split
    · next heq => rw [heq]; exact h hk
    · rfl

/-- Complete a draft by its event and receipt. -/
def Db.complete (db : Db) (d : TaskDraft) (e : WorkspaceEvent)
    (receipt : Option (Uuid × MutationRow)) : Db :=
  { (db.draft d).append e with
    mutations := db.mutations.putOption (receipt.map fun m => ((d.workspace, m.1), m.2)) }

/-- The version of a draft follows the version of the stored row, which a note leaves alone. -/
def TaskDraft.follows (d : TaskDraft) (db : Db) (change : TaskChange) : Prop :=
  match db.tasks.get? (d.workspace, d.taskId) with
  | none => d.row.version = 1 ∧ change ≠ .noted
  | some r => (d.row.version = if change = .noted then r.version else r.version + 1) ∧
      (change = .noted → d.row = r)

section

variable [World]

/-- The rows of a draft fit the database they are written to. -/
structure TaskDraft.Fits (d : TaskDraft) (db : Db) (tick : ℕ) : Prop where
  check : d.row.check d.taskId = true
  keeps : d.Keeps db
  fit : TaskFit (db.draft d) d.workspace d.taskId d.row
  checkpoint : ReportLoads (db.draft d) d.row.lastCheckpointId
  result : ReportLoads (db.draft d) d.row.resultReportId
  id : ∃ row, db.workspaces.get? d.workspace = some row ∧ d.taskId < row.nextTaskId
  attempt : ∀ id a, d.attempt = some (id, a) → a.isOf d.workspace d.taskId ∧ a.check = true ∧
    a.wellFormed = true ∧ (∃ c, db.credentials.get? a.credentialId = some c) ∧
    (∀ r, a.resumedFromCheckpointId = some r → ∃ p, db.reports.get? r = some p) ∧
    (∀ b, db.attempts.get? id = some b → b.origin = a.origin) ∧
    (a.barrier = true → ∀ id' b, db.attempts.get? id' = some b → b.barrier = true →
      b.agentId = a.agentId → id' = id)
  report : ∀ id p, d.report = some (id, p) → db.reports.get? id = none ∧
    p.isOf d.workspace d.taskId ∧ bodyMatches p.kind p.body = true ∧ Drawn tick id

/-- The event that completes a draft. -/
structure TaskDraft.Announces (d : TaskDraft) (db : Db) (e : WorkspaceEvent) (record : TaskEvent) :
    Prop where
  workspace : e.workspace = d.workspace
  kind : e.kind = .task
  taskId : e.taskId = some d.taskId
  content : e.content = some (.task record)
  summary : record.task = taskSummaryOf (db.draft d) d.workspace d.taskId d.row
  attempt : ∀ id, record.attemptId = some id →
    ∃ a, (db.draft d).attempts.get? id = some a ∧ a.isOf d.workspace d.taskId
  report : ∀ id, record.reportId = some id →
    ∃ p, (db.draft d).reports.get? id = some p ∧ p.isOf d.workspace d.taskId

/-- The receipt that completes a draft. -/
structure TaskDraft.Records (d : TaskDraft) (db : Db) (change : TaskChange) (id : Uuid)
    (m : MutationRow) : Prop where
  unused : db.mutations.get? (d.workspace, id) = none
  command : m.requestHash.operationId = id
  task : m.taskId = d.taskId
  version : m.appliedVersion = d.row.version
  begun : ∀ work, m.requestHash.workRequest? = some work → ∃ i a, m.attemptId = some i ∧
    (db.draft d).attempts.get? i = some a ∧ a.isOf d.workspace d.taskId ∧
    a.workRequestId = work ∧ m.requestHash.taskId? = some d.taskId
  note : change = .noted → m.requestHash.isNote = true

omit [World] in
theorem TaskFit.of_attempts {db db' : Db} {w : WorkspaceName} {t : ℕ} {r : TaskRow}
    (h : TaskFit db w t r) (heq : db'.attempts = db.attempts) : TaskFit db' w t r := by
  obtain ⟨h1, h2, h3, h4, h5⟩ := h
  constructor <;> simp only [heq] <;> assumption

omit [World] in
theorem ReportLoads.of_reports {db db' : Db} {id : Option Uuid} (h : ReportLoads db id)
    (heq : db'.reports = db.reports) : ReportLoads db' id := by
  unfold ReportLoads
  rw [heq]
  exact h

omit [World] in
theorem announcedVersions_append (es : List WorkspaceEvent) {e : WorkspaceEvent}
    {record : TaskEvent} (h : e.content = some (.task record)) :
    announcedVersions (es ++ [e]) =
      announcedVersions es ++ if record.change = .noted then [] else [record.task.version] := by
  have hrec : e.taskEvent? = some record := by simp [WorkspaceEvent.taskEvent?, h]
  simp only [announcedVersions, List.filterMap_append, List.filter_append, List.map_append]
  congr 1
  by_cases hn : record.change = .noted
  · simp [hrec, hn]
  · simp [hrec, hn]

variable {db : Db} {tick tick' : ℕ} {d : TaskDraft} {e : WorkspaceEvent} {record : TaskEvent}
  {receipt : Option (Uuid × MutationRow)}

/-- A task that is not stored has no events. -/
theorem TaskTables.taskEvents_nil (h : TaskTables db tick) {w : WorkspaceName} {t : ℕ}
    (hnone : db.tasks.get? (w, t) = none) : taskEvents db w t = [] := by
  rw [taskEvents, List.filter_eq_nil_iff]
  intro e he hp
  simp only [Bool.and_eq_true, decide_eq_true_eq] at hp
  obtain ⟨t', event, hi⟩ := h.events e he hp.2
  obtain ⟨r, hr⟩ := hi.task
  have ht : t' = t := by simpa [hi.taskId] using hp.1.2
  rw [hp.1.1, ht, hnone] at hr
  cases hr

theorem TaskDraft.journal (h : TaskTables db tick) (hfollows : d.follows db record.change)
    (he : d.Announces db e record) :
    TaskJournal (db.complete d e receipt) d.workspace d.taskId d.row := by
  have hevents : taskEvents (db.complete d e receipt) d.workspace d.taskId =
      taskEvents db d.workspace d.taskId ++ [e] := by
    refine (taskEvents_append (db.draft d) e d.workspace d.taskId).trans ?_
    simp only [he.workspace, he.taskId, he.kind, and_self, if_true]
    rfl
  have hversion : record.task.version = d.row.version := by rw [he.summary]; rfl
  constructor
  · rw [hevents, announcedVersions_append _ he.content, hversion]
    unfold TaskDraft.follows at hfollows
    cases hr : db.tasks.get? (d.workspace, d.taskId) with
    | none =>
      simp only [hr] at hfollows
      rw [h.taskEvents_nil hr, if_neg hfollows.2, hfollows.1]
      rfl
    | some r =>
      simp only [hr] at hfollows
      rw [(h.locals _ _ r hr).journal.versions]
      split at hfollows
      · next hn => rw [if_pos hn, hfollows.1, List.append_nil]
      · next hn =>
        rw [if_neg hn, hfollows.1, List.range'_concat]
        congr 2
        omega
  · refine ⟨e, record, by rw [hevents]; simp, by simp [WorkspaceEvent.taskEvent?, he.content], ?_⟩
    rw [he.summary]
    rfl

/-- A fitting draft with its event and receipt keeps the invariant of the tasks. -/
theorem TaskTables.complete (h : TaskTables db tick) (hle : tick ≤ tick') (hfits : d.Fits db tick')
    (hfollows : d.follows db record.change) (he : d.Announces db e record)
    (hreceipt : ∀ id m, receipt = some (id, m) → d.Records db record.change id m) :
    TaskTables (db.complete d e receipt) tick' := by
  let x : TaskWrite :=
    { workspace := d.workspace, taskId := d.taskId, row := d.row, attempt := d.attempt,
      report := d.report, receipt, event := e, record }
  have hlead : x.Leads db (db.complete d e receipt) :=
    { tasks := Db.draft_tasks hfits.keeps
      attempts := fun _ => rfl
      reports := fun _ => rfl
      receipts := fun _ => rfl
      events := rfl
      credentials := fun _ c hc => ⟨c, hc⟩
      workspaces := keepsWorkspaces_append (db.draft d) e }
  have htask : ∃ r, (db.complete d e receipt).tasks.get? (d.workspace, d.taskId) = some r :=
    ⟨d.row, hlead.task_self⟩
  refine h.write hle hlead
    { place := ⟨he.workspace, he.kind⟩
      record :=
        { content := he.content
          taskId := he.taskId
          summary := by
            rw [he.summary]
            exact ⟨rfl, he.workspace.symm⟩
          task := by
            rw [he.workspace]
            exact htask
          attempt := by
            rw [he.workspace]
            exact he.attempt
          report := by
            rw [he.workspace]
            exact he.report }
      task :=
        { check := hfits.check
          fit := hfits.fit.of_attempts rfl
          checkpoint := hfits.checkpoint.of_reports rfl
          result := hfits.result.of_reports rfl
          journal := TaskDraft.journal h hfollows he }
      id := ?_
      grows := ?_
      attempt := ?_
      report := ?_
      receipt := ?_ }
  · obtain ⟨row, hrow, hlt⟩ := hfits.id
    obtain ⟨row', hrow', hle'⟩ := hlead.workspaces _ row hrow
    exact ⟨row', hrow', by change d.taskId < _; omega⟩
  · intro r hr
    change db.tasks.get? (d.workspace, d.taskId) = some r at hr
    change r.version ≤ d.row.version
    unfold TaskDraft.follows at hfollows
    simp only [hr] at hfollows
    split at hfollows <;> omega
  · intro id a hatt
    obtain ⟨hof, hcheck, hwf, hcred, hresumed, hold, hbar⟩ := hfits.attempt id a hatt
    refine ⟨hof, ⟨hcheck, hwf, ?_, hcred, ?_⟩, hold, hbar⟩
    · rw [hof.1, hof.2]
      exact htask
    · intro q hq
      obtain ⟨p, hp⟩ := hresumed q hq
      exact ⟨p, hlead.report_mono (fun i p hp => (hfits.report i p hp).1) q p hp⟩
  · intro id p hrep
    obtain ⟨hnew, hof, hbody, hdrawn⟩ := hfits.report id p hrep
    refine ⟨hnew, hbody, ?_, hdrawn⟩
    rw [hof.1, hof.2]
    exact htask
  · intro id m hm
    have hr := hreceipt id m hm
    refine ⟨hr.unused, hr.command, hr.task, hr.version, hr.begun, ?_⟩
    intro hnote r hrow
    change db.tasks.get? (d.workspace, d.taskId) = some r at hrow
    change r.version < d.row.version
    unfold TaskDraft.follows at hfollows
    simp only [hrow] at hfollows
    split at hfollows
    · next hn => simp [hr.note hn] at hnote
    · omega

theorem DbInv.complete (h : DbInv db tick) (hle : tick ≤ tick') (hfits : d.Fits db tick')
    (hfollows : d.follows db record.change) (he : d.Announces db e record)
    (hreceipt : ∀ id m, receipt = some (id, m) → d.Records db record.change id m)
    {row : WorkspaceRow} (hrow : db.workspaces.get? d.workspace = some row)
    (hseq : e.seq = row.nextSeq) (hmax : row.nextSeq + 1 ≤ maxSafeInteger)
    (hcheck : eventCheck e = true) : DbInv (db.complete d e receipt) tick' where
  tasks := h.tasks.complete hle hfits hfollows he hreceipt
  journal := by
    have hdraft : Journal (db.draft d) := h.journal.of_eq rfl rfl
    refine (hdraft.append (e := e) ?_ hseq hmax hcheck (.inl ?_) ?_).of_eq rfl rfl
    · rw [he.workspace]
      exact hrow
    · simp [eventKey, he.kind]
    · simp [he.kind]
  admin := h.admin.of_same hle rfl rfl rfl (keepsWorkspaces_append (db.draft d) e)
  external := by
    refine h.external.of_same rfl rfl rfl (keepsWorkspaces_append (db.draft d) e) ?_
    intro key r hr
    change ∃ r', (db.draft d).tasks.get? key = some r'
    rw [Db.draft_tasks hfits.keeps, Table.get?_put]
    split
    · exact ⟨_, rfl⟩
    · exact ⟨r, hr⟩

end

end SessionRouter
