import SessionRouter.Store.EventSpec

/-!
How the invariant of the tasks moves with the database: nothing changes for a task whose rows and
events stay, and a change of one task is checked on that task alone.
-/

namespace SessionRouter

theorem taskEvents_append (db : Db) (e : WorkspaceEvent) (w : WorkspaceName) (t : ℕ) :
    taskEvents (db.append e) w t = taskEvents db w t ++
      if e.workspace = w ∧ e.taskId = some t ∧ e.kind = .task then [e] else [] := by
  simp only [taskEvents, Db.append_events, List.filter_append]
  congr 1
  by_cases h : e.workspace = w ∧ e.taskId = some t ∧ e.kind = .task
  · simp [h]
  · simp only [h, if_false, List.filter_cons, List.filter_nil]
    have : (decide (e.workspace = w) && decide (e.taskId = some t) && decide (e.kind = .task)) =
        false := by
      simpa [and_assoc] using h
    simp [this]

/-- The rows and events of a task are the same in both databases. -/
structure SameTask (db db' : Db) (w : WorkspaceName) (t : ℕ) : Prop where
  attempts : ∀ id a, a.isOf w t → (db'.attempts.get? id = some a ↔ db.attempts.get? id = some a)
  reports : ∀ id p, db.reports.get? id = some p → db'.reports.get? id = some p
  events : taskEvents db' w t = taskEvents db w t

variable {db db' : Db} {w : WorkspaceName} {t : ℕ} {r : TaskRow}

theorem TaskFit.frame (h : TaskFit db w t r) (same : SameTask db db' w t) : TaskFit db' w t r where
  current := by
    intro id hid
    obtain ⟨hlast, a, ha, hrun⟩ := h.current id hid
    obtain ⟨b, hb, hof⟩ := h.last id hlast
    rw [ha] at hb
    cases hb
    exact ⟨hlast, a, (same.attempts id a hof).mpr ha, hrun⟩
  last := by
    intro id hid
    obtain ⟨a, ha, hof⟩ := h.last id hid
    exact ⟨a, (same.attempts id a hof).mpr ha, hof⟩
  running := fun id a ha hof => h.running id a ((same.attempts id a hof).mp ha) hof
  live := fun id a ha hof => h.live id a ((same.attempts id a hof).mp ha) hof
  terminal := fun hs id a ha hof => h.terminal hs id a ((same.attempts id a hof).mp ha) hof

theorem ReportLoads.mono {id : Option Uuid} (h : ReportLoads db id)
    (hle : ∀ id p, db.reports.get? id = some p → db'.reports.get? id = some p) :
    ReportLoads db' id := by
  intro r hr
  obtain ⟨p, hp, hbody⟩ := h r hr
  exact ⟨p, hle r p hp, hbody⟩

/-- The attempt a summary shows, as the current or the last one of a fitting row. -/
theorem TaskFit.executor (h : TaskFit db w t r) {id : Uuid}
    (hid : r.currentAttemptId.or r.lastAttemptId = some id) : r.lastAttemptId = some id := by
  cases hc : r.currentAttemptId with
  | none => simpa [hc] using hid
  | some c =>
    have : c = id := by simpa [hc] using hid
    exact this ▸ (h.current c hc).1

theorem taskSummaryOf_frame (h : TaskLocal db w t r) (same : SameTask db db' w t) :
    taskSummaryOf db' w t r = taskSummaryOf db w t r := by
  have hexec : (r.currentAttemptId.or r.lastAttemptId).bind db'.attempts.get? =
      (r.currentAttemptId.or r.lastAttemptId).bind db.attempts.get? := by
    cases hid : r.currentAttemptId.or r.lastAttemptId with
    | none => rfl
    | some id =>
      obtain ⟨a, ha, hof⟩ := h.fit.last id (h.fit.executor hid)
      simp [ha, (same.attempts id a hof).mpr ha]
  have hreport : r.lastCheckpointId.bind db'.reports.get? =
      r.lastCheckpointId.bind db.reports.get? := by
    cases hid : r.lastCheckpointId with
    | none => rfl
    | some id =>
      obtain ⟨p, hp, -⟩ := h.checkpoint id hid
      simp [hp, same.reports id p hp]
  simp only [taskSummaryOf, hexec, hreport]

theorem TaskLocal.frame (h : TaskLocal db w t r) (same : SameTask db db' w t) :
    TaskLocal db' w t r where
  check := h.check
  fit := h.fit.frame same
  checkpoint := h.checkpoint.mono same.reports
  result := h.result.mono same.reports
  journal :=
    { versions := by rw [same.events]; exact h.journal.versions
      latest := by
        rw [same.events, taskSummaryOf_frame h same]
        exact h.journal.latest }

section

variable [World] {tick tick' : ℕ}

theorem Drawn.mono {id : Uuid} (h : Drawn tick id) (hle : tick ≤ tick') : Drawn tick' id := by
  obtain ⟨t, ht, hid⟩ := h
  exact ⟨t, by omega, hid⟩

theorem Drawn.ne_next {id : Uuid} (h : Drawn tick id) (hle : tick ≤ tick') :
    id ≠ World.uuid tick' := by
  obtain ⟨t, ht, rfl⟩ := h
  intro heq
  have := World.uuid_injective heq
  omega

/-- A change that leaves the task tables and the task events alone keeps their invariant. -/
theorem TaskTables.of_same (h : TaskTables db tick) (hle : tick ≤ tick')
    (htasks : db'.tasks = db.tasks) (hattempts : db'.attempts = db.attempts)
    (hreports : db'.reports = db.reports) (hmutations : db'.mutations = db.mutations)
    (hcredentials : ∀ id c, db.credentials.get? id = some c →
      ∃ c', db'.credentials.get? id = some c')
    (hworkspaces : ∀ w row, db.workspaces.get? w = some row →
      ∃ row', db'.workspaces.get? w = some row' ∧ row.nextTaskId ≤ row'.nextTaskId)
    {es : List WorkspaceEvent} (hevents : db'.events = db.events ++ es)
    (hkinds : ∀ e ∈ es, e.kind ≠ .task) : TaskTables db' tick' where
  locals := by
    intro w t r hr
    rw [htasks] at hr
    refine (h.locals w t r hr).frame ⟨?_, ?_, ?_⟩
    · intro id a _
      rw [hattempts]
    · intro id p hp
      rwa [hreports]
    · have hnone : es.filter (fun e => e.workspace = w && e.taskId = some t && e.kind = .task) =
          [] := by
        rw [List.filter_eq_nil_iff]
        intro e he
        have := hkinds e he
        simp [this]
      simp only [taskEvents, hevents, List.filter_append, hnone, List.append_nil]
  ids := by
    intro w t r hr
    rw [htasks] at hr
    obtain ⟨row, hrow, hlt⟩ := h.ids w t r hr
    obtain ⟨row', hrow', hle'⟩ := hworkspaces w row hrow
    exact ⟨row', hrow', by omega⟩
  attempts := by
    intro id a ha
    rw [hattempts] at ha
    have hi := h.attempts id a ha
    obtain ⟨c, hc⟩ := hi.credential
    exact
      { check := hi.check
        wellFormed := hi.wellFormed
        task := by rw [htasks]; exact hi.task
        credential := hcredentials _ c hc
        resumed := by rw [hreports]; exact hi.resumed }
  barriers := by
    rw [hattempts]
    exact h.barriers
  reports := by
    intro id p hp
    rw [hreports] at hp
    have hi := h.reports id p hp
    exact ⟨hi.body, by rw [htasks]; exact hi.task, hi.drawn.mono hle⟩
  events := by
    intro e he hkind
    rw [hevents, List.mem_append] at he
    rcases he with he | he
    · obtain ⟨t, event, hi⟩ := h.events e he hkind
      exact ⟨t, event,
        { content := hi.content
          taskId := hi.taskId
          summary := hi.summary
          task := by rw [htasks]; exact hi.task
          attempt := by rw [hattempts]; exact hi.attempt
          report := by rw [hreports]; exact hi.report }⟩
    · exact absurd hkind (hkinds e he)
  receipts := by
    intro key m hm
    rw [hmutations] at hm
    have hi := h.receipts key m hm
    exact ⟨by rw [htasks]; exact hi.task, hi.command, by rw [hattempts]; exact hi.begun⟩
  versions := by
    rw [hmutations]
    exact h.versions

end

/-- The rows a change of one task writes, and the event it appends. -/
structure TaskWrite where
  workspace : WorkspaceName
  taskId : ℕ
  row : TaskRow
  attempt : Option (Uuid × AttemptRow) := none
  report : Option (Uuid × ReportRow) := none
  receipt : Option (Uuid × MutationRow) := none
  event : WorkspaceEvent
  record : TaskEvent

/-- `db'` is `db` after the change. -/
structure TaskWrite.Leads (x : TaskWrite) (db db' : Db) : Prop where
  tasks : ∀ key, db'.tasks.get? key = (db.tasks.put (x.workspace, x.taskId) x.row).get? key
  attempts : ∀ id, db'.attempts.get? id = (db.attempts.putOption x.attempt).get? id
  reports : ∀ id, db'.reports.get? id = (db.reports.putOption x.report).get? id
  receipts : ∀ key, db'.mutations.get? key =
    (db.mutations.putOption (x.receipt.map fun e => ((x.workspace, e.1), e.2))).get? key
  events : db'.events = db.events ++ [x.event]
  credentials : ∀ id c, db.credentials.get? id = some c → ∃ c', db'.credentials.get? id = some c'
  workspaces : ∀ w row, db.workspaces.get? w = some row →
    ∃ row', db'.workspaces.get? w = some row' ∧ row.nextTaskId ≤ row'.nextTaskId

namespace TaskWrite

variable {x : TaskWrite}

theorem Leads.task_self (hx : x.Leads db db') :
    db'.tasks.get? (x.workspace, x.taskId) = some x.row := by
  rw [hx.tasks, Table.get?_put_self]

theorem Leads.task_other (hx : x.Leads db db') {key : WorkspaceName × ℕ}
    (h : key ≠ (x.workspace, x.taskId)) : db'.tasks.get? key = db.tasks.get? key := by
  rw [hx.tasks, Table.get?_put_ne _ _ h]

theorem Leads.task_exists (hx : x.Leads db db') {key : WorkspaceName × ℕ} {r : TaskRow}
    (h : db.tasks.get? key = some r) : ∃ r', db'.tasks.get? key = some r' := by
  by_cases hk : key = (x.workspace, x.taskId)
  · exact ⟨x.row, by rw [hk]; exact hx.task_self⟩
  · exact ⟨r, by rw [hx.task_other hk]; exact h⟩

theorem Leads.attempt_cases (hx : x.Leads db db') {id : Uuid} {a : AttemptRow}
    (h : db'.attempts.get? id = some a) :
    x.attempt = some (id, a) ∨ db.attempts.get? id = some a := by
  rw [hx.attempts, Table.get?_putOption] at h
  split at h
  · next hk =>
    left
    cases hatt : x.attempt with
    | none => simp [hatt] at hk
    | some e =>
      obtain ⟨i, b⟩ := e
      simp only [hatt, Option.map_some, Option.some.injEq] at hk h
      rw [hk, h]
  · exact .inr h

theorem Leads.report_mono (hx : x.Leads db db')
    (hnew : ∀ id p, x.report = some (id, p) → db.reports.get? id = none) (id : Uuid)
    (p : ReportRow) (h : db.reports.get? id = some p) : db'.reports.get? id = some p := by
  rw [hx.reports, Table.get?_putOption]
  split
  · next hk =>
    cases hrep : x.report with
    | none => simp [hrep] at hk
    | some e =>
      obtain ⟨i, q⟩ := e
      have hi : i = id := by simpa [hrep] using hk
      have := hnew i q hrep
      rw [hi, h] at this
      cases this
  · exact h

theorem Leads.report_cases (hx : x.Leads db db') {id : Uuid} {p : ReportRow}
    (h : db'.reports.get? id = some p) :
    x.report = some (id, p) ∨ db.reports.get? id = some p := by
  rw [hx.reports, Table.get?_putOption] at h
  split at h
  · next hk =>
    left
    cases hrep : x.report with
    | none => simp [hrep] at hk
    | some e =>
      obtain ⟨i, q⟩ := e
      simp only [hrep, Option.map_some, Option.some.injEq] at hk h
      rw [hk, h]
  · exact .inr h

theorem Leads.receipt_cases (hx : x.Leads db db') {key : WorkspaceName × Uuid} {m : MutationRow}
    (h : db'.mutations.get? key = some m) :
    (∃ id, x.receipt = some (id, m) ∧ key = (x.workspace, id)) ∨
      db.mutations.get? key = some m := by
  rw [hx.receipts, Table.get?_putOption] at h
  split at h
  · next hk =>
    left
    cases hrec : x.receipt with
    | none => simp [hrec] at hk
    | some e =>
      obtain ⟨i, q⟩ := e
      simp only [hrec, Option.map_some, Option.some.injEq] at hk h
      exact ⟨i, by rw [h], hk.symm⟩
  · exact .inr h

end TaskWrite

section

variable [World] {tick tick' : ℕ}

/-- The rows of a change fit each other and the task they belong to. -/
structure TaskWrite.Fits (x : TaskWrite) (db db' : Db) (tick' : ℕ) : Prop where
  place : x.event.workspace = x.workspace ∧ x.event.kind = .task
  record : TaskEventInv db' x.event x.taskId x.record
  task : TaskLocal db' x.workspace x.taskId x.row
  id : ∃ row, db'.workspaces.get? x.workspace = some row ∧ x.taskId < row.nextTaskId
  grows : ∀ r, db.tasks.get? (x.workspace, x.taskId) = some r → r.version ≤ x.row.version
  attempt : ∀ id a, x.attempt = some (id, a) → a.isOf x.workspace x.taskId ∧
    AttemptInv db' a ∧
    (∀ b, db.attempts.get? id = some b → b.origin = a.origin) ∧
    (a.barrier = true → ∀ id' b, db.attempts.get? id' = some b → b.barrier = true →
      b.agentId = a.agentId → id' = id)
  report : ∀ id p, x.report = some (id, p) → db.reports.get? id = none ∧ ReportInv db' tick' id p
  receipt : ∀ id m, x.receipt = some (id, m) →
    db.mutations.get? (x.workspace, id) = none ∧ m.requestHash.operationId = id ∧
    m.taskId = x.taskId ∧ m.appliedVersion = x.row.version ∧
    (∀ work, m.requestHash.workRequest? = some work → ∃ i a, m.attemptId = some i ∧
      db'.attempts.get? i = some a ∧ a.isOf x.workspace x.taskId ∧ a.workRequestId = work ∧
      m.requestHash.taskId? = some x.taskId) ∧
    (m.requestHash.isNote = false → ∀ r, db.tasks.get? (x.workspace, x.taskId) = some r →
      r.version < x.row.version)

namespace TaskWrite

variable {x : TaskWrite}

/-- An attempt outlives the change and keeps its origin. -/
theorem Leads.attempt_exists (hx : x.Leads db db') (hf : x.Fits db db' tick') {id : Uuid}
    {a : AttemptRow} (h : db.attempts.get? id = some a) :
    ∃ a', db'.attempts.get? id = some a' ∧ a.origin = a'.origin := by
  rw [hx.attempts, Table.get?_putOption]
  cases hatt : x.attempt with
  | none => exact ⟨a, by simpa [hatt] using h, rfl⟩
  | some e =>
    obtain ⟨i, b⟩ := e
    by_cases hi : i = id
    · subst hi
      obtain ⟨-, -, hold, -⟩ := hf.attempt i b hatt
      exact ⟨b, by simp, hold a h⟩
    · exact ⟨a, by simpa [hi] using h, rfl⟩

theorem Leads.sameTask (hx : x.Leads db db') (hf : x.Fits db db' tick') {w : WorkspaceName} {t : ℕ}
    (hne : (w, t) ≠ (x.workspace, x.taskId)) : SameTask db db' w t where
  attempts := by
    intro id a hof
    constructor
    · intro ha
      rcases hx.attempt_cases ha with hatt | ha
      · obtain ⟨hb, -⟩ := hf.attempt id a hatt
        exact absurd (Prod.ext (hof.1.symm.trans hb.1) (hof.2.symm.trans hb.2)) hne
      · exact ha
    · intro ha
      rw [hx.attempts, Table.get?_putOption]
      split
      · next hk =>
        cases hatt : x.attempt with
        | none => simp [hatt] at hk
        | some e =>
          obtain ⟨i, b⟩ := e
          have hi : i = id := by simpa [hatt] using hk
          subst hi
          obtain ⟨hb, -, hold, -⟩ := hf.attempt i b hatt
          have ha' := AttemptRow.isOf_of_origin (hold a ha).symm hb
          exact absurd (Prod.ext (hof.1.symm.trans ha'.1) (hof.2.symm.trans ha'.2)) hne
      · exact ha
  reports := hx.report_mono fun id p hp => (hf.report id p hp).1
  events := by
    have hskip : ¬(x.event.workspace = w ∧ x.event.taskId = some t) := by
      rintro ⟨hw, ht⟩
      have := hf.record.taskId
      rw [ht, Option.some.injEq] at this
      exact hne (Prod.ext (hw.symm.trans hf.place.1) this)
    simp only [taskEvents, hx.events, List.filter_append]
    have : ([x.event].filter fun e => e.workspace = w && e.taskId = some t && e.kind = .task) =
        [] := by
      rw [List.filter_eq_nil_iff]
      intro e he
      rw [List.mem_singleton] at he
      subst he
      simp only [Bool.and_eq_true, decide_eq_true_eq, not_and]
      intro h _
      exact hskip h
    rw [this, List.append_nil]

end TaskWrite

/-- A change of one task keeps the invariant of all tasks. -/
theorem TaskTables.write {x : TaskWrite} (h : TaskTables db tick) (hle : tick ≤ tick')
    (hx : x.Leads db db') (hf : x.Fits db db' tick') : TaskTables db' tick' where
  locals := by
    intro w t r hr
    by_cases hk : (w, t) = (x.workspace, x.taskId)
    · obtain ⟨rfl, rfl⟩ := Prod.mk.inj hk
      rw [hx.task_self] at hr
      cases hr
      exact hf.task
    · rw [hx.task_other hk] at hr
      exact (h.locals w t r hr).frame (hx.sameTask hf hk)
  ids := by
    intro w t r hr
    by_cases hk : (w, t) = (x.workspace, x.taskId)
    · obtain ⟨rfl, rfl⟩ := Prod.mk.inj hk
      exact hf.id
    · rw [hx.task_other hk] at hr
      obtain ⟨row, hrow, hlt⟩ := h.ids w t r hr
      obtain ⟨row', hrow', hle'⟩ := hx.workspaces w row hrow
      exact ⟨row', hrow', by omega⟩
  attempts := by
    intro id a ha
    rcases hx.attempt_cases ha with hatt | ha
    · exact (hf.attempt id a hatt).2.1
    · have hi := h.attempts id a ha
      obtain ⟨r, hr⟩ := hi.task
      obtain ⟨c, hc⟩ := hi.credential
      exact
        { check := hi.check
          wellFormed := hi.wellFormed
          task := hx.task_exists hr
          credential := hx.credentials _ c hc
          resumed := by
            intro q hq
            obtain ⟨p, hp⟩ := hi.resumed q hq
            exact ⟨p, hx.report_mono (fun id p hp => (hf.report id p hp).1) q p hp⟩ }
  barriers := by
    intro id id' a a' ha ha' hbar hbar' hagent
    rcases hx.attempt_cases ha with hatt | ha <;> rcases hx.attempt_cases ha' with hatt' | ha'
    · rw [hatt] at hatt'
      cases hatt'
      rfl
    · exact ((hf.attempt id a hatt).2.2.2 hbar id' a' ha' hbar' hagent.symm).symm
    · exact (hf.attempt id' a' hatt').2.2.2 hbar' id a ha hbar hagent
    · exact h.barriers id id' a a' ha ha' hbar hbar' hagent
  reports := by
    intro id p hp
    rcases hx.report_cases hp with hrep | hp
    · exact (hf.report id p hrep).2
    · have hi := h.reports id p hp
      obtain ⟨r, hr⟩ := hi.task
      exact ⟨hi.body, hx.task_exists hr, hi.drawn.mono hle⟩
  events := by
    intro e he hkind
    rw [hx.events, List.mem_append, List.mem_singleton] at he
    rcases he with he | rfl
    · obtain ⟨t, event, hi⟩ := h.events e he hkind
      obtain ⟨r, hr⟩ := hi.task
      exact ⟨t, event,
        { content := hi.content
          taskId := hi.taskId
          summary := hi.summary
          task := hx.task_exists hr
          attempt := by
            intro id hid
            obtain ⟨a, ha, hof⟩ := hi.attempt id hid
            obtain ⟨a', ha', horigin⟩ := hx.attempt_exists hf ha
            exact ⟨a', ha', AttemptRow.isOf_of_origin horigin hof⟩
          report := by
            intro id hid
            obtain ⟨p, hp, hof⟩ := hi.report id hid
            exact ⟨p, hx.report_mono (fun id p hp => (hf.report id p hp).1) id p hp, hof⟩ }⟩
    · exact ⟨x.taskId, x.record, hf.record⟩
  receipts := by
    intro key m hm
    rcases hx.receipt_cases hm with ⟨id, hrec, rfl⟩ | hm
    · obtain ⟨-, hop, htask, hver, hbegun, -⟩ := hf.receipt id m hrec
      refine ⟨⟨x.row, by rw [htask]; exact hx.task_self, hver.le⟩, hop, ?_⟩
      rw [htask]
      exact hbegun
    · obtain ⟨⟨r, hr, hver⟩, hop, hbegun⟩ := h.receipts key m hm
      refine ⟨?_, hop, ?_⟩
      swap
      · intro work hwork
        obtain ⟨i, a, hi, ha, hof, hreq, htask⟩ := hbegun work hwork
        obtain ⟨a', ha', horigin⟩ := hx.attempt_exists hf ha
        exact ⟨i, a', hi, ha', AttemptRow.isOf_of_origin horigin hof,
          (congrArg AttemptOrigin.workRequestId horigin).symm.trans hreq, htask⟩
      by_cases hk : (key.1, m.taskId) = (x.workspace, x.taskId)
      · rw [hk] at hr ⊢
        exact ⟨x.row, hx.task_self, hver.trans (hf.grows r hr)⟩
      · exact ⟨r, by rw [hx.task_other hk]; exact hr, hver⟩
  versions := by
    -- A receipt of an older version cannot meet the new one, whose version is larger.
    have hnew : ∀ id m key' m', x.receipt = some (id, m) → db.mutations.get? key' = some m' →
        x.workspace = key'.1 → m.taskId = m'.taskId → m.appliedVersion = m'.appliedVersion →
        m.requestHash.isNote = false → False := by
      intro id m key' m' hrec hm' hw htask hver hnote
      obtain ⟨-, -, ht, hv, -, hgrow⟩ := hf.receipt id m hrec
      obtain ⟨⟨r, hr, hle'⟩, -, -⟩ := h.receipts key' m' hm'
      rw [← hw, ← htask, ht] at hr
      have := hgrow hnote r hr
      omega
    intro key key' m m' hm hm' hw htask hver hnote hnote'
    rcases hx.receipt_cases hm with ⟨id, hrec, rfl⟩ | hm <;>
      rcases hx.receipt_cases hm' with ⟨id', hrec', rfl⟩ | hm'
    · rw [hrec] at hrec'
      cases hrec'
      rfl
    · exact (hnew id m key' m' hrec hm' hw htask hver hnote).elim
    · exact (hnew id' m' key m hrec' hm hw.symm htask.symm hver.symm hnote').elim
    · exact h.versions key key' m m' hm hm' hw htask hver hnote hnote'

end

end SessionRouter
