import SessionRouter.Store.Advance

/-!
The statements of a task transaction, one specification each, and the two shapes in which a change
fits the attempts of its task: the attempts stay, or the last attempt is replaced.
-/

namespace SessionRouter

theorem TaskRow.check_iff {id : ℕ} {r : TaskRow} : r.check id = true ↔
    (1 ≤ id ∧ id ≤ maxSafeInteger) ∧ (1 ≤ r.version ∧ r.version ≤ maxSafeInteger) ∧
    (0 < sqlLength r.title ∧ r.title.utf8ByteSize ≤ 1024) ∧ r.description.utf8ByteSize ≤ 65536 ∧
    (r.createdAt ≤ maxSafeInteger ∧ r.updatedAt ≤ maxSafeInteger) ∧
    (r.state = .inProgress ↔ r.currentAttemptId.isSome = true) ∧
    (r.state.isTerminal = true → r.assignedAgentId = none) := by
  have himp : ∀ b c : Bool, (!b || c) = true ↔ (b = true → c = true) := by decide
  have hbeq : ∀ b c : Bool, (b == c) = true ↔ (b = true ↔ c = true) := by decide
  simp only [TaskRow.check, Bool.and_eq_true, decide_eq_true_eq, safeTime, himp, hbeq,
    Option.isNone_iff_eq_none, and_assoc]

theorem AttemptRow.check_iff {a : AttemptRow} : a.check = true ↔
    (1 ≤ a.connectionGeneration ∧ a.connectionGeneration ≤ maxSafeInteger) ∧
    a.startedAt ≤ maxSafeInteger ∧ (∀ t, a.endedAt = some t → t ≤ maxSafeInteger) ∧
    (∀ t, a.stoppedAt = some t → t ≤ maxSafeInteger) ∧
    ((a.status = .running ∧ a.endedAt = none ∧ a.stopEvidence = .unknown) ∨
      (a.status ≠ .running ∧ a.endedAt.isSome = true)) := by
  have hall : ∀ o : Option ℕ, o.all safeTime = true ↔ ∀ t, o = some t → t ≤ maxSafeInteger := by
    intro o
    cases o with
    | none => simp
    | some t => simp [safeTime]
  simp only [AttemptRow.check, Bool.and_eq_true, Bool.or_eq_true, decide_eq_true_eq, hall,
    Option.isNone_iff_eq_none, and_assoc]
  simp only [safeTime, decide_eq_true_eq]

/-- Replacing an attempt by a later one that does not run breaks no constraint. -/
theorem attemptOk_of_later [World] {db : Db} {tick : ℕ} (h : TaskTables db tick) {id : Uuid}
    {a a' : AttemptRow} (ha : db.attempts.get? id = some a) (hlater : a.Later a')
    (hcheck : a'.check = true) (hrun : a'.status ≠ .running) : attemptOk db id a' = true := by
  have hinv := h.attempts id a ha
  have horigin := hlater.origin
  simp only [AttemptRow.origin, AttemptOrigin.mk.injEq] at horigin
  obtain ⟨hw, ht, hagent, hcred, -, -, -⟩ := horigin
  obtain ⟨r, hr⟩ := hinv.task
  obtain ⟨c, hc⟩ := hinv.credential
  have htask : db.tasks.contains (a'.workspace, a'.taskId) = true := by
    rw [← hw, ← ht]
    simpa using ⟨r, hr⟩
  have hcredential : db.credentials.contains a'.credentialId = true := by
    rw [← hcred]
    simpa using ⟨c, hc⟩
  simp only [attemptOk, hcheck, htask, hcredential, Bool.true_and, Bool.and_eq_true,
    List.all_eq_true, Bool.or_eq_true, decide_eq_true_eq, hrun, decide_false, Bool.false_and,
    Bool.not_false, or_true, implies_true, true_and]
  rintro ⟨i, b⟩ hb
  rw [Table.mem_toList] at hb
  by_cases hi : i = id
  · exact .inl hi
  right
  have hnot : ¬(a'.barrier = true ∧ b.barrier = true ∧ b.agentId = a'.agentId) := by
    rintro ⟨hbar, hbar', heq⟩
    exact hi (h.barriers i id b a hb ha hbar' (hlater.barrier hbar) (heq.trans hagent.symm))
  cases hx : a'.barrier <;> cases hy : b.barrier <;> simp_all

section statements

variable {t : Tx} {Q : ℕ → Tx → Prop} {E : StoreError → Prop}

theorem updateAttempt_spec {id : Uuid} {a : AttemptRow} {p : AttemptRow → Bool}
    {f : AttemptRow → AttemptRow} (ha : t.db.attempts.get? id = some a) (hp : p a = true)
    (hok : attemptOk t.db id (f a) = true)
    (hQ : Q 1 { t with db := setAttempts (t.db.attempts.put id (f a)) t.db }) :
    Txn.wp (updateAttempt id p f) Q E t := by
  refine Store.wp_updateRow ?_ ?_ ?_
  · intro hnone
    exact absurd (hnone a ha) (by simp [hp])
  · intro r hr _ _
    rw [ha] at hr
    cases hr
    exact hQ
  · intro r hr _ hfalse
    rw [ha] at hr
    cases hr
    exact absurd (hok.symm.trans hfalse) (by decide)

theorem updateTask_spec {key : WorkspaceName × ℕ} {r : TaskRow} {p : TaskRow → Bool}
    {f : TaskRow → TaskRow} (hr : t.db.tasks.get? key = some r) (hp : p r = true)
    (hw : ∃ row, t.db.workspaces.get? key.1 = some row)
    (hQ : (f r).check key.2 = true →
      Q 1 { t with db := setTasks (t.db.tasks.put key (f r)) t.db })
    (hE : (f r).check key.2 = false → E (.sqlite .constraint)) :
    Txn.wp (updateTask key p f) Q E t := by
  have hcontains : t.db.workspaces.contains key.1 = true := by simpa using hw
  refine Store.wp_updateRow ?_ ?_ ?_
  · intro hnone
    exact absurd (hnone r hr) (by simp [hp])
  · intro r' hr' _ hok
    rw [hr] at hr'
    cases hr'
    exact hQ (by simpa [taskOk, hcontains] using hok)
  · intro r' hr' _ hfalse
    rw [hr] at hr'
    cases hr'
    exact hE (by simpa [taskOk, hcontains] using hfalse)

theorem insertReport_spec {id : Uuid} {p : ReportRow} {Q : Unit → Tx → Prop}
    (hnew : t.db.reports.get? id = none) (hcheck : p.check = true)
    (htask : ∃ r, t.db.tasks.get? (p.workspace, p.taskId) = some r)
    (hattempt : ∀ i, p.attemptId = some i → ∃ a, t.db.attempts.get? i = some a)
    (hQ : Q () { t with db := setReports (t.db.reports.put id p) t.db }) :
    Txn.wp (insertReport id p) Q E t := by
  have hok : reportOk t.db id p = true := by
    have hall : p.attemptId.all t.db.attempts.contains = true := by
      cases hi : p.attemptId with
      | none => rfl
      | some i => simpa using hattempt i hi
    have hcontains : t.db.tasks.contains (p.workspace, p.taskId) = true := by simpa using htask
    simp [reportOk, hcheck, hcontains, hall]
  refine Store.wp_insertRow (fun _ _ => hQ) ?_
  rintro (⟨v, hv⟩ | hfalse)
  · rw [hnew] at hv
    cases hv
  · exact absurd (hok.symm.trans hfalse) (by decide)

end statements

/-- A text of bounded size fits the column of a report. -/
theorem reportRow_check_text {p : ReportRow} {text : String} (hbody : p.body = .text text)
    (hsize : text.utf8ByteSize ≤ maxNoteBytes) (htime : p.createdAt ≤ maxSafeInteger) :
    p.check = true := by
  have hlen : p.body.toJson.encodedLen ≤ 2 + 6 * text.utf8ByteSize := by
    rw [hbody]
    exact JsonValue.stringLen_le text
  simp only [maxNoteBytes] at hsize
  simp only [ReportRow.check, safeTime, Bool.and_eq_true, decide_eq_true_eq]
  exact ⟨by omega, htime⟩

theorem reportRow_check_checkpoint {p : ReportRow} {c : TaskCheckpoint}
    (hbody : p.body = .checkpoint c) (hvalid : c.validate = true)
    (htime : p.createdAt ≤ maxSafeInteger) : p.check = true := by
  have hlen : p.body.toJson.encodedLen ≤ maxCheckpointBytes := by
    simp only [TaskCheckpoint.validate, Bool.and_eq_true, decide_eq_true_eq] at hvalid
    rw [hbody]
    exact hvalid.2
  simp only [maxCheckpointBytes] at hlen
  simp only [ReportRow.check, safeTime, Bool.and_eq_true, decide_eq_true_eq]
  exact ⟨by omega, htime⟩

section shapes

variable {db : Db} {d : TaskDraft} {r : TaskRow} {id : Uuid} {a : AttemptRow}

theorem Db.draft_attempts_none (h : d.attempt = none) :
    (db.draft d).attempts = db.attempts := by
  simp [Db.draft, h, Table.putOption]

theorem Db.draft_attempt (h : d.attempt = some (id, a)) (i : Uuid) :
    (db.draft d).attempts.get? i = if i = id then some a else db.attempts.get? i := by
  simp [Db.draft, h, Table.putOption, Table.get?_put]

theorem Db.draft_report {p : ReportRow} (h : d.report = some (id, p)) :
    (db.draft d).reports.get? id = some p := by
  simp [Db.draft, h, Table.putOption]

/-- The attempts stay and the row names the same ones. -/
theorem TaskFit.touch (h : TaskFit db d.workspace d.taskId r) (hatt : d.attempt = none)
    (hcurrent : d.row.currentAttemptId = r.currentAttemptId)
    (hlast : d.row.lastAttemptId = r.lastAttemptId)
    (hterminal : d.row.state.isTerminal = true → ∀ i b, db.attempts.get? i = some b →
      b.isOf d.workspace d.taskId → b.barrier = false) :
    TaskFit (db.draft d) d.workspace d.taskId d.row := by
  refine TaskFit.of_attempts ?_ (Db.draft_attempts_none hatt)
  constructor
  · rw [hcurrent, hlast]
    exact h.current
  · rw [hlast]
    exact h.last
  · rw [hcurrent]
    exact h.running
  · rw [hlast]
    exact h.live
  · exact hterminal

/-- The last attempt of the task is replaced by one that does not run. -/
theorem TaskFit.settle (h : TaskFit db d.workspace d.taskId r) (hold : r.lastAttemptId = some id)
    (hatt : d.attempt = some (id, a)) (hof : a.isOf d.workspace d.taskId)
    (hrun : a.status ≠ .running) (hcurrent : d.row.currentAttemptId = none)
    (hlast : d.row.lastAttemptId = some id)
    (hterminal : d.row.state.isTerminal = true → a.barrier = false) :
    TaskFit (db.draft d) d.workspace d.taskId d.row := by
  -- Any attempt that is live was the last one, so the others are neither running nor barriers.
  have hquiet : ∀ i b, i ≠ id → db.attempts.get? i = some b → b.isOf d.workspace d.taskId →
      b.barrier = false := by
    intro i b hi hb hbof
    by_contra hbar
    have := h.live i b hb hbof (by simpa using hbar)
    rw [hold, Option.some.injEq] at this
    exact hi this.symm
  constructor
  · intro i hi
    rw [hcurrent] at hi
    cases hi
  · intro i hi
    rw [hlast, Option.some.injEq] at hi
    subst hi
    exact ⟨a, by simp [Db.draft_attempt hatt], hof⟩
  · intro i b hb hbof hbrun
    rw [Db.draft_attempt hatt] at hb
    split at hb
    · cases hb
      exact absurd hbrun hrun
    · next hi =>
      have := hquiet i b hi hb hbof
      rw [← Bool.not_eq_true, AttemptRow.barrier_iff] at this
      exact absurd (.inl hbrun) this
  · intro i b hb hbof hbar
    rw [Db.draft_attempt hatt] at hb
    split at hb
    · next hi => rw [hi, hlast]
    · next hi => rw [hquiet i b hi hb hbof] at hbar; cases hbar
  · intro hs i b hb hbof
    rw [Db.draft_attempt hatt] at hb
    split at hb
    · cases hb
      exact hterminal hs
    · next hi => exact hquiet i b hi hb hbof

/-- A new attempt of a task without a live one becomes its current attempt. -/
theorem TaskFit.begin (hatt : d.attempt = some (id, a)) (hof : a.isOf d.workspace d.taskId)
    (hrun : a.status = .running) (hcurrent : d.row.currentAttemptId = some id)
    (hlast : d.row.lastAttemptId = some id) (hstate : d.row.state.isTerminal = false)
    (hquiet : ∀ i b, db.attempts.get? i = some b → b.isOf d.workspace d.taskId →
      b.barrier = false) : TaskFit (db.draft d) d.workspace d.taskId d.row := by
  constructor
  · intro i hi
    rw [hcurrent, Option.some.injEq] at hi
    subst hi
    exact ⟨hlast, a, by simp [Db.draft_attempt hatt], hrun⟩
  · intro i hi
    rw [hlast, Option.some.injEq] at hi
    subst hi
    exact ⟨a, by simp [Db.draft_attempt hatt], hof⟩
  · intro i b hb hbof hbrun
    rw [Db.draft_attempt hatt] at hb
    split at hb
    · next hi => rw [hi, hcurrent]
    · have := hquiet i b hb hbof
      rw [← Bool.not_eq_true, AttemptRow.barrier_iff] at this
      exact absurd (.inl hbrun) this
  · intro i b hb hbof hbar
    rw [Db.draft_attempt hatt] at hb
    split at hb
    · next hi => rw [hi, hlast]
    · rw [hquiet i b hb hbof] at hbar; cases hbar
  · intro hs
    rw [hstate] at hs
    cases hs

theorem ReportLoads.draft {x : Option Uuid} (h : ReportLoads db x)
    (hnew : ∀ i p, d.report = some (i, p) → db.reports.get? i = none) :
    ReportLoads (db.draft d) x := by
  refine h.mono ?_
  intro i p hp
  cases hrep : d.report with
  | none => simpa [Db.draft, hrep, Table.putOption] using hp
  | some e =>
    obtain ⟨j, q⟩ := e
    have hj := hnew j q hrep
    have hne : i ≠ j := by
      rintro rfl
      rw [hp] at hj
      cases hj
    simpa [Db.draft, hrep, Table.putOption, Table.get?_put, hne] using hp

theorem ReportLoads.draft_self {p : ReportRow} (h : d.report = some (id, p))
    (hbody : bodyMatches p.kind p.body = true) : ReportLoads (db.draft d) (some id) := by
  intro i hi
  cases hi
  exact ⟨p, Db.draft_report h, hbody⟩

end shapes

end SessionRouter
