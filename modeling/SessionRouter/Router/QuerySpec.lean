import SessionRouter.Store.Advance
import SessionRouter.Router.Tasks

/-!
On a sound database the queries of the handlers succeed, and what they return is what the rows
say.
-/

namespace SessionRouter

/-- The agent has an attempt that bars it from new work. -/
def Barrier (db : Db) (agentId : String) : Prop :=
  ∃ id a, db.attempts.get? id = some a ∧ a.agentId = agentId ∧ a.barrier = true

/-- The agent has an attempt whose stop is not confirmed. -/
def Unconfirmed (db : Db) (agentId : String) : Prop :=
  ∃ id a, db.attempts.get? id = some a ∧ a.agentId = agentId ∧ a.unconfirmed = true

theorem Unconfirmed.barrier {db : Db} {agentId : String} (h : Unconfirmed db agentId) :
    Barrier db agentId := by
  obtain ⟨id, a, ha, hagent, hun⟩ := h
  exact ⟨id, a, ha, hagent, (AttemptRow.barrier_iff a).mpr (.inr hun)⟩

theorem mem_barrierAttempts {db : Db} {agentId : String} {e : Uuid × AttemptRow} :
    e ∈ barrierAttempts db agentId ↔
      db.attempts.get? e.1 = some e.2 ∧ e.2.agentId = agentId ∧ e.2.barrier = true := by
  unfold barrierAttempts
  rw [List.mem_insertionSort, Table.mem_ofFilter]
  simp only [Bool.and_eq_true, decide_eq_true_eq]

section

variable [World] {db : Db} {tick : ℕ}

/-- An agent has at most one attempt that bars it. -/
theorem barrierAttempts_le_one (h : TaskTables db tick) (agentId : String) :
    barrierAttempts db agentId = [] ∨ ∃ e, barrierAttempts db agentId = [e] := by
  have hnodup : ((barrierAttempts db agentId).map Prod.fst).Nodup := by
    refine ((List.perm_insertionSort _ _).map _).nodup_iff.mpr ?_
    exact db.attempts.nodup_toList_keys.sublist (List.filter_sublist.map _)
  match hl : barrierAttempts db agentId with
  | [] => exact .inl rfl
  | [e] => exact .inr ⟨e, rfl⟩
  | e :: e' :: rest =>
    have he := mem_barrierAttempts.mp (show e ∈ barrierAttempts db agentId by simp [hl])
    have he' := mem_barrierAttempts.mp (show e' ∈ barrierAttempts db agentId by simp [hl])
    have heq := h.barriers _ _ _ _ he.1 he'.1 he.2.2 he'.2.2 (he.2.1.trans he'.2.1.symm)
    simp [hl, heq] at hnodup

theorem agentExecutionFences_spec (h : TaskTables db tick) (agentId : String) :
    ∃ fences, agentExecutionFences db agentId = .ok fences ∧
      (fences.2.isSome = true ↔ Unconfirmed db agentId) ∧
      (fences.1.isSome = true ∨ fences.2.isSome = true ↔ Barrier db agentId) ∧
      (∀ fence, fences.1.or fences.2 = some fence →
        ∃ a, db.attempts.get? fence.attemptId = some a) := by
  have hun : ∀ e, barrierAttempts db agentId = [e] → ∀ id a, db.attempts.get? id = some a →
      a.agentId = agentId → a.barrier = true → e = (id, a) := by
    intro e hl id a ha hagent hbar
    have : (id, a) ∈ barrierAttempts db agentId := mem_barrierAttempts.mpr ⟨ha, hagent, hbar⟩
    rw [hl, List.mem_singleton] at this
    exact this.symm
  unfold agentExecutionFences
  rcases barrierAttempts_le_one h agentId with hl | ⟨⟨id, a⟩, hl⟩
  · have hnone : ¬ Barrier db agentId := by
      rintro ⟨id, a, ha, hagent, hbar⟩
      have : (id, a) ∈ barrierAttempts db agentId := mem_barrierAttempts.mpr ⟨ha, hagent, hbar⟩
      simp [hl] at this
    refine ⟨(none, none), by simp [hl, fenceSlots], ?_, ?_, by simp⟩
    · simpa using fun hu : Unconfirmed db agentId => hnone hu.barrier
    · simpa using hnone
  · obtain ⟨ha, hagent, hbar⟩ := mem_barrierAttempts.mp
      (show (id, a) ∈ barrierAttempts db agentId by simp [hl])
    have hbarrier : Barrier db agentId := ⟨id, a, ha, hagent, hbar⟩
    by_cases hrun : a.status = .running
    · refine ⟨(some { taskId := a.taskId, attemptId := id }, none), by simp [hl, fenceSlots, hrun],
        ?_, by simpa using hbarrier, ?_⟩
      · simp only [Option.isSome_none, Bool.false_eq_true, false_iff]
        rintro ⟨i, b, hb, hbagent, hbun⟩
        have := hun _ hl i b hb hbagent ((AttemptRow.barrier_iff b).mpr (.inr hbun))
        cases this
        simp [AttemptRow.unconfirmed, hrun] at hbun
      · intro fence hfence
        cases hfence
        exact ⟨a, ha⟩
    · refine ⟨(none, some { taskId := a.taskId, attemptId := id }), by simp [hl, fenceSlots, hrun],
        ?_, by simpa using hbarrier, ?_⟩
      · simp only [Option.isSome_some, true_iff]
        exact ⟨id, a, ha, hagent, ((AttemptRow.barrier_iff a).mp hbar).resolve_left hrun⟩
      · intro fence hfence
        cases hfence
        exact ⟨a, ha⟩

theorem agentExecutionBarriers_spec (h : TaskTables db tick) (agentId : String) :
    ∃ running stopPending, agentExecutionBarriers db agentId = .ok (running, stopPending) ∧
      (stopPending = true ↔ Unconfirmed db agentId) ∧
      (running = true ∨ stopPending = true ↔ Barrier db agentId) := by
  obtain ⟨fences, hfences, hun, hbar, -⟩ := agentExecutionFences_spec h agentId
  exact ⟨_, _, by simp [agentExecutionBarriers, hfences, Except.map], hun, hbar⟩

theorem agentHasExecutionBarrier_spec (h : TaskTables db tick) (agentId : String) :
    ∃ blocked, agentHasExecutionBarrier db agentId = .ok blocked ∧
      (blocked = true ↔ Barrier db agentId) := by
  obtain ⟨running, stopPending, hq, -, hbar⟩ := agentExecutionBarriers_spec h agentId
  refine ⟨running || stopPending, by simp [agentHasExecutionBarrier, hq, Except.map], ?_⟩
  rw [Bool.or_eq_true]
  exact hbar

theorem barred_iff (h : TaskTables db tick) (agentId : String) :
    barred db agentId = true ↔ Barrier db agentId := by
  obtain ⟨blocked, hq, hbar⟩ := agentHasExecutionBarrier_spec h agentId
  unfold barred
  rw [hq]
  exact hbar

omit [World] in
theorem executionAttempt_spec (db : Db) (id : Uuid) :
    ∃ found, executionAttempt db id = .ok found ∧
      (∀ a, db.attempts.get? id = some a →
        ∃ attempt, found = some (a.workspace, attempt) ∧ attempt.taskId = a.taskId) ∧
      (db.attempts.get? id = none → found = none) := by
  unfold executionAttempt loadAttempt
  cases ha : db.attempts.get? id with
  | none => exact ⟨none, rfl, by simp, by simp⟩
  | some a =>
    refine ⟨_, rfl, ?_, by simp⟩
    intro b hb
    cases hb
    exact ⟨_, rfl, rfl⟩

/-- The detail of a task is absent exactly when the task is. -/
theorem getTaskDetail_spec (h : TaskTables db tick) (w : WorkspaceName) (id : ℕ) :
    ∃ found, getTaskDetail db w id = .ok found ∧
      ∀ detail, found = some detail → ∃ r, db.tasks.get? (w, id) = some r ∧
        detail.summary = taskSummaryOf db w id r := by
  cases hr : db.tasks.get? (w, id) with
  | none => exact ⟨none, by simp [getTaskDetail, hr], by simp⟩
  | some r =>
    obtain ⟨detail, hdetail, hsummary⟩ := getTaskDetail_of_loads hr (h.locals _ _ r hr).loads
    refine ⟨_, hdetail, ?_⟩
    intro d hd
    cases hd
    exact ⟨r, rfl, hsummary⟩

omit [World] in
theorem mapM_ok {α β ε : Type} {f : α → Except ε β} {l : List α}
    (h : ∀ a ∈ l, ∃ b, f a = .ok b) : ∃ bs, l.mapM f = .ok bs := by
  induction l with
  | nil => exact ⟨[], rfl⟩
  | cons a as ih =>
    obtain ⟨b, hb⟩ := h a (by simp)
    obtain ⟨bs, hbs⟩ := ih fun x hx => h x (by simp [hx])
    exact ⟨b :: bs, by simp [List.mapM_cons, hb, hbs, bind, Except.bind, pure, Except.pure]⟩

theorem listTasks_spec (h : TaskTables db tick) {w : WorkspaceName} {states : List TaskState}
    {assigned : Option String} {after limit : ℕ} (hstates : states.isEmpty = false) :
    ∃ page, listTasks db w states assigned after limit = .ok page := by
  unfold listTasks
  rw [if_neg (by simp [hstates])]
  obtain ⟨fetched, hfetched⟩ := mapM_ok
    (f := fun e : (WorkspaceName × ℕ) × TaskRow => taskSummaryFromRow db e.1.1 e.1.2 e.2)
    (l := (((db.tasks.ofFilter fun key r => key.1 = w && after < key.2 && r.state ∈ states &&
      assigned.all fun id => r.assignedAgentId = some id).insertionSort
        fun a b => a.1.2 ≤ b.1.2).take (limit + 1))) (by
    rintro ⟨⟨w', id⟩, r⟩ hmem
    have hr := List.mem_of_mem_take hmem
    rw [List.mem_insertionSort, Table.mem_ofFilter] at hr
    exact ⟨_, taskSummaryFromRow_of_loads (h.locals _ _ r hr.1).loads⟩)
  simp only [hfetched]
  exact ⟨_, rfl⟩

omit [World] in
theorem history_spec {w : WorkspaceName} {latest after limit : ℕ}
    (hlatest : latestSeq db w = some latest) (hle : after ≤ latest) :
    ∃ page, history db w after limit = .ok page := by
  unfold history
  rw [hlatest]
  simp only [if_neg (Nat.not_lt.mpr hle)]
  exact ⟨_, rfl⟩

omit [World] in
theorem recentHistory_spec {w : WorkspaceName} {latest limit : ℕ}
    (hlatest : latestSeq db w = some latest) :
    ∃ page, recentHistory db w limit = .ok page := by
  unfold recentHistory
  rw [hlatest]
  exact ⟨_, rfl⟩

/-- A stored event of a task fits the rows it names. -/
theorem historyEvent_spec (h : TaskTables db tick) {w : WorkspaceName} {id after limit : ℕ}
    {stored : StoredTaskHistoryEvent} (hmem : stored ∈ (storedTaskHistory db w id after limit).1) :
    ∃ event, Router.historyEvent w id stored = .ok event := by
  have hpage : ∀ {α : Type} (limit : ℕ) (rows : List α) (x : α), x ∈ (cutPage limit rows).1 →
      x ∈ rows := by
    intro α limit rows x hx
    simp only [cutPage] at hx
    split at hx
    · exact List.mem_of_mem_take (List.dropLast_subset _ hx)
    · exact List.mem_of_mem_take hx
  have hrow := hpage _ _ _ hmem
  obtain ⟨e, he, rfl⟩ := List.mem_map.mp hrow
  rw [List.mem_insertionSort, List.mem_filter] at he
  obtain ⟨hevent, hw⟩ := List.mem_filter.mp he.1
  simp only [Bool.and_eq_true, decide_eq_true_eq] at hw
  obtain ⟨⟨hws, htask⟩, hkind⟩ := hw
  obtain ⟨t, event, hi⟩ := h.events e hevent hkind
  have ht : t = id := by
    have := hi.taskId
    rw [htask, Option.some.injEq] at this
    exact this.symm
  subst ht
  have hattempt : event.attemptId = (joinedAttempt db e).map TaskAttempt.id ∧
      ((joinedAttempt db e).any fun a => a.taskId ≠ t) = false := by
    cases hatt : event.attemptId with
    | none => simp [joinedAttempt, hi.content, hatt]
    | some i =>
      obtain ⟨a, ha, hof⟩ := hi.attempt i hatt
      simp [joinedAttempt, hi.content, hatt, ha, hof.1, hof.2, htask, loadAttempt, Except.toOption]
  have hreport : event.reportId = (joinedReport db e).map TaskReportRecord.id ∧
      ((joinedReport db e).any fun r => r.taskId ≠ t) = false := by
    cases hrep : event.reportId with
    | none => simp [joinedReport, hi.content, hrep]
    | some i =>
      obtain ⟨p, hp, hof⟩ := hi.report i hrep
      simp [joinedReport, hi.content, hrep, hp, hof.1, hof.2, htask]
  unfold Router.historyEvent
  simp only [hi.content, hi.summary.1, hi.summary.2, hws, htask]
  rw [if_neg]
  · exact ⟨_, rfl⟩
  · simp only [ne_eq, not_true_eq_false, false_or, not_or, not_not]
    exact ⟨hattempt.1, hreport.1, by simpa using hattempt.2, by simpa using hreport.2⟩

end

end SessionRouter
