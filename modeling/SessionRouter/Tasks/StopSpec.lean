import SessionRouter.Tasks.AttemptSpec

/-!
The operations by which the router itself ends attempts. They fail only when a counter is at its
limit: the rows they look for are always there.
-/

namespace SessionRouter

section

variable [World] {t : Tx}

omit [World] in
theorem validActor_router : ValidActor "system:router" := by
  unfold ValidActor
  decide

/-- The detail of a task is read back from its draft. -/
theorem TaskDraft.Fits.detail {db : Db} {tick : ℕ} {d : TaskDraft} (h : d.Fits db tick) :
    ∃ task, getTaskDetail (db.draft d) d.workspace d.taskId = .ok (some task) ∧
      task.summary = taskSummaryOf (db.draft d) d.workspace d.taskId d.row := by
  refine getTaskDetail_of_loads ?_ h.loads
  rw [Db.draft_tasks h.keeps]
  exact Table.get?_put_self _ _ _

/-- The event that announces a draft without a receipt. -/
theorem TaskDraft.announce_spec {db : Db} {tick₀ tick : ℕ} {d : TaskDraft} {actorId : String}
    {change : TaskChange} {attemptId externalOperationId : Option Uuid}
    {Q : WorkspaceEvent → Tx → Prop} {E : StoreError → Prop} (h : DbInv db tick₀)
    (hle : tick₀ ≤ tick) (hfits : d.Fits db tick) (hfollows : d.follows db change)
    (hactor : ValidActor actorId) (hrefers : d.Refers db attemptId none)
    (hQ : ∀ e, e.kind = .task → e.workspace = d.workspace →
      DbInv (db.complete d e none) (tick + 1) →
      Q e { db := db.complete d e none, tick := tick + 1 })
    (hE : JournalFull db d.workspace → E (.sqlite .constraint)) :
    Txn.wp (appendTaskEvent d.workspace actorId d.taskId change attemptId externalOperationId
      (taskSummaryOf (db.draft d) d.workspace d.taskId d.row)) Q E { db := db.draft d, tick } :=
  TaskDraft.append_spec none h hle hfits hfollows hactor hrefers (by simp)
    (fun e hkind hw hinv => hQ e hkind hw hinv) hE

/-- A draft that ends an attempt of a task, as the router announces it. -/
theorem Advance.of_settle {d : TaskDraft} {e : WorkspaceEvent} {tick : ℕ} {change : TaskChange}
    {id : Uuid} {a a' : AttemptRow} {stopped : Uuid → AttemptRow → Prop}
    (hinv : DbInv (t.db.complete d e none) tick) (hle : t.tick ≤ tick) (hkeeps : d.Keeps t.db)
    (hfollows : d.follows t.db change) (ha : t.db.attempts.get? id = some a)
    (hatt : d.attempt = some (id, a')) (hlater : a.Later a')
    (hstop : a'.unconfirmed = true → a.unconfirmed = true ∨ stopped id a') :
    Advance t { db := t.db.complete d e none, tick } [e] stopped where
  inv := hinv
  tick := hle
  grows := by
    refine .complete hkeeps hfollows ?_
    intro i b b' hb hget
    rw [hatt, Option.some.injEq, Prod.mk.injEq] at hb
    obtain ⟨rfl, rfl⟩ := hb
    rw [ha] at hget
    cases hget
    exact hlater
  attempts := .complete ha hatt hstop

/-- A task whose running attempt ended. -/
def interruptedRow (r : TaskRow) (id : Uuid) (reason : PauseReason) (actorId : String) (now : ℕ) :
    TaskRow :=
  { r with
    state := .paused
    version := r.version + 1
    currentAttemptId := none
    lastAttemptId := some id
    pauseReason := some reason
    updatedBy := actorId
    updatedAt := now }

/-- The rows of a task whose running attempt ends. -/
def interruptDraft (a : AttemptRow) (r : TaskRow) (id : Uuid) (evidence : StopEvidence)
    (reason : PauseReason) (actorId : String) (now : ℕ) (stoppedAt : Option ℕ) : TaskDraft :=
  { workspace := a.workspace, taskId := a.taskId
    row := interruptedRow r id reason actorId now
    attempt := some (id, { a with
      status := .interrupted
      stopEvidence := evidence
      reason := some reason
      endedAt := some now
      stoppedAt }) }

theorem interruptDraft_spec {a : AttemptRow} {r : TaskRow} {id : Uuid} {evidence : StopEvidence}
    {reason : PauseReason} {actorId : String} {now : ℕ} {stoppedAt : Option ℕ} (tick : ℕ)
    (h : DbInv t.db t.tick) (ha : t.db.attempts.get? id = some a) (hrun : a.status = .running)
    (hr : t.db.tasks.get? (a.workspace, a.taskId) = some r)
    (hevidence : evidence = .unknown ∨ evidence = .confirmed) (hnow : now ≤ maxSafeInteger)
    (hstopped : stoppedAt = a.stoppedAt ∨ stoppedAt = some now)
    (hcheck : (interruptedRow r id reason actorId now).check a.taskId = true) :
    let d := interruptDraft a r id evidence reason actorId now stoppedAt
    d.Fits t.db tick ∧ d.follows t.db .interrupted ∧ d.follows t.db .stopped ∧
      d.Refers t.db (some id) none := by
  intro d
  have hlocal := h.tasks.locals _ _ r hr
  have hcurrent := hlocal.fit.running id a ha ⟨rfl, rfl⟩ hrun
  have hlast := (hlocal.fit.current id hcurrent).1
  let a' : AttemptRow := { a with
    status := .interrupted
    stopEvidence := evidence
    reason := some reason
    endedAt := some now
    stoppedAt }
  have hended := AttemptRow.ended a' (h.tasks.attempts _ a ha).check hrun rfl rfl hnow rfl
    hstopped (by simp)
  have hwf : a'.wellFormed = true := by
    rcases hevidence with rfl | rfl <;> rfl
  refine ⟨?_, ?_, ?_, ?_, by simp⟩
  · exact .settle h hr rfl hlast ha rfl hended.1 (by simp) ⟨hended.2, hwf, rfl⟩ hcheck rfl rfl
      (by simp [d, interruptDraft, interruptedRow, TaskState.isTerminal])
      (by simp [d, interruptDraft]) (.inl rfl) (.inl rfl)
  · simp [TaskDraft.follows, d, interruptDraft, interruptedRow, hr]
  · simp [TaskDraft.follows, d, interruptDraft, interruptedRow, hr]
  · intro i hi
    cases hi
    exact ⟨a', by simp [Db.draft_attempt (d := d) (a := a') rfl], rfl, rfl⟩

/-- The limit of a version counter is what makes the new row of an interrupted task fail. -/
theorem interruptedRow_full {w : WorkspaceName} {taskId : ℕ} {r : TaskRow} {id : Uuid}
    {reason : PauseReason} {actorId : String} {now : ℕ} (h : DbInv t.db t.tick)
    (hr : t.db.tasks.get? (w, taskId) = some r) (hnow : now ≤ maxSafeInteger)
    (hfail : (interruptedRow r id reason actorId now).check taskId = false) :
    maxSafeInteger ≤ r.version := by
  have hcheck := (h.tasks.locals _ _ r hr).check
  obtain ⟨-, -, htitle, hdescription, -, -, -⟩ := TaskRow.check_iff.mp hcheck
  exact check_bump hfail hcheck rfl htitle hdescription rfl hnow
    (by simp [interruptedRow]) (by simp [interruptedRow, TaskState.isTerminal])

theorem interruptedRow_fail {w : WorkspaceName} {taskId : ℕ} {r : TaskRow} {id : Uuid}
    {reason : PauseReason} {actorId : String} {now : ℕ} (h : DbInv t.db t.tick)
    (hr : t.db.tasks.get? (w, taskId) = some r) (hnow : now ≤ maxSafeInteger)
    (hfail : (interruptedRow r id reason actorId now).check taskId = false) :
    Exhausted t.db :=
  .inr ⟨_, r, hr, interruptedRow_full h hr hnow hfail⟩

theorem interruptAttempt_spec {id : Uuid} {reason : PauseReason} (h : DbInv t.db t.tick) :
    Txn.wp (interruptAttempt id reason)
      (fun e t' => Advance t t' e.toList (fun i _ => i = id) ∧ (∀ x ∈ e.toList, x.kind = .task) ∧
        ∀ a, t'.db.attempts.get? id = some a → a.status ≠ .running)
      (fun e => e = .sqlite .constraint ∧ Exhausted t.db) t := by
  unfold interruptAttempt
  simp only [Txn.wp_bind, Store.wp_read]
  cases ha : t.db.attempts.get? id with
  | none => exact ⟨.refl h, by simp, by simp [ha]⟩
  | some a =>
    simp only
    rw [Txn.wp_ite]
    refine ⟨fun hstop => ?_, fun hrun => ?_⟩
    · simp only [Txn.wp_bind, Txn.wp_pure]
      exact commit_spec h.tasks ⟨.refl h, by simp, by simp [ha, hstop]⟩
    have hrun : a.status = .running := by simpa using hrun
    obtain ⟨r, hr⟩ := (h.tasks.attempts id a ha).task
    have hlocal := h.tasks.locals _ _ r hr
    obtain ⟨row, hrow, -⟩ := h.tasks.ids _ _ r hr
    have hcurrent := hlocal.fit.running id a ha ⟨rfl, rfl⟩ hrun
    simp only [Txn.wp_bind, Store.wp_nowMillis, Txn.wp_pure]
    have hended := AttemptRow.ended
      { a with
        status := .interrupted
        stopEvidence := .unknown
        reason := some reason
        endedAt := some (World.now t.tick) }
      (h.tasks.attempts _ a ha).check hrun rfl rfl (World.now_le t.tick) rfl (.inl rfl) (by simp)
    refine updateAttempt_spec ha (by simpa using hrun)
      (attemptOk_of_later h.tasks ha hended.1 hended.2 (by simp)) ?_
    let d := interruptDraft a r id .unknown reason "system:router" (World.now t.tick) a.stoppedAt
    refine updateTask_spec hr (by simpa using hcurrent) ⟨row, hrow⟩ (fun hcheck => ?_)
      (fun hfail => ⟨rfl, interruptedRow_fail h hr (World.now_le _) hfail⟩)
    obtain ⟨hfits, hfollows, -, hrefers⟩ := interruptDraft_spec (t.tick + 1) h ha hrun hr
      (.inl rfl) (World.now_le t.tick) (.inl rfl) hcheck
    rw [Txn.wp_require]
    refine ⟨fun _ => ?_, by simp⟩
    obtain ⟨task, htask, hsummary⟩ := hfits.detail
    change Txn.wp _ _ _ (Tx.mk (t.db.draft d) (t.tick + 1))
    refine wp_storeQuery htask ?_
    simp only [Txn.orFail, Txn.wp_pure, hsummary]
    refine TaskDraft.announce_spec h (Nat.le_succ _) hfits hfollows validActor_router hrefers ?_
      (fun hx => ⟨rfl, hx.exhausted⟩)
    intro e hkind hw hinv
    refine commit_spec hinv.tasks ⟨?_, by simpa using hkind, ?_⟩
    · exact .of_settle hinv (Nat.le_add_right _ 2) hfits.keeps hfollows ha rfl hended.1
        fun _ => .inr rfl
    · intro b hb
      change (t.db.draft d).attempts.get? id = some b at hb
      rw [Db.draft_attempt (d := d) rfl, if_pos rfl] at hb
      cases hb
      simp

theorem interruptAttempts_spec {reason : PauseReason} {ids : List Uuid} {s : RouterStore}
    (h : StoreInv s) :
    Actor.wp (interruptAttempts reason ids)
      (fun es s' => StoreInv s' ∧ Advance s.tx s'.tx es (fun i _ => i ∈ ids) ∧
        (∀ e ∈ es, e.kind = .task) ∧
        ∀ id ∈ ids, ∀ a, s'.db.attempts.get? id = some a → a.status ≠ .running)
      (fun e s' => e = .sqlite .constraint ∧ StoreInv s' ∧ Exhausted s'.db ∧
        ∃ es, Advance s.tx s'.tx es (fun i _ => i ∈ ids) ∧ ∀ e ∈ es, e.kind = .task) s := by
  induction ids generalizing s with
  | nil => exact ⟨h, .refl h.db, by simp, by simp⟩
  | cons id ids ih =>
    simp only [interruptAttempts, Actor.wp_bind, Actor.wp_pure]
    rw [wp_transaction]
    refine Txn.wp_mono (interruptAttempt_spec h.db) ?_ ?_
    · rintro e t' ⟨hadv, hkind, hstopped⟩
      have hinv := h.commit hadv.inv hadv.tick
      have hboth : ∀ {s' : RouterStore} {es : List WorkspaceEvent},
          Advance t' s'.tx es (fun i _ => i ∈ ids) → (∀ x ∈ es, x.kind = .task) →
          Advance s.tx s'.tx (e.toList ++ es) (fun i _ => i ∈ id :: ids) ∧
            ∀ x ∈ e.toList ++ es, x.kind = .task := by
        intro s' es hadv' hkinds
        have h₁ : Advance s.tx t' e.toList (fun i _ => i ∈ id :: ids) := hadv.mono (by simp)
        have h₂ : Advance t' s'.tx es (fun i _ => i ∈ id :: ids) :=
          hadv'.mono fun i _ hi => List.mem_cons_of_mem _ hi
        refine ⟨h₁.trans h₂ fun _ _ _ _ _ hi => hi, fun x hx => ?_⟩
        rcases List.mem_append.mp hx with hx | hx
        · exact hkind x hx
        · exact hkinds x hx
      refine Actor.wp_mono (ih hinv) ?_ ?_
      · rintro es s' ⟨hinv', hadv', hkinds, hstopped'⟩
        refine ⟨hinv', (hboth hadv' hkinds).1, (hboth hadv' hkinds).2, ?_⟩
        intro i hi b hb
        rcases List.mem_cons.mp hi with rfl | hi
        · -- An attempt that was stopped first does not run again.
          obtain ⟨a, ha, hlater⟩ := hadv'.back hb
          exact fun hrun => hstopped a ha (hlater.running hrun)
        · exact hstopped' i hi b hb
      · rintro _ s' ⟨he, hinv', hx, es, hadv', hkinds⟩
        exact ⟨he, hinv', hx, _, hboth hadv' hkinds⟩
    · rintro e ⟨he, hx⟩
      exact ⟨he, h, hx, [], .refl h.db, by simp⟩

theorem recordExecutionStopped_spec {workspace : WorkspaceName} {taskId : ℕ}
    {attemptId endedSessionId : Uuid} {agentId : String} {credentialId : Uuid}
    {reason : PauseReason} (h : DbInv t.db t.tick) (hactor : ValidActor agentId) :
    Txn.wp (recordExecutionStopped workspace taskId attemptId endedSessionId agentId credentialId
        reason)
      (fun e t' => Advance t t' e.toList noAttempt ∧ (∀ x ∈ e.toList, x.kind = .task) ∧
        ∃ a, t'.db.attempts.get? attemptId = some a ∧ a.isOf workspace taskId)
      (fun e => e.code = .taskStaleAttempt ∨
        (e = .ofStore (.sqlite .constraint) ∧ Exhausted t.db)) t := by
  unfold recordExecutionStopped liftStore
  simp only [Txn.wp_bind, Store.wp_read]
  rw [Txn.wp_orFail]
  refine ⟨fun a hfound => ?_, fun _ => .inl rfl⟩
  obtain ⟨ha, hplace⟩ := Option.filter_eq_some_iff.mp hfound
  simp only [Bool.and_eq_true, decide_eq_true_eq] at hplace
  obtain ⟨rfl, rfl⟩ := hplace
  rw [Txn.wp_require]
  refine ⟨fun _ => ?_, fun _ => .inl rfl⟩
  rw [Txn.wp_ite]
  refine ⟨fun _ => ?_, fun hopen => ?_⟩
  · simp only [Txn.wp_bind, Txn.wp_pure, Txn.wp_mapError]
    exact commit_spec h.tasks ⟨.refl h, by simp, a, ha, rfl, rfl⟩
  simp only [Txn.wp_bind, Store.wp_nowMillis]
  rw [Txn.wp_require]
  refine ⟨fun hlive => ?_, fun _ => .inl rfl⟩
  obtain ⟨r, hr⟩ := (h.tasks.attempts attemptId a ha).task
  have hlocal := h.tasks.locals _ _ r hr
  obtain ⟨row, hrow, -⟩ := h.tasks.ids _ _ r hr
  -- Both branches end in a draft that fits; what follows is the same.
  have hfinish : ∀ (d : TaskDraft) (a' : AttemptRow), d.workspace = a.workspace →
      d.taskId = a.taskId → d.Fits t.db (t.tick + 1) → d.follows t.db .stopped →
      d.attempt = some (attemptId, a') → a.Later a' → a'.unconfirmed = false →
      Txn.wp (Txn.mapError TaskError.ofStore (storeQuery fun db =>
            getTaskDetail db a.workspace a.taskId) >>= fun task =>
          Txn.orFail { code := .taskNotFound } task >>= fun task =>
          Txn.mapError TaskError.ofStore (appendTaskEvent a.workspace agentId a.taskId .stopped
            (some attemptId) none task.summary) >>= fun event =>
          Txn.mapError TaskError.ofStore commit >>= fun _ => pure (some event))
        (fun e t' => Advance t t' e.toList noAttempt ∧ (∀ x ∈ e.toList, x.kind = .task) ∧
          ∃ b, t'.db.attempts.get? attemptId = some b ∧ b.isOf a.workspace a.taskId)
        (fun e => e.code = .taskStaleAttempt ∨
          (e = .ofStore (.sqlite .constraint) ∧ Exhausted t.db))
        { db := t.db.draft d, tick := t.tick + 1 } := by
    intro d a' hw ht hfits hfollows hatt hlater hun
    obtain ⟨task, htask, hsummary⟩ := hfits.detail
    have hself : (t.db.draft d).attempts.get? attemptId = some a' := by
      simp [Db.draft_attempt hatt]
    have hof : a'.isOf a.workspace a.taskId := AttemptRow.isOf_of_origin hlater.origin ⟨rfl, rfl⟩
    simp only [Txn.wp_bind, Txn.wp_mapError, Txn.wp_pure]
    rw [← hw, ← ht]
    refine wp_storeQuery htask ?_
    simp only [Txn.orFail, Txn.wp_pure, hsummary]
    refine TaskDraft.announce_spec h (Nat.le_succ _) hfits hfollows hactor ⟨?_, by simp⟩ ?_
      (fun hx => .inr ⟨rfl, hx.exhausted⟩)
    · intro i hi
      cases hi
      exact ⟨a', hself, by rw [hw, ht]; exact hof⟩
    · intro e hkind _ hinv
      refine commit_spec hinv.tasks ⟨?_, by simpa using hkind, a', hself, by rw [hw, ht]; exact hof⟩
      exact .of_settle hinv (Nat.le_add_right _ 2) hfits.keeps hfollows ha hatt hlater
        fun hu => absurd (hun.symm.trans hu) (by decide)
  rw [Txn.wp_ite]
  refine ⟨fun hrun => ?_, fun hrun => ?_⟩
  · have hcurrent := hlocal.fit.running attemptId a ha ⟨rfl, rfl⟩ hrun
    have hended := AttemptRow.ended
      { a with
        status := .interrupted
        stopEvidence := .confirmed
        reason := some reason
        endedAt := some (World.now t.tick)
        stoppedAt := some (World.now t.tick) }
      (h.tasks.attempts _ a ha).check hrun rfl rfl (World.now_le t.tick) rfl (.inr rfl) (by simp)
    simp only [Txn.wp_bind, Txn.wp_mapError]
    refine updateAttempt_spec ha (by simpa using hrun)
      (attemptOk_of_later h.tasks ha hended.1 hended.2 (by simp)) ?_
    refine updateTask_spec hr (by simpa using hcurrent) ⟨row, hrow⟩ (fun hcheck => ?_)
      (fun hfail => .inr ⟨rfl, interruptedRow_fail h hr (World.now_le _) hfail⟩)
    obtain ⟨hfits, -, hfollows, -⟩ := interruptDraft_spec (t.tick + 1) h ha hrun hr
      (.inr rfl) (World.now_le t.tick) (.inr rfl) hcheck
    rw [Txn.wp_require]
    refine ⟨fun _ => ?_, by simp⟩
    have := hfinish _ _ rfl rfl hfits hfollows rfl hended.1 rfl
    simpa only [Txn.wp_bind, Txn.wp_mapError, Txn.wp_pure] using! this
  · have hun : a.unconfirmed = true := by simpa [hrun, AttemptRow.unconfirmed] using hlive
    obtain ⟨hlast, hcurrent⟩ := hlocal.fit.unconfirmed ha ⟨rfl, rfl⟩ hun
    obtain ⟨hlater, hcheck', hrun', hbarrier, hwf, hun'⟩ :=
      AttemptRow.confirm_spec (h.tasks.attempts _ a ha).check hun (World.now_le t.tick)
    obtain ⟨-, -, htitle, hdescription, -, hstates, hassigned⟩ := TaskRow.check_iff.mp hlocal.check
    simp only [Txn.wp_bind, Txn.wp_mapError]
    refine updateAttempt_spec ha hun (attemptOk_of_later h.tasks ha hlater hcheck' hrun') ?_
    let d : TaskDraft :=
      { workspace := a.workspace, taskId := a.taskId
        row := { r with
          version := r.version + 1
          updatedBy := agentId
          updatedAt := World.now t.tick }
        attempt := some (attemptId, a.confirm (World.now t.tick)) }
    refine updateTask_spec hr (by simp [hcurrent, hlast]) ⟨row, hrow⟩ (fun hcheck => ?_)
      (fun hfail => .inr ⟨rfl, .inr ⟨_, r, hr, check_bump hfail hlocal.check rfl htitle
        hdescription rfl (World.now_le _) hstates hassigned⟩⟩)
    have hfits : d.Fits t.db (t.tick + 1) :=
      .settle h hr rfl hlast ha rfl hlater hrun' ⟨hcheck', hwf, rfl⟩ hcheck hcurrent hlast
        (fun _ => hbarrier) (by simp [d]) (.inl rfl) (.inl rfl)
    have hfollows : d.follows t.db .stopped := by simp [TaskDraft.follows, d, hr]
    rw [Txn.wp_require]
    refine ⟨fun _ => ?_, by simp⟩
    have := hfinish d _ rfl rfl hfits hfollows rfl hlater hun'
    simpa only [Txn.wp_bind, Txn.wp_mapError, Txn.wp_pure] using! this

end

end SessionRouter
