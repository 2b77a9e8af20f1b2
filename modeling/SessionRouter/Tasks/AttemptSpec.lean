import SessionRouter.Tasks.ApplySpec

/-!
The commands that change an attempt, and `apply_task` as a whole.
-/

namespace SessionRouter

section

variable {db : Db} {d : TaskDraft} {id : Uuid} {a a' : AttemptRow}

theorem AttemptsFrom.complete {new stopped : Uuid → AttemptRow → Prop} {e : WorkspaceEvent}
    {receipt : Option (Uuid × MutationRow)} (ha : db.attempts.get? id = some a)
    (hatt : d.attempt = some (id, a'))
    (hstop : a'.unconfirmed = true → a.unconfirmed = true ∨ stopped id a') :
    AttemptsFrom db (db.complete d e receipt) new stopped := by
  intro i b hb
  change (db.draft d).attempts.get? i = some b at hb
  rw [Db.draft_attempt hatt] at hb
  left
  split at hb
  · next hi =>
    subst hi
    cases hb
    exact ⟨a, ha, hstop⟩
  · exact ⟨b, hb, .inl⟩

end

section

variable [World] {t : Tx} {caller : CallerContext} {command : TaskCommand}

/-- What fits when the last attempt of a task is replaced by a later one that does not run. -/
theorem TaskDraft.Fits.settle {d : TaskDraft} {tick : ℕ} {r : TaskRow} {id : Uuid}
    {a a' : AttemptRow} (h : DbInv t.db t.tick)
    (hr : t.db.tasks.get? (d.workspace, d.taskId) = some r) (hkept : d.kept = false)
    (hold : r.lastAttemptId = some id) (ha : t.db.attempts.get? id = some a)
    (hatt : d.attempt = some (id, a')) (hlater : a.Later a') (hrun : a'.status ≠ .running)
    (hattempt : a'.check = true ∧ a'.wellFormed = true ∧
      a'.resumedFromCheckpointId = a.resumedFromCheckpointId)
    (hcheck : d.row.check d.taskId = true) (hcurrent : d.row.currentAttemptId = none)
    (hlast : d.row.lastAttemptId = some id)
    (hterminal : d.row.state.isTerminal = true → a'.barrier = false)
    (hreport : ∀ id p, d.report = some (id, p) → t.db.reports.get? id = none ∧
      p.isOf d.workspace d.taskId ∧ bodyMatches p.kind p.body = true ∧ Drawn tick id)
    (hcheckpoint : d.row.lastCheckpointId = r.lastCheckpointId ∨
      ReportLoads (t.db.draft d) d.row.lastCheckpointId)
    (hresult : d.row.resultReportId = r.resultReportId ∨
      ReportLoads (t.db.draft d) d.row.resultReportId) : d.Fits t.db tick := by
  have hlocal := h.tasks.locals _ _ r hr
  have hnew := fun i p hp => (hreport i p hp).1
  have hinv := h.tasks.attempts id a ha
  obtain ⟨b, hb, hof⟩ := hlocal.fit.last id hold
  rw [ha] at hb
  cases hb
  have hof' := AttemptRow.isOf_of_origin hlater.origin hof
  refine
    { check := hcheck
      keeps := by simp [TaskDraft.Keeps, hkept]
      fit := hlocal.fit.settle hold hatt hof' hrun hcurrent hlast hterminal
      checkpoint := ?_
      result := ?_
      id := h.tasks.ids _ _ r hr
      attempt := ?_
      report := hreport }
  · rcases hcheckpoint with heq | hload
    · rw [heq]
      exact hlocal.checkpoint.draft hnew
    · exact hload
  · rcases hresult with heq | hload
    · rw [heq]
      exact hlocal.result.draft hnew
    · exact hload
  · intro i b hb
    rw [hatt, Option.some.injEq, Prod.mk.injEq] at hb
    obtain ⟨rfl, rfl⟩ := hb
    have hcred : a.credentialId = a'.credentialId :=
      congrArg AttemptOrigin.credentialId hlater.origin
    refine ⟨hof', hattempt.1, hattempt.2.1, ?_, ?_, ?_, ?_⟩
    · rw [← hcred]
      exact hinv.credential
    · rw [hattempt.2.2]
      exact hinv.resumed
    · intro b hb
      rw [ha] at hb
      cases hb
      exact hlater.origin
    · intro hbar j c hc hbar' hagent
      exact h.tasks.barriers j id c a hc ha hbar' (hlater.barrier hbar)
        (hagent.trans hlater.agentId.symm)

/-- A finished draft that replaced an attempt. -/
theorem Applied.of_settle {d : TaskDraft} {e : WorkspaceEvent}
    {receipt : Option (Uuid × MutationRow)} {tick : ℕ} {change : TaskChange}
    {result : TaskApplyResult} {id : Uuid} {a a' : AttemptRow}
    (hinv : DbInv (t.db.complete d e receipt) tick) (hle : t.tick ≤ tick) (hkeeps : d.Keeps t.db)
    (hfollows : d.follows t.db change) (ha : t.db.attempts.get? id = some a)
    (hatt : d.attempt = some (id, a')) (hlater : a.Later a')
    (hstop : a'.unconfirmed = true →
      ∃ taskId, command.interrupts? = some taskId ∧ a'.isOf caller.workspace taskId)
    (hevent : result.event = e) (hkind : e.kind = .task) (hw : e.workspace = caller.workspace)
    (hbegin : command.workRequest? = none)
    (hconfirm : ∀ i, command.confirms? = some i → i = id ∧ a.unconfirmed = true) :
    Applied caller command t result { db := t.db.complete d e receipt, tick } where
  inv := hinv
  tick := hle
  grows := by
    rw [hevent]
    refine .complete hkeeps hfollows ?_
    intro i b b' hb hget
    rw [hatt, Option.some.injEq, Prod.mk.injEq] at hb
    obtain ⟨rfl, rfl⟩ := hb
    rw [ha] at hget
    cases hget
    exact hlater
  kind := by rw [hevent]; exact hkind
  workspace := by rw [hevent]; exact hw
  attempts := .complete ha hatt fun hu => .inr (hstop hu)
  begun := by simp [hbegin]
  confirmed := by
    intro i hi
    obtain ⟨rfl, hun⟩ := hconfirm i hi
    exact ⟨a, ha, hun⟩

omit [World] in
/-- The owner of the current attempt of a task, as `require_attempt_owner` finds it. -/
theorem requireAttemptOwner_spec {taskId expectedVersion : ℕ} {attemptId operationId : Uuid}
    {Q : Unit → Tx → Prop}
    (hQ : ∀ r a, t.db.tasks.get? (caller.workspace, taskId) = some r → r.version = expectedVersion →
      t.db.attempts.get? attemptId = some a → a.isOf caller.workspace taskId →
      a.status = .running → r.currentAttemptId = some attemptId → Q () t) :
    Txn.wp (requireAttemptOwner caller taskId attemptId expectedVersion operationId) Q
      (Excused t.db command) t := by
  unfold requireAttemptOwner
  simp only [Txn.wp_bind, Store.wp_read]
  refine taskStateVersion_spec (fun r hr => ?_) (.of_code (by decide))
  refine checkVersion_spec (fun hversion => ?_) (.of_code (by decide))
  rw [Txn.wp_orFail]
  refine ⟨fun agentId _ => ?_, fun _ => .of_code (by decide)⟩
  rw [Txn.wp_orFail]
  refine ⟨fun sessionId _ => ?_, fun _ => .of_code (by decide)⟩
  refine requireTask_spec (fun howned => ?_) (.of_code (by decide))
  unfold ownsAttempt at howned
  rw [hr] at howned
  cases ha : t.db.attempts.get? attemptId with
  | none => simp [ha] at howned
  | some a =>
    simp only [ha, Bool.and_eq_true, decide_eq_true_eq] at howned
    obtain ⟨⟨⟨⟨⟨⟨⟨hw, ht⟩, -⟩, -⟩, -⟩, -⟩, hrun⟩, hcurrent⟩ := howned
    exact hQ r a hr hversion ha ⟨hw, ht⟩ hrun hcurrent

theorem applyCheckpoint_spec {operationId : Uuid} {taskId expectedVersion : ℕ} {attemptId : Uuid}
    {checkpoint : TaskCheckpoint} (h : DbInv t.db t.tick) (hcaller : caller.Sound t.db)
    (hcommand : command = .checkpoint operationId taskId attemptId expectedVersion checkpoint)
    (hvalid : checkpoint.validate = true)
    (hunused : t.db.mutations.get? (caller.workspace, command.operationId) = none) :
    Txn.wp (applyCheckpoint caller command taskId attemptId expectedVersion checkpoint)
      (Applied caller command t) (Excused t.db command) t := by
  subst hcommand
  unfold applyCheckpoint liftStore
  simp only [Txn.wp_bind, Txn.wp_mapError, Store.wp_nowMillis]
  refine requireAttemptOwner_spec ?_
  rintro r a hr rfl ha hof hrun hcurrent
  have hlocal := h.tasks.locals _ _ r hr
  have hnew := h.tasks.report_unused (Nat.le_succ t.tick)
  obtain ⟨-, -, htitle, hdescription, -, hstates, hassigned⟩ := TaskRow.check_iff.mp hlocal.check
  refine insertCheckpointReport_spec hnew hvalid (World.now_le _) ⟨r, hr⟩ ⟨a, ha⟩ ?_
  let d : TaskDraft :=
    { workspace := caller.workspace, taskId
      row := { r with
        version := r.version + 1
        lastCheckpointId := some (World.uuid (t.tick + 1))
        updatedBy := caller.actorId
        updatedAt := World.now t.tick }
      report := some (World.uuid (t.tick + 1),
        { workspace := caller.workspace, taskId, attemptId := some attemptId,
          actorId := caller.actorId, kind := .checkpoint, body := .checkpoint checkpoint,
          createdAt := World.now t.tick }) }
  refine updateTask_spec hr rfl hcaller.workspace (fun hcheck => ?_) (fun hfail => ?_)
  · have hfits : d.Fits t.db (t.tick + 2) := by
      refine .touch h hr (by simp [TaskDraft.Keeps, d]) rfl hcheck rfl rfl hlocal.fit.terminal ?_
        (.inr (.draft_self rfl rfl)) (.inl rfl)
      intro i p hp
      cases hp
      exact ⟨hnew, ⟨rfl, rfl⟩, rfl, t.tick + 1, by omega, rfl⟩
    have hfollows : d.follows t.db .checkpoint := by simp [TaskDraft.follows, d, hr]
    have hrefers : d.Refers t.db (some attemptId) (some (World.uuid (t.tick + 1))) := by
      constructor
      · intro id hid
        cases hid
        exact ⟨a, ha, hof⟩
      · intro id hid
        cases hid
        exact ⟨_, Db.draft_report rfl, rfl, rfl⟩
    change Txn.wp _ _ _ (Tx.mk (t.db.draft d) (t.tick + 2))
    refine finishMutation_spec (d := d) h (Nat.le_add_right _ 2) hfits hfollows hcaller.actor
      hrefers rfl rfl hunused (by simp [TaskCommand.workRequest?]) (by simp) ?_
      (fun hx _ => .inl hx.exhausted)
    intro e task receipt hkind hw hsummary hinv
    exact .of_touch hinv (Nat.le_add_right _ 3) hfits.keeps hfollows rfl rfl hkind hw rfl rfl
  · intro _
    exact .inl (.inr ⟨_, r, hr, check_bump hfail hlocal.check rfl htitle hdescription rfl
      (World.now_le _) hstates hassigned⟩)

omit [World] in
/-- Ending a running attempt: the row keeps its origin and passes its check. -/
theorem AttemptRow.ended {a : AttemptRow} (a' : AttemptRow) (hcheck : a.check = true)
    (hrun : a.status = .running) (horigin : a'.origin = a.origin)
    (hstarted : a'.startedAt = a.startedAt) {now : ℕ}
    (hnow : now ≤ maxSafeInteger) (hended : a'.endedAt = some now)
    (hstopped : a'.stoppedAt = a.stoppedAt ∨ a'.stoppedAt = some now)
    (hstatus : a'.status ≠ .running) : a.Later a' ∧ a'.check = true := by
  rw [AttemptRow.check_iff] at hcheck
  obtain ⟨hgen, hstart, -, hstop, -⟩ := hcheck
  have hgeneration : a'.connectionGeneration = a.connectionGeneration :=
    congrArg AttemptOrigin.connectionGeneration horigin
  refine ⟨⟨horigin.symm, fun h => absurd h hstatus, fun _ => ?_⟩, AttemptRow.check_iff.mpr ?_⟩
  · exact (AttemptRow.barrier_iff a).mpr (.inl hrun)
  · refine ⟨by rw [hgeneration]; exact hgen, by rw [hstarted]; exact hstart, ?_, ?_,
      .inr ⟨hstatus, by simp [hended]⟩⟩
    · intro s hs
      rw [hended, Option.some.injEq] at hs
      omega
    · intro s hs
      rcases hstopped with heq | heq
      · exact hstop s (heq ▸ hs)
      · rw [heq, Option.some.injEq] at hs
        omega

theorem applyRelease_spec {taskId expectedVersion : ℕ} {attemptId : Uuid}
    {checkpoint : TaskCheckpoint} {nextState : TaskState} {completed : Bool}
    (h : DbInv t.db t.tick) (hcaller : caller.Sound t.db) (hvalid : checkpoint.validate = true)
    (hnext : nextState ≠ .inProgress ∧ nextState ≠ .cancelled)
    (hbegin : command.workRequest? = none) (hconfirm : command.confirms? = none)
    (hunused : t.db.mutations.get? (caller.workspace, command.operationId) = none) :
    Txn.wp (applyRelease caller command taskId attemptId expectedVersion checkpoint nextState
      completed) (Applied caller command t) (Excused t.db command) t := by
  unfold applyRelease liftStore
  simp only [Txn.wp_bind, Txn.wp_mapError, Store.wp_nowMillis]
  refine requireAttemptOwner_spec ?_
  rintro r a hr rfl ha hof hrun hcurrent
  have hlocal := h.tasks.locals _ _ r hr
  have hnew := h.tasks.report_unused (Nat.le_succ t.tick)
  have hlast := (hlocal.fit.current attemptId hcurrent).1
  obtain ⟨-, -, htitle, hdescription, -, -, hassigned⟩ := TaskRow.check_iff.mp hlocal.check
  refine insertCheckpointReport_spec hnew hvalid (World.now_le _) ⟨r, hr⟩ ⟨a, ha⟩ ?_
  let a' : AttemptRow := { a with
    status := if completed then .completed else .released
    stopEvidence := .released
    reason := if completed then none
      else if nextState = .blocked then some .blocked else some .paused
    endedAt := some (World.now t.tick)
    stoppedAt := some (World.now t.tick) }
  have hstatus : a'.status ≠ .running := by cases completed <;> simp [a']
  have hended := AttemptRow.ended a' (h.tasks.attempts _ a ha).check hrun rfl rfl
    (World.now_le t.tick) rfl (.inr rfl) hstatus
  have hbarrier : a'.barrier = false := by cases completed <;> simp [AttemptRow.barrier, a']
  have hwf : a'.wellFormed = true := by cases completed <;> simp [AttemptRow.wellFormed, a']
  have hun : a'.unconfirmed = false := by cases completed <;> simp [AttemptRow.unconfirmed, a']
  refine updateAttempt_spec ha (by simpa using hrun)
    (attemptOk_of_later h.tasks ha hended.1 hended.2 hstatus) ?_
  let d : TaskDraft :=
    { workspace := caller.workspace, taskId
      row := { r with
        state := nextState
        version := r.version + 1
        assignedAgentId := if nextState = .done then none else r.assignedAgentId
        currentAttemptId := none
        lastAttemptId := some attemptId
        lastCheckpointId := some (World.uuid (t.tick + 1))
        resultReportId := if nextState = .done then some (World.uuid (t.tick + 1))
          else r.resultReportId
        pauseReason := if nextState = .blocked then some .blocked
          else if nextState = .paused then some .paused else none
        updatedBy := caller.actorId
        updatedAt := World.now t.tick }
      attempt := some (attemptId, a')
      report := some (World.uuid (t.tick + 1),
        { workspace := caller.workspace, taskId, attemptId := some attemptId,
          actorId := caller.actorId, kind := if completed then .result else .checkpoint,
          body := .checkpoint checkpoint, createdAt := World.now t.tick }) }
  have hmatch : bodyMatches (if completed then .result else .checkpoint)
      (.checkpoint checkpoint) = true := by cases completed <;> rfl
  refine updateTask_spec hr rfl hcaller.workspace (fun hcheck => ?_) (fun hfail => ?_)
  · have hfits : d.Fits t.db (t.tick + 2) := by
      refine .settle h hr rfl hlast ha rfl hended.1 hstatus ⟨hended.2, hwf, rfl⟩ hcheck rfl rfl
        (fun _ => hbarrier) ?_ (.inr (.draft_self rfl hmatch)) ?_
      · intro i p hp
        cases hp
        exact ⟨hnew, ⟨rfl, rfl⟩, hmatch, t.tick + 1, by omega, rfl⟩
      · by_cases hdone : nextState = .done
        · right
          simp only [d, if_pos hdone]
          exact .draft_self rfl hmatch
        · exact .inl (if_neg hdone)
    have hfollows : d.follows t.db (if completed then .completed else .paused) := by
      cases completed <;> simp [TaskDraft.follows, d, hr]
    have hrefers : d.Refers t.db (some attemptId) (some (World.uuid (t.tick + 1))) := by
      constructor
      · intro id hid
        cases hid
        exact ⟨a', by simp [Db.draft_attempt (d := d) rfl],
          AttemptRow.isOf_of_origin hended.1.origin hof⟩
      · intro id hid
        cases hid
        exact ⟨_, Db.draft_report rfl, rfl, rfl⟩
    change Txn.wp _ _ _ (Tx.mk (t.db.draft d) (t.tick + 2))
    refine finishMutation_spec (d := d) h (Nat.le_add_right _ 2) hfits hfollows hcaller.actor
      hrefers rfl rfl hunused (by simp [hbegin]) ?_ ?_ (fun hx _ => .inl hx.exhausted)
    · intro hnoted
      cases completed <;> cases hnoted
    intro e task receipt hkind hw hsummary hinv
    exact .of_settle hinv (Nat.le_add_right _ 3) hfits.keeps hfollows ha rfl hended.1
      (by simp [hun]) rfl hkind hw hbegin (by simp [hconfirm])
  · intro _
    refine .inl (.inr ⟨_, r, hr, check_bump hfail hlocal.check rfl htitle hdescription rfl
      (World.now_le _) (by simp [hnext.1]) ?_⟩)
    intro hterminal
    have hdone : nextState = .done := by
      cases nextState <;> simp_all [TaskState.isTerminal]
    exact if_pos hdone

theorem applyInterrupt_spec {operationId : Uuid} {taskId expectedVersion : ℕ} {note : String}
    (h : DbInv t.db t.tick) (hcaller : caller.Sound t.db)
    (hcommand : command = .interrupt operationId taskId expectedVersion note)
    (hnote : validateHandoffNote note = true)
    (hunused : t.db.mutations.get? (caller.workspace, command.operationId) = none) :
    Txn.wp (applyInterrupt caller command taskId expectedVersion note)
      (Applied caller command t) (Excused t.db command) t := by
  subst hcommand
  have hsize : note.utf8ByteSize ≤ maxNoteBytes :=
    (validateNonemptyText_size hnote).trans (by decide)
  unfold applyInterrupt liftStore
  simp only [Txn.wp_bind, Txn.wp_mapError, Store.wp_nowMillis]
  refine taskStateVersion_spec (fun r hr => ?_) (.of_code (by decide))
  refine checkVersion_spec (fun hversion => ?_) (.of_code (by decide))
  refine requireTask_spec (fun _ => ?_) (.of_code (by decide))
  rw [Txn.wp_orFail]
  refine ⟨fun attemptId hcurrent => ?_, fun _ => .of_code (by decide)⟩
  subst hversion
  have hlocal := h.tasks.locals _ _ r hr
  have hnew := h.tasks.report_unused (Nat.le_succ t.tick)
  obtain ⟨hlast, a, ha, hrun⟩ := hlocal.fit.current attemptId hcurrent
  obtain ⟨b, hb, hof⟩ := hlocal.fit.last attemptId hlast
  rw [ha] at hb
  cases hb
  obtain ⟨-, -, htitle, hdescription, -, -, hassigned⟩ := TaskRow.check_iff.mp hlocal.check
  refine insertTextReport_spec hnew hsize (World.now_le _) ⟨r, hr⟩ ?_ ?_
  · intro i hi
    cases hi
    exact ⟨a, ha⟩
  let a' : AttemptRow := { a with
    status := .interrupted
    stopEvidence := .unknown
    reason := some .operatorInterrupt
    endedAt := some (World.now t.tick) }
  have hended := AttemptRow.ended a' (h.tasks.attempts _ a ha).check hrun rfl rfl
    (World.now_le t.tick) rfl (.inl rfl) (by simp [a'])
  refine updateAttempt_spec ha (by simpa using hrun)
    (attemptOk_of_later h.tasks ha hended.1 hended.2 (by simp)) ?_
  let d : TaskDraft :=
    { workspace := caller.workspace, taskId
      row := { r with
        state := .paused
        version := r.version + 1
        currentAttemptId := none
        lastAttemptId := some attemptId
        pauseReason := some .operatorInterrupt
        updatedBy := caller.actorId
        updatedAt := World.now t.tick }
      attempt := some (attemptId, a')
      report := some (World.uuid (t.tick + 1),
        { workspace := caller.workspace, taskId, attemptId := some attemptId,
          actorId := caller.actorId, kind := .note, body := .text note,
          createdAt := World.now t.tick }) }
  have hof' : a'.isOf caller.workspace taskId := AttemptRow.isOf_of_origin hended.1.origin hof
  refine updateTask_spec hr rfl hcaller.workspace (fun hcheck => ?_) (fun hfail => ?_)
  · have hfits : d.Fits t.db (t.tick + 2) := by
      refine .settle h hr rfl hlast ha rfl hended.1 (by simp [a']) ⟨hended.2, rfl, rfl⟩ hcheck rfl
        rfl (by simp [d, TaskState.isTerminal]) ?_ (.inl rfl) (.inl rfl)
      intro i p hp
      cases hp
      exact ⟨hnew, ⟨rfl, rfl⟩, rfl, t.tick + 1, by omega, rfl⟩
    have hfollows : d.follows t.db .interrupted := by simp [TaskDraft.follows, d, hr]
    have hrefers : d.Refers t.db (some attemptId) (some (World.uuid (t.tick + 1))) := by
      constructor
      · intro id hid
        cases hid
        exact ⟨a', by simp [Db.draft_attempt (d := d) rfl], hof'⟩
      · intro id hid
        cases hid
        exact ⟨_, Db.draft_report rfl, rfl, rfl⟩
    change Txn.wp _ _ _ (Tx.mk (t.db.draft d) (t.tick + 2))
    refine finishMutation_spec (d := d) h (Nat.le_add_right _ 2) hfits hfollows hcaller.actor
      hrefers rfl rfl hunused (by simp [TaskCommand.workRequest?]) (by simp) ?_
      (fun hx _ => .inl hx.exhausted)
    intro e task receipt hkind hw hsummary hinv
    exact .of_settle hinv (Nat.le_add_right _ 3) hfits.keeps hfollows ha rfl hended.1
      (fun _ => ⟨taskId, rfl, hof'⟩) rfl hkind hw rfl (by simp [TaskCommand.confirms?])
  · intro _
    exact .inl (.inr ⟨_, r, hr, check_bump hfail hlocal.check rfl htitle hdescription rfl
      (World.now_le _) (by simp) (by simp [TaskState.isTerminal])⟩)

/-- The attempt after its stop was confirmed. -/
def AttemptRow.confirm (a : AttemptRow) (now : ℕ) : AttemptRow :=
  { a with stopEvidence := .confirmed, stoppedAt := some now }

omit [World] in
theorem AttemptRow.confirm_spec {a : AttemptRow} (hcheck : a.check = true)
    (hun : a.unconfirmed = true) {now : ℕ} (hnow : now ≤ maxSafeInteger) :
    a.Later (a.confirm now) ∧ (a.confirm now).check = true ∧
      (a.confirm now).status ≠ .running ∧ (a.confirm now).barrier = false ∧
      (a.confirm now).wellFormed = true ∧ (a.confirm now).unconfirmed = false := by
  have hstatus : a.status = .interrupted := by
    simp only [AttemptRow.unconfirmed, Bool.and_eq_true, decide_eq_true_eq] at hun
    exact hun.1
  have hrun : (a.confirm now).status ≠ .running := by simp [AttemptRow.confirm, hstatus]
  have hold := AttemptRow.check_iff.mp hcheck
  refine ⟨⟨rfl, fun hx => hx, fun _ => (AttemptRow.barrier_iff a).mpr (.inr hun)⟩,
    AttemptRow.check_iff.mpr ⟨hold.1, hold.2.1, hold.2.2.1, ?_, ?_⟩, hrun, ?_, ?_, ?_⟩
  · intro s hs
    cases hs
    exact hnow
  · rcases hold.2.2.2.2 with hfalse | hended
    · exact absurd hfalse.1 hrun
    · exact .inr hended
  · simp [AttemptRow.barrier, AttemptRow.confirm, hstatus]
  · simp [AttemptRow.wellFormed, AttemptRow.confirm, hstatus]
  · simp [AttemptRow.unconfirmed, AttemptRow.confirm]

omit [World] in
/-- An attempt with an unconfirmed stop is the last one of its task, and none is current. -/
theorem TaskFit.unconfirmed {db : Db} {w : WorkspaceName} {taskId : ℕ} {r : TaskRow}
    (h : TaskFit db w taskId r) {id : Uuid} {a : AttemptRow} (ha : db.attempts.get? id = some a)
    (hof : a.isOf w taskId) (hun : a.unconfirmed = true) :
    r.lastAttemptId = some id ∧ r.currentAttemptId = none := by
  have hlast := h.live id a ha hof ((AttemptRow.barrier_iff a).mpr (.inr hun))
  refine ⟨hlast, ?_⟩
  -- A current attempt would be the last one and running, but the last one was interrupted.
  by_contra hne
  obtain ⟨c, hc⟩ := Option.ne_none_iff_exists'.mp hne
  obtain ⟨hc', b, hb, hrun⟩ := h.current c hc
  rw [hlast, Option.some.injEq] at hc'
  subst hc'
  rw [ha] at hb
  cases hb
  simp [AttemptRow.unconfirmed, hrun] at hun

theorem applyConfirmStopped_spec {operationId : Uuid} {taskId expectedVersion : ℕ}
    {attemptId : Uuid} {note : String} (h : DbInv t.db t.tick) (hcaller : caller.Sound t.db)
    (hcommand : command = .confirmStopped operationId taskId attemptId expectedVersion note)
    (hnote : validateHandoffNote note = true)
    (hunused : t.db.mutations.get? (caller.workspace, command.operationId) = none) :
    Txn.wp (applyConfirmStopped caller command taskId attemptId expectedVersion note)
      (Applied caller command t) (Excused t.db command) t := by
  subst hcommand
  have hsize : note.utf8ByteSize ≤ maxNoteBytes :=
    (validateNonemptyText_size hnote).trans (by decide)
  unfold applyConfirmStopped liftStore
  simp only [Txn.wp_bind, Txn.wp_mapError, Store.wp_nowMillis, Store.wp_read]
  refine taskStateVersion_spec (fun r hr => ?_) (.of_code (by decide))
  refine checkVersion_spec (fun hversion => ?_) (.of_code (by decide))
  refine requireTask_spec (fun hpending => ?_) (.of_code (by decide))
  subst hversion
  have hlocal := h.tasks.locals _ _ r hr
  have hnew := h.tasks.report_unused (Nat.le_succ t.tick)
  obtain ⟨-, -, htitle, hdescription, -, hstates, hassigned⟩ := TaskRow.check_iff.mp hlocal.check
  unfold attemptUnconfirmed at hpending
  cases ha : t.db.attempts.get? attemptId with
  | none => simp [ha] at hpending
  | some a =>
  simp only [ha, Option.any_some, Bool.and_eq_true, decide_eq_true_eq] at hpending
  obtain ⟨⟨⟨hw, ht⟩, hstatus⟩, hevidence⟩ := hpending
  have hof : a.isOf caller.workspace taskId := ⟨hw, ht⟩
  have hun : a.unconfirmed = true := by simp [AttemptRow.unconfirmed, hstatus, hevidence]
  obtain ⟨hlast, hcurrent⟩ := hlocal.fit.unconfirmed ha hof hun
  obtain ⟨hlater, hcheck', hrun', hbarrier, hwf, hun'⟩ :=
    AttemptRow.confirm_spec (h.tasks.attempts _ a ha).check hun (World.now_le t.tick)
  refine insertTextReport_spec hnew hsize (World.now_le _) ⟨r, hr⟩ ?_ ?_
  · intro i hi
    cases hi
    exact ⟨a, ha⟩
  refine updateAttempt_spec ha rfl (attemptOk_of_later h.tasks ha hlater hcheck' hrun') ?_
  let d : TaskDraft :=
    { workspace := caller.workspace, taskId
      row := { r with
        version := r.version + 1
        updatedBy := caller.actorId
        updatedAt := World.now t.tick }
      attempt := some (attemptId, a.confirm (World.now t.tick))
      report := some (World.uuid (t.tick + 1),
        { workspace := caller.workspace, taskId, attemptId := some attemptId,
          actorId := caller.actorId, kind := .note, body := .text note,
          createdAt := World.now t.tick }) }
  refine updateTask_spec hr rfl hcaller.workspace (fun hcheck => ?_) (fun hfail => ?_)
  · have hfits : d.Fits t.db (t.tick + 2) := by
      refine .settle h hr rfl hlast ha rfl hlater hrun' ⟨hcheck', hwf, rfl⟩ hcheck hcurrent hlast
        (fun _ => hbarrier) ?_ (.inl rfl) (.inl rfl)
      intro i p hp
      cases hp
      exact ⟨hnew, ⟨rfl, rfl⟩, rfl, t.tick + 1, by omega, rfl⟩
    have hfollows : d.follows t.db .stopped := by simp [TaskDraft.follows, d, hr]
    have hrefers : d.Refers t.db (some attemptId) (some (World.uuid (t.tick + 1))) := by
      constructor
      · intro id hid
        cases hid
        exact ⟨a.confirm (World.now t.tick), by simp [Db.draft_attempt (d := d) rfl], hof⟩
      · intro id hid
        cases hid
        exact ⟨_, Db.draft_report rfl, rfl, rfl⟩
    change Txn.wp _ _ _ (Tx.mk (t.db.draft d) (t.tick + 2))
    refine finishMutation_spec (d := d) h (Nat.le_add_right _ 2) hfits hfollows hcaller.actor
      hrefers rfl rfl hunused (by simp [TaskCommand.workRequest?]) (by simp) ?_
      (fun hx _ => .inl hx.exhausted)
    intro e task receipt hkind hw hsummary hinv
    refine .of_settle hinv (Nat.le_add_right _ 3) hfits.keeps hfollows ha rfl hlater ?_ rfl hkind hw
      rfl ?_
    · simp [hun']
    · intro i hi
      cases hi
      exact ⟨rfl, hun⟩
  · intro _
    exact .inl (.inr ⟨_, r, hr, check_bump hfail hlocal.check rfl htitle hdescription rfl
      (World.now_le _) hstates hassigned⟩)

omit [World] in
/-- A new barrier is the only one of its agent. -/
theorem attemptOk_barrier {db : Db} {id : Uuid} {a : AttemptRow} (h : attemptOk db id a = true)
    (hbar : a.barrier = true) {id' : Uuid} {b : AttemptRow} (hb : db.attempts.get? id' = some b)
    (hbar' : b.barrier = true) (hagent : b.agentId = a.agentId) : id' = id := by
  simp only [attemptOk, Bool.and_eq_true, List.all_eq_true] at h
  have := h.2 (id', b) ((Table.mem_toList _ _ _).mpr hb)
  simpa [hbar, hbar', hagent] using this

theorem applyBegin_spec {operationId : Uuid} {taskId expectedVersion : ℕ} {workRequestId : String}
    {lastCheckpointId : Option Uuid} {resumeNote : String} (h : DbInv t.db t.tick)
    (hcaller : caller.Sound t.db)
    (hcommand : command =
      .begin operationId taskId workRequestId expectedVersion lastCheckpointId resumeNote)
    (hnote : validateHandoffNote resumeNote = true)
    (hunused : t.db.mutations.get? (caller.workspace, command.operationId) = none) :
    Txn.wp (applyBegin caller command taskId workRequestId expectedVersion lastCheckpointId
      resumeNote) (Applied caller command t) (Excused t.db command) t := by
  subst hcommand
  have hsize : resumeNote.utf8ByteSize ≤ maxNoteBytes :=
    (validateNonemptyText_size hnote).trans (by decide)
  unfold applyBegin liftStore
  simp only [Txn.wp_bind, Txn.wp_mapError, Store.wp_nowMillis, Store.wp_newUuid]
  rw [Txn.wp_orFail]
  refine ⟨fun agentId hagent => ?_, fun _ => .of_code (by decide)⟩
  rw [Txn.wp_orFail]
  refine ⟨fun sessionId hsession => ?_, fun _ => .of_code (by decide)⟩
  refine requireTask_spec (fun hreservation => ?_) (.of_code (by decide))
  refine taskStateVersion_spec (fun r hr => ?_) (.of_code (by decide))
  refine checkVersion_spec (fun hversion => ?_) (.of_code (by decide))
  refine requireTask_spec (fun hstate => ?_) (.of_code (by decide))
  refine requireTask_spec (fun _ => ?_) (.of_code (by decide))
  refine requireTask_spec (fun hcheckpoint => ?_) (.of_code (by decide))
  subst hversion
  rw [decide_eq_true_eq] at hcheckpoint
  subst hcheckpoint
  obtain ⟨reservation, hres, htask, hwork⟩ : ∃ res, caller.reservation = some res ∧
      res.taskId = taskId ∧ res.workRequestId = workRequestId := by
    unfold reservationMatches at hreservation
    cases hc : caller.reservation with
    | none => simp [hc] at hreservation
    | some res => exact ⟨res, rfl, by simpa [hc] using hreservation⟩
  have hstop := hcaller.reserved reservation hres
  rw [htask] at hstop
  have hlocal := h.tasks.locals _ _ r hr
  have hcurrent : r.currentAttemptId = none := by
    simp only [Bool.and_eq_true, Option.isNone_iff_eq_none] at hstate
    exact hstate.2
  have hnew := h.tasks.report_unused (Nat.le_add_right t.tick 2)
  obtain ⟨-, -, htitle, hdescription, -, -, hassigned⟩ := TaskRow.check_iff.mp hlocal.check
  let a : AttemptRow :=
    { workspace := caller.workspace, taskId, agentId, credentialId := caller.credentialId,
      sessionId, connectionGeneration := caller.connectionGeneration, workRequestId,
      resumedFromCheckpointId := r.lastCheckpointId, status := .running, stopEvidence := .unknown,
      reason := none, startedAt := World.now (t.tick + 1), endedAt := none, stoppedAt := none }
  refine Store.wp_insertRow (fun hfree hok => ?_) (fun _ => .of_code (by decide))
  change attemptOk t.db (World.uuid t.tick) a = true at hok
  refine insertTextReport_spec hnew hsize (World.now_le _) ⟨r, hr⟩ ?_ ?_
  · intro i hi
    cases hi
    exact ⟨a, Table.get?_put_self _ _ _⟩
  let d : TaskDraft :=
    { workspace := caller.workspace, taskId
      row := { r with
        state := .inProgress
        version := r.version + 1
        currentAttemptId := some (World.uuid t.tick)
        lastAttemptId := some (World.uuid t.tick)
        pauseReason := none
        updatedBy := caller.actorId
        updatedAt := World.now (t.tick + 1) }
      attempt := some (World.uuid t.tick, a)
      report := some (World.uuid (t.tick + 2),
        { workspace := caller.workspace, taskId, attemptId := some (World.uuid t.tick),
          actorId := caller.actorId, kind := .note, body := .text resumeNote,
          createdAt := World.now (t.tick + 1) }) }
  have hself : (t.db.draft d).attempts.get? (World.uuid t.tick) = some a := by
    simp [Db.draft_attempt (d := d) rfl]
  refine updateTask_spec hr rfl hcaller.workspace (fun hcheck => ?_) (fun hfail => ?_)
  · have hcolumns : a.check = true ∧ ∃ c, t.db.credentials.get? caller.credentialId = some c := by
      simp only [attemptOk, Bool.and_eq_true, Table.contains_iff] at hok
      exact ⟨hok.1.1.1.1, hok.1.1.2⟩
    have hreport : ∀ i p, d.report = some (i, p) → t.db.reports.get? i = none ∧
        p.isOf d.workspace d.taskId ∧ bodyMatches p.kind p.body = true ∧ Drawn (t.tick + 3) i := by
      intro i p hp
      cases hp
      exact ⟨hnew, ⟨rfl, rfl⟩, rfl, t.tick + 2, by omega, rfl⟩
    have hfits : d.Fits t.db (t.tick + 3) :=
      { check := hcheck
        keeps := by simp [TaskDraft.Keeps, d]
        fit := .begin (a := a) rfl ⟨rfl, rfl⟩ rfl rfl rfl rfl
          fun i b hb hof => hlocal.fit.quiet hcurrent hstop hb hof
        checkpoint := hlocal.checkpoint.draft fun i p hp => (hreport i p hp).1
        result := hlocal.result.draft fun i p hp => (hreport i p hp).1
        id := h.tasks.ids _ _ r hr
        attempt := by
          intro i b hb
          cases hb
          refine ⟨⟨rfl, rfl⟩, hcolumns.1, rfl, hcolumns.2, ?_, ?_, ?_⟩
          · intro q hq
            obtain ⟨p, hp, -⟩ := hlocal.checkpoint q hq
            exact ⟨p, hp⟩
          · intro b hb
            exact absurd (hfree.symm.trans hb) (by simp)
          · intro hbar j c hc hbar' hsame
            exact attemptOk_barrier hok hbar hc hbar' hsame
        report := hreport }
    have hfollows : d.follows t.db .begun := by simp [TaskDraft.follows, d, hr]
    have hrefers : d.Refers t.db (some (World.uuid t.tick)) (some (World.uuid (t.tick + 2))) := by
      constructor
      · intro id hid
        cases hid
        exact ⟨a, hself, rfl, rfl⟩
      · intro id hid
        cases hid
        exact ⟨_, Db.draft_report rfl, rfl, rfl⟩
    change Txn.wp _ _ _ (Tx.mk (t.db.draft d) (t.tick + 3))
    refine finishMutation_spec (d := d) h (Nat.le_add_right _ 3) hfits hfollows hcaller.actor
      hrefers rfl rfl hunused ?_ (by simp) ?_ (fun hx _ => .inl hx.exhausted)
    · intro work hw
      cases hw
      exact ⟨World.uuid t.tick, a, rfl, hself, ⟨rfl, rfl⟩, rfl, rfl⟩
    intro e task receipt hkind hw hsummary hinv
    have hbegun : ∀ result : TaskApplyResult, result.mutation.task = task →
        Begun caller (.begin operationId taskId workRequestId r.version r.lastCheckpointId
          resumeNote) result (World.uuid t.tick) a := by
      intro result hresult
      exact ⟨rfl, rfl, rfl, hagent, hsession, rfl, rfl, ⟨reservation, hres, htask, hwork⟩,
        by rw [hresult, hsummary]; rfl⟩
    exact
      { inv := hinv
        tick := Nat.le_add_right _ 4
        grows := by
          refine .complete hfits.keeps hfollows ?_
          intro i b b' hb hget
          cases hb
          exact absurd (hfree.symm.trans hget) (by simp)
        kind := hkind
        workspace := hw
        attempts := by
          intro i b hb
          change (t.db.draft d).attempts.get? i = some b at hb
          rw [Db.draft_attempt (d := d) rfl] at hb
          split at hb
          · next hi =>
            subst hi
            cases hb
            exact .inr ⟨hfree, hbegun _ rfl⟩
          · exact .inl ⟨b, hb, .inl⟩
        begun := by
          intro work _
          exact ⟨World.uuid t.tick, a, hfree, hself, hbegun _ rfl⟩
        confirmed := by simp [TaskCommand.confirms?] }
  · intro _
    exact .inl (.inr ⟨_, r, hr, check_bump hfail hlocal.check rfl htitle hdescription rfl
      (World.now_le _) (by simp) (by simp [TaskState.isTerminal])⟩)

omit [World] in
theorem or_none {α : Type} {x y : Option α} (h : x.or y = none) : x = none ∧ y = none := by
  cases x with
  | none => exact ⟨rfl, h⟩
  | some a => cases h

/-- Every command that is applied for the first time does what `Applied` says. -/
theorem applyCommand_spec (h : DbInv t.db t.tick) (hcaller : caller.Sound t.db)
    (hvalid : validateCommand caller command = none)
    (hunused : t.db.mutations.get? (caller.workspace, command.operationId) = none) :
    Txn.wp (applyCommand caller command) (Applied caller command t) (Excused t.db command) t := by
  cases command with
  | create operationId title description => exact applyCreate_spec h hcaller rfl hvalid hunused
  | edit operationId taskId version title description =>
    exact applyEdit_spec h hcaller rfl hvalid hunused
  | assign operationId taskId version agentId => exact applyAssign_spec h hcaller rfl hunused
  | note operationId taskId text => exact applyNote_spec h hcaller rfl hvalid hunused
  | begin operationId taskId work version checkpoint note =>
    have hnote := ite_none_some (or_none hvalid).1
    rw [Bool.and_eq_true] at hnote
    exact applyBegin_spec h hcaller rfl hnote.1 hunused
  | checkpoint operationId taskId attemptId version checkpoint =>
    exact applyCheckpoint_spec h hcaller rfl (ite_none_some (or_none hvalid).1) hunused
  | pause operationId taskId attemptId version checkpoint blocked =>
    refine applyRelease_spec h hcaller (ite_none_some (or_none hvalid).1) ?_ rfl rfl hunused
    cases blocked <;> simp
  | complete operationId taskId attemptId version checkpoint =>
    exact applyRelease_spec h hcaller (ite_none_some (or_none hvalid).1) (by simp) rfl rfl hunused
  | cancel operationId taskId version note =>
    exact applyTerminal_spec h hcaller (.inl rfl) (ite_none_some hvalid) rfl rfl hunused
  | reopen operationId taskId version note =>
    exact applyTerminal_spec h hcaller (.inr rfl) (ite_none_some hvalid) rfl rfl hunused
  | interrupt operationId taskId version note =>
    exact applyInterrupt_spec h hcaller rfl (ite_none_some (or_none hvalid).1) hunused
  | confirmStopped operationId taskId attemptId version note =>
    exact applyConfirmStopped_spec h hcaller rfl (ite_none_some (or_none hvalid).1) hunused

/-- What a command answered from its receipt does: nothing. -/
structure Replayed (caller : CallerContext) (command : TaskCommand) (t : Tx)
    (result : TaskApplyResult) (receipt : MutationRow) : Prop where
  stored : t.db.mutations.get? (caller.workspace, command.operationId) = some receipt
  actor : receipt.actorId = caller.actorId
  same : receipt.requestHash = command
  version : result.mutation.appliedVersion = receipt.appliedVersion
  report : result.mutation.reportId = receipt.reportId
  operation : result.mutation.operationId = command.operationId
  event : lastTaskEvent t.db caller.workspace receipt.taskId = some result.event
  active : command.isBegin = true →
    ∃ id, receipt.attemptId = some id ∧ exactActiveOwnerAttempt t.db caller id = true
  task : ∃ r, t.db.tasks.get? (caller.workspace, receipt.taskId) = some r ∧
    result.mutation.task.summary = taskSummaryOf t.db caller.workspace receipt.taskId r

/-- Why a receipt does not answer a command: it is another's, or the attempt it began is over. -/
def ReceiptRefuses (caller : CallerContext) (command : TaskCommand) (receipt : MutationRow)
    (code : RouterErrorCode) : Prop :=
  (code = .requestConflict ∧
    ¬ (receipt.actorId = caller.actorId ∧ receipt.requestHash = command)) ∨
  (code = .taskStaleAttempt ∧ command.isBegin = true)

omit [World] in
theorem ReceiptRefuses.not_storageError {receipt : MutationRow} {code : RouterErrorCode}
    (h : ReceiptRefuses caller command receipt code) : code ≠ .storageError := by
  rcases h with ⟨rfl, -⟩ | ⟨rfl, -⟩ <;> simp

omit [World] in
theorem insertionSort_head {α : Type} (le : α → α → Prop) [DecidableRel le] {l : List α}
    (h : l ≠ []) : ∃ a, (l.insertionSort le).head? = some a := by
  cases hl : l.insertionSort le with
  | nil =>
    have := (List.perm_insertionSort le l).length_eq
    rw [hl] at this
    exact absurd (List.length_eq_zero_iff.mp this.symm) h
  | cons a _ => exact ⟨a, rfl⟩

theorem replayReceipt_spec {receipt : MutationRow} (h : DbInv t.db t.tick)
    (hreceipt : t.db.mutations.get? (caller.workspace, command.operationId) = some receipt) :
    Txn.wp (replayReceipt caller command receipt)
      (fun result t' => t' = t ∧ Replayed caller command t result receipt)
      (fun e => ReceiptRefuses caller command receipt e.code) t := by
  obtain ⟨⟨r, hr, -⟩, -, -⟩ := h.tasks.receipts _ receipt hreceipt
  have hlocal := h.tasks.locals _ _ r hr
  obtain ⟨task, htask, hsummary⟩ := getTaskDetail_of_loads hr hlocal.loads
  obtain ⟨e₀, -, hlast, -⟩ := hlocal.journal.latest
  have hne : taskEvents t.db caller.workspace receipt.taskId ≠ [] := by
    intro hnil
    simp [hnil] at hlast
  obtain ⟨e, he⟩ := insertionSort_head (fun a b : WorkspaceEvent => b.seq ≤ a.seq) hne
  unfold replayReceipt liftStore requireTask
  simp only [Txn.wp_bind, Txn.wp_mapError, Store.wp_read, Txn.wp_require, Bool.and_eq_true,
    decide_eq_true_eq]
  refine ⟨fun hsame => ⟨fun hactive => ?_, fun hended => ?_⟩, fun hdiffers => ?_⟩
  · refine wp_storeQuery htask ?_
    simp only [Txn.orFail, Txn.wp_pure, lastTaskEvent, he]
    refine commit_spec h.tasks ⟨rfl, ?_⟩
    exact
      { stored := hreceipt
        actor := hsame.1
        same := hsame.2
        version := rfl
        report := rfl
        operation := rfl
        event := he
        active := by
          intro hbegin
          rw [hbegin] at hactive
          cases hid : receipt.attemptId with
          | none => simp [hid] at hactive
          | some id => exact ⟨id, rfl, by simpa [hid] using hactive⟩
        task := ⟨r, hr, hsummary⟩ }
  · refine .inr ⟨rfl, ?_⟩
    by_contra hbegin
    simp [hbegin] at hended
  · exact .inl ⟨rfl, by simpa using hdiffers⟩

/-- `apply_task` applies a command once and answers it from its receipt afterwards. -/
theorem applyTask_spec (h : DbInv t.db t.tick) (hcaller : caller.Sound t.db) :
    Txn.wp (applyTask caller command)
      (fun result t' => (t.db.mutations.get? (caller.workspace, command.operationId) = none ∧
          Applied caller command t result t') ∨
        ∃ receipt, t' = t ∧ Replayed caller command t result receipt)
      (Excused t.db command) t := by
  unfold applyTask
  cases hvalid : validateCommand caller command with
  | some code =>
    simp only [failTask, Txn.wp_fail]
    refine .of_code ?_
    rintro rfl
    cases command <;> simp [validateCommand, Option.or_eq_some_iff] at hvalid
  | none =>
    simp only [Txn.wp_bind, Store.wp_read]
    cases hreceipt : t.db.mutations.get? (caller.workspace, command.operationId) with
    | some receipt =>
      refine Txn.wp_mono (replayReceipt_spec h hreceipt) (fun result t' hr => ?_) (fun e he => ?_)
      · exact .inr ⟨receipt, hr.1, hr.2⟩
      · exact fun hcode => absurd hcode he.not_storageError
    | none =>
      simp only [Txn.wp_bind, Txn.wp_pure]
      refine Txn.wp_mono (applyCommand_spec h hcaller hvalid hreceipt) (fun result t' hr => ?_)
        (fun e he => he)
      unfold liftStore
      rw [Txn.wp_mapError]
      exact commit_spec hr.inv.tasks (.inl ⟨trivial, hr⟩)

end

end SessionRouter
