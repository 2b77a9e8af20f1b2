import SessionRouter.Router.Executions
import SessionRouter.Store.Moves

/-!
The log of a task determines the task: its events announce the versions of the row one by one, the
last event shows the row, and a command that expects another version changes nothing.
-/

namespace SessionRouter

/-- The version of a task, zero before it exists. -/
def versionOf (db : Db) (w : WorkspaceName) (t : ℕ) : ℕ :=
  ((db.tasks.get? (w, t)).map TaskRow.version).getD 0

/-- A task row stays with its announced versions, or takes the next version and announces it. -/
def Logged (db db' : Db) : Prop :=
  ∀ w t, (db'.tasks.get? (w, t) = db.tasks.get? (w, t) ∧
      announcedVersions (taskEvents db' w t) = announcedVersions (taskEvents db w t)) ∨
    ∃ r, db'.tasks.get? (w, t) = some r ∧ r.version = versionOf db w t + 1 ∧
      announcedVersions (taskEvents db' w t) = announcedVersions (taskEvents db w t) ++ [r.version]

/-- The version a command expects its task to have. -/
def TaskCommand.expectedVersion? : TaskCommand → Option ℕ
  | create .. | note .. => none
  | edit _ _ version .. | assign _ _ version .. | begin _ _ _ version ..
  | checkpoint _ _ _ version .. | pause _ _ _ version .. | complete _ _ _ version ..
  | cancel _ _ version .. | reopen _ _ version .. | interrupt _ _ version ..
  | confirmStopped _ _ _ version .. => some version

/-- The task an external command names and the version it expects. -/
def ExternalCommand.fence? : ExternalCommand → Option (ℕ × ℕ)
  | importTask .. => none
  | link _ taskId version .. | publish _ taskId version .. => some (taskId, version)

section

variable [World] {db db' : Db} {tick tick' : ℕ} {w : WorkspaceName} {t : ℕ}

theorem DbInv.announced (h : DbInv db tick) :
    announcedVersions (taskEvents db w t) = List.range' 1 (versionOf db w t) := by
  unfold versionOf
  cases hr : db.tasks.get? (w, t) with
  | none =>
    rw [h.tasks.taskEvents_nil hr]
    rfl
  | some r => exact (h.tasks.locals w t r hr).journal.versions

/-- The events a transaction appends to the log of a task bound the versions it takes. -/
theorem Extends.versionOf_le {es : List WorkspaceEvent} (hgrows : Extends db db' es)
    (h : DbInv db tick) (h' : DbInv db' tick') :
    versionOf db' w t ≤ versionOf db w t + (es.filter fun e => e.kind = .task).length := by
  have hevents : taskEvents db' w t = taskEvents db w t ++
      es.filter fun e => e.workspace = w && e.taskId = some t && e.kind = .task := by
    unfold taskEvents
    rw [hgrows.events, List.filter_append]
  have hlength : (announcedVersions (taskEvents db' w t)).length =
      (announcedVersions (taskEvents db w t)).length + (announcedVersions
        (es.filter fun e => e.workspace = w && e.taskId = some t && e.kind = .task)).length := by
    rw [hevents]
    simp only [announcedVersions, List.filterMap_append, List.filter_append, List.map_append,
      List.length_append]
  have hshort : ∀ l : List WorkspaceEvent, (announcedVersions l).length ≤ l.length := by
    intro l
    unfold announcedVersions
    rw [List.length_map]
    exact (List.length_filter_le _ _).trans (List.length_filterMap_le _ _)
  have hsub : (es.filter fun e => e.workspace = w && e.taskId = some t && e.kind = .task).length ≤
      (es.filter fun e => e.kind = .task).length := by
    refine List.Sublist.length_le (List.monotone_filter_right es ?_)
    intro e he
    rw [Bool.and_eq_true] at he
    exact he.2
  rw [h.announced, h'.announced, List.length_range', List.length_range'] at hlength
  have := hshort (es.filter fun e => e.workspace = w && e.taskId = some t && e.kind = .task)
  omega

omit [World] in
theorem Extends.versionOf_ge {es : List WorkspaceEvent} (hgrows : Extends db db' es) :
    versionOf db w t ≤ versionOf db' w t := by
  unfold versionOf
  cases hr : db.tasks.get? (w, t) with
  | none => exact Nat.zero_le _
  | some r =>
    obtain ⟨r', hr', hle, -⟩ := hgrows.tasks (w, t) r hr
    rw [hr']
    exact hle

/-- A row is written only together with its next version. -/
theorem Extends.logged {es : List WorkspaceEvent} (hgrows : Extends db db' es) (h : DbInv db tick)
    (h' : DbInv db' tick') (hbound : ∀ w t, versionOf db' w t ≤ versionOf db w t + 1) :
    Logged db db' := by
  intro w t
  have hge := hgrows.versionOf_ge (w := w) (t := t)
  have hle := hbound w t
  rw [h.announced, h'.announced]
  rcases Nat.lt_or_ge (versionOf db w t) (versionOf db' w t) with hlt | hge'
  · have hnext : versionOf db' w t = versionOf db w t + 1 := by omega
    have hsome : ∃ r, db'.tasks.get? (w, t) = some r ∧ r.version = versionOf db' w t := by
      unfold versionOf at hlt ⊢
      cases hr : db'.tasks.get? (w, t) with
      | none => simp [hr] at hlt
      | some r => exact ⟨r, rfl, rfl⟩
    obtain ⟨r, hr, hversion⟩ := hsome
    refine .inr ⟨r, hr, hversion.trans hnext, ?_⟩
    rw [hversion, hnext, List.range'_concat, Nat.one_mul, Nat.add_comm 1]
  · have hsame : versionOf db' w t = versionOf db w t := by omega
    refine .inl ⟨?_, by rw [hsame]⟩
    cases hr : db.tasks.get? (w, t) with
    | none =>
      -- A stored row has a positive version, so no row came into being.
      cases hr' : db'.tasks.get? (w, t) with
      | none => rfl
      | some r' =>
        have hpos := (TaskRow.check_iff.mp (h'.tasks.locals w t r' hr').check).2.1.1
        simp only [versionOf, hr, hr', Option.map_some, Option.getD_some, Option.map_none,
          Option.getD_none] at hsame
        omega
    | some r =>
      obtain ⟨r', hr', -, heq⟩ := hgrows.tasks (w, t) r hr
      simp only [versionOf, hr, hr', Option.map_some, Option.getD_some] at hsame
      rw [hr', heq hsame]

theorem Extends.logged_one {es : List WorkspaceEvent} (hgrows : Extends db db' es)
    (h : DbInv db tick) (h' : DbInv db' tick')
    (hone : (es.filter fun e => e.kind = .task).length ≤ 1) : Logged db db' :=
  hgrows.logged h h' fun w t => by
    have := hgrows.versionOf_le (w := w) (t := t) h h'
    omega

omit [World] in
theorem optional_length_le_one {e : Option WorkspaceEvent} :
    (e.toList.filter fun e => e.kind = .task).length ≤ 1 := by
  refine (List.length_filter_le _ _).trans ?_
  cases e <;> simp

theorem Completed.logged {t t' : Tx} {workspace : WorkspaceName}
    {taskEvent : Option WorkspaceEvent} {event : WorkspaceEvent}
    (h : Completed t t' workspace taskEvent event) (hinv : DbInv t.db t.tick) :
    Logged t.db t'.db := by
  refine h.advance.grows.logged_one hinv h.advance.inv ?_
  rw [List.filter_append]
  simpa [h.operation.1] using optional_length_le_one

end

section recovery

/-- The versions grow by one at the listed tasks, at most, and by none elsewhere. -/
def BumpsAt (keys : List (WorkspaceName × ℕ)) (db db' : Db) : Prop :=
  ∀ w t, versionOf db' w t ≤ versionOf db w t + keys.count (w, t)

theorem BumpsAt.of_tasks {db db' : Db} (keys : List (WorkspaceName × ℕ))
    (h : db'.tasks = db.tasks) : BumpsAt keys db db' := by
  intro w t
  unfold versionOf
  rw [h]
  omega

theorem BumpsAt.trans {keys keys' : List (WorkspaceName × ℕ)} {a b c : Db} (h : BumpsAt keys a b)
    (h' : BumpsAt keys' b c) : BumpsAt (keys ++ keys') a c := by
  intro w t
  have := h w t
  have := h' w t
  rw [List.count_append]
  omega

theorem keeps_tasks_journal : BlindJournal (Keeps Db.tasks) := ⟨fun _ _ => rfl, fun _ _ => rfl⟩

theorem updateTask_bumps {key : WorkspaceName × ℕ} {p : TaskRow → Bool} {f : TaskRow → TaskRow}
    (hf : ∀ r, (f r).version = r.version + 1) :
    (updateTask key p f).Moves (OnDb (BumpsAt [key])) := by
  refine .of_wp fun s => Store.wp_updateRow (fun _ => ⟨.of_tasks _ rfl, le_rfl⟩)
    (fun r hr _ _ => ⟨fun w t => ?_, le_rfl⟩) fun _ _ _ _ => trivial
  simp only [versionOf, setTasks, Table.get?_put]
  by_cases hkey : (w, t) = key
  · subst hkey
    simp [hr, hf]
  · simp [hkey]

variable [World]

/-- Recovering an attempt bumps the version of its task. -/
theorem recoverAttempt_bumps (now : ℕ) (x : Uuid × AttemptRow) :
    (recoverAttempt now x).Moves (OnDb (BumpsAt [(x.2.workspace, x.2.taskId)])) := by
  have hrest : ∀ _ : ℕ, ((storeQuery fun db => getTaskDetail db x.2.workspace x.2.taskId) >>=
      fun task => Txn.orFail .invalidData task >>= fun task =>
      appendTaskEvent x.2.workspace "system:router" x.2.taskId .interrupted (some x.1) none
        task.summary).Moves (OnDb (Keeps Db.tasks)) := fun _ =>
    .bind (storeQuery_moves _) fun _ => .bind (.orFail _ _) fun _ =>
      appendTaskEvent_moves keeps_tasks_journal _ _ _ _ _ _ _
  have hattempt : ∀ p f, (updateAttempt x.1 p f).Moves (OnDb (Keeps Db.tasks)) :=
    fun _ _ => Store.updateRow_moves fun _ _ => rfl
  refine .andThen (V := OnDb (BumpsAt [(x.2.workspace, x.2.taskId)])) (hattempt _ _)
    (fun _ => .andThen (updateTask_bumps fun _ => rfl) hrest ?_) ?_
  · intro a b c hab hbc
    exact ⟨by simpa using hab.db.trans (BumpsAt.of_tasks [] hbc.db), hab.tick.trans hbc.tick⟩
  · intro a b c hab hbc
    exact ⟨by simpa using (BumpsAt.of_tasks [] hab.db).trans hbc.db, hab.tick.trans hbc.tick⟩

theorem recoverAttempts_bumps (now : ℕ) (l : List (Uuid × AttemptRow)) :
    (Txn.each (recoverAttempt now) l).Moves
      (OnDb (BumpsAt (l.map fun x => (x.2.workspace, x.2.taskId)))) := by
  induction l with
  | nil => exact .of_wp fun _ => ⟨.of_tasks _ rfl, le_rfl⟩
  | cons x l ih =>
    refine .andThen (recoverAttempt_bumps now x) (fun _ => .andThen ih (fun _ => .pure (T := Eq) _)
      fun hab hbc => hbc ▸ hab) fun hab hbc => ⟨hab.db.trans hbc.db, hab.tick.trans hbc.tick⟩

theorem recoverRunningAttempts_bumps : recoverRunningAttempts.Moves (OnDb fun db db' =>
    BumpsAt ((runningAttempts db).map fun x => (x.2.workspace, x.2.taskId)) db db') :=
  fun t _ _ h => by
    refine Txn.wp_ok (Q := fun _ t' => OnDb (fun db db' => BumpsAt
      ((runningAttempts db).map fun x => (x.2.workspace, x.2.taskId)) db db') t t')
      (E := fun _ => True) ?_ h
    unfold recoverRunningAttempts
    simp only [Txn.wp_bind, Store.wp_nowMillis, Store.wp_read, Txn.wp_pure]
    exact Txn.wp_mono (recoverAttempts_bumps _ _).wp
      (fun _ _ hbumps => ⟨hbumps.db, (Nat.le_succ _).trans hbumps.tick⟩) fun _ _ => trivial

/-- The running attempts of a sound database belong to different tasks. -/
theorem runningAttempts_nodup {db : Db} {tick : ℕ} (h : DbInv db tick) :
    ((runningAttempts db).map fun x => (x.2.workspace, x.2.taskId)).Nodup := by
  have hrow : ∀ x ∈ runningAttempts db, db.attempts.get? x.1 = some x.2 ∧
      ∃ r, db.tasks.get? (x.2.workspace, x.2.taskId) = some r ∧ r.currentAttemptId = some x.1 := by
    rintro ⟨id, a⟩ hmem
    obtain ⟨ha, hrun⟩ := (Table.mem_ofFilter _ _ _ _).mp hmem
    obtain ⟨r, hr⟩ := (h.tasks.attempts id a ha).task
    exact ⟨ha, r, hr, (h.tasks.locals _ _ r hr).fit.running id a ha ⟨rfl, rfl⟩
      (of_decide_eq_true hrun)⟩
  have hkeys : ((runningAttempts db).map Prod.fst).Nodup :=
    db.attempts.nodup_toList_keys.sublist (List.filter_sublist.map _)
  refine List.Nodup.map_on (fun x hx y hy hkey => ?_) (List.Nodup.of_map _ hkeys)
  obtain ⟨hx, r, hr, hid⟩ := hrow x hx
  obtain ⟨hy, r', hr', hid'⟩ := hrow y hy
  rw [hkey, hr'] at hr
  obtain rfl := Option.some.inj hr
  have hfst : x.1 = y.1 := Option.some.inj (hid.symm.trans hid')
  rw [hfst, hy] at hx
  exact Prod.ext hfst (Option.some.inj hx).symm

/-- Recovery bumps the version of a task at most once. -/
theorem recover_bumps {t t' : Tx} (h : DbInv t.db t.tick) (hok : recover t = .ok ((), t'))
    {w : WorkspaceName} {taskId : ℕ} : versionOf t'.db w taskId ≤ versionOf t.db w taskId + 1 := by
  have hrequests : recoverUnfinishedRequests.Moves
      (OnDb (Keeps fun db => (db.tasks, db.attempts))) :=
    recoverUnfinishedRequests_moves ⟨fun _ _ => rfl, fun _ _ => rfl⟩
  have hoperations : (recoverExternalOperations >>= fun _ => commit).Moves
      (OnDb (Keeps Db.tasks)) := by
    refine .bind (.bind Store.nowMillis_moves fun now => .bind (Store.read_moves _) fun _ =>
      .bind (.each (fun operation => ?_) _) fun _ => .pure _) fun _ => commit_moves
    exact .bind (Store.updateRow_moves fun _ _ => rfl) fun _ =>
      appendEventInTransaction_moves keeps_tasks_journal _
  have hbumps : recover.Moves (OnDb fun db db' =>
      BumpsAt ((runningAttempts db).map fun x => (x.2.workspace, x.2.taskId)) db db') := by
    refine .andThen hrequests (fun _ => .andThen recoverRunningAttempts_bumps
      (fun _ => hoperations) (T := OnDb fun db db' =>
        BumpsAt ((runningAttempts db).map fun x => (x.2.workspace, x.2.taskId)) db db') ?_) ?_
    · intro a b c hab hbc
      exact ⟨by simpa using hab.db.trans (BumpsAt.of_tasks [] hbc.db), hab.tick.trans hbc.tick⟩
    · intro a b c hab hbc
      obtain ⟨htasks, hattempts⟩ := Prod.mk.inj hab.db
      have hrunning : runningAttempts b.db = runningAttempts a.db := by
        unfold runningAttempts
        rw [hattempts]
      have hbumped := (BumpsAt.of_tasks [] htasks).trans hbc.db
      rw [hrunning, List.nil_append] at hbumped
      exact ⟨hbumped, hab.tick.trans hbc.tick⟩
  have hle := (hbumps t () t' hok).db w taskId
  have hcount := List.nodup_iff_count_le_one.mp (runningAttempts_nodup h) (w, taskId)
  omega

end recovery

section operations

variable [World] {t t' : Tx}

/-- The operations that write task rows, with the callers the router runs them for. -/
inductive TaskOperation (db : Db) : {ε α : Type} → Store ε α → Prop
  | apply (caller : CallerContext) (command : TaskCommand) (hsound : caller.Sound db) :
      TaskOperation db (applyTask caller command)
  | interrupt (attemptId : Uuid) (reason : PauseReason) :
      TaskOperation db (interruptAttempt attemptId reason)
  | stopped (workspace : WorkspaceName) (taskId : ℕ) (attemptId endedSessionId : Uuid)
      (agentId : String) (credentialId : Uuid) (reason : PauseReason)
      (hactor : ValidActor agentId) :
      TaskOperation db (recordExecutionStopped workspace taskId attemptId endedSessionId agentId
        credentialId reason)
  | read (prepared : PreparedExternalOperation) (issue : ExternalIssue) :
      TaskOperation db (completeExternalRead prepared issue)
  | mutation (prepared : PreparedExternalOperation) (mutation : ExternalMutation) :
      TaskOperation db (completeExternalMutation prepared mutation)
  | error (prepared : PreparedExternalOperation) (error : IntegrationClientError) :
      TaskOperation db (completeExternalError prepared error)
  | failed (prepared : PreparedExternalOperation) (error : String) :
      TaskOperation db (terminalExternalError prepared .failed error)
  | resolution (prepared : PreparedExternalResolution) (mutation : ExternalMutation) :
      TaskOperation db (completeAppliedResolution prepared mutation)
  | recover : TaskOperation db recover

omit [World] in
theorem Logged.refl (db : Db) : Logged db db := fun _ _ => .inl ⟨rfl, rfl⟩

/-- Every operation takes the next version of a row it writes and announces it once. -/
theorem TaskOperation.logged {ε α : Type} {x : Store ε α} {a : α} (h : TaskOperation t.db x)
    (hinv : DbInv t.db t.tick) (hok : x t = .ok (a, t')) : Logged t.db t'.db := by
  cases h with
  | apply caller command hsound =>
    rcases Txn.wp_ok (applyTask_spec hinv hsound) hok with ⟨-, happlied⟩ | ⟨_, rfl, -⟩
    · exact happlied.grows.logged_one hinv happlied.inv
        ((List.length_filter_le _ _).trans (by simp))
    · exact .refl _
  | interrupt =>
    have hadv := (Txn.wp_ok (interruptAttempt_spec hinv) hok).1
    exact hadv.grows.logged_one hinv hadv.inv optional_length_le_one
  | stopped _ _ _ _ _ _ _ hactor =>
    have hadv := (Txn.wp_ok (recordExecutionStopped_spec hinv hactor) hok).1
    exact hadv.grows.logged_one hinv hadv.inv optional_length_le_one
  | read => exact (Txn.wp_ok (completeExternalRead_advance hinv) hok).logged hinv
  | mutation => exact (Txn.wp_ok (completeExternalMutation_advance hinv) hok).logged hinv
  | error => exact (Txn.wp_ok (completeExternalError_advance hinv) hok).logged hinv
  | failed =>
    exact (Txn.wp_ok (terminalExternalError_advance hinv (by decide)) hok).logged hinv
  | resolution => exact (Txn.wp_ok (completeAppliedResolution_advance hinv) hok).logged hinv
  | recover =>
    obtain ⟨⟨es, hadv⟩, -⟩ := Txn.wp_ok (recover_spec hinv) hok
    exact hadv.grows.logged hinv hadv.inv fun w taskId => recover_bumps hinv hok

end operations

section fences

variable [World] {t : Tx} {w : WorkspaceName} {taskId version : ℕ}

/-- The task has another version than the one expected, or does not exist. -/
def Outdated (db : Db) (w : WorkspaceName) (taskId version : ℕ) : Prop :=
  ∀ r, db.tasks.get? (w, taskId) = some r → r.version ≠ version

omit [World] in
theorem fence_fails {α : Type} {operationId : Uuid} {k : TaskRow → Store TaskError α}
    {Q : α → Tx → Prop} (h : Outdated t.db w taskId version) :
    Txn.wp (taskStateVersion w taskId operationId >>= fun row =>
      checkVersion row.version version operationId >>= fun _ => k row) Q (fun _ => True) t := by
  unfold taskStateVersion checkVersion
  simp only [Txn.wp_bind, Store.wp_read]
  rw [Txn.wp_orFail]
  refine ⟨fun r hr => ?_, fun _ => trivial⟩
  rw [Txn.wp_require]
  exact ⟨fun heq => absurd (of_decide_eq_true heq) (h r hr), fun _ => trivial⟩

theorem applyCommand_fenced {caller : CallerContext} {command : TaskCommand}
    {Q : TaskApplyResult → Tx → Prop} (hid : command.taskId? = some taskId)
    (hversion : command.expectedVersion? = some version)
    (h : Outdated t.db caller.workspace taskId version) :
    Txn.wp (applyCommand caller command) Q (fun _ => True) t := by
  have howner : ∀ {α : Type} {attemptId operationId : Uuid} {k : Unit → Store TaskError α}
      {Q : α → Tx → Prop}, Txn.wp (requireAttemptOwner caller taskId attemptId version operationId
        >>= k) Q (fun _ => True) t := by
    intro α attemptId operationId k Q
    rw [Txn.wp_bind]
    exact fence_fails h
  cases command <;> cases hid <;> cases hversion
  case begin =>
    unfold applyCommand applyBegin
    simp only [Txn.wp_bind (x := Txn.orFail _ _), Txn.wp_bind (x := requireTask _ _ _)]
    rw [Txn.wp_orFail]
    refine ⟨fun _ _ => ?_, fun _ => trivial⟩
    rw [Txn.wp_orFail]
    refine ⟨fun _ _ => ?_, fun _ => trivial⟩
    unfold requireTask
    rw [Txn.wp_require]
    exact ⟨fun _ => fence_fails h, fun _ => trivial⟩
  case checkpoint => exact howner
  case pause => exact howner
  case complete => exact howner
  all_goals exact fence_fails h

omit [World] in
/-- A transaction that writes nothing, or fails, leaves the database as it was. -/
theorem transaction_unchanged {ε α : Type} {x : Store ε α} {store : RouterStore}
    (h : Txn.wp x (fun _ t' => t'.db = store.db) (fun _ => True) store.tx) :
    (transaction x store).2.db = store.db := by
  unfold Txn.wp at h
  unfold transaction
  cases hx : x { db := store.db, tick := store.tick } with
  | error e => rfl
  | ok r =>
    rw [show x store.tx = _ from hx] at h
    exact h

/-- A command that expects another version changes nothing. -/
theorem applyTask_fenced {caller : CallerContext} {command : TaskCommand} {store : RouterStore}
    (hid : command.taskId? = some taskId) (hversion : command.expectedVersion? = some version)
    (h : Outdated store.db caller.workspace taskId version) :
    (transaction (applyTask caller command) store).2.db = store.db := by
  have hreplay : ∀ receipt, (replayReceipt caller command receipt).Moves (OnDb (Keeps id)) :=
    fun _ => .bind (.require _ _) fun _ => .bind (.read _) fun _ => .bind (.require _ _) fun _ =>
      .bind (.mapError (storeQuery_moves _) _) fun _ => .bind (.orFail _ _) fun _ =>
      .bind (.read _) fun _ => .bind (.orFail _ _) fun _ =>
      .bind (.mapError commit_moves _) fun _ => .pure _
  refine transaction_unchanged ?_
  unfold applyTask
  cases validateCommand caller command with
  | some code => exact trivial
  | none =>
    simp only [Txn.wp_bind, Store.wp_read]
    cases store.tx.db.mutations.get? (caller.workspace, command.operationId) with
    | some receipt =>
      exact Txn.wp_mono (hreplay receipt).wp (fun _ _ hkept => hkept.db) fun _ _ => trivial
    | none =>
      rw [Txn.wp_bind]
      exact Txn.wp_mono (applyCommand_fenced (Q := fun _ _ => False) hid hversion h)
        (fun _ _ hfalse => hfalse.elim) fun _ _ => trivial

theorem prepareExternalOperation_fenced {caller : CallerContext} {active : ActiveIntegration}
    {command : ExternalCommand} {store : RouterStore}
    (hfence : command.fence? = some (taskId, version)) (hinv : DbInv store.db store.tick)
    (h : Outdated store.db caller.workspace taskId version) :
    (transaction (prepareExternalOperation caller active command) store).2.db = store.db := by
  have hversion : ∀ {Q : TaskDetail → Tx → Prop}, Txn.wp (requireTaskVersion caller.workspace taskId
      version) Q (fun _ => True) store.tx := by
    intro Q
    obtain ⟨found, hfound, hrow⟩ := getTaskDetail_spec hinv.tasks caller.workspace taskId
    unfold requireTaskVersion liftCode
    simp only [Txn.wp_bind, Txn.wp_mapError]
    refine wp_storeQuery hfound ?_
    rw [Txn.wp_orFail]
    refine ⟨fun detail hdetail => ?_, fun _ => trivial⟩
    obtain ⟨r, hr, hsummary⟩ := hrow detail hdetail
    rw [Txn.wp_require]
    refine ⟨fun heq => absurd ?_ (h r hr), fun _ => trivial⟩
    have hversion := of_decide_eq_true heq
    rwa [hsummary] at hversion
  refine transaction_unchanged ?_
  unfold prepareExternalOperation
  rw [Txn.wp_bind, Store.wp_read]
  split
  · exact trivial
  · rfl
  · simp only [Txn.wp_bind]
    rw [Txn.wp_require]
    refine ⟨fun _ => ?_, fun _ => trivial⟩
    unfold operationPayload
    cases command with
    | importTask => cases hfence
    | link _ _ _ provider externalId replace =>
      cases hfence
      rw [Txn.wp_bind]
      exact hversion
    | publish _ _ _ provider kind reportId =>
      cases hfence
      rw [Txn.wp_bind, Txn.wp_require]
      refine ⟨fun _ => ?_, fun _ => trivial⟩
      rw [Txn.wp_bind]
      exact hversion

theorem taskRequest_fenced {id : Uuid} {generation : ℕ} {requestId : String}
    {message : Option String} {timeoutMs : Option ℕ} {s : RouterState}
    (hinv : DbInv s.db s.tick) (h : Outdated s.db w taskId version) :
    (Router.taskRequest id generation requestId w taskId version message timeoutMs s).2.db =
      s.db := by
  obtain ⟨found, hfound, hrow⟩ := getTaskDetail_spec hinv.tasks w taskId
  have hwp : Actor.wp (Router.taskRequest id generation requestId w taskId version message
      timeoutMs) (fun _ s' => s'.db = s.db) (fun _ s' => s'.db = s.db) s := by
    unfold Router.taskRequest Router.requireWorkspaceMatch
    simp only [Actor.wp_bind]
    rw [Router.wp_ask]
    refine ⟨fun _ _ => ?_, fun _ _ => rfl⟩
    rw [Actor.wp_require]
    refine ⟨fun _ => ?_, fun _ => rfl⟩
    rw [Router.wp_lift]
    refine Router.wp_query hfound ?_
    rw [Actor.wp_orFail]
    refine ⟨fun detail hdetail => ?_, fun _ => rfl⟩
    obtain ⟨r, hr, hsummary⟩ := hrow detail hdetail
    rw [Actor.wp_require]
    refine ⟨fun heq => absurd ?_ (h r hr), fun _ => rfl⟩
    have hversion := of_decide_eq_true heq
    rwa [hsummary] at hversion
  exact (Actor.wp_state (P := fun s' : RouterState => s'.db = s.db)).mp hwp

end fences

section

variable [World] {p : Process}

theorem taskEvents_ordered {db : Db} {tick : ℕ} (h : DbInv db tick) {w : WorkspaceName}
    {taskId : ℕ} : (taskEvents db w taskId).Pairwise fun e e' => e.seq < e'.seq := by
  have hsub : (taskEvents db w taskId).Sublist (db.events.filter fun e => e.workspace = w) := by
    refine List.monotone_filter_right db.events fun e he => ?_
    simp only [Bool.and_eq_true] at he
    exact he.1.1
  refine List.Pairwise.sublist hsub ?_
  cases hevents : db.events.filter fun e => e.workspace = w with
  | nil => exact .nil
  | cons e es =>
    have he : e ∈ db.events.filter fun e => e.workspace = w := by simp [hevents]
    obtain ⟨hmem, hw⟩ := List.mem_filter.mp he
    obtain ⟨row, hrow⟩ := h.journal.workspace e hmem
    rw [of_decide_eq_true hw] at hrow
    have hseqs := h.journal.numbered w row hrow
    rw [← hevents]
    have hordered := @List.pairwise_lt_range' 1 (row.nextSeq - 1) 1
    rw [← hseqs] at hordered
    exact List.pairwise_map.mp hordered

/-- The log of a task determines the task. Its events announce the versions of the row one by one,
the last one shows the task as both queries do, every operation writes a row together with its next
version, a command that expects another version changes nothing, and no version is receipted
twice. -/
theorem task_log_determines_task (h : Reachable p) :
    (∀ w taskId r, p.db.tasks.get? (w, taskId) = some r →
      announcedVersions (taskEvents p.db w taskId) = List.range' 1 r.version ∧
      ((taskEvents p.db w taskId).Pairwise fun e e' => e.seq < e'.seq) ∧
      ∃ e event detail, (taskEvents p.db w taskId).getLast? = some e ∧
        e.taskEvent? = some event ∧ getTaskDetail p.db w taskId = .ok (some detail) ∧
        event.task = detail.summary ∧ taskSummaryFromRow p.db w taskId r = .ok event.task) ∧
    (∀ tick, p.tick ≤ tick → ∀ (ε α : Type) (x : Store ε α) (a : α) (t' : Tx),
      TaskOperation p.db x → x { db := p.db, tick } = .ok (a, t') → Logged p.db t'.db) ∧
    (∀ (caller : CallerContext) (command : TaskCommand) taskId version (store : RouterStore),
      store.db = p.db → command.taskId? = some taskId → command.expectedVersion? = some version →
      Outdated p.db caller.workspace taskId version →
      (transaction (applyTask caller command) store).2.db = p.db) ∧
    (∀ (caller : CallerContext) active (command : ExternalCommand) taskId version
      (store : RouterStore), store.db = p.db → p.tick ≤ store.tick →
      command.fence? = some (taskId, version) → Outdated p.db caller.workspace taskId version →
      (transaction (prepareExternalOperation caller active command) store).2.db = p.db) ∧
    (∀ s, p = .up s → ∀ id generation requestId w taskId version message timeoutMs,
      Outdated s.db w taskId version → (Router.taskRequest id generation requestId w taskId version
        message timeoutMs s).2.db = s.db) ∧
    ∀ key key' m m', p.db.mutations.get? key = some m → p.db.mutations.get? key' = some m' →
      m.requestHash.isNote = false → m'.requestHash.isNote = false →
      (key.1, m.taskId, m.appliedVersion) = (key'.1, m'.taskId, m'.appliedVersion) →
      key = key' := by
  have hinv := Reachable.dbInv h
  refine ⟨?_, ?_, ?_, ?_, ?_, ?_⟩
  · intro w taskId r hr
    have hlocal := hinv.tasks.locals w taskId r hr
    obtain ⟨e, event, hlast, hevent, hshows⟩ := hlocal.journal.latest
    obtain ⟨detail, hdetail, hsummary⟩ := getTaskDetail_of_loads hr hlocal.loads
    refine ⟨hlocal.journal.versions, taskEvents_ordered hinv, e, event, detail, hlast, hevent,
      hdetail, hshows.trans hsummary.symm, ?_⟩
    rw [hshows]
    exact taskSummaryFromRow_of_loads hlocal.loads
  · intro tick htick ε α x a t' hop hok
    exact TaskOperation.logged (t := { db := p.db, tick }) hop (hinv.mono htick) hok
  · intro caller command taskId version store hdb hid hversion houtdated
    rw [← hdb] at houtdated ⊢
    exact applyTask_fenced hid hversion houtdated
  · intro caller active command taskId version store hdb htick hfence houtdated
    rw [← hdb] at houtdated ⊢
    exact prepareExternalOperation_fenced hfence (hdb ▸ hinv.mono htick) houtdated
  · rintro s rfl id generation requestId w taskId version message timeoutMs houtdated
    exact taskRequest_fenced hinv houtdated
  · intro key key' m m' hm hm' hnote hnote' heq
    obtain ⟨hw, htask, hversion⟩ := by simpa only [Prod.mk.injEq] using heq
    exact hinv.tasks.versions key key' m m' hm hm' hw htask hversion hnote hnote'

end

open Sample in
theorem task_log_determines_task_interrupted :
    let s := after (joining ++ beginning ++ interrupting)
    Reachable (.up s) ∧ (∃ r, s.db.tasks.get? (workspace, 1) = some r ∧ r.version = 4) ∧
      announcedVersions (taskEvents s.db workspace 1) = [1, 2, 3, 4] := by
  intro s
  have hreach : Reachable (.up s) :=
    after_reachable (joining ++ beginning ++ interrupting) (by decide +kernel)
  have hrow : (s.db.tasks.get? (workspace, 1)).any (fun r => r.version = 4) = true := by
    decide +kernel
  obtain ⟨r, hr, hversion⟩ := (Option.any_eq_true _ _).mp hrow
  have hversion : r.version = 4 := of_decide_eq_true hversion
  have hlog := ((task_log_determines_task hreach).1 workspace 1 r hr).1
  rw [hversion] at hlog
  exact ⟨hreach, ⟨r, hr, hversion⟩, hlog⟩

end SessionRouter
