import SessionRouter.Integrations.PrepareSpec

/-!
Recovery after a crash. It succeeds when the counters have room for one number for each row it
closes; afterwards nothing is open, and a second recovery finds nothing to do.
-/

namespace SessionRouter

/-- The counters have room for `n` more events and versions. -/
structure Slack (db : Db) (n : ℕ) : Prop where
  seq : ∀ w row, db.workspaces.get? w = some row → row.nextSeq + n ≤ maxSafeInteger
  version : ∀ key r, db.tasks.get? key = some r → r.version + n ≤ maxSafeInteger

namespace Slack

variable {db db' : Db} {n : ℕ}

theorem mono {m : ℕ} (h : Slack db n) (hle : m ≤ n) : Slack db m :=
  ⟨fun w row hrow => by have := h.seq w row hrow; omega,
    fun key r hr => by have := h.version key r hr; omega⟩

theorem of_eq (h : Slack db n) (hw : db'.workspaces = db.workspaces) (ht : db'.tasks = db.tasks) :
    Slack db' n :=
  ⟨by rw [hw]; exact h.seq, by rw [ht]; exact h.version⟩

theorem seq_append (db : Db)
    (h : ∀ w row, db.workspaces.get? w = some row → row.nextSeq + (n + 1) ≤ maxSafeInteger)
    (e : WorkspaceEvent) (w : WorkspaceName) (row : WorkspaceRow)
    (hrow : (db.append e).workspaces.get? w = some row) : row.nextSeq + n ≤ maxSafeInteger := by
  rw [Db.append_workspace] at hrow
  split at hrow
  · obtain ⟨row', hrow', rfl⟩ := Option.map_eq_some_iff.mp hrow
    have := h w row' hrow'
    simp only [WorkspaceRow.bumped]
    omega
  · have := h w row hrow
    omega

theorem append (h : Slack db (n + 1)) (e : WorkspaceEvent) : Slack (db.append e) n where
  seq := seq_append db h.seq e
  version := (h.mono (Nat.le_succ n)).version

theorem complete {d : TaskDraft} {e : WorkspaceEvent} {change : TaskChange} (h : Slack db (n + 1))
    (hkeeps : d.Keeps db) (hfollows : d.follows db change)
    (hr : ∃ r, db.tasks.get? (d.workspace, d.taskId) = some r) :
    Slack (db.complete d e none) n where
  seq := seq_append (db.draft d) h.seq e
  version := by
    intro key r hget
    change (db.draft d).tasks.get? key = some r at hget
    rw [Db.draft_tasks hkeeps, Table.get?_put] at hget
    split at hget
    · cases hget
      obtain ⟨r, hr⟩ := hr
      have := h.version _ r hr
      unfold TaskDraft.follows at hfollows
      simp only [hr] at hfollows
      have hversion := hfollows.1
      split at hversion <;> omega
    · have := h.version key r hget
      omega

theorem not_full (h : Slack db (n + 1)) {w : WorkspaceName} : ¬ JournalFull db w := by
  rintro ⟨row, hrow, hmax⟩
  have := h.seq w row hrow
  omega

end Slack

section

variable [World] {t : Tx}

/-- Any attempt may have been interrupted. -/
def anyAttempt (_ : Uuid) (_ : AttemptRow) : Prop := True

/-- What holds while recovery works: it continued the database and used `done` of its numbers. -/
structure Recovering (t t' : Tx) (es : List WorkspaceEvent) (total used : ℕ) : Prop where
  advance : Advance t t' es anyAttempt
  slack : Slack t.db total → Slack t'.db (total - used)

theorem Recovering.refl {total : ℕ} (h : DbInv t.db t.tick) : Recovering t t [] total 0 :=
  ⟨.refl h, fun h => h⟩

theorem Recovering.trans {t' t'' : Tx} {es es' : List WorkspaceEvent} {total total' used used' : ℕ}
    (h : Recovering t t' es total used) (h' : Recovering t' t'' es' total' used')
    (htotal : total' = total - used) : Recovering t t'' (es ++ es') total (used + used') where
  advance := h.advance.trans h'.advance fun _ _ _ _ _ _ => trivial
  slack := by
    intro hs
    subst htotal
    have := h'.slack (h.slack hs)
    rwa [Nat.sub_sub] at this

omit [World] in
theorem nodup_requests {db : Db} (h : Journal db) :
    ((unfinishedRequests db).map fun e => (e.workspace, e.requestId)).Nodup := by
  unfold unfinishedRequests
  refine ((List.perm_insertionSort _ _).map _).nodup_iff.mpr ?_
  rw [List.nodup_iff_pairwise_ne, List.pairwise_map, List.pairwise_filter]
  refine h.keys.imp ?_
  intro e e' hkey hp hp' heq
  simp only [Bool.and_eq_true, decide_eq_true_eq] at hp hp'
  simp only [Prod.mk.injEq] at heq
  simp only [eventKey, hp.1, hp'.1, reduceCtorEq, false_or] at hkey
  exact hkey (by rw [heq.1, heq.2])

omit [World] in
theorem mem_unfinishedRequests {db : Db} {e : WorkspaceEvent} :
    e ∈ unfinishedRequests db ↔ e ∈ db.events ∧ e.kind = .request ∧
      ∀ x ∈ db.events, x.kind = .result → x.workspace = e.workspace →
      x.requestId ≠ e.requestId := by
  unfold unfinishedRequests
  rw [List.mem_insertionSort, List.mem_filter]
  simp only [Bool.and_eq_true, decide_eq_true_eq, Bool.not_eq_true', List.any_eq_false, not_and,
    and_imp, ne_eq]

omit [World] in
theorem unfinishedRequests_append {db db' : Db} (es : List WorkspaceEvent)
    (hevents : db'.events = db.events ++ es) (hkinds : ∀ e ∈ es, e.kind ≠ .request)
    (h : unfinishedRequests db = []) : unfinishedRequests db' = [] := by
  rw [List.eq_nil_iff_forall_not_mem] at h ⊢
  intro e he
  obtain ⟨hmem, hkind, hopen⟩ := mem_unfinishedRequests.mp he
  rw [hevents] at hmem hopen
  rcases List.mem_append.mp hmem with hmem | hmem
  · exact h e (mem_unfinishedRequests.mpr
      ⟨hmem, hkind, fun x hx => hopen x (List.mem_append_left _ hx)⟩)
  · exact hkinds e hmem hkind

theorem recoverRequest_spec {request : WorkspaceEvent} {n : ℕ} (h : DbInv t.db t.tick)
    (hmem : request ∈ t.db.events) (hkind : request.kind = .request)
    (hopen : ∀ x ∈ t.db.events, x.kind = .result → x.workspace = request.workspace →
      x.requestId ≠ request.requestId) :
    Txn.wp (recoverRequest request)
      (fun e t' => Recovering t t' [e] (n + 1) 1 ∧ e.kind = .result ∧
        e.workspace = request.workspace ∧ e.requestId = request.requestId ∧
        t'.db.attempts = t.db.attempts ∧ t'.db.operations = t.db.operations)
      (fun _ => ¬ Slack t.db (n + 1)) t := by
  obtain ⟨row, hrow⟩ := h.journal.workspace request hmem
  have hcheck := h.journal.check request hmem
  simp only [eventCheck, eventShape, hkind, Bool.and_eq_true] at hcheck
  unfold recoverRequest
  have hkey : KeyFree t.db (some (.result request.workspace request.requestId)) := by
    refine .inr fun x hx heq => ?_
    unfold eventKey at heq
    cases hk : x.kind <;> simp only [hk] at heq <;> try cases heq
    rw [Option.some.injEq, EventKey.result.injEq] at heq
    exact hopen x hx hk heq.1 heq.2
  have hvalid : EventInsert.Valid
      { workspace := request.workspace, kind := .result, actorId := "system:router",
        requestId := request.requestId, targetId := some request.actorId,
        taskId := request.taskId, ok := some false, error := some .routerRestarted } := by
    refine ⟨validActor_router, ?_, ?_⟩
    · intro id hid
      have htask := hcheck.1.2
      simp only at hid
      simpa [hid] using htask
    · have hrequest := hcheck.2.1.1.1.2
      simp [eventShape, EventInsert.toEvent, hrequest]
  refine appendEventInTransaction_spec h.journal hrow hvalid hkey (fun hmax => ?_) (fun hmax => ?_)
  · have hinv := h.append_next hrow hvalid hkey hmax (by simp) fun _ =>
      ⟨request, hmem, hkind, rfl, rfl⟩
    refine ⟨⟨.append hinv, fun hs => hs.append _⟩, rfl, rfl, rfl, rfl, rfl⟩
  · exact fun hs => hs.not_full ⟨row, hrow, hmax⟩

theorem recoverUnfinishedRequests_spec {n : ℕ} (h : DbInv t.db t.tick) :
    Txn.wp recoverUnfinishedRequests
      (fun _ t' => (∃ es, Recovering t t' es (n + (unfinishedRequests t.db).length)
          (unfinishedRequests t.db).length ∧ ∀ e ∈ es, e.kind = .result) ∧
        unfinishedRequests t'.db = [] ∧ t'.db.attempts = t.db.attempts ∧
        t'.db.operations = t.db.operations)
      (fun _ => ¬ Slack t.db (n + (unfinishedRequests t.db).length)) t := by
  unfold recoverUnfinishedRequests
  simp only [Txn.wp_bind, Store.wp_read, Txn.wp_pure]
  -- The results so far answer the requests already done, in order.
  refine Txn.wp_mono (Txn.wp_each
    (I := fun done es t' => Recovering t t' es (n + (unfinishedRequests t.db).length) done.length ∧
      (∀ e ∈ es, e.kind = .result) ∧
      es.map (fun e => (e.workspace, e.requestId)) =
        done.map (fun e => (e.workspace, e.requestId)) ∧
      t'.db.attempts = t.db.attempts ∧ t'.db.operations = t.db.operations)
    ⟨.refl h, by simp, rfl, rfl, rfl⟩ ?_) ?_ fun _ h => h
  · rintro done es request rest t' hsplit ⟨hrec, hkinds, hkeys, hatt, hops⟩
    have hmem : request ∈ unfinishedRequests t.db := by simp [hsplit]
    obtain ⟨hevent, hkind, hopen⟩ := mem_unfinishedRequests.mp hmem
    have hnodup := nodup_requests h.journal
    rw [hsplit, List.map_append, List.map_cons] at hnodup
    have hnew : (request.workspace, request.requestId) ∉
        done.map fun e => (e.workspace, e.requestId) := by
      intro hin
      exact (List.nodup_append.mp hnodup).2.2 _ hin _ (by simp) rfl
    have hlen : n + (unfinishedRequests t.db).length - done.length = n + rest.length + 1 := by
      rw [hsplit, List.length_append, List.length_cons]
      omega
    have hevents := hrec.advance.grows.events
    refine Txn.wp_mono (recoverRequest_spec (n := n + rest.length) hrec.advance.inv
      (by rw [hevents]; exact List.mem_append_left _ hevent) hkind ?_) ?_ ?_
    · intro x hx hxkind hw hid
      rw [hevents, List.mem_append] at hx
      rcases hx with hx | hx
      · exact hopen x hx hxkind hw hid
      · refine hnew ?_
        rw [← hkeys, ← hw, ← hid]
        exact List.mem_map_of_mem hx
    · rintro e t'' ⟨hrec', hkind', hw, hid, hatt', hops'⟩
      refine ⟨?_, ?_, ?_, hatt'.trans hatt, hops'.trans hops⟩
      · have := hrec.trans hrec' hlen.symm
        simpa using this
      · intro x hx
        rcases List.mem_append.mp hx with hx | hx
        · exact hkinds x hx
        · rw [List.mem_singleton.mp hx]
          exact hkind'
      · simp [hkeys, hw, hid]
    · intro _ hslack hs
      refine hslack ?_
      rw [← hlen]
      exact hrec.slack hs
  · rintro es t' ⟨hrec, hkinds, hkeys, hatt, hops⟩
    refine ⟨⟨es, hrec, hkinds⟩, ?_, hatt, hops⟩
    have hevents := hrec.advance.grows.events
    rw [List.eq_nil_iff_forall_not_mem]
    intro request hmem
    obtain ⟨hevent, hkind, hopen⟩ := mem_unfinishedRequests.mp hmem
    rw [hevents, List.mem_append] at hevent
    have hold : request ∈ t.db.events := by
      rcases hevent with hevent | hevent
      · exact hevent
      · rw [hkinds request hevent] at hkind
        cases hkind
    have hrequest : request ∈ unfinishedRequests t.db := by
      refine mem_unfinishedRequests.mpr ⟨hold, hkind, fun x hx => hopen x ?_⟩
      rw [hevents]
      exact List.mem_append_left _ hx
    have hkey : (request.workspace, request.requestId) ∈ es.map fun e =>
      (e.workspace, e.requestId) := by
      rw [hkeys]
      exact List.mem_map_of_mem hrequest
    obtain ⟨x, hx, heq⟩ := List.mem_map.mp hkey
    simp only [Prod.mk.injEq] at heq
    refine hopen x ?_ (hkinds x hx) heq.1 heq.2
    rw [hevents]
    exact List.mem_append_right _ hx

theorem recoverAttempt_spec {now n : ℕ} {id : Uuid} {a : AttemptRow} (h : DbInv t.db t.tick)
    (ha : t.db.attempts.get? id = some a) (hrun : a.status = .running)
    (hnow : now ≤ maxSafeInteger) : Txn.wp (recoverAttempt now (id, a))
      (fun e t' => Recovering t t' [e] (n + 1) 1 ∧ e.kind = .task ∧
        (∀ i, i ≠ id → t'.db.attempts.get? i = t.db.attempts.get? i) ∧
        (∀ b, t'.db.attempts.get? id = some b → b.status ≠ .running) ∧
        t'.db.operations = t.db.operations)
      (fun _ => ¬ Slack t.db (n + 1)) t := by
  obtain ⟨r, hr⟩ := (h.tasks.attempts id a ha).task
  have hlocal := h.tasks.locals _ _ r hr
  obtain ⟨row, hrow, -⟩ := h.tasks.ids _ _ r hr
  have hcurrent := hlocal.fit.running id a ha ⟨rfl, rfl⟩ hrun
  have hlast := (hlocal.fit.current id hcurrent).1
  have hended := AttemptRow.ended
    { a with
      status := .interrupted
      stopEvidence := .unknown
      reason := some .routerRestarted
      endedAt := some now }
    (h.tasks.attempts _ a ha).check hrun rfl rfl hnow rfl (.inl rfl) (by simp)
  unfold recoverAttempt
  simp only [Txn.wp_bind]
  refine updateAttempt_spec ha (by simpa using hrun)
    (attemptOk_of_later h.tasks ha hended.1 hended.2 (by simp)) ?_
  let d := interruptDraft a r id .unknown .routerRestarted "system:router" now a.stoppedAt
  have hupdated : { r with
      state := .paused, currentAttemptId := none, pauseReason := some .routerRestarted,
      version := r.version + 1, updatedBy := "system:router", updatedAt := now } =
      interruptedRow r id .routerRestarted "system:router" now := by
    simp [interruptedRow, ← hlast]
  refine updateTask_spec hr (by simpa using hcurrent) ⟨row, hrow⟩ (fun hcheck => ?_)
    (fun hfail hs => ?_)
  · rw [hupdated] at hcheck ⊢
    obtain ⟨hfits, hfollows, -, hrefers⟩ := interruptDraft_spec t.tick h ha hrun hr
      (.inl rfl) hnow (.inl rfl) hcheck
    obtain ⟨task, htask, hsummary⟩ := hfits.detail
    change Txn.wp _ _ _ (Tx.mk (t.db.draft d) t.tick)
    refine wp_storeQuery htask ?_
    simp only [Txn.orFail, Txn.wp_pure, hsummary]
    refine TaskDraft.announce_spec h le_rfl hfits hfollows validActor_router hrefers ?_
      (fun hfull hs => hs.not_full hfull)
    intro e hkind hw hinv
    refine ⟨⟨?_, fun hs => hs.complete hfits.keeps hfollows ⟨r, hr⟩⟩, hkind, ?_, ?_, rfl⟩
    · exact .of_settle hinv (Nat.le_succ _) hfits.keeps hfollows ha rfl hended.1
        fun _ => .inr trivial
    · intro i hi
      change (t.db.draft d).attempts.get? i = _
      rw [Db.draft_attempt (d := d) rfl, if_neg hi]
    · intro b hb
      change (t.db.draft d).attempts.get? id = some b at hb
      rw [Db.draft_attempt (d := d) rfl, if_pos rfl] at hb
      cases hb
      simp
  · rw [hupdated] at hfail
    have hmax := interruptedRow_full h hr hnow hfail
    have := hs.version _ r hr
    omega

theorem recoverRunningAttempts_spec {n : ℕ} (h : DbInv t.db t.tick) :
    Txn.wp recoverRunningAttempts
      (fun _ t' => (∃ es, Recovering t t' es (n + (runningAttempts t.db).length)
          (runningAttempts t.db).length ∧ ∀ e ∈ es, e.kind = .task) ∧
        (∀ id a, t'.db.attempts.get? id = some a → a.status ≠ .running) ∧
        t'.db.operations = t.db.operations)
      (fun _ => ¬ Slack t.db (n + (runningAttempts t.db).length)) t := by
  unfold recoverRunningAttempts
  simp only [Txn.wp_bind, Store.wp_nowMillis, Store.wp_read, Txn.wp_pure]
  have hnodup : ((runningAttempts t.db).map Prod.fst).Nodup :=
    t.db.attempts.nodup_toList_keys.sublist (List.filter_sublist.map _)
  have hdrawn : Recovering t { t with tick := t.tick + 1 } []
      (n + (runningAttempts t.db).length) 0 :=
    ⟨⟨h.mono (Nat.le_succ _), Nat.le_succ _, .refl _, .of_eq rfl⟩, fun h => h⟩
  refine Txn.wp_mono (Txn.wp_each
    (I := fun done es t' => Recovering t t' es (n + (runningAttempts t.db).length) done.length ∧
      (∀ e ∈ es, e.kind = .task) ∧
      (∀ i, i ∉ done.map Prod.fst → t'.db.attempts.get? i = t.db.attempts.get? i) ∧
      (∀ i ∈ done.map Prod.fst, ∀ b, t'.db.attempts.get? i = some b → b.status ≠ .running) ∧
      t'.db.operations = t.db.operations)
    ⟨hdrawn, by simp, fun _ _ => rfl, by simp, rfl⟩ ?_) ?_ fun _ h => h
  · rintro done es ⟨id, a⟩ rest t' hsplit ⟨hrec, hkinds, hsame, hstopped, hops⟩
    have hmem : (id, a) ∈ runningAttempts t.db := by simp [hsplit]
    obtain ⟨ha, hrun⟩ := (Table.mem_ofFilter _ _ _ _).mp hmem
    rw [hsplit, List.map_append, List.map_cons] at hnodup
    have hnew : id ∉ done.map Prod.fst := by
      intro hin
      exact (List.nodup_append.mp hnodup).2.2 _ hin _ (by simp) rfl
    have hlen : n + (runningAttempts t.db).length - done.length = n + rest.length + 1 := by
      rw [hsplit, List.length_append, List.length_cons]
      omega
    refine Txn.wp_mono (recoverAttempt_spec (n := n + rest.length) hrec.advance.inv
      ((hsame id hnew).trans ha) (of_decide_eq_true hrun) (World.now_le _)) ?_ ?_
    · rintro e t'' ⟨hrec', hkind', hother, hstopped', hops'⟩
      refine ⟨?_, ?_, ?_, ?_, hops'.trans hops⟩
      · have := hrec.trans hrec' hlen.symm
        simpa using this
      · intro x hx
        rcases List.mem_append.mp hx with hx | hx
        · exact hkinds x hx
        · rw [List.mem_singleton.mp hx]
          exact hkind'
      · intro i hi
        simp only [List.map_append, List.map_cons, List.map_nil, List.mem_append,
          List.mem_singleton, not_or] at hi
        rw [hother i hi.2]
        exact hsame i hi.1
      · intro i hi b hb
        by_cases hk : i = id
        · subst hk
          exact hstopped' b hb
        · rw [hother i hk] at hb
          simp only [List.map_append, List.map_cons, List.map_nil, List.mem_append,
            List.mem_singleton, hk, or_false] at hi
          exact hstopped i hi b hb
    · intro _ hslack hs
      refine hslack ?_
      rw [← hlen]
      exact hrec.slack hs
  · rintro es t' ⟨hrec, hkinds, hsame, hstopped, hops⟩
    refine ⟨⟨es, hrec, hkinds⟩, ?_, hops⟩
    intro id a ha hrun
    by_cases hmem : id ∈ (runningAttempts t.db).map Prod.fst
    · exact hstopped id hmem a ha hrun
    · rw [hsame id hmem] at ha
      refine hmem (List.mem_map.mpr ⟨(id, a), ?_, rfl⟩)
      exact (Table.mem_ofFilter _ _ _ _).mpr ⟨ha, decide_eq_true hrun⟩

theorem recoverOperation_spec {now n : ℕ} {key : WorkspaceName × Uuid} {r : OperationRow}
    (h : DbInv t.db t.tick) (hr : t.db.operations.get? key = some r) :
    Txn.wp (recoverOperation now (key, r))
      (fun e t' => Recovering t t' [e] (n + 1) 1 ∧ e.kind = .integration ∧
        (∀ k, k ≠ key → t'.db.operations.get? k = t.db.operations.get? k) ∧
        ∀ r', t'.db.operations.get? key = some r' → r'.status ≠ .running)
      (fun _ => ¬ Slack t.db (n + 1)) t := by
  have hi := h.external.operations key r hr
  obtain ⟨row, hrow⟩ := hi.workspace
  have hclosed : (recoveredStatus r).1 ≠ .running := by
    unfold recoveredStatus
    split
    · simp
    · split <;> simp
  unfold recoverOperation
  dsimp only
  simp only [Txn.wp_bind]
  refine updateOperation_spec h (fun _ => ⟨rfl, rfl⟩) (fun _ _ hrun => absurd hrun hclosed) ?_
  intro _ t₁ h₁ hws htasks hother hkey
  have hvalid : EventInsert.Valid
      { workspace := key.1, kind := .integration, actorId := "system:router", taskId := r.taskId,
        content := some (.integration
          { change := .operation, integration := none,
            operation := some { operationSummaryOf key.2 r with
              status := (recoveredStatus r).1, error := some (recoveredStatus r).2,
              updatedAt := now },
            resolution := none }) } := by
    refine ⟨validActor_router, ?_, rfl⟩
    intro id hid
    obtain ⟨x, hx⟩ := hi.task id hid
    exact (TaskRow.check_iff.mp (h.tasks.locals _ _ x hx).check).1
  have hrow₁ : t₁.db.workspaces.get? key.1 = some row := by
    rw [hws]
    exact hrow
  refine appendEventInTransaction_spec h₁.inv.journal hrow₁ hvalid (.inl rfl) (fun hmax => ?_)
    (fun hmax hs => (hs.of_eq hws htasks).not_full ⟨row, hrow₁, hmax⟩)
  have hinv := h₁.inv.append_next hrow₁ hvalid (.inl rfl) hmax (by simp) (by simp)
  refine ⟨⟨?_, fun hs => (hs.of_eq hws htasks).append _⟩, rfl, hother, ?_⟩
  · have hany : Advance t t₁ [] anyAttempt := h₁.mono fun _ _ hfalse => hfalse.elim
    simpa using hany.trans (.append hinv) fun _ _ _ _ _ _ => trivial
  · intro r' hr'
    rcases hkey r' hr' with hp | ⟨r₀, rfl⟩
    · simpa using hp
    · exact hclosed

omit [World] in
theorem mem_openOperations {db : Db} {e : (WorkspaceName × Uuid) × OperationRow} :
    e ∈ openOperations db ↔ db.operations.get? e.1 = some e.2 ∧ e.2.status = .running ∧
      e.2.phase ≠ .terminal := by
  obtain ⟨key, r⟩ := e
  unfold openOperations
  rw [List.mem_insertionSort, Table.mem_ofFilter]
  simp only [Bool.and_eq_true, Bool.or_eq_true, decide_eq_true_eq]
  refine and_congr_right fun _ => and_congr_right fun _ => ?_
  cases r.phase <;> simp

theorem recoverExternalOperations_spec {n : ℕ} (h : DbInv t.db t.tick) :
    Txn.wp recoverExternalOperations
      (fun _ t' => (∃ es, Recovering t t' es (n + (openOperations t.db).length)
          (openOperations t.db).length ∧ ∀ e ∈ es, e.kind = .integration) ∧
        ∀ key r, t'.db.operations.get? key = some r → r.status ≠ .running)
      (fun _ => ¬ Slack t.db (n + (openOperations t.db).length)) t := by
  unfold recoverExternalOperations
  simp only [Txn.wp_bind, Store.wp_nowMillis, Store.wp_read, Txn.wp_pure]
  have hnodup : ((openOperations t.db).map Prod.fst).Nodup := by
    refine ((List.perm_insertionSort _ _).map _).nodup_iff.mpr ?_
    exact t.db.operations.nodup_toList_keys.sublist (List.filter_sublist.map _)
  have hdrawn : Recovering t { t with tick := t.tick + 1 } []
      (n + (openOperations t.db).length) 0 :=
    ⟨⟨h.mono (Nat.le_succ _), Nat.le_succ _, .refl _, .of_eq rfl⟩, fun h => h⟩
  refine Txn.wp_mono (Txn.wp_each
    (I := fun done es t' => Recovering t t' es (n + (openOperations t.db).length) done.length ∧
      (∀ e ∈ es, e.kind = .integration) ∧
      (∀ k, k ∉ done.map Prod.fst → t'.db.operations.get? k = t.db.operations.get? k) ∧
      ∀ k ∈ done.map Prod.fst, ∀ r, t'.db.operations.get? k = some r → r.status ≠ .running)
    ⟨hdrawn, by simp, fun _ _ => rfl, by simp⟩ ?_) ?_ fun _ h => h
  · rintro done es ⟨key, r⟩ rest t' hsplit ⟨hrec, hkinds, hsame, hclosed⟩
    have hmem : (key, r) ∈ openOperations t.db := by simp [hsplit]
    obtain ⟨hr, -, -⟩ := mem_openOperations.mp hmem
    rw [hsplit, List.map_append, List.map_cons] at hnodup
    have hnew : key ∉ done.map Prod.fst := by
      intro hin
      exact (List.nodup_append.mp hnodup).2.2 _ hin _ (by simp) rfl
    have hlen : n + (openOperations t.db).length - done.length = n + rest.length + 1 := by
      rw [hsplit, List.length_append, List.length_cons]
      omega
    refine Txn.wp_mono (recoverOperation_spec (n := n + rest.length) hrec.advance.inv
      ((hsame key hnew).trans hr)) ?_ ?_
    · rintro e t'' ⟨hrec', hkind', hother, hclosed'⟩
      refine ⟨?_, ?_, ?_, ?_⟩
      · have := hrec.trans hrec' hlen.symm
        simpa using this
      · intro x hx
        rcases List.mem_append.mp hx with hx | hx
        · exact hkinds x hx
        · rw [List.mem_singleton.mp hx]
          exact hkind'
      · intro k hk
        simp only [List.map_append, List.map_cons, List.map_nil, List.mem_append,
          List.mem_singleton, not_or] at hk
        rw [hother k hk.2]
        exact hsame k hk.1
      · intro k hk r' hr'
        by_cases heq : k = key
        · subst heq
          exact hclosed' r' hr'
        · rw [hother k heq] at hr'
          simp only [List.map_append, List.map_cons, List.map_nil, List.mem_append,
            List.mem_singleton, heq, or_false] at hk
          exact hclosed k hk r' hr'
    · intro _ hslack hs
      refine hslack ?_
      rw [← hlen]
      exact hrec.slack hs
  · rintro es t' ⟨hrec, hkinds, hsame, hclosed⟩
    refine ⟨⟨es, hrec, hkinds⟩, ?_⟩
    intro key r hr hrun
    by_cases hmem : key ∈ (openOperations t.db).map Prod.fst
    · exact hclosed key hmem r hr hrun
    · rw [hsame key hmem] at hr
      refine hmem (List.mem_map.mpr ⟨(key, r), mem_openOperations.mpr ⟨hr, hrun, ?_⟩, rfl⟩)
      exact (h.external.operations key r hr).phase hrun

/-- Nothing is open: every request has a result and nothing runs. -/
structure Settled (db : Db) : Prop where
  requests : unfinishedRequests db = []
  attempts : ∀ id a, db.attempts.get? id = some a → a.status ≠ .running
  operations : ∀ key r, db.operations.get? key = some r → r.status ≠ .running

omit [World] in
theorem Settled.runningAttempts {db : Db} (h : Settled db) : runningAttempts db = [] := by
  rw [List.eq_nil_iff_forall_not_mem]
  rintro ⟨id, a⟩ hmem
  obtain ⟨ha, hrun⟩ := (Table.mem_ofFilter _ _ _ _).mp hmem
  exact h.attempts id a ha (of_decide_eq_true hrun)

omit [World] in
theorem Settled.openOperations {db : Db} (h : Settled db) : openOperations db = [] := by
  rw [List.eq_nil_iff_forall_not_mem]
  rintro ⟨key, r⟩ hmem
  obtain ⟨hr, hrun, -⟩ := mem_openOperations.mp hmem
  exact h.operations key r hr hrun

/-- The numbers that recovery takes. -/
def recoverySize (db : Db) : ℕ :=
  (unfinishedRequests db).length + (runningAttempts db).length + (openOperations db).length

theorem recover_spec (h : DbInv t.db t.tick) :
    Txn.wp recover
      (fun _ t' => (∃ es, Advance t t' es anyAttempt) ∧ Settled t'.db)
      (fun _ => ¬ Slack t.db (recoverySize t.db)) t := by
  have hsize : recoverySize t.db = (runningAttempts t.db).length + (openOperations t.db).length +
      (unfinishedRequests t.db).length := by
    unfold recoverySize
    omega
  unfold recover
  simp only [Txn.wp_bind, hsize]
  refine Txn.wp_mono (recoverUnfinishedRequests_spec h) ?_ fun _ h => h
  rintro _ t₁ ⟨⟨es₁, hrec₁, hkinds₁⟩, hrequests, hatt₁, hops₁⟩
  have hrunning : runningAttempts t₁.db = runningAttempts t.db := by
    unfold runningAttempts
    rw [hatt₁]
  refine Txn.wp_mono (recoverRunningAttempts_spec (n := (openOperations t.db).length)
    hrec₁.advance.inv) ?_ ?_
  rotate_left
  · intro _ hslack hs
    refine hslack ((hrec₁.slack hs).mono ?_)
    rw [hrunning]
    omega
  rintro _ t₂ ⟨⟨es₂, hrec₂, hkinds₂⟩, hstopped, hops₂⟩
  have hopen : openOperations t₂.db = openOperations t.db := by
    unfold openOperations
    rw [hops₂, hops₁]
  refine Txn.wp_mono (recoverExternalOperations_spec (n := 0) hrec₂.advance.inv) ?_ ?_
  rotate_left
  · intro _ hslack hs
    refine hslack ((hrec₂.slack ((hrec₁.slack hs).mono ?_)).mono ?_)
    · rw [hrunning]
      omega
    · rw [hopen]
      omega
  rintro _ t₃ ⟨⟨es₃, hrec₃, hkinds₃⟩, hclosed⟩
  have hadvance := (hrec₁.advance.trans hrec₂.advance fun _ _ _ _ _ _ => trivial).trans
    hrec₃.advance fun _ _ _ _ _ _ => trivial
  refine commit_spec hadvance.inv.tasks ⟨⟨_, hadvance⟩, ?_, ?_, hclosed⟩
  · refine unfinishedRequests_append (es₂ ++ es₃) ?_ ?_ hrequests
    · rw [hrec₃.advance.grows.events, hrec₂.advance.grows.events, List.append_assoc]
    · intro e he
      rcases List.mem_append.mp he with he | he
      · simp [hkinds₂ e he]
      · simp [hkinds₃ e he]
  · intro id a ha hrun
    obtain ⟨b, hb, hlater⟩ := hrec₃.advance.back ha
    exact hstopped id b hb (hlater.running hrun)

/-- A second recovery finds nothing to do. -/
theorem recover_settled (h : DbInv t.db t.tick) (hsettled : Settled t.db) :
    recover t = .ok ((), { t with tick := t.tick + 2 }) := by
  have hrun : Txn.wp recover (fun _ t' => t' = { t with tick := t.tick + 2 })
    (fun _ => False) t := by
    unfold recover recoverUnfinishedRequests recoverRunningAttempts recoverExternalOperations
    simp only [Txn.wp_bind, Store.wp_read, Store.wp_nowMillis, Txn.wp_pure, hsettled.requests,
      hsettled.runningAttempts, hsettled.openOperations, Txn.each]
    exact commit_spec h.tasks rfl
  unfold Txn.wp at hrun
  cases hx : recover t with
  | error e =>
    rw [hx] at hrun
    exact hrun.elim
  | ok r =>
    rw [hx] at hrun
    rw [← hrun]

theorem recoverExternalInflight_spec (h : DbInv t.db t.tick) :
    Txn.wp recoverExternalInflight (fun _ t' => ∃ es, Advance t t' es anyAttempt)
      (fun _ => True) t := by
  unfold recoverExternalInflight
  simp only [Txn.wp_bind]
  refine Txn.wp_mono (recoverExternalOperations_spec (n := 0) h) ?_ fun _ _ => trivial
  rintro _ t' ⟨⟨es, hrec, -⟩, -⟩
  exact commit_any ⟨es, hrec.advance⟩

end

end SessionRouter
