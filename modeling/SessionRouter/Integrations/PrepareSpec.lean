import SessionRouter.Integrations.CompletionSpec

/-!
The external operations a client can ask for and the configuration it can reload. They fail with a
storage error only when a counter is at its limit.
-/

namespace SessionRouter

/-- A storage error means that a counter is at its limit. -/
def CodeExcused (db : Db) (code : RouterErrorCode) : Prop := code = .storageError → Exhausted db

theorem CodeExcused.of_ne {db : Db} {code : RouterErrorCode} (h : code ≠ .storageError) :
    CodeExcused db code := fun hcode => absurd hcode h

/-- An operation that was prepared continues the database by the event it announces. -/
structure Prepared [World] (t t' : Tx) (workspace : WorkspaceName) (event : Option WorkspaceEvent) :
    Prop where
  advance : Advance t t' event.toList noAttempt
  event : ∀ e ∈ event.toList, e.kind = .integration ∧ e.workspace = workspace

section

variable [World] {t : Tx} {caller : CallerContext}

theorem appendIntegrationEvent_spec {workspace : WorkspaceName} {actorId : String}
    {taskId : Option ℕ} {event : IntegrationEvent} {Q : WorkspaceEvent → Tx → Prop}
    {E : RouterErrorCode → Prop} {row : WorkspaceRow} (h : DbInv t.db t.tick)
    (hactor : ValidActor actorId) (hrow : t.db.workspaces.get? workspace = some row)
    (htask : ∀ id, taskId = some id → 1 ≤ id ∧ id ≤ maxSafeInteger)
    (hQ : ∀ e t', Advance t t' [e] noAttempt → e.kind = .integration → e.workspace = workspace →
      t'.db = t.db.append e → Q e t')
    (hE : JournalFull t.db workspace → E .storageError) :
    Txn.wp (appendIntegrationEvent workspace actorId taskId event) Q E t := by
  unfold appendIntegrationEvent liftCode
  rw [Txn.wp_mapError]
  have hvalid : EventInsert.Valid
      { workspace, kind := .integration, actorId, taskId, content := some (.integration event) } :=
    ⟨hactor, htask, rfl⟩
  refine appendEventInTransaction_spec h.journal hrow hvalid (.inl rfl) (fun hmax => ?_)
    (fun hmax => hE ⟨row, hrow, hmax⟩)
  exact hQ _ _ (.append (h.append_next hrow hvalid (.inl rfl) hmax (by simp) (by simp))) rfl rfl rfl

omit [World] in
theorem blockingOperation_status {db : Db} {workspace : WorkspaceName} {taskId : ℕ}
    {provider : ExternalProvider} {status : ExternalOperationStatus}
    (h : blockingOperation db workspace taskId provider = some status) :
    status = .running ∨ status = .unconfirmed := by
  unfold blockingOperation at h
  obtain ⟨e, he, rfl⟩ := Option.map_eq_some_iff.mp h
  have hmem := List.mem_of_head? he
  rw [List.mem_insertionSort, Table.mem_ofFilter] at hmem
  simp only [Bool.and_eq_true, Bool.or_eq_true, decide_eq_true_eq] at hmem
  exact hmem.2.2

omit [World] in
theorem requireNoBlockingOperation_spec {workspace : WorkspaceName} {taskId : ℕ}
    {provider : ExternalProvider} {Q : Unit → Tx → Prop} (hQ : Q () t) :
    Txn.wp (requireNoBlockingOperation workspace taskId provider) Q (CodeExcused t.db) t := by
  unfold requireNoBlockingOperation
  rw [Txn.wp_bind, Store.wp_read]
  split
  · exact .of_ne (by decide)
  · exact .of_ne (by decide)
  · next status hne hne' heq =>
    rcases blockingOperation_status heq with rfl | rfl
    · exact absurd rfl hne
    · exact absurd rfl hne'
  · exact hQ

omit [World] in
theorem requireTaskVersion_spec {tick : ℕ} {workspace : WorkspaceName} {taskId expectedVersion : ℕ}
    {Q : TaskDetail → Tx → Prop} [World] (h : DbInv t.db tick)
    (hQ : ∀ task r, t.db.tasks.get? (workspace, taskId) = some r → Q task t) :
    Txn.wp (requireTaskVersion workspace taskId expectedVersion) Q (CodeExcused t.db) t := by
  unfold requireTaskVersion liftCode
  simp only [Txn.wp_bind, Txn.wp_mapError, Txn.wp_pure]
  cases hr : t.db.tasks.get? (workspace, taskId) with
  | none =>
    have hmissing : getTaskDetail t.db workspace taskId = .ok none := by
      unfold getTaskDetail
      rw [hr]
    refine wp_storeQuery hmissing ?_
    exact .of_ne (by decide)
  | some r =>
    obtain ⟨task, htask, -⟩ := getTaskDetail_of_loads hr (h.tasks.locals _ _ r hr).loads
    refine wp_storeQuery htask ?_
    simp only [Txn.orFail, Txn.wp_pure]
    rw [Txn.wp_require]
    exact ⟨fun _ => hQ task r hr, fun _ => .of_ne (by decide)⟩

omit [World] in
theorem operationMarker_ne (caller : CallerContext) (taskId version : ℕ) (operationId : Uuid) :
    operationMarker caller taskId version operationId ≠ "" := by
  have hend : ∀ s : String, s ++ "]" ≠ "" := by
    intro s h
    have hlen := congrArg String.length h
    rw [String.length_append] at hlen
    have hone : "]".length = 1 := by decide
    have hzero : "".length = 0 := by decide
    omega
  exact hend _

theorem operationPayload_spec {active : ActiveIntegration} {command : ExternalCommand}
    {Q : ExternalOperationKind × Option ℕ × Option ℕ × OperationPayload → Tx → Prop}
    (h : DbInv t.db t.tick)
    (hQ : ∀ kind taskId version payload t', t'.db = t.db → t.tick ≤ t'.tick →
      (∀ id, taskId = some id → ∃ r, t.db.tasks.get? (caller.workspace, id) = some r) →
      (∀ m, payload.marker? = some m → m ≠ "") → Q (kind, taskId, version, payload) t') :
    Txn.wp (operationPayload caller active command) Q (CodeExcused t.db) t := by
  unfold operationPayload
  cases command with
  | importTask operationId provider externalId =>
    exact hQ _ _ _ _ t rfl le_rfl (by simp) (by simp [OperationPayload.marker?])
  | link operationId taskId version provider externalId replace =>
    simp only [Txn.wp_bind, Txn.wp_pure]
    refine requireTaskVersion_spec h fun task r hr => ?_
    refine requireNoBlockingOperation_spec ?_
    refine hQ _ _ _ _ t rfl le_rfl ?_ (by simp [OperationPayload.marker?])
    intro id hid
    cases hid
    exact ⟨r, hr⟩
  | publish operationId taskId version provider kind reportId =>
    simp only [Txn.wp_bind, Store.wp_newUuid]
    rw [Txn.wp_require]
    refine ⟨fun _ => ?_, fun _ => .of_ne (by decide)⟩
    refine requireTaskVersion_spec h fun task r hr => ?_
    refine requireNoBlockingOperation_spec ?_
    have htask : ∀ id, some taskId = some id →
        ∃ r, t.db.tasks.get? (caller.workspace, id) = some r := by
      intro id hid
      cases hid
      exact ⟨r, hr⟩
    have hmarker := operationMarker_ne caller taskId version operationId
    cases kind with
    | issue =>
      simp only [Txn.wp_bind, Txn.wp_pure, validateExternalBody]
      rw [Txn.wp_require]
      refine ⟨fun _ => ?_, fun _ => .of_ne (by decide)⟩
      rw [Txn.wp_require]
      refine ⟨fun _ => ?_, fun _ => .of_ne (by decide)⟩
      refine hQ _ _ _ _ _ rfl (Nat.le_succ _) htask ?_
      intro m hm
      cases hm
      exact hmarker
    | report =>
      simp only [Txn.wp_bind, Txn.wp_pure, validateExternalBody, loadReportSnapshot, Store.wp_read]
      rw [Txn.wp_orFail]
      refine ⟨fun reportId _ => ?_, fun _ => .of_ne (by decide)⟩
      rw [Txn.wp_orFail]
      refine ⟨fun link _ => ?_, fun _ => .of_ne (by decide)⟩
      rw [Txn.wp_orFail]
      refine ⟨fun report _ => ?_, fun _ => .of_ne (by decide)⟩
      rw [Txn.wp_require]
      refine ⟨fun _ => ?_, fun _ => .of_ne (by decide)⟩
      refine hQ _ _ _ _ _ rfl (Nat.le_succ _) htask ?_
      intro m hm
      cases hm
      exact hmarker

theorem prepareExternalOperation_spec {active : ActiveIntegration} {command : ExternalCommand}
    (h : DbInv t.db t.tick) (hactor : ValidActor caller.actorId)
    (hworkspace : ∃ row, t.db.workspaces.get? caller.workspace = some row) :
    Txn.wp (prepareExternalOperation caller active command)
      (fun prepared t' => Prepared t t' caller.workspace prepared.event) (CodeExcused t.db) t := by
  unfold prepareExternalOperation
  rw [Txn.wp_bind, Store.wp_read]
  split
  · next code heq =>
    refine .of_ne ?_
    rintro rfl
    unfold replayExternalOperation at heq
    split at heq
    · cases heq
    · split at heq <;> cases heq
  · next summary heq =>
    simp only [Txn.wp_bind, wp_nowInstant, Txn.wp_pure]
    exact ⟨(Advance.refl h).draw (Nat.le_succ _), by simp⟩
  · next heq =>
    have hunused : t.db.operations.get? (caller.workspace, command.operationId) = none := by
      unfold replayExternalOperation at heq
      split at heq
      · assumption
      · split at heq <;> cases heq
    simp only [Txn.wp_bind]
    rw [Txn.wp_require]
    refine ⟨fun _ => ?_, fun _ => .of_ne (by decide)⟩
    refine operationPayload_spec h ?_
    intro kind taskId version payload t₁ hdb hle htask hmarker
    rw [Txn.wp_require]
    refine ⟨fun hsize => ?_, fun _ => .of_ne (by decide)⟩
    simp only [Store.wp_nowMillis, liftCode, Txn.wp_mapError, wp_nowInstant,
      Txn.wp_pure]
    obtain ⟨db, tick⟩ := t₁
    simp only at hdb hle
    subst hdb
    obtain ⟨row, hrow⟩ := hworkspace
    let operation : OperationRow :=
      { actorId := caller.actorId, provider := command.provider, ns := active.connection.ns, kind,
        taskId, sourceVersion := version, requestHash := command, payload, phase := .prepared,
        status := .running, externalId := none, url := none, error := none,
        createdAt := World.now tick, updatedAt := World.now tick }
    have hok : operationOk t.db (caller.workspace, command.operationId) operation = true := by
      have hall : (taskId.all fun id => t.db.tasks.contains (caller.workspace, id)) = true := by
        cases hid : taskId with
        | none => rfl
        | some id => simpa using htask id hid
      simp only [operationOk, operation, hall, Bool.and_true]
      exact hsize
    refine Store.wp_insertRow (fun _ _ => ?_) ?_
    · have hdrawn : Advance t { db := t.db, tick := tick + 1 } [] noAttempt :=
        (Advance.refl h).draw (by omega)
      have hnew : OperationInv t.db (caller.workspace, command.operationId) operation :=
        ⟨hsize, by simp [operation], hmarker, htask, row, hrow⟩
      have hop := Advance.of_external (t := { db := t.db, tick := tick + 1 })
        (setOperations (t.db.operations.put _ operation) t.db) hdrawn.inv
        ⟨rfl, rfl, rfl, rfl, rfl, rfl, rfl, rfl, rfl⟩ (h.external.put_operation hnew)
      refine appendIntegrationEvent_spec hop.inv hactor hrow ?_ ?_ ?_
      · intro id hid
        obtain ⟨r, hr⟩ := htask id hid
        exact (TaskRow.check_iff.mp (h.tasks.locals _ _ r hr).check).1
      · intro e t₂ h₂ hkind hw _
        refine commit_spec h₂.inv.tasks ⟨?_, by simpa using ⟨hkind, hw⟩⟩
        have := ((hdrawn.then hop).then h₂).draw (Nat.le_succ _)
        simpa using this
      · intro hfull _
        exact JournalFull.exhausted (w := caller.workspace) hfull
    · rintro (⟨v, hv⟩ | hfalse)
      · exact absurd (hunused.symm.trans hv) (by simp)
      · exact absurd (hok.symm.trans hfalse) (by decide)

/-- An update that keeps the payload and the task of an operation does not fail. -/
theorem updateOperation_spec {key : WorkspaceName × Uuid} {p : OperationRow → Bool}
    {f : OperationRow → OperationRow} {Q : ℕ → Tx → Prop} {E : StoreError → Prop}
    (h : DbInv t.db t.tick) (hpayload : ∀ r, (f r).payload = r.payload ∧ (f r).taskId = r.taskId)
    (hphase : ∀ r, p r = true → (f r).status = .running → (f r).phase ≠ .terminal)
    (hQ : ∀ n t', Advance t t' [] noAttempt → t'.db.workspaces = t.db.workspaces →
      t'.db.tasks = t.db.tasks →
      (∀ k, k ≠ key → t'.db.operations.get? k = t.db.operations.get? k) →
      (∀ r', t'.db.operations.get? key = some r' → p r' = false ∨ ∃ r, r' = f r) → Q n t') :
    Txn.wp (updateOperation key p f) Q E t := by
  refine Store.wp_updateRow
    (fun hnone => hQ 0 t (.refl h) rfl rfl (fun _ _ => rfl) fun r' hr' => .inl (hnone r' hr')) ?_ ?_
  · intro r hr hp _
    have hi := h.external.operations key r hr
    refine hQ 1 _ (.of_external _ h ⟨rfl, rfl, rfl, rfl, rfl, rfl, rfl, rfl, rfl⟩ ?_) rfl rfl
      (fun k hk => Table.get?_put_ne _ _ hk) fun r' hr' => .inr ⟨r, ?_⟩
    rotate_left
    · rw [setOperations, Table.get?_put_self] at hr'
      exact (Option.some.inj hr').symm
    refine h.external.put_operation
      { check := ?_
        phase := hphase r hp
        marker := by rw [(hpayload r).1]; exact hi.marker
        task := by rw [(hpayload r).2]; exact hi.task
        workspace := hi.workspace }
    unfold OperationRow.check
    rw [(hpayload r).1]
    exact hi.check
  · intro r hr hp hfalse
    have hi := h.external.operations key r hr
    have hok : operationOk t.db key (f r) = true := by
      have hall : ((f r).taskId.all fun id => t.db.tasks.contains (key.1, id)) = true := by
        rw [(hpayload r).2]
        cases hid : r.taskId with
        | none => rfl
        | some id => simpa using hi.task id hid
      have hcheck : (f r).check = true := by
        unfold OperationRow.check
        rw [(hpayload r).1]
        exact hi.check
      simp [operationOk, hall, hcheck]
    exact absurd (hok.symm.trans hfalse) (by decide)

/-- The events a prepared resolution announces. -/
def ResolutionPreparation.events : ResolutionPreparation → List WorkspaceEvent
  | .completed completion => completion.taskEvent.toList ++ [completion.event]
  | .replay .. | .verify _ => []

theorem completeNotAppliedResolution_spec {operation : ExternalOperationSummary}
    {resolutionId : Uuid} {note : String} {requestHash : ResolutionRequest} {row : OperationRow}
    (h : DbInv t.db t.tick) (hactor : ValidActor caller.actorId)
    (hworkspace : ∃ row, t.db.workspaces.get? caller.workspace = some row)
    (hrow : t.db.operations.get? (caller.workspace, operation.id) = some row)
    (htask : operation.taskId = row.taskId) (hnote : note ≠ "" ∧ note.utf8ByteSize ≤ 4096)
    (hunused : t.db.resolutions.get? (caller.workspace, resolutionId) = none)
    (hopen : resolutionReceipt t.db caller.workspace operation.id = none) :
    Txn.wp (completeNotAppliedResolution caller operation resolutionId note requestHash)
      (fun c t' => Completed t t' caller.workspace c.taskEvent c.event) (CodeExcused t.db) t := by
  have hdrawn := (Advance.refl h).draw (Nat.le_succ _)
  have hi := h.external.operations _ row hrow
  obtain ⟨wrow, hwrow⟩ := hworkspace
  unfold completeNotAppliedResolution insertResolution liftCode
  simp only [Txn.wp_bind, Store.wp_nowMillis, Txn.wp_mapError, Txn.wp_pure]
  have hok : resolutionOk t.db (caller.workspace, resolutionId)
      { operationId := operation.id, resolverActorId := caller.actorId, requestHash,
        outcome := .notApplied, externalId := none, note,
        createdAt := World.now t.tick } = true := by
    have hpos : 1 ≤ note.utf8ByteSize := by
      rw [Nat.one_le_iff_ne_zero]
      intro hzero
      exact hnote.1 (String.utf8ByteSize_eq_zero_iff.mp hzero)
    have hcontains : t.db.operations.contains (caller.workspace, operation.id) = true := by
      simpa using ⟨row, hrow⟩
    simp only [resolutionOk, ResolutionRow.check, hcontains, Bool.and_true, Bool.and_eq_true,
      decide_eq_true_eq, List.all_eq_true, Bool.or_eq_true]
    refine ⟨⟨hpos, hnote.2⟩, fun e he => .inr ?_⟩
    unfold resolutionReceipt at hopen
    rw [Option.map_eq_none_iff, List.find?_eq_none] at hopen
    rw [Bool.not_eq_true']
    simpa only [Bool.not_eq_true] using hopen e he
  refine Store.wp_insertRow (fun _ _ => ?_) ?_
  · have hinserted : Advance { t with tick := t.tick + 1 } (Tx.mk (setResolutions
        (t.db.resolutions.put (caller.workspace, resolutionId)
          { operationId := operation.id, resolverActorId := caller.actorId, requestHash,
            outcome := .notApplied, externalId := none, note, createdAt := World.now t.tick })
        t.db) (t.tick + 1)) [] noAttempt := by
      refine .of_external _ hdrawn.inv ⟨rfl, rfl, rfl, rfl, rfl, rfl, rfl, rfl, rfl⟩ ?_
      refine
        { operations := fun key r hr => ?_
          resolutions := fun key q hq => ?_
          bindings := h.external.bindings }
      · have hj := h.external.operations key r hr
        exact ⟨hj.check, hj.phase, hj.marker, hj.task, hj.workspace⟩
      · change (t.db.resolutions.put _ _).get? key = some q at hq
        rw [Table.get?_put] at hq
        split at hq
        · next hk =>
          subst hk
          cases hq
          exact ⟨row, hrow⟩
        · exact h.external.resolutions key q hq
    refine updateOperation_spec hinserted.inv (fun _ => ⟨rfl, rfl⟩) ?_ ?_
    · intro r _ hrun
      cases hrun
    intro n t₁ h₁ hws _ _ _
    rw [Txn.wp_require]
    refine ⟨fun _ => ?_, fun _ => .of_ne (by decide)⟩
    have hwrow₁ : t₁.db.workspaces.get? caller.workspace = some wrow := by
      rw [hws]
      exact hwrow
    refine appendIntegrationEvent_spec h₁.inv hactor hwrow₁ ?_ ?_ ?_
    · intro id hid
      simp only [htask] at hid
      obtain ⟨r, hr⟩ := hi.task id hid
      exact (TaskRow.check_iff.mp (h.tasks.locals _ _ r hr).check).1
    · intro e t₂ h₂ hkind hw _
      refine commit_spec h₂.inv.tasks ⟨?_, by simp, hkind, hw⟩
      have := ((hdrawn.then hinserted).then h₁).then h₂
      simpa using this
    · intro hfull _
      obtain ⟨row', hrow', hmax⟩ := hfull
      rw [hws] at hrow'
      exact JournalFull.exhausted ⟨row', hrow', hmax⟩
  · rintro (⟨v, hv⟩ | hfalse)
    · exact absurd (hunused.symm.trans hv) (by simp)
    · exact absurd (hok.symm.trans hfalse) (by decide)

theorem prepareExternalResolution_spec {active : ActiveIntegration}
    {operationId resolutionId : Uuid}
    {outcome : ExternalResolutionOutcome} {externalId : Option String} {note : String}
    (h : DbInv t.db t.tick) (hactor : ValidActor caller.actorId)
    (hworkspace : ∃ row, t.db.workspaces.get? caller.workspace = some row) :
    Txn.wp (prepareExternalResolution caller active operationId resolutionId outcome
    externalId note)
      (fun r t' => Advance t t' r.events noAttempt ∧
        ∀ e ∈ r.events, e.kind = .task ∨ e.kind = .integration) (CodeExcused t.db) t := by
  unfold prepareExternalResolution
  simp only [Txn.wp_bind]
  rw [Txn.wp_require]
  refine ⟨fun hnote => ?_, fun _ => .of_ne (by decide)⟩
  simp only [Bool.and_eq_true, decide_eq_true_eq] at hnote
  refine requireResolver_advance ?_ (.of_ne (by decide))
  rw [Store.wp_read]
  split
  · next id row heq =>
    simp only [Txn.wp_bind, Store.wp_read, Txn.wp_pure]
    rw [Txn.wp_require]
    refine ⟨fun _ => ?_, fun _ => .of_ne (by decide)⟩
    -- A stored resolution names a stored operation, so both lookups succeed.
    unfold resolutionReceipt at heq
    obtain ⟨⟨key, q⟩, hfind, hpair⟩ := Option.map_eq_some_iff.mp heq
    have hmem := List.mem_of_find?_eq_some hfind
    have hp := List.find?_some hfind
    simp only [Bool.and_eq_true, decide_eq_true_eq] at hp
    rw [Table.mem_toList] at hmem
    obtain ⟨o, ho⟩ := h.external.resolutions key q hmem
    rw [hp.1, hp.2] at ho
    have hsummary : operationSummary t.db caller.workspace operationId =
        some (operationSummaryOf operationId o) := by
      simp [operationSummary, ho]
    rw [hsummary]
    simp only [Txn.orFail, Txn.wp_pure]
    obtain ⟨resolution, hres⟩ : ∃ resolution, loadResolution t.db caller.workspace operationId =
        some resolution := by
      unfold loadResolution
      rw [hfind]
      exact ⟨_, rfl⟩
    rw [hres]
    exact ⟨.refl h, by simp [ResolutionPreparation.events]⟩
  · next hopen =>
    simp only [Txn.wp_bind, Store.wp_read]
    rw [Txn.wp_require]
    refine ⟨fun hused => ?_, fun _ => .of_ne (by decide)⟩
    rw [Txn.wp_orFail]
    refine ⟨fun row hrow => ?_, fun _ => .of_ne (by decide)⟩
    rw [Txn.wp_require]
    refine ⟨fun _ => ?_, fun _ => .of_ne (by decide)⟩
    rw [Txn.wp_require]
    refine ⟨fun _ => ?_, fun _ => .of_ne (by decide)⟩
    cases outcome with
    | notApplied =>
      simp only [Txn.wp_bind, Txn.wp_pure]
      rw [Txn.wp_require]
      refine ⟨fun _ => ?_, fun _ => .of_ne (by decide)⟩
      have hunused : t.db.resolutions.get? (caller.workspace, resolutionId) = none := by
        simpa [Table.contains] using hused
      refine Txn.wp_mono (completeNotAppliedResolution_spec h hactor hworkspace hrow rfl
        hnote hunused hopen) ?_ fun _ h => h
      intro c t' hc
      refine ⟨hc.advance, ?_⟩
      intro e he
      simp only [ResolutionPreparation.events, List.mem_append, List.mem_singleton] at he
      rcases he with he | rfl
      · exact .inl (hc.task e he).1
      · exact .inr hc.operation.1
    | applied =>
      simp only [Txn.wp_bind, Txn.wp_pure, wp_nowInstant]
      rw [Txn.wp_orFail]
      refine ⟨fun _ _ => ?_, fun _ => .of_ne (by decide)⟩
      rw [Txn.wp_orFail]
      refine ⟨fun marker hmarker => ?_, fun _ => .of_ne (by decide)⟩
      rw [Txn.wp_require]
      refine ⟨fun _ => ?_, fun hempty => ?_⟩
      · exact ⟨(Advance.refl h).draw (Nat.le_succ _), by simp [ResolutionPreparation.events]⟩
      · exact absurd hempty
          (by simpa using (h.external.operations _ row hrow).marker marker hmarker)

end

section targets

variable [World] {caller : CallerContext} {active : ActiveIntegration} {t : Tx}

/-- The payload of an operation is about the task that its command names. -/
theorem operationPayload_taskId (command : ExternalCommand) :
    Txn.wp (operationPayload caller active command) (fun r _ => r.2.1 = command.taskId)
      (fun _ => True) t := by
  unfold operationPayload
  cases command with
  | importTask operationId provider externalId => exact rfl
  | link operationId taskId version provider externalId replace =>
    exact Txn.wp_bind_any fun _ _ => Txn.wp_bind_any fun _ _ => rfl
  | publish operationId taskId version provider kind reportId =>
    refine Txn.wp_bind_any fun _ _ => Txn.wp_bind_any fun task _ => Txn.wp_bind_any fun _ _ =>
      Txn.wp_bind_any fun _ _ => ?_
    cases kind with
    | issue =>
      simp only [Txn.wp_bind, Txn.wp_pure, validateExternalBody, Txn.wp_require]
      exact ⟨fun _ => ⟨fun _ => rfl, fun _ => trivial⟩, fun _ => trivial⟩
    | report =>
      refine Txn.wp_bind_any fun _ _ => Txn.wp_bind_any fun _ _ => Txn.wp_bind_any fun _ _ => ?_
      simp only [Txn.wp_bind, Txn.wp_pure, validateExternalBody, Txn.wp_require]
      exact ⟨fun _ => rfl, fun _ => trivial⟩

/-- A new operation works on what its command names, and a worker has to carry it out. -/
theorem prepareExternalOperation_target {command : ExternalCommand}
    (hnew : replayExternalOperation t.db caller command = .ok none) :
    Txn.wp (prepareExternalOperation caller active command)
      (fun prepared _ => prepared.workspace = caller.workspace ∧
        prepared.summary.taskId = command.taskId ∧
        prepared.summary.provider = command.provider ∧ prepared.payload.isNone = false)
      (fun _ => True) t := by
  unfold prepareExternalOperation
  rw [Txn.wp_bind, Store.wp_read, hnew]
  refine Txn.wp_bind_any fun _ t => ?_
  rw [Txn.wp_bind]
  refine Txn.wp_mono (operationPayload_taskId command) ?_ fun _ h => h
  rintro ⟨kind, taskId, version, payload⟩ t₁ htask
  refine Txn.wp_bind_any fun _ _ => Txn.wp_bind_any fun _ _ => Txn.wp_bind_any fun _ _ =>
    Txn.wp_bind_any fun _ _ => Txn.wp_bind_any fun _ _ => Txn.wp_bind_any fun _ _ => ?_
  exact ⟨rfl, htask, rfl, rfl⟩

/-- A resolution to verify belongs to the workspace of its caller. -/
theorem prepareExternalResolution_workspace {operationId resolutionId : Uuid}
    {outcome : ExternalResolutionOutcome} {externalId : Option String} {note : String} :
    Txn.wp (prepareExternalResolution caller active operationId resolutionId outcome externalId
      note) (fun preparation _ => ∀ prepared, preparation = .verify prepared →
        prepared.workspace = caller.workspace) (fun _ => True) t := by
  unfold prepareExternalResolution
  refine Txn.wp_bind_any fun _ _ => Txn.wp_bind_any fun _ _ => Txn.wp_bind_any fun receipt _ => ?_
  cases receipt with
  | some receipt =>
    refine Txn.wp_bind_any fun _ _ => Txn.wp_bind_any fun _ _ => Txn.wp_bind_any fun _ _ =>
      Txn.wp_bind_any fun _ _ => Txn.wp_bind_any fun _ _ => ?_
    rintro _ ⟨⟩
  | none =>
    refine Txn.wp_bind_any fun _ _ => Txn.wp_bind_any fun _ _ => Txn.wp_bind_any fun _ _ =>
      Txn.wp_bind_any fun row _ => Txn.wp_bind_any fun _ _ => Txn.wp_bind_any fun _ _ => ?_
    cases outcome with
    | notApplied =>
      refine Txn.wp_bind_any fun _ _ => Txn.wp_bind_any fun _ _ => ?_
      rintro _ ⟨⟩
    | applied =>
      refine Txn.wp_bind_any fun _ _ => Txn.wp_bind_any fun _ _ => Txn.wp_bind_any fun _ _ =>
        Txn.wp_bind_any fun _ _ => ?_
      rintro _ ⟨⟩
      rfl

end targets

end SessionRouter
