import SessionRouter.Integrations.CatalogSpec
import SessionRouter.Router.TaskSpec

/-!
The integration handlers and the reports of their workers keep the invariant. They touch only the
journal and the external tables, so no request and no running attempt depends on them.
-/

namespace SessionRouter

variable [World] {s : RouterState} {g : Phase} {F X : Prop}

/-- A commit that starts and stops nothing. -/
theorem Good.commit {t : Tx} {es : List WorkspaceEvent} (h : Good g s)
    (hadv : Advance s.store.tx t es noAttempt)
    (hkinds : ∀ e ∈ es, e.kind ≠ .request ∧ e.kind ≠ .result) : Good g (s.commit t) :=
  h.stored (.commit h.base.store hadv) (fun _ => .none _ s) hkinds

section guards

variable {id : Uuid} {Q : Unit → RouterState → Prop}

theorem requireOperator_spec (h : Good (.rest F) s) (hQ : Q () s) :
    Actor.wp (Router.requireOperator id) Q (Refused F X) s := by
  unfold Router.requireOperator
  rw [Actor.wp_bind, Actor.wp_read]
  exact guard_requireThat h (by simp) fun _ => hQ

theorem requireAdmin_spec (h : Good (.rest F) s) (hQ : Q () s) :
    Actor.wp (Router.requireAdmin id) Q (Refused F X) s := by
  unfold Router.requireAdmin
  rw [Actor.wp_bind, Actor.wp_read]
  exact guard_requireThat h (by simp) fun _ => hQ

theorem requireRegistered_spec (h : Good (.rest F) s) (hQ : Q () s) :
    Actor.wp (Router.requireRegistered id) Q (Refused F X) s := by
  unfold Router.requireRegistered
  rw [Actor.wp_bind, Actor.wp_read]
  exact guard_requireThat h (by simp) fun _ => hQ

omit [World] in
theorem binding_error {registry : IntegrationRegistry} {workspace : WorkspaceName}
    {provider : ExternalProvider} {code : RouterErrorCode}
    (h : registry.binding workspace provider = .error code) : code ≠ .storageError := by
  unfold IntegrationRegistry.binding at h
  split at h
  · cases h
    simp
  · split at h
    · cases h
    · cases h
      simp

omit [World] in
theorem mapError_error {ε ε' α : Type} {f : ε → ε'} {x : Except ε α} {e : ε'}
    (h : x.mapError f = .error e) : ∃ e₀, x = .error e₀ ∧ f e₀ = e := by
  cases x with
  | error e₀ =>
    cases h
    exact ⟨e₀, rfl, rfl⟩
  | ok a => cases h

theorem activeBinding_spec {workspace : WorkspaceName} {provider : ExternalProvider}
    {operationId : Option Uuid} {Q : ActiveIntegration → RouterState → Prop}
    (h : Good (.rest F) s) (hQ : ∀ active, Q active s) :
    Actor.wp (Router.activeBinding workspace provider operationId) Q (Refused F X) s := by
  unfold Router.activeBinding
  refine guard_ask h (fun e he => ?_) fun active _ => hQ active
  obtain ⟨code, hcode, rfl⟩ := mapError_error he
  exact binding_error hcode

theorem requireIntegrationSlot_spec {slot : Option (WorkspaceName × ℕ × ExternalProvider)}
    (h : Good (.rest F) s) (hQ : Q () s) :
    Actor.wp (Router.requireIntegrationSlot slot) Q (Refused F X) s := by
  unfold Router.requireIntegrationSlot
  simp only [Actor.wp_bind, Actor.wp_get]
  refine guard_requireThat h (by simp) fun _ => ?_
  refine guard_requireThat h (by simp) fun _ => ?_
  exact guard_requireThat h (by simp) fun _ => hQ

omit [World] in
/-- The slots, the workers and the registry are no part of the invariant. -/
theorem quiet_beside {requests : ℕ} {slots : List (WorkspaceName × ℕ × ExternalProvider)}
    {workers : List Worker} {integrations : IntegrationRegistry} {client : Bool} :
    Quiet s { s with
      integrationRequests := requests
      integrationTaskSlots := slots
      workers := workers
      integrations := integrations
      integrationClient := client } :=
  ⟨rfl, rfl, le_rfl, rfl, rfl, rfl, rfl, rfl, fun hs => hs⟩

end guards

section handlers

variable {id : Uuid} {generation : ℕ} {requestId : String} {workspace : WorkspaceName}

theorem integrationList_spec (h : Good (.rest F) s) :
    Handles F X (Router.integrationList id generation requestId workspace) s := by
  unfold Handles Router.integrationList
  simp only [Actor.wp_bind, Actor.wp_pure]
  refine requireWorkspaceMatch_spec h fun _ => ?_
  refine guard_ask h (fun e he => ?_) fun _ _ => ?_
  · obtain ⟨code, hcode, rfl⟩ := mapError_error he
    unfold IntegrationRegistry.list at hcode
    split at hcode
    · cases hcode
      simp [Router.externalError]
    · cases hcode
  · exact Router.send_spec fun _ _ hq => h.quiet hq

theorem integrationCheck_spec {provider : ExternalProvider} (h : Good (.rest F) s) :
    Handles F X (Router.integrationCheck id generation requestId workspace provider) s := by
  unfold Handles Router.integrationCheck
  simp only [Actor.wp_bind]
  refine requireOperator_spec h ?_
  refine authorizeWorkspace_spec h fun _ _ _ => ?_
  rw [Actor.wp_get]
  refine guard_requireThat h (by simp) fun _ => ?_
  refine activeBinding_spec h fun _ => ?_
  refine guard_requireThat h (by simp) fun _ => ?_
  exact h.quiet quiet_beside

theorem reloadRegistry_spec (h : Good (.rest F) s)
    {Q : List IntegrationPublic × List WorkspaceEvent → RouterState → Prop}
    (hQ : ∀ r s', Good (.rest F) s' → Q r s') :
    Actor.wp Router.reloadRegistry Q (Refused F X) s := by
  unfold Router.reloadRegistry
  simp only [Actor.wp_bind, Actor.wp_mapError, Actor.wp_read, Actor.wp_modify, Actor.wp_pure]
  rw [Router.wp_inSession]
  refine Actor.wp_mono (reloadCatalog_spec h.base.store) ?_ ?_
  · rintro ⟨active, events⟩ store ⟨hstore, hadv, hkinds⟩
    have hs : Stored s { s with store } events noAttempt :=
      ⟨hadv, hstore, rfl, rfl, rfl, rfl, rfl, rfl⟩
    have h₁ := h.stored hs (fun _ => .none _ s) fun e he => by simp [hkinds e he]
    exact hQ _ _ (h₁.quiet quiet_beside)
  · rintro code store ⟨hstore, hdb, htick, hexcused⟩
    have hadv : Advance s.store.tx store.tx [] noAttempt := by
      refine ⟨hstore.db, htick, ?_, .of_eq ?_⟩
      · simp only [RouterStore.tx, hdb]
        exact .refl _
      · simp only [RouterStore.tx, hdb]
    have hs : Stored s { s with store } [] noAttempt :=
      ⟨hadv, hstore, rfl, rfl, rfl, rfl, rfl, rfl⟩
    refine .of_exhausted (h.stored hs (fun _ => .none _ s) (by simp)) fun hcode => .inl ?_
    change Exhausted store.db
    rw [hdb]
    exact hexcused hcode

theorem renewClient_spec (h : Good (.rest F) s) {Q : Unit → RouterState → Prop}
    (hQ : ∀ s', Good (.rest F) s' → Q () s') :
    Actor.wp Router.renewClient Q (Refused F X) s := by
  unfold Router.renewClient
  rw [Actor.wp_bind, Actor.wp_read, Actor.wp_ite]
  refine ⟨fun _ => ?_, fun _ => hQ _ (h.quiet quiet_beside)⟩
  simp only [Actor.wp_bind]
  refine Router.drawTick_spec fun t s₁ hq _ _ => ?_
  have h₁ := h.quiet hq
  refine guard_requireThat h₁ (by simp) fun _ => ?_
  exact hQ _ (h₁.quiet quiet_beside)

theorem integrationReload_spec (h : Good (.rest F) s) :
    Handles F X (Router.integrationReload id generation requestId) s := by
  unfold Handles Router.integrationReload
  simp only [Actor.wp_bind]
  refine requireAdmin_spec h ?_
  refine reloadRegistry_spec h fun r s₁ h₁ => ?_
  refine renewClient_spec h₁ fun s₂ h₂ => ?_
  exact Router.send_spec fun _ s₃ hq => fanoutAll_handled (h₂.quiet hq)

theorem externalStatusReply_spec {operationId : Uuid} (h : Good (.rest F) s) :
    Handles F X (Router.externalStatusReply id generation requestId workspace operationId) s := by
  unfold Handles Router.externalStatusReply
  simp only [Actor.wp_bind, Actor.wp_pure]
  refine requireWorkspaceMatch_spec h fun _ => ?_
  rw [Actor.wp_read]
  refine guard_orFail h (by simp) fun _ _ => ?_
  exact Router.send_spec fun _ _ hq => h.quiet hq

theorem externalCallerContext_spec (h : Good (.rest F) s)
    {Q : CallerContext → RouterState → Prop}
    (hQ : ∀ caller, ValidActor caller.actorId → caller.workspace = workspace → Q caller s) :
    Actor.wp (Router.externalCallerContext id workspace) Q (Refused F X) s := by
  unfold Router.externalCallerContext
  refine guard_ask h (fun _ he => callerOf_error he) fun caller hcaller => ?_
  unfold Router.callerOf at hcaller
  dsimp only at hcaller
  split at hcaller
  · cases hcaller
  split at hcaller
  · cases hcaller
  cases hactor : s.actorId id with
  | error e =>
    rw [hactor] at hcaller
    cases hcaller
  | ok actorId =>
    rw [hactor] at hcaller
    cases hcaller
    exact hQ _ (h.base.actor_valid hactor) rfl

theorem prepareReserved_spec {caller : CallerContext} {active : ActiveIntegration}
    {command : ExternalCommand} {slot : Option (WorkspaceName × ℕ × ExternalProvider)}
    (h : Good (.rest F) s) (hactor : ValidActor caller.actorId)
    (hworkspace : ∃ row, s.db.workspaces.get? caller.workspace = some row)
    {Q : PreparedExternalOperation → RouterState → Prop}
    (hQ : ∀ prepared s', Good (.rest F) s' → Q prepared s') :
    Actor.wp (Router.prepareReserved caller active command slot) Q (Refused F X) s := by
  unfold Router.prepareReserved
  simp only [Actor.wp_bind, Actor.wp_outcome]
  have h₁ : Good (.rest F) { s with
      integrationRequests := s.integrationRequests + 1
      integrationTaskSlots := slot.elim s.integrationTaskSlots s.integrationTaskSlots.insert } :=
    h.quiet quiet_beside
  change Actor.wp (Router.inStore _) _ _ _
  rw [Router.wp_inStore]
  refine Txn.wp_mono (prepareExternalOperation_spec h₁.base.store.db hactor hworkspace) ?_ ?_
  · intro prepared t hprepared
    exact hQ prepared _ (h₁.commit hprepared.advance fun e he => by simp [(hprepared.event e he).1])
  · intro code hcode
    refine .of_exhausted (h₁.quiet quiet_beside) fun hstorage => .inl ?_
    exact hcode hstorage

omit [World] in
theorem replayExternalOperation_error {db : Db} {caller : CallerContext}
    {command : ExternalCommand} {code : RouterErrorCode}
    (h : replayExternalOperation db caller command = .error code) : code ≠ .storageError := by
  unfold replayExternalOperation at h
  split at h
  · cases h
  · split at h
    · cases h
      simp
    · cases h

theorem externalStart_spec {command : ExternalCommand} (h : Good (.rest F) s) :
    Handles F X (Router.externalStart id generation requestId workspace command) s := by
  unfold Handles Router.externalStart
  simp only [Actor.wp_bind]
  refine requireWorkspaceMatch_spec h fun hw => ?_
  refine externalCallerContext_spec h fun caller hactor hworkspace => ?_
  refine guard_ask h (fun e he => ?_) fun replayed _ => ?_
  · obtain ⟨code, hcode, rfl⟩ := mapError_error he
    exact replayExternalOperation_error hcode
  cases replayed with
  | some operation =>
    simp only [Actor.wp_bind, Actor.wp_pure]
    exact Router.send_spec fun _ _ hq => h.quiet hq
  | none =>
    simp only [Actor.wp_bind]
    refine activeBinding_spec h fun active => ?_
    refine requireIntegrationSlot_spec h ?_
    refine prepareReserved_spec h hactor (hworkspace ▸ h.base.workspace_exists hw)
      fun prepared s₁ h₁ => ?_
    refine Router.send_spec fun _ s₂ hq => ?_
    refine Actor.wp_mono (fanoutAll_handled (h₁.quiet hq)) (fun _ s₃ h₃ => ?_) fun _ _ he => he
    rw [Actor.wp_ite]
    exact ⟨fun _ => h₃.quiet quiet_beside, fun _ => h₃.quiet quiet_beside⟩

theorem externalResolve_spec {operationId resolutionId : Uuid}
    {outcome : ExternalResolutionOutcome} {externalId : Option String} {note : String}
    (h : Good (.rest F) s) :
    Handles F X (Router.externalResolve id generation requestId workspace operationId resolutionId
      outcome externalId note) s := by
  unfold Handles Router.externalResolve
  simp only [Actor.wp_bind]
  refine requireOperator_spec h ?_
  refine authorizeWorkspace_spec h fun _ _ _ => ?_
  rw [Actor.wp_read]
  refine guard_orFail h (by simp) fun status hstatus => ?_
  refine activeBinding_spec h fun active => ?_
  refine externalCallerContext_spec h fun caller hactor hworkspace => ?_
  -- The workspace of a stored operation exists.
  have hrow : ∃ row, s.db.workspaces.get? caller.workspace = some row := by
    rw [hworkspace]
    unfold externalStatus at hstatus
    obtain ⟨operation, hoperation, -⟩ := Option.map_eq_some_iff.mp hstatus
    obtain ⟨r, hr, -⟩ := Option.map_eq_some_iff.mp hoperation
    exact (h.base.store.db.external.operations _ r hr).workspace
  rw [Actor.wp_mapError, Router.wp_inStore]
  refine Txn.wp_mono (prepareExternalResolution_spec h.base.store.db hactor hrow) ?_ ?_
  · rintro prepared t ⟨hadv, hkinds⟩
    have h₁ := h.commit hadv fun e he => by rcases hkinds e he with hk | hk <;> simp [hk]
    cases prepared with
    | replay operation resolution =>
      simp only [Actor.wp_bind, Actor.wp_pure]
      exact Router.send_spec fun _ _ hq => h₁.quiet hq
    | completed completion =>
      simp only [Actor.wp_bind]
      refine Router.send_spec fun _ s₂ hq => ?_
      refine Actor.wp_mono (fanoutAll_handled (h₁.quiet hq)) (fun _ s₃ h₃ => ?_) fun _ _ he => he
      exact fanout_handled h₃
    | verify prepared =>
      simp only [Actor.wp_bind]
      refine requireIntegrationSlot_spec h₁ ?_
      exact h₁.quiet quiet_beside
  · intro code hcode
    exact .of_exhausted h fun hstorage => .inl (hcode hstorage)

end handlers

section workers

variable {Q : Unit → RouterState → Prop} {E : StoreError → RouterState → Prop}

theorem release_spec {slot : Option (WorkspaceName × ℕ × ExternalProvider)} (h : Good g s)
    (hQ : ∀ s', Good g s' → Q () s') : Actor.wp (Router.release slot) Q E s :=
  hQ _ (h.quiet quiet_beside)

/-- Publications after a commit keep the invariant and do not fail. -/
theorem publishCompletion_spec {taskEvent : Option WorkspaceEvent} {event : WorkspaceEvent}
    (h : Good g s) (hQ : ∀ s', Good g s' → Q () s') :
    Actor.wp (Actor.forEach Router.fanout taskEvent.toList)
      (fun _ s' => Actor.wp (Router.fanout event) Q E s') E s := by
  refine Actor.wp_mono (fanout_spec.each h _) ?_ fun _ _ hfalse => hfalse.elim
  rintro - s₁ ⟨h₁, -⟩
  refine Actor.wp_mono (fanout_spec _ s₁ event h₁) ?_ fun _ _ hfalse => hfalse.elim
  exact fun _ s₂ h₂ => hQ s₂ h₂.1

theorem integrationCheckFinished_spec {id : Uuid} {generation : ℕ} {requestId : String}
    {workspace : WorkspaceName} {provider : ExternalProvider}
    {result : Except IntegrationClientError Unit} (h : Good g s) :
    Actor.wp (Router.integrationCheckFinished id generation requestId workspace provider result)
      (fun _ s' => Good g s') E s := by
  unfold Router.integrationCheckFinished
  simp only [Actor.wp_bind, Actor.wp_modify, Actor.wp_get]
  have h₁ : Good g { s with integrationRequests := s.integrationRequests - 1 } :=
    h.quiet quiet_beside
  split
  · simp only [Actor.wp_bind, Actor.wp_pure]
    exact Router.send_spec fun _ _ hq => h₁.quiet hq
  · exact Router.sendError_spec fun _ hq => h₁.quiet hq

theorem passGate_spec {prepared : PreparedExternalOperation} (h : Good g s) :
    Actor.wp (Router.passGate prepared) (fun _ s' => Good g s') (fun _ s' => Good g s') s := by
  unfold Router.passGate
  simp only [Actor.wp_bind, Actor.wp_read]
  rw [Actor.wp_require]
  refine ⟨fun _ => ?_, fun _ => h⟩
  refine Router.nowInstant_spec fun now s₁ hq₁ => ?_
  have h₁ := h.quiet hq₁
  rw [Actor.wp_require]
  refine ⟨fun _ => ?_, fun _ => h₁⟩
  unfold Router.currentBinding
  rw [Router.wp_ask]
  refine ⟨fun active _ => ?_, fun _ _ => h₁⟩
  rw [Router.wp_inStore]
  refine Txn.wp_mono (validateExternalSnapshot_advance h₁.base.store.db) ?_ fun _ _ => h₁
  intro _ t hadv
  have h₂ := h₁.commit hadv (by simp)
  rw [Router.wp_inStore]
  refine Txn.wp_mono (markExternalDispatched_advance h₂.base.store.db) ?_ fun _ _ => h₂
  rintro e t' ⟨hadv', hkind, -⟩
  exact h₂.commit hadv' (by simp [hkind])

theorem externalGate_spec {prepared : PreparedExternalOperation} (h : Good g s) :
    Actor.wp (Router.externalGate prepared) (fun _ s' => Good g s') E s := by
  unfold Router.externalGate
  rw [Actor.wp_bind, Actor.wp_outcome]
  refine Actor.wp_mono (passGate_spec h) ?_ fun _ _ h₁ => h₁
  intro event s₁ h₁
  simp only [Actor.wp_bind, Actor.wp_pure]
  refine Actor.wp_mono (fanout_spec _ s₁ event h₁) ?_ fun _ _ hfalse => hfalse.elim
  exact fun _ s₂ h₂ => h₂.1

theorem Completed.kinds {t t' : Tx} {workspace : WorkspaceName} {taskEvent : Option WorkspaceEvent}
    {event : WorkspaceEvent} (h : Completed t t' workspace taskEvent event) :
    ∀ e ∈ taskEvent.toList ++ [event], e.kind ≠ .request ∧ e.kind ≠ .result := by
  intro e he
  rcases List.mem_append.mp he with he | he
  · simp [(h.task e he).1]
  · rw [List.mem_singleton.mp he]
    simp [h.operation.1]

theorem recordResult_spec {prepared : PreparedExternalOperation} {result : ExternalWorkerResult}
    (h : Good g s) :
    Actor.wp (Router.recordResult prepared result) (fun _ s' => Good g s') (fun _ s' => Good g s')
      s := by
  have hcompletes : ∀ {s : RouterState} {x : Store RouterErrorCode ExternalCompletion}, Good g s →
      Txn.wp x (fun c t' => Completed s.store.tx t' prepared.workspace c.taskEvent c.event)
        (fun _ => True) s.store.tx →
      Actor.wp (Router.inStore x) (fun _ s' => Good g s') (fun _ s' => Good g s') s := by
    intro s x h hx
    rw [Router.wp_inStore]
    exact Txn.wp_mono hx (fun c t hc => h.commit hc.advance hc.kinds) fun _ _ => h
  cases result with
  | read issue =>
    unfold Router.recordResult Router.currentBinding
    rw [Actor.wp_bind, Router.wp_ask]
    refine ⟨fun active _ => ?_, fun _ _ => h⟩
    rw [Actor.wp_bind, Router.wp_inStore]
    refine Txn.wp_mono (validateExternalSnapshot_advance h.base.store.db) ?_ fun _ _ => h
    intro _ t hadv
    have h₁ := h.commit hadv (by simp)
    exact hcompletes h₁ (completeExternalRead_advance h₁.base.store.db)
  | mutation mutation => exact hcompletes h (completeExternalMutation_advance h.base.store.db)
  | clientError error => exact hcompletes h (completeExternalError_advance h.base.store.db)
  | gateDenied code =>
    exact hcompletes h (terminalExternalError_advance h.base.store.db (by simp))

theorem failOperation_spec {prepared : PreparedExternalOperation} {code : RouterErrorCode}
    (h : Good g s) :
    Actor.wp (Router.failOperation prepared code) (fun _ s' => Good g s') (fun _ s' => Good g s')
      s := by
  unfold Router.failOperation
  rw [Actor.wp_mapError, Router.wp_inStore]
  refine Txn.wp_mono (terminalExternalError_advance h.base.store.db (by simp)) ?_ fun _ _ => h
  exact fun c t hc => h.commit hc.advance hc.kinds

theorem externalFinished_spec {prepared : PreparedExternalOperation}
    {result : ExternalWorkerResult} (h : Good g s) :
    Actor.wp (Router.externalFinished prepared result) (fun _ s' => Good g s')
      (fun _ s' => Good g s') s := by
  unfold Router.externalFinished
  simp only [Actor.wp_bind, Actor.wp_outcome]
  refine release_spec h fun s₁ h₁ => ?_
  refine Actor.wp_mono (recordResult_spec h₁) ?_ ?_
  · intro completion s₂ h₂
    simp only [Actor.wp_pure]
    exact publishCompletion_spec h₂ fun _ h₃ => h₃
  · intro code s₂ h₂
    refine Actor.wp_mono (failOperation_spec h₂) ?_ fun _ _ h₃ => h₃
    exact fun completion s₃ h₃ => publishCompletion_spec h₃ fun _ h₄ => h₄

theorem applyResolution_spec {prepared : PreparedExternalResolution} {mutation : ExternalMutation}
    (h : Good g s) :
    Actor.wp (Router.applyResolution prepared mutation) (fun _ s' => Good g s')
      (fun _ s' => Good g s') s := by
  unfold Router.applyResolution Router.currentBinding
  rw [Actor.wp_bind, Router.wp_ask]
  refine ⟨fun active _ => ?_, fun _ _ => h⟩
  rw [Actor.wp_bind, Router.wp_inStore]
  refine Txn.wp_mono (validateResolutionSnapshot_advance h.base.store.db) ?_ fun _ _ => h
  intro _ t hadv
  have h₁ := h.commit hadv (by simp)
  rw [Router.wp_inStore]
  refine Txn.wp_mono (completeAppliedResolution_advance h₁.base.store.db) ?_ fun _ _ => h₁
  exact fun c t hc => h₁.commit hc.advance hc.kinds

theorem resolutionFinished_spec {id : Uuid} {generation : ℕ} {requestId : String}
    {prepared : PreparedExternalResolution}
    {result : Except IntegrationClientError ExternalMutation} (h : Good g s) :
    Actor.wp (Router.resolutionFinished id generation requestId prepared result)
      (fun _ s' => Good g s') (fun _ s' => Good g s') s := by
  unfold Router.resolutionFinished
  rw [Actor.wp_bind]
  refine release_spec h fun s₁ h₁ => ?_
  cases result with
  | error error => exact Router.sendError_spec fun _ hq => h₁.quiet hq
  | ok mutation =>
    dsimp only
    rw [Actor.wp_bind, Actor.wp_outcome]
    refine Actor.wp_mono (applyResolution_spec h₁) ?_ ?_
    · intro completion s₂ h₂
      simp only [Actor.wp_bind]
      refine Router.send_spec fun _ s₃ hq => ?_
      exact publishCompletion_spec (h₂.quiet hq) fun _ h₄ => h₄
    · intro code s₂ h₂
      exact Router.sendError_spec fun _ hq => h₂.quiet hq

end workers

end SessionRouter
