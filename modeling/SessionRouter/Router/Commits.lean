import SessionRouter.Router.Routine

/-!
The transactions of the router. Whatever the loop handles, the database changes only by committing
one of the transactions listed here, so a property of every transaction is a property of every run.
-/

namespace SessionRouter

section

variable [World]

/-- The transactions that neither redeem an invitation nor change the bindings. -/
inductive PlainCall : {ε α : Type} → Store ε α → Prop
  | appendEvent (insert : EventInsert) : PlainCall (appendEvent insert)
  | appendRequest (insert : EventInsert) : PlainCall (appendRequest insert)
  | appendChat (workspace : WorkspaceName) (actorId requestId content : String) :
      PlainCall (appendChatIdempotent workspace actorId requestId content)
  | createWorkspace (name : WorkspaceName) : PlainCall (createWorkspace name)
  | generateCredential (role : CredentialRole) (subject : String) (agentSide : Option AgentSide)
      (agentClient : Option AgentClient) (workspaces : List WorkspaceName) :
      PlainCall (generateCredential role subject agentSide agentClient workspaces)
  | insertCredential (credential : CredentialFile) : PlainCall (insertCredential credential)
  | revokeCredential (id : Uuid) : PlainCall (revokeCredentialRow id)
  | issueInvite (workspace : WorkspaceName) (create : Bool) (provider : Option OnboardingProvider)
      (now : ℕ) : PlainCall (issueOnboardingInvite workspace create provider now)
  | revokeInvite (inviteId : Uuid) (now : ℕ) : PlainCall (revokeOnboardingInvite inviteId now)
  | applyTask (caller : CallerContext) (command : TaskCommand) :
    PlainCall (applyTask caller command)
  | interruptAttempt (attemptId : Uuid) (reason : PauseReason) :
      PlainCall (interruptAttempt attemptId reason)
  | recordStopped (workspace : WorkspaceName) (taskId : ℕ) (attemptId endedSessionId : Uuid)
      (agentId : String) (credentialId : Uuid) (reason : PauseReason) :
      PlainCall (recordExecutionStopped workspace taskId attemptId endedSessionId agentId
        credentialId reason)
  | prepareOperation (caller : CallerContext) (active : ActiveIntegration)
      (command : ExternalCommand) : PlainCall (prepareExternalOperation caller active command)
  | prepareResolution (caller : CallerContext) (active : ActiveIntegration)
      (operationId resolutionId : Uuid) (outcome : ExternalResolutionOutcome)
      (externalId : Option String) (note : String) :
      PlainCall (prepareExternalResolution caller active operationId resolutionId outcome
        externalId note)
  | validateOperation (active : ActiveIntegration) (prepared : PreparedExternalOperation) :
      PlainCall (validateExternalSnapshot active prepared false)
  | completeRead (prepared : PreparedExternalOperation) (issue : ExternalIssue) :
      PlainCall (completeExternalRead prepared issue)
  | completeMutation (prepared : PreparedExternalOperation) (mutation : ExternalMutation) :
      PlainCall (completeExternalMutation prepared mutation)
  | completeError (prepared : PreparedExternalOperation) (error : IntegrationClientError) :
      PlainCall (completeExternalError prepared error)
  | failOperation (prepared : PreparedExternalOperation) (error : String) :
      PlainCall (terminalExternalError prepared .failed error)
  | validateResolution (active : ActiveIntegration) (prepared : PreparedExternalResolution) :
      PlainCall (validateResolutionSnapshot active prepared)
  | completeResolution (prepared : PreparedExternalResolution) (mutation : ExternalMutation) :
      PlainCall (completeAppliedResolution prepared mutation)
  | recover : PlainCall recover
  | recoverInflight : PlainCall recoverExternalInflight
  | bootstrapAdmin : PlainCall bootstrapAdmin
  | serverId : PlainCall serverIdConnection

/-- The transactions the router runs on its store. -/
inductive Call : {ε α : Type} → Store ε α → Prop
  | plain {ε α : Type} {x : Store ε α} (h : PlainCall x) : Call x
  | redeem (request : EnrollmentRequest) (now : ℕ) : Call (redeemOnboarding request now)
  | applyCatalog (connections : List IntegrationConnection) (tick : ℕ)
      (hread : World.catalog tick = some connections) : Call (applyCatalog connections)
  | disableBindings : Call (disableBindings fun r => { r with enabled := false })

/-- A relation that allows the writes of the tables holds across every plain transaction. -/
theorem PlainCall.moves {R : Db → Db → Prop} [Std.Refl R] [IsTrans Db R] {ε α : Type}
    {x : Store ε α} (h : PlainCall x) (hexternal : ExternalWrites R) (hadmin : AdminWrites R) :
    x.Moves (OnDb R) := by
  have htasks := hexternal.toBlindTasks
  have hjournal := htasks.toBlindJournal
  cases h with
  | appendEvent => exact appendEvent_moves hjournal _
  | appendRequest => exact appendRequest_moves hjournal _
  | appendChat => exact appendChatIdempotent_moves hjournal _ _ _ _
  | createWorkspace => exact createWorkspace_moves hjournal _
  | generateCredential => exact generateCredential_moves _ _ _ _ _
  | insertCredential => exact insertCredential_moves hadmin _
  | revokeCredential => exact revokeCredentialRow_moves hadmin _
  | issueInvite => exact issueOnboardingInvite_moves hadmin _ _ _ _
  | revokeInvite => exact revokeOnboardingInvite_moves hadmin _ _
  | applyTask => exact applyTask_moves htasks _ _
  | interruptAttempt => exact interruptAttempt_moves htasks _ _
  | recordStopped => exact recordExecutionStopped_moves htasks _ _ _ _ _ _ _
  | prepareOperation => exact prepareExternalOperation_moves hexternal _ _ _
  | prepareResolution => exact prepareExternalResolution_moves hexternal _ _ _ _ _ _ _
  | validateOperation => exact validateExternalSnapshot_moves hexternal _ _ _
  | completeRead => exact completeExternalRead_moves hexternal _ _
  | completeMutation => exact completeExternalMutation_moves hexternal _ _
  | completeError => exact completeExternalError_moves hexternal _ _
  | failOperation => exact terminalExternalError_moves hexternal _ (by decide) _
  | validateResolution => exact validateResolutionSnapshot_moves _ _
  | completeResolution => exact completeAppliedResolution_moves hexternal _ _
  | recover => exact recover_moves hexternal
  | recoverInflight => exact recoverExternalInflight_moves hexternal
  | bootstrapAdmin =>
    refine .bind (Store.read_moves _) fun _ => .ite (.bind ?_ fun _ => ?_) (.pure _)
    · exact .mapError (generateCredential_moves _ _ _ _ _) _
    · exact insertCredential_moves hadmin _
  | serverId => exact serverIdConnection_moves

/-- The store draws from the world or commits a transaction. A publication is marked as dispatched
only in a state in which it has just been validated. -/
inductive StoreStep : RouterStore → RouterStore → Prop
  | draw {s : RouterStore} {tick : ℕ} (hle : s.tick ≤ tick) : StoreStep s { s with tick }
  | dispatch {s : RouterStore} {active : ActiveIntegration} {prepared : PreparedExternalOperation}
      {event : WorkspaceEvent} {t : Tx}
      (hvalid : validateExternalSnapshot active prepared false { db := s.db, tick := s.tick } =
        .ok ((), { db := s.db, tick := s.tick }))
      (hok : markExternalDispatched prepared { db := s.db, tick := s.tick } = .ok (event, t)) :
      StoreStep s { db := t.db, tick := t.tick, journal := t.db :: s.journal }
  | call {ε α : Type} {x : Store ε α} {s : RouterStore} {a : α} {t : Tx} (hcall : Call x)
      (hok : x { db := s.db, tick := s.tick } = .ok (a, t)) :
      StoreStep s { db := t.db, tick := t.tick, journal := t.db :: s.journal }

/-- A run of the store. -/
def StoreSteps : RouterStore → RouterStore → Prop := Relation.ReflTransGen StoreStep

instance : Std.Refl StoreSteps := ⟨fun _ => .refl⟩

instance : IsTrans RouterStore StoreSteps := ⟨fun _ _ _ hab hbc => hab.trans hbc⟩

/-- A relation that looks at nothing. -/
theorem keepsNothing_external : ExternalWrites (Keeps fun _ => ()) where
  events _ _ := rfl
  workspaces _ _ := rfl
  tasks _ _ := rfl
  attempts _ _ := rfl
  reports _ _ := rfl
  mutations _ _ := rfl
  insertOperation _ _ _ _ := rfl
  updateOperation _ _ _ _ _ _ := rfl
  resolution _ _ _ _ _ := rfl
  link _ _ _ _ := rfl

theorem keepsNothing_admin : BlindAdmin (Keeps fun _ => ()) where
  events _ _ := rfl
  workspaces _ _ := rfl
  credentials _ _ := rfl
  invites _ _ := rfl

/-- Whatever the store does, the readings it takes next are later. -/
theorem StoreStep.tick {s s' : RouterStore} (h : StoreStep s s') : s.tick ≤ s'.tick := by
  cases h with
  | draw hle => exact hle
  | dispatch _ hok => exact (markExternalDispatched_moves keepsNothing_external _ _ _ _ hok).tick
  | call hcall hok =>
    cases hcall with
    | plain hplain =>
      exact (hplain.moves keepsNothing_external keepsNothing_admin.writes _ _ _ hok).tick
    | redeem => exact (redeemOnboarding_moves keepsNothing_admin _ _ _ _ _ hok).tick
    | applyCatalog =>
      exact (applyCatalog_moves keepsNothing_admin.toBlindJournal (fun _ _ => rfl) _ _ _ _ hok).tick
    | disableBindings =>
      exact (disableBindings_moves (R := Keeps fun _ => ()) (fun _ _ => rfl) _ _ _ _ hok).tick

theorem StoreSteps.tick {s s' : RouterStore} (h : StoreSteps s s') : s.tick ≤ s'.tick := by
  induction h with
  | refl => exact le_rfl
  | tail _ hone ih => exact ih.trans hone.tick

/-- The store of a state is moved by transactions alone. -/
def Commits (s s' : RouterState) : Prop := StoreSteps s.store s'.store

instance : Std.Refl Commits := ⟨fun _ => .refl⟩

instance : IsTrans RouterState Commits := ⟨fun _ _ _ hab hbc => Relation.ReflTransGen.trans hab hbc⟩

end

section

variable [World] {ε α : Type}

theorem transaction_commits {x : Store ε α} (hx : Call x) :
    (transaction x).Moves StoreSteps := by
  intro s
  unfold transaction
  cases hok : x { db := s.db, tick := s.tick } with
  | error e => exact .refl
  | ok r => exact .single (.call (a := r.1) (t := r.2) hx hok)

/-- What follows a read of the configuration knows what was read. -/
theorem loadCatalog_moves {e : ε} {f : List IntegrationConnection → Session ε α}
    (h : ∀ tick connections, World.catalog tick = some connections →
      (f connections).Moves StoreSteps) :
    (loadCatalog >>= fun connections => Actor.orFail e connections >>= f).Moves StoreSteps := by
  intro s
  have hdraw : StoreSteps s { s with tick := s.tick + 1 } := .single (.draw (Nat.le_succ _))
  change StoreSteps s
    ((Actor.orFail e (World.catalog s.tick) >>= f) { s with tick := s.tick + 1 }).2
  cases hread : World.catalog s.tick with
  | none => exact hdraw
  | some connections => exact IsTrans.trans _ _ _ hdraw (h s.tick connections hread _)

theorem reloadCatalog_moves : reloadCatalog.Moves StoreSteps :=
  loadCatalog_moves fun tick connections hread =>
    transaction_commits (.applyCatalog connections tick hread)

theorem registryLoad_moves : (IntegrationRegistry.load : Session ε _).Moves StoreSteps := by
  refine .bind (.outcome (loadCatalog_moves fun tick connections hread =>
    .mapError (transaction_commits (.applyCatalog connections tick hread)) _)) fun applied => ?_
  cases applied with
  | ok r => exact .pure _
  | error e => exact .bind (.outcome (transaction_commits .disableBindings)) fun _ => .pure _

theorem boot_moves : boot.Moves StoreSteps :=
  .bind (transaction_commits (.plain .recover)) fun _ =>
  .bind (transaction_commits (.plain .bootstrapAdmin)) fun _ =>
    .bind (transaction_commits (.plain .serverId)) fun _ => .bind registryLoad_moves fun _ =>
    .bind (.read _) fun _ =>
    .bind (.modify _ fun _ => .single (.draw (Nat.le_succ _))) fun _ => .pure _

theorem RoutineCall.plain {x : Store ε α} (h : RoutineCall x) : PlainCall x := by
  cases h <;> constructor

instance : Routine Commits where
  draw hle := .single (.draw hle)
  call h hok := .single (.call (.plain h.plain) hok)
  memory h _ _ := by
    change StoreSteps _ _
    rw [h]
    exact .refl
  forget _ _ := .refl

namespace Router

theorem inSession_commits {x : Session ε α} (h : x.Moves StoreSteps) :
    (inSession x).Moves Commits := fun s => h s.store

theorem inStore_commits {x : Store ε α} (hx : Call x) : (inStore x).Moves Commits :=
  inSession_commits (transaction_commits hx)

theorem inMemory_commits {f : RouterState → RouterState} (h : ∀ s, (f s).store = s.store) :
    (Actor.modify f : Router ε Unit).Moves Commits := fun s => by
  change StoreSteps s.store (f s).store
  rw [h]
  exact .refl

end Router

end

namespace Router

section gate

variable [World]

/-- Validating an operation writes nothing and draws nothing. -/
theorem validateExternalSnapshot_still (active : ActiveIntegration)
    (prepared : PreparedExternalOperation) :
    (validateExternalSnapshot active prepared false).Moves Eq := by
  refine .bind (.require _ _) fun _ => .bind (.read _) fun _ =>
    .bind (.orFail _ _) fun _ => .bind (.require _ _) fun _ => ?_
  cases prepared.payload with
  | none => exact .fail _
  | some payload =>
    refine .bind (.read _) fun found => ?_
    cases found with
    | some code => exact .fail _
    | none => exact .pure _

/-- A publication that was validated in the present state may be marked as dispatched. -/
theorem markDispatched_commits {s : RouterState} {active : ActiveIntegration}
    {prepared : PreparedExternalOperation}
    (hvalid : validateExternalSnapshot active prepared false { db := s.db, tick := s.tick } =
      .ok ((), { db := s.db, tick := s.tick })) :
    Commits s (inStore (markExternalDispatched prepared) s).2 := by
  change StoreSteps s.store (transaction (markExternalDispatched prepared) s.store).2
  unfold transaction
  cases hok : markExternalDispatched prepared { db := s.store.db, tick := s.store.tick } with
  | error e => exact .refl
  | ok r => exact .single (.dispatch (t := r.2) hvalid hok)

theorem passGate_commits (prepared : PreparedExternalOperation) :
    (passGate prepared).Moves Commits := by
  refine .bind (.read _) fun _ => .bind (.require _ _) fun _ => .bind nowInstant_moves fun _ =>
    .bind (.require _ _) fun _ => .bind (ask_moves _) fun active => .of_wp fun s => ?_
  rw [Actor.wp_bind, Router.wp_inStore]
  refine Txn.wp_of (fun a t hok => ?_) fun e _ => .refl
  have hvalidated : Commits s (s.commit t) := .single (.call (.plain (.validateOperation _ _)) hok)
  obtain rfl := validateExternalSnapshot_still active prepared _ _ _ hok
  rw [Actor.wp_state (P := fun s' => Commits s s')]
  exact IsTrans.trans _ _ _ hvalidated (markDispatched_commits hok)

end gate

end Router

section

variable [World]

/-- A routine relation that looks at the store and the message budgets alone, and that holds across
the transactions of external operations and enrollments. -/
class Working (T : RouterState → RouterState → Prop) : Prop extends Routine T where
  beside : ∀ {s s' : RouterState}, s'.store = s.store →
    s'.credentialBuckets = s.credentialBuckets → T s s'
  plain : ∀ {ε α : Type} {x : Store ε α}, PlainCall x → (Router.inStore x).Moves T
  redeem : ∀ request now, (Router.inStore (redeemOnboarding request now)).Moves T
  reload : (Router.inSession reloadCatalog).Moves T
  pass : ∀ prepared, (Router.passGate prepared).Moves T

instance : Working Commits where
  beside h _ := by
    change StoreSteps _ _
    rw [h]
    exact .refl
  plain hx := Router.inStore_commits (.plain hx)
  redeem _ _ := Router.inStore_commits (.redeem _ _)
  reload := Router.inSession_commits reloadCatalog_moves
  pass := Router.passGate_commits

end

namespace Router

section external

variable [World] {T : RouterState → RouterState → Prop} [Working T]

theorem inMemory_works {ε : Type} {f : RouterState → RouterState}
    (h : ∀ s, (f s).store = s.store ∧ (f s).credentialBuckets = s.credentialBuckets) :
    (Actor.modify f : Router ε Unit).Moves T := fun s => Working.beside (h s).1 (h s).2

theorem inStore_works {ε α : Type} {x : Store ε α} (hx : PlainCall x) : (inStore x).Moves T :=
  Working.plain hx

theorem reserve_works (slot : Option (WorkspaceName × ℕ × ExternalProvider)) :
    (reserve slot).Moves T := inMemory_works fun _ => ⟨rfl, rfl⟩

theorem release_works {ε : Type} (slot : Option (WorkspaceName × ℕ × ExternalProvider)) :
    (release slot : Router ε Unit).Moves T := inMemory_works fun _ => ⟨rfl, rfl⟩

theorem spawn_works (worker : Worker) : (spawn worker).Moves T := inMemory_works fun _ => ⟨rfl, rfl⟩

theorem prepareReserved_works (caller : CallerContext) (active : ActiveIntegration)
    (command : ExternalCommand) (slot : Option (WorkspaceName × ℕ × ExternalProvider)) :
    (prepareReserved caller active command slot).Moves T := by
  refine .bind (reserve_works _) fun _ =>
    .bind (.outcome (inStore_works (.prepareOperation _ _ _))) fun result => ?_
  cases result with
  | ok prepared => exact .pure _
  | error code => exact .bind (release_works _) fun _ => .fail _

theorem integrationCheck_works (id : Uuid) (generation : ℕ) (requestId : String)
    (workspace : WorkspaceName) (provider : ExternalProvider) :
    (integrationCheck id generation requestId workspace provider).Moves T :=
  .bind (requireOperator_moves _) fun _ => .bind (authorizeWorkspace_moves _ _) fun _ =>
    .bind .get fun _ => .bind (requireThat_moves _ _) fun _ =>
    .bind (activeBinding_moves _ _ _) fun _ =>
    .bind (requireThat_moves _ _) fun _ => .bind (reserve_works _) fun _ => spawn_works _

theorem reloadRegistry_works : reloadRegistry.Moves T :=
  .bind (.mapError Working.reload _) fun _ =>
    .bind (inMemory_works fun _ => ⟨rfl, rfl⟩) fun _ => .bind (.read _) fun _ => .pure _

theorem renewClient_works : renewClient.Moves T := by
  refine .bind (.read _) fun _ => .ite ?_ (inMemory_works fun _ => ⟨rfl, rfl⟩)
  exact .bind drawTick_moves fun _ => .bind (requireThat_moves _ _) fun _ =>
    inMemory_works fun _ => ⟨rfl, rfl⟩

theorem integrationReload_works (id : Uuid) (generation : ℕ) (requestId : String) :
    (integrationReload id generation requestId).Moves T :=
  .bind (requireAdmin_moves _) fun _ => .bind reloadRegistry_works fun _ =>
    .bind renewClient_works fun _ => .bind (send_moves _ _ _) fun _ => fanoutAll_moves _

theorem externalStart_works (id : Uuid) (generation : ℕ) (requestId : String)
    (workspace : WorkspaceName) (command : ExternalCommand) :
    (externalStart id generation requestId workspace command).Moves T := by
  refine .bind (requireWorkspaceMatch_moves _ _) fun _ => .bind (ask_moves _) fun _ =>
    .bind (ask_moves _) fun replayed => ?_
  cases replayed with
  | some operation => exact .bind (send_moves _ _ _) fun _ => .pure _
  | none =>
    exact .bind (activeBinding_moves _ _ _) fun _ => .bind (requireIntegrationSlot_moves _) fun _ =>
      .bind (prepareReserved_works _ _ _ _) fun _ => .bind (send_moves _ _ _) fun _ =>
      .bind (fanoutAll_moves _) fun _ => .ite (release_works _) (spawn_works _)

theorem externalResolve_works (id : Uuid) (generation : ℕ) (requestId : String)
    (workspace : WorkspaceName) (operationId resolutionId : Uuid)
    (outcome : ExternalResolutionOutcome) (externalId : Option String) (note : String) :
    (externalResolve id generation requestId workspace operationId resolutionId outcome externalId
      note).Moves T := by
  refine .bind (requireOperator_moves _) fun _ => .bind (authorizeWorkspace_moves _ _) fun _ =>
    .bind (.read _) fun _ => .bind (.orFail _ _) fun _ => .bind (activeBinding_moves _ _ _) fun _ =>
    .bind (ask_moves _) fun _ =>
    .bind (.mapError (inStore_works (.prepareResolution _ _ _ _ _ _ _)) _) fun prepared => ?_
  cases prepared with
  | replay operation resolution => exact .bind (send_moves _ _ _) fun _ => .pure _
  | completed completion =>
    exact .bind (send_moves _ _ _) fun _ => .bind (fanoutAll_moves _) fun _ =>
      lift_moves (fanout_moves _)
  | verify prepared =>
    exact .bind (requireIntegrationSlot_moves _) fun _ => .bind (reserve_works _) fun _ =>
      spawn_works _

theorem integrationCheckFinished_works (id : Uuid) (generation : ℕ) (requestId : String)
    (workspace : WorkspaceName) (provider : ExternalProvider)
    (result : Except IntegrationClientError Unit) :
    (integrationCheckFinished id generation requestId workspace provider result).Moves T := by
  refine .bind (inMemory_works fun _ => ⟨rfl, rfl⟩) fun _ => .bind .get fun s => ?_
  dsimp only
  split
  · exact .bind (send_moves _ _ _) fun _ => .pure _
  · exact sendError_moves _ _ _ _

theorem externalGate_works (prepared : PreparedExternalOperation) :
    (externalGate prepared).Moves T := by
  refine .bind (.outcome (Working.pass _)) fun result => ?_
  cases result with
  | ok event => exact .bind (fanout_moves _) fun _ => .pure _
  | error _ => exact .pure _

theorem recordResult_works (prepared : PreparedExternalOperation) (result : ExternalWorkerResult) :
    (recordResult prepared result).Moves T := by
  cases result with
  | read issue =>
    exact .bind (ask_moves _) fun _ => .bind (inStore_works (.validateOperation _ _)) fun _ =>
      inStore_works (.completeRead _ _)
  | mutation mutation => exact inStore_works (.completeMutation _ _)
  | clientError error => exact inStore_works (.completeError _ _)
  | gateDenied code => exact inStore_works (.failOperation _ _)

theorem failOperation_works (prepared : PreparedExternalOperation) (code : RouterErrorCode) :
    (failOperation prepared code).Moves T :=
  .mapError (inStore_works (.failOperation _ _)) _

theorem externalFinished_works (prepared : PreparedExternalOperation)
    (result : ExternalWorkerResult) :
    (Router.externalFinished prepared result).Moves T := by
  have htail : ∀ completion : ExternalCompletion,
      ((Actor.forEach fanout completion.taskEvent.toList) >>= fun _ =>
        fanout completion.event).Moves T :=
    fun _ => .bind (.forEach fanout_moves _) fun _ => fanout_moves _
  refine .bind (release_works _) fun _ => .bind (.outcome (recordResult_works _ _))
    fun recorded => ?_
  cases recorded with
  | ok completion => exact htail completion
  | error code => exact .bind (failOperation_works _ _) htail

theorem applyResolution_works (prepared : PreparedExternalResolution)
    (mutation : ExternalMutation) : (applyResolution prepared mutation).Moves T :=
  .bind (ask_moves _) fun _ => .bind (inStore_works (.validateResolution _ _)) fun _ =>
    inStore_works (.completeResolution _ _)

theorem resolutionFinished_works (id : Uuid) (generation : ℕ) (requestId : String)
    (prepared : PreparedExternalResolution)
    (result : Except IntegrationClientError ExternalMutation) :
    (Router.resolutionFinished id generation requestId prepared result).Moves T := by
  refine .bind (release_works _) fun _ => ?_
  cases result with
  | error error => exact sendError_moves _ _ _ _
  | ok mutation =>
    refine .bind (.outcome (applyResolution_works _ _)) fun applied => ?_
    cases applied with
    | error code => exact sendError_moves _ _ _ _
    | ok completion =>
      exact .bind (send_moves _ _ _) fun _ => .bind (.forEach fanout_moves _) fun _ =>
        fanout_moves _

end external

section reports

variable [World] {T : RouterState → RouterState → Prop} [Working T]

theorem enroll_works (request : EnrollmentRequest) (expired : Bool) :
    (enroll request expired).Moves T :=
  .bind (.read _) fun _ => .ite (.pure _) (.bind nowMillis_moves fun _ =>
    .bind (.outcome (Working.redeem _ _)) fun _ => .pure _)

theorem finishWorker_works (index : ℕ) {handle : Worker → Option (Router StoreError Unit)}
    (h : ∀ worker report, handle worker = some report → report.Moves T) :
    (finishWorker index handle).Moves T := by
  refine .bind (.read _) fun found => ?_
  cases hfound : found.bind handle with
  | none => exact .pure _
  | some report =>
    obtain ⟨worker, -, hworker⟩ := Option.bind_eq_some_iff.mp hfound
    exact .bind (inMemory_works fun _ => ⟨rfl, rfl⟩) fun _ => h worker report hworker

theorem answerGate_works (index : ℕ) : (answerGate index).Moves T := by
  refine .bind (.read _) fun found => ?_
  split
  · exact .ite (.bind (externalGate_works _) fun _ => inMemory_works fun _ => ⟨rfl, rfl⟩) (.pure _)
  · exact .pure _

instance : Handled T where
  enroll := enroll_works
  check := integrationCheck_works
  reload := integrationReload_works
  start := externalStart_works
  resolve := externalResolve_works
  checkFinished index result := by
    refine .bind (finishWorker_works _ fun worker report h => ?_) fun _ => .pure _
    cases worker with
    | check => exact Option.some.inj h ▸ integrationCheckFinished_works _ _ _ _ _ _
    | operation => cases h
    | resolution => cases h
  gate index := .bind (answerGate_works _) fun _ => .pure _
  finished index result := by
    refine .bind (finishWorker_works _ fun worker report h => ?_) fun _ => .pure _
    cases worker with
    | check => cases h
    | operation prepared gated =>
      dsimp only at h
      split at h
      · exact Option.some.inj h ▸ externalFinished_works _ _
      · cases h
    | resolution => cases h
  resolved index result := by
    refine .bind (finishWorker_works _ fun worker report h => ?_) fun _ => .pure _
    cases worker with
    | check => cases h
    | operation => cases h
    | resolution => exact Option.some.inj h ▸ resolutionFinished_works _ _ _ _ _

end reports

section loops

variable [World]

instance : Charged Commits where
  charge _ := .bind nowInstant_moves fun _ => .bind (.read _) fun _ =>
    .bind (inMemory_commits fun _ => rfl) fun _ => .pure _

theorem epilogue_moves : epilogue.Moves Commits :=
  .bind (.outcome (inStore_commits (.plain .recoverInflight))) fun _ => closeAll_moves

end loops

end Router

section runs

variable [World]

/-- What the store `s'` committed since `s`, the latest first, followed by the database of `s`. -/
def RouterStore.since (s s' : RouterStore) : List Db := s'.journal ++ [s.db]

/-- The database `db'` is committed right after `db` somewhere in a run. -/
inductive Transition (db db' : Db) : Prop
  | boot {disk : Db} {tick : ℕ} (h : Reachable (.down disk tick))
      (hpair : [db', db] <:+: (openStore disk tick).since (boot (openStore disk tick)).2)
  | step {s : RouterState} {input : Input} (h : Reachable (.up s))
      (hpair : [db', db] <:+: s.store.since (step s input).2.store)
  | stop {s s' : RouterState} {input : Input} (h : Reachable (.up s))
      (hstep : step s input = (false, s'))
      (hpair : [db', db] <:+: s.store.since (Router.epilogue s').2.store)

omit [World] in
theorem pair_infix_cons {α : Type} {a b x : α} {l : List α} (h : [b, a] <:+: x :: l) :
    (x = b ∧ l.head? = some a) ∨ [b, a] <:+: l := by
  rcases List.infix_cons_iff.mp h with hbelow | hinfix
  · obtain ⟨rest, hrest⟩ := hbelow
    obtain ⟨rfl, hl⟩ := List.cons.inj hrest
    exact .inl ⟨rfl, by rw [← hl]; rfl⟩
  · exact .inr hinfix

/-- The commits of a run of the store come from its steps one by one. -/
theorem StoreSteps.pairs {s s' : RouterStore} (h : StoreSteps s s') (hs : s.journal = []) :
    (s.since s').head? = some s'.db ∧
      ∀ db db', [db', db] <:+: s.since s' →
        ∃ a b : RouterStore, StoreStep a b ∧ a.db = db ∧ b.db = db' := by
  induction h with
  | refl =>
    rw [RouterStore.since, hs]
    refine ⟨rfl, fun db db' hpair => ?_⟩
    have hlength := hpair.length_le
    simp at hlength
  | tail _ hstep ih =>
    obtain ⟨hhead, hpairs⟩ := ih
    have hcommit : ∀ {a b : RouterStore}, StoreStep a b → (s.since a).head? = some a.db →
        (∀ db db', [db', db] <:+: s.since a →
          ∃ a b : RouterStore, StoreStep a b ∧ a.db = db ∧ b.db = db') →
        b.journal = b.db :: a.journal → (s.since b).head? = some b.db ∧
          ∀ db db', [db', db] <:+: s.since b →
            ∃ a b : RouterStore, StoreStep a b ∧ a.db = db ∧ b.db = db' := by
      intro a b hab hhead hpairs hjournal
      have hsince : s.since b = b.db :: s.since a := by
        simp only [RouterStore.since, hjournal, List.cons_append]
      rw [hsince]
      refine ⟨rfl, fun db db' hpair => ?_⟩
      rcases pair_infix_cons hpair with ⟨hdb', hdb⟩ | hinfix
      · exact ⟨a, b, hab, Option.some.inj (hhead.symm.trans hdb), hdb'⟩
      · exact hpairs db db' hinfix
    cases hstep with
    | draw hle => exact ⟨hhead, hpairs⟩
    | dispatch hvalid hok => exact hcommit (.dispatch hvalid hok) hhead hpairs rfl
    | call hcall hok => exact hcommit (.call hcall hok) hhead hpairs rfl

theorem StoreSteps.commits_subset {s s' : RouterStore} (h : StoreSteps s s')
    (hs : s.journal = []) : commits s' ⊆ s.since s' := by
  intro db hdb
  rcases List.mem_cons.mp hdb with rfl | hmem
  · exact List.mem_of_mem_head? (h.pairs hs).1
  · exact List.mem_append_left _ hmem

omit [World] in
/-- A store that went from `s` to `s'` has gone through every database it committed. -/
theorem since_reaches {s s' : RouterStore} {R : Db → Db → Prop}
    (h : ∀ db db', [db', db] <:+: s.since s' → R db db') {db : Db} (hdb : db ∈ s.since s') :
    Relation.ReflTransGen R s.db db := by
  unfold RouterStore.since at h hdb
  generalize s'.journal = l at h hdb
  induction l generalizing db with
  | nil =>
    obtain rfl := List.mem_singleton.mp hdb
    exact .refl
  | cons x l ih =>
    have hl : ∀ {db}, db ∈ l ++ [s.db] → Relation.ReflTransGen R s.db db :=
      ih fun a b hpair => h a b (List.infix_cons hpair)
    rcases List.mem_cons.mp hdb with rfl | hmem
    · cases hl' : l ++ [s.db] with
      | nil => simp at hl'
      | cons y rest =>
        rw [hl'] at hl
        refine .tail (hl List.mem_cons_self) (h y db ?_)
        exact List.IsPrefix.isInfix ⟨rest, by simp [hl']⟩
    · exact hl hmem

theorem step_commits (s : RouterState) (input : Input) :
    StoreSteps s.resume.store (step s input).2.store := by
  have hround := (Router.round_moves (T := Commits) input) s.resume
  unfold step
  rcases hr : Router.round input s.resume with ⟨result, s'⟩
  rw [hr] at hround
  cases result with
  | ok stop => exact hround
  | error e => exact hround

theorem stop_commits {s s' : RouterState} {input : Input} (h : step s input = (false, s')) :
    StoreSteps s.resume.store (Router.epilogue s').2.store := by
  have hround := step_commits s input
  rw [h] at hround
  exact Relation.ReflTransGen.trans hround (Router.epilogue_moves s')

/-- Whatever follows a database in a run was committed by a transaction on it. -/
theorem Transition.storeStep {db db' : Db} (h : Transition db db') :
    ∃ a b : RouterStore, StoreStep a b ∧ a.db = db ∧ b.db = db' := by
  cases h with
  | boot _ hpair => exact (StoreSteps.pairs (boot_moves _) rfl).2 db db' hpair
  | step _ hpair => exact (StoreSteps.pairs (step_commits _ _) rfl).2 db db' hpair
  | stop _ hstep hpair => exact (StoreSteps.pairs (stop_commits hstep) rfl).2 db db' hpair

omit [World] in
theorem mem_of_pair {α : Type} {a b : α} {l : List α} (h : [b, a] <:+: l) : a ∈ l ∧ b ∈ l :=
  ⟨h.subset (by simp), h.subset (by simp)⟩

/-- What a transition leads from and to is sound. -/
theorem Transition.dbInv {db db' : Db} (h : Transition db db') :
    (∃ tick, DbInv db tick) ∧ ∃ tick, DbInv db' tick := by
  have hsince : ∀ {s s' : RouterStore} {tick : ℕ}, DbInv s.db tick → StoreInv s' →
      [db', db] <:+: s.since s' → (∃ tick, DbInv db tick) ∧ ∃ tick, DbInv db' tick := by
    intro s s' tick hs hs' hpair
    have hmem : ∀ d ∈ s.since s', ∃ tick, DbInv d tick := by
      intro d hd
      rcases List.mem_append.mp hd with hd | hd
      · exact ⟨_, hs'.journal d hd⟩
      · exact ⟨tick, List.mem_singleton.mp hd ▸ hs⟩
    exact ⟨hmem db (mem_of_pair hpair).1, hmem db' (mem_of_pair hpair).2⟩
  cases h with
  | @boot disk tick hdown hpair =>
    have hb := boot_spec (openStore disk tick) ⟨hdown.db, by simp [openStore]⟩
    have hstore := Actor.wp_state.mp (Actor.wp_mono hb (fun _ _ h => h.1) fun _ _ h => h)
    exact hsince hdown.db hstore hpair
  | step hup hpair =>
    exact hsince hup.good.base.store.db (step_spec _ hup.good fun hF => hF.elim).1 hpair
  | @stop s s' input hup hstep hpair =>
    have hs := (step_spec input hup.good fun hF => hF.elim).1
    rw [hstep] at hs
    exact hsince hup.good.base.store.db (epilogue_spec hs) hpair

/-- Every database of a run is reached by the transactions of the run. -/
theorem Reachable.transitions {p : Process} (h : Reachable p) :
    Relation.ReflTransGen Transition initialDb p.db := by
  induction h with
  | create => exact .refl
  | @start db tick integrations client store hdown hboot ih =>
    have hstore := boot_moves (openStore db tick)
    refine ih.trans (since_reaches (fun _ _ hpair => .boot hdown hpair)
      ((hstore.commits_subset rfl) ?_))
    rw [hboot]
    exact List.mem_cons_self
  | @startCrash db db' tick hdown hdb ih =>
    exact ih.trans (since_reaches (fun _ _ hpair => .boot hdown hpair)
      (((boot_moves _).commits_subset rfl) hdb))
  | @step s s' input hup _ hstep ih =>
    refine ih.trans (since_reaches (s := s.store) (fun _ _ hpair => .step hup hpair)
      (((step_commits s input).commits_subset rfl) ?_))
    rw [hstep]
    exact List.mem_cons_self
  | halt _ ih => exact ih
  | crash hup _ hdb ih =>
    exact ih.trans (since_reaches (fun _ _ hpair => .step hup hpair)
      (((step_commits _ _).commits_subset rfl) hdb))
  | stop hup _ hstep hdb ih =>
    exact ih.trans (since_reaches (fun _ _ hpair => .stop hup hstep hpair)
      (((stop_commits hstep).commits_subset rfl) hdb))

end runs

end SessionRouter
