import SessionRouter.Router.ExternalSpec

/-!
Every client message keeps the invariant. A storage error has a known cause: a counter that has
run out, a title the database takes for empty, or an identifier that was drawn before.
-/

namespace SessionRouter

variable [World] {s : RouterState} {F X : Prop}

section admin

variable {id : Uuid} {generation : ℕ} {requestId : String}

/-- The credential or the token that would be drawn next is in use already. -/
def CredentialDrawn (s : RouterState) : Prop :=
  CredentialUsed s.db (World.uuid (s.tick + 1)) (World.token s.tick)

def InviteDrawn (s : RouterState) : Prop := InviteTokenUsed s.db (World.token (s.tick + 2))

theorem credentialIssue_spec {role : CredentialRole} {subject : String}
    {agentSide : Option AgentSide} {agentClient : Option AgentClient}
    {workspaces : List WorkspaceName} (h : Good (.rest F) s) (hX : CredentialDrawn s → X) :
    Handles F X (Router.credentialIssue id generation requestId role subject agentSide agentClient
      workspaces) s := by
  unfold Handles Router.credentialIssue
  simp only [Actor.wp_bind]
  refine requireAdmin_spec h ?_
  refine guard_requireThat h (by simp) fun _ => ?_
  rw [Actor.wp_read]
  refine guard_requireThat h (by simp) fun _ => ?_
  rw [Actor.wp_mapError, Router.wp_inStore]
  refine Txn.wp_mono (generateCredential_spec h.base.store.db) ?_ fun _ _ => .of_good h (by simp)
  rintro credential t ⟨rfl, hinv, hid, htoken⟩
  have h₁ : Good (.rest F) (s.commit { s.store.tx with tick := s.store.tx.tick + 2 }) :=
    h.commit ((Advance.refl h.base.store.db).draw (Nat.le_add_right _ 2)) (by simp)
  rw [Router.wp_lift, Router.wp_inStore]
  refine Txn.wp_mono (insertCredential_spec h₁.base.store.db) ?_ ?_
  · intro _ t hadv
    exact Router.send_spec fun _ _ hq => (h₁.commit hadv (by simp)).quiet hq
  · rintro e (rfl | hused)
    · exact .of_good h₁ (by decide)
    · rw [hid, htoken] at hused
      exact .of_exhausted h₁ fun _ => .inr (hX hused)

theorem credentialList_spec {after : Option Uuid} {limit : Option ℕ} (h : Good (.rest F) s) :
    Handles F X (Router.credentialList id generation requestId after limit) s := by
  unfold Handles Router.credentialList
  simp only [Actor.wp_bind, Actor.wp_pure]
  refine requireAdmin_spec h ?_
  refine guard_requireThat h (by simp) fun _ => ?_
  rw [Actor.wp_read]
  exact Router.send_spec fun _ _ hq => h.quiet hq

theorem revokeCredential_spec {g : Phase} {credentialId : Uuid} (h : Good g s) :
    Actor.wp (Router.revokeCredential credentialId) (fun _ s' => Good g s') (Failed g s) s := by
  unfold Router.revokeCredential
  rw [Actor.wp_bind, Router.wp_inStore]
  refine Txn.wp_mono (revokeCredentialRow_spec h.base.store.db) ?_ fun _ hfalse => hfalse.elim
  intro revoked t hadv
  have hs := Stored.commit (s := s) h.base.store hadv
  have h₁ := h.commit hadv (by simp)
  rw [Actor.wp_ite]
  refine ⟨fun _ => ?_, fun _ => h₁⟩
  simp only [Actor.wp_bind, Actor.wp_read, Actor.wp_pure]
  refine Router.traverse_spec fun matching s₂ hq _ => ?_
  have hkept := hs.kept.trans hq.kept
  refine Actor.wp_mono (Actor.wp_forEach (I := fun s' => Good g s' ∧ Kept s s')
    (E := Failed g s) ⟨h₁.quiet hq, hkept⟩ ?_) (fun _ _ h₃ => h₃.1) fun _ _ he => he
  rintro target - s₃ ⟨h₃, hk₃⟩
  refine Actor.wp_mono (revokeConnection_spec h₃) ?_ fun _ _ he => he.of_kept hk₃
  exact fun _ s₄ h₄ => ⟨h₄.1, hk₃.trans h₄.2⟩

theorem credentialRevoke_spec {credentialId : Uuid} (h : Good (.rest F) s) :
    Handles F X (Router.credentialRevoke id generation requestId credentialId) s := by
  unfold Handles Router.credentialRevoke
  simp only [Actor.wp_bind, Actor.wp_pure]
  refine requireAdmin_spec h ?_
  rw [Actor.wp_mapError]
  refine Actor.wp_mono (revokeCredential_spec h) ?_ ?_
  · intro revoked s₁ h₁
    refine guard_requireThat h₁ (by simp) fun _ => ?_
    exact Router.send_spec fun _ _ hq => h₁.quiet hq
  · intro e s₁ he
    exact ⟨he.base, .inr ⟨rfl, he.exhausted⟩, fun _ => .inl he.exhausted⟩

theorem onboardingInviteIssue_spec {workspace : WorkspaceName} {create : Bool}
    {provider : Option OnboardingProvider} (h : Good (.rest F) s) (hX : InviteDrawn s → X) :
    Handles F X (Router.onboardingInviteIssue id generation requestId workspace create provider)
      s := by
  unfold Handles Router.onboardingInviteIssue
  simp only [Actor.wp_bind, Actor.wp_pure]
  refine requireAdmin_spec h ?_
  change Actor.wp _ _ _ { s with store := { s.store with tick := s.tick + 1 } }
  have h₁ := h.quiet (Router.quiet_tick s)
  rw [Router.wp_lift, Router.wp_inStore]
  refine Txn.wp_mono (issueOnboardingInvite_spec h₁.base.store.db) ?_ ?_
  · intro invite t hadv
    exact Router.send_spec fun _ _ hq => (h₁.commit hadv (by simp)).quiet hq
  · rintro e (hcode | hused)
    · exact .of_good h₁ hcode
    · exact .of_exhausted h₁ fun _ => .inr (hX hused)

theorem onboardingInviteRevoke_spec {inviteId : Uuid} (h : Good (.rest F) s) :
    Handles F X (Router.onboardingInviteRevoke id generation requestId inviteId) s := by
  unfold Handles Router.onboardingInviteRevoke
  simp only [Actor.wp_bind, Actor.wp_pure]
  refine requireAdmin_spec h ?_
  refine Router.nowMillis_spec fun now s₁ hq _ => ?_
  have h₁ := h.quiet hq
  rw [Router.wp_lift, Router.wp_inStore]
  refine Txn.wp_mono (revokeOnboardingInvite_spec h₁.base.store.db) ?_ ?_
  · intro _ t hadv
    exact Router.send_spec fun _ _ hq => (h₁.commit hadv (by simp)).quiet hq
  · exact fun e hcode => .of_good h₁ hcode

theorem workspaceCreate_spec {name : WorkspaceName} (h : Good (.rest F) s) :
    Handles F X (Router.workspaceCreate id generation requestId name) s := by
  unfold Handles Router.workspaceCreate
  simp only [Actor.wp_bind, Actor.wp_pure]
  refine requireAdmin_spec h ?_
  rw [Router.wp_lift, Router.wp_inStore]
  refine Txn.wp_mono (createWorkspace_spec h.base.store.db) ?_ fun _ hfalse => hfalse.elim
  rintro ⟨createdAt, created⟩ t hadv
  have h₁ := h.commit hadv (by simp)
  refine guard_requireThat h₁ (by simp) fun _ => ?_
  exact Router.send_spec fun _ _ hq => h₁.quiet hq

theorem routerShutdown_spec (h : Good (.rest F) s) :
    Handles F X (Router.routerShutdown id generation requestId) s := by
  unfold Handles Router.routerShutdown
  simp only [Actor.wp_bind, Actor.wp_modify]
  refine requireAdmin_spec h ?_
  refine Router.send_spec fun _ s₁ hq => (h.quiet hq).quiet ?_
  exact ⟨rfl, rfl, le_rfl, rfl, rfl, rfl, rfl, rfl, fun _ => rfl⟩

theorem ping_spec (h : Good (.rest F) s) :
    Handles F X (Router.ping id generation requestId) s := by
  unfold Handles Router.ping
  simp only [Actor.wp_bind, Actor.wp_pure]
  refine requireRegistered_spec h ?_
  exact Router.send_spec fun _ _ hq => h.quiet hq

end admin

/-- The task command of a message. -/
def ClientMessage.command? : ClientMessage → Option (WorkspaceName × TaskCommand)
  | .taskCreate _ workspace operationId title description =>
    some (workspace, .create operationId title description)
  | .taskEdit _ workspace operationId taskId expectedVersion title description =>
    some (workspace, .edit operationId taskId expectedVersion title description)
  | .taskAssign _ workspace operationId taskId expectedVersion agentId =>
    some (workspace, .assign operationId taskId expectedVersion agentId)
  | .taskNote _ workspace operationId taskId text => some (workspace, .note operationId taskId text)
  | .taskBegin _ workspace operationId taskId workRequestId expectedVersion lastCheckpointId
      resumeNote =>
    some (workspace,
      .begin operationId taskId workRequestId expectedVersion lastCheckpointId resumeNote)
  | .taskCheckpoint _ workspace operationId taskId attemptId expectedVersion checkpoint =>
    some (workspace, .checkpoint operationId taskId attemptId expectedVersion checkpoint)
  | .taskPause _ workspace operationId taskId attemptId expectedVersion checkpoint reason =>
    some (workspace,
      .pause operationId taskId attemptId expectedVersion checkpoint (reason = .blocked))
  | .taskComplete _ workspace operationId taskId attemptId expectedVersion result =>
    some (workspace, .complete operationId taskId attemptId expectedVersion result)
  | .taskCancel _ workspace operationId taskId expectedVersion note =>
    some (workspace, .cancel operationId taskId expectedVersion note)
  | .taskReopen _ workspace operationId taskId expectedVersion note =>
    some (workspace, .reopen operationId taskId expectedVersion note)
  | .taskInterrupt _ workspace operationId taskId expectedVersion note =>
    some (workspace, .interrupt operationId taskId expectedVersion note)
  | .taskConfirmStopped _ workspace operationId taskId attemptId expectedVersion note =>
    some (workspace, .confirmStopped operationId taskId attemptId expectedVersion note)
  | _ => none

/-- A message that confirms a stop once more comes while its agent has nothing to work on. -/
def ClientMessage.calm (s : RouterState) (id : Uuid) (m : ClientMessage) : Prop :=
  ∀ workspace command, m.command? = some (workspace, command) → Calm s id workspace command

/-- The message asks for a credential or an invitation whose drawn token is in use already. -/
def ClientMessage.clashes (s : RouterState) : ClientMessage → Prop
  | .credentialIssue .. => CredentialDrawn s
  | .onboardingInviteIssue .. => InviteDrawn s
  | _ => False

/-- The message brings a title that begins with NUL to the database. -/
def ClientMessage.titled (s : RouterState) (id : Uuid) (m : ClientMessage) : Prop :=
  ∃ workspace command, m.command? = some (workspace, command) ∧ Titled s id workspace command

/-- What besides a counter can make the store fail on a message. -/
def ClientMessage.flawed (s : RouterState) (id : Uuid) (m : ClientMessage) : Prop :=
  m.clashes s ∨ m.titled s id

/-- Less is asked of the handler. -/
theorem Handles.weaken {α : Type} {F' X' : Prop} {x : Router ActorError α}
    (h : Handles F X x s) (hF : F' → F) (hX : X → X') : Handles F' X' x s := by
  refine Actor.wp_mono h (fun _ s' hg => hg.weaken hF) fun e s' he => ?_
  refine ⟨?_, ?_, fun hcode => (he.excused hcode).imp_right hX⟩
  · exact ⟨he.base.store, he.base.registry.of_leaving rfl, he.base.requests,
      fun hf => he.base.truthful (hF hf)⟩
  · refine he.live.imp_left fun hl => ?_
    exact (Good.weaken (g := .rest F) ⟨he.base, hl⟩ hF).live

section dispatch

variable {id : Uuid} {generation : ℕ}

theorem mutation_spec {requestId : String} {workspace : WorkspaceName} {command : TaskCommand}
    {message : ClientMessage} (h : Good (.rest F) s) (hrun : s.shuttingDown = false)
    (hmessage : message.command? = some (workspace, command)) :
    Handles (F ∧ message.calm s id) (message.flawed s id)
      (Router.taskMutate id generation requestId workspace command) s := by
  refine (taskMutate_spec h hrun).weaken ?_ ?_
  · exact fun hcalm => ⟨hcalm.1, hcalm.2 workspace command hmessage⟩
  · exact fun hhides => .inr ⟨workspace, command, hmessage, hhides⟩

/-- Every message of a connected client keeps the invariant. -/
theorem dispatch_spec {message : ClientMessage} {c : ConnectionState} (h : Good (.rest F) s)
    (hrun : s.shuttingDown = false) (hc : s.connections.get? id = some c)
    (hgen : c.generation = generation) :
    Handles (F ∧ message.calm s id) (message.flawed s id)
    (Router.dispatch id generation message) s := by
  have hplain : ∀ {α : Type} {x : Router ActorError α}, Handles F False x s →
      Handles (F ∧ message.calm s id) (message.flawed s id) x s :=
    fun hx => hx.weaken And.left False.elim
  cases message with
  | register => exact hplain (registerAgent_spec h)
  | registerDelegate => exact hplain (registerDelegate_spec h)
  | registerOperator => exact hplain (registerOperator_spec h)
  | ping => exact hplain (ping_spec h)
  | readiness => exact hplain (setReadiness_spec h)
  | list => exact hplain (listAgents_spec h)
  | workspaceMembers => exact hplain (listAgents_spec h)
  | send => exact hplain (startRequest_spec h hc hgen (by simp [Dispatchable]))
  | reply => exact hplain (finishReply_spec h)
  | workIdle => exact hplain (workIdle_spec h)
  | taskExecutionStopped => exact hplain (taskExecutionStopped_spec h)
  | credentialIssue =>
    exact (credentialIssue_spec h fun hx => hx).weaken And.left fun hx => .inl hx
  | credentialList => exact hplain (credentialList_spec h)
  | credentialRevoke => exact hplain (credentialRevoke_spec h)
  | onboardingInviteIssue =>
    exact (onboardingInviteIssue_spec h fun hx => hx).weaken And.left fun hx => .inl hx
  | onboardingInviteRevoke => exact hplain (onboardingInviteRevoke_spec h)
  | workspaceCreate => exact hplain (workspaceCreate_spec h)
  | workspaceList => exact hplain (workspaceList_spec h)
  | workspaceJoin => exact hplain (workspaceJoin_spec h hrun)
  | workspaceLeave => exact hplain (workspaceLeave_spec h hrun)
  | workspacePost => exact hplain (workspacePost_spec h)
  | workspaceHistory => exact hplain (workspaceHistory_spec h)
  | workspaceSubscribe => exact hplain (workspaceSubscribe_spec h)
  | workspaceUnsubscribe => exact hplain (workspaceUnsubscribe_spec h)
  | taskList => exact hplain (taskList_spec h)
  | taskGet => exact hplain (taskGet_spec h)
  | taskHistory => exact hplain (taskHistory_spec h)
  | taskCreate => exact mutation_spec h hrun rfl
  | taskEdit => exact mutation_spec h hrun rfl
  | taskAssign => exact mutation_spec h hrun rfl
  | taskNote => exact mutation_spec h hrun rfl
  | taskBegin => exact mutation_spec h hrun rfl
  | taskCheckpoint => exact mutation_spec h hrun rfl
  | taskPause => exact mutation_spec h hrun rfl
  | taskComplete => exact mutation_spec h hrun rfl
  | taskCancel => exact mutation_spec h hrun rfl
  | taskReopen => exact mutation_spec h hrun rfl
  | taskInterrupt => exact mutation_spec h hrun rfl
  | taskConfirmStopped => exact mutation_spec h hrun rfl
  | taskRequest => exact hplain (taskRequest_spec h hc hgen)
  | taskImport => exact hplain (externalStart_spec h)
  | taskLink => exact hplain (externalStart_spec h)
  | taskPublish => exact hplain (externalStart_spec h)
  | taskExternalStatus => exact hplain (externalStatusReply_spec h)
  | taskExternalResolve => exact hplain (externalResolve_spec h)
  | integrationList => exact hplain (integrationList_spec h)
  | integrationCheck => exact hplain (integrationCheck_spec h)
  | integrationReload => exact hplain (integrationReload_spec h)
  | routerShutdown => exact hplain (routerShutdown_spec h)

end dispatch

end SessionRouter
