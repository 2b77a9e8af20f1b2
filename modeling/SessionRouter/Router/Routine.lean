import SessionRouter.Router.RunSpec
import SessionRouter.Store.Moves
import Mathlib.Logic.Relation

/-!
The routine work of the router: everything it does that leaves the external operations and the
bindings alone. A relation between states that holds across the routine transactions and across
changes of the memory beside them holds across every routine handler.
-/

namespace SessionRouter

/-- The part of the state that belongs to the issue trackers. -/
structure Desk where
  integrations : IntegrationRegistry
  client : Bool
  requests : ℕ
  slots : List (WorkspaceName × ℕ × ExternalProvider)
  workers : List Worker

def RouterState.desk (s : RouterState) : Desk :=
  { integrations := s.integrations, client := s.integrationClient,
    requests := s.integrationRequests, slots := s.integrationTaskSlots, workers := s.workers }

section

variable [World]

/-- The transactions that touch neither external operations nor bindings, other than the
redemption of an invitation. -/
inductive RoutineCall : {ε α : Type} → Store ε α → Prop
  | appendEvent (insert : EventInsert) : RoutineCall (appendEvent insert)
  | appendRequest (insert : EventInsert) : RoutineCall (appendRequest insert)
  | appendChat (workspace : WorkspaceName) (actorId requestId content : String) :
      RoutineCall (appendChatIdempotent workspace actorId requestId content)
  | createWorkspace (name : WorkspaceName) : RoutineCall (createWorkspace name)
  | generateCredential (role : CredentialRole) (subject : String) (agentSide : Option AgentSide)
      (agentClient : Option AgentClient) (workspaces : List WorkspaceName) :
      RoutineCall (generateCredential role subject agentSide agentClient workspaces)
  | insertCredential (credential : CredentialFile) : RoutineCall (insertCredential credential)
  | revokeCredential (id : Uuid) : RoutineCall (revokeCredentialRow id)
  | issueInvite (workspace : WorkspaceName) (create : Bool) (provider : Option OnboardingProvider)
      (now : ℕ) : RoutineCall (issueOnboardingInvite workspace create provider now)
  | revokeInvite (inviteId : Uuid) (now : ℕ) : RoutineCall (revokeOnboardingInvite inviteId now)
  | applyTask (caller : CallerContext) (command : TaskCommand) :
      RoutineCall (applyTask caller command)
  | interruptAttempt (attemptId : Uuid) (reason : PauseReason) :
      RoutineCall (interruptAttempt attemptId reason)
  | recordStopped (workspace : WorkspaceName) (taskId : ℕ) (attemptId endedSessionId : Uuid)
      (agentId : String) (credentialId : Uuid) (reason : PauseReason) :
      RoutineCall (recordExecutionStopped workspace taskId attemptId endedSessionId agentId
        credentialId reason)

/-- A relation that does not look at the tasks holds across every routine transaction. -/
theorem RoutineCall.moves {R : Db → Db → Prop} [Std.Refl R] [IsTrans Db R] {ε α : Type}
    {x : Store ε α} (h : RoutineCall x) (htasks : BlindTasks R) (hadmin : AdminWrites R) :
    x.Moves (OnDb R) := by
  have hjournal := htasks.toBlindJournal
  cases h with
  | appendEvent => exact appendEvent_moves hjournal _
  | appendRequest => exact appendRequest_moves hjournal _
  | appendChat => exact appendChatIdempotent_moves hjournal _ _ _ _
  | createWorkspace => exact createWorkspace_moves hjournal _
  | generateCredential => exact generateCredential_moves _ _ _ _ _
  | insertCredential => exact insertCredential_moves hadmin _
  | revokeCredential => exact revokeCredentialRow_moves hadmin _
  | issueInvite => exact issueOnboardingInvite_moves hadmin _ _ _ _
  | revokeInvite => exact revokeOnboardingInvite_moves hadmin _ _
  | applyTask => exact applyTask_moves htasks _ _
  | interruptAttempt => exact interruptAttempt_moves htasks _ _
  | recordStopped => exact recordExecutionStopped_moves htasks _ _ _ _ _ _ _

/-- A relation between states that allows the routine transactions, the loss of a message budget and
every other change of the memory beside the store, the desk and the budgets. -/
class Routine (T : RouterState → RouterState → Prop) : Prop extends Std.Refl T,
    IsTrans RouterState T where
  draw : ∀ {s : RouterState} {tick : ℕ}, s.tick ≤ tick →
    T s { s with store := { s.store with tick } }
  call : ∀ {ε α : Type} {x : Store ε α} {s : RouterState} {a : α} {t : Tx}, RoutineCall x →
    x s.store.tx = .ok (a, t) → T s (s.commit t)
  memory : ∀ {s s' : RouterState}, s'.store = s.store → s'.desk = s.desk →
    s'.credentialBuckets = s.credentialBuckets → T s s'
  forget : ∀ (s : RouterState) (credentialId : Uuid),
    T s { s with credentialBuckets := s.credentialBuckets.remove credentialId }

/-- The relation between stores that `T` allows in every state. -/
def OnStore (T : RouterState → RouterState → Prop) (a b : RouterStore) : Prop :=
  ∀ s : RouterState, s.store = a → T s { s with store := b }

variable {T : RouterState → RouterState → Prop} [Routine T]

instance : Std.Refl (OnStore T) := ⟨fun _ _ h => Routine.memory h.symm rfl rfl⟩

instance : IsTrans RouterStore (OnStore T) :=
  ⟨fun _ b _ hab hbc s hs => IsTrans.trans _ _ _ (hab s hs) (hbc { s with store := b } rfl)⟩

end

section

variable [World] {T : RouterState → RouterState → Prop} [Routine T] {ε α : Type}

theorem transaction_moves {x : Store ε α} (hx : RoutineCall x) :
    (transaction x).Moves (OnStore T) := by
  rintro _ s rfl
  unfold transaction
  cases hok : x { db := s.store.db, tick := s.store.tick } with
  | error e => exact refl_of T s
  | ok r => exact Routine.call (a := r.1) (t := r.2) hx hok

theorem interruptAttempts_moves (reason : PauseReason) (ids : List Uuid) :
    (interruptAttempts reason ids).Moves (OnStore T) := by
  induction ids with
  | nil => exact .pure _
  | cons id ids ih =>
    exact .bind (transaction_moves (.interruptAttempt _ _)) fun _ => .bind ih fun _ => .pure _

namespace Router

omit [World] [Routine T] in
theorem inSession_moves {x : Session ε α} (h : x.Moves (OnStore T)) :
    (inSession x).Moves T := fun s => h s.store s rfl

theorem inStore_moves {x : Store ε α} (hx : RoutineCall x) : (inStore x).Moves T :=
  inSession_moves (transaction_moves hx)

omit [World] in
theorem query_state (f : Db → Except StoreError α) (s : RouterState) : (query f s).2 = s := by
  unfold query
  split <;> rfl

theorem query_moves (f : Db → Except StoreError α) : (query f).Moves T := fun s => by
  rw [query_state]
  exact refl_of T s

theorem ask_moves (f : RouterState → Except ε α) : (ask f).Moves T := fun s => refl_of T s

omit [World] [Routine T] in
theorem lift_moves {x : Router StoreError α} (h : x.Moves T) : (lift x).Moves T :=
  .mapError h _

theorem modify_moves {f : RouterState → RouterState} (h : ∀ s, (f s).store = s.store ∧
      (f s).desk = s.desk ∧ (f s).credentialBuckets = s.credentialBuckets) :
    (Actor.modify f : Router ε Unit).Moves T := by
  intro s
  obtain ⟨hstore, hdesk, hbuckets⟩ := h s
  exact Routine.memory hstore hdesk hbuckets

theorem updateConnection_moves (id : Uuid) (f : ConnectionState → ConnectionState) :
    (updateConnection id f : Router ε Unit).Moves T :=
  modify_moves fun _ => ⟨rfl, rfl, rfl⟩

theorem setBusy_moves (id : Uuid) (busy : Bool) : (setBusy id busy : Router ε Unit).Moves T :=
  modify_moves fun _ => ⟨rfl, rfl, rfl⟩

theorem drawTick_moves : (drawTick : Router ε ℕ).Moves T :=
  fun _ => Routine.draw (Nat.le_succ _)

theorem nowInstant_moves : (nowInstant : Router ε ℕ).Moves T :=
  .bind drawTick_moves fun _ => .pure _

theorem nowMillis_moves : (nowMillis : Router ε ℕ).Moves T :=
  .bind drawTick_moves fun _ => .pure _

theorem newUuid_moves : (newUuid : Router ε Uuid).Moves T :=
  .bind drawTick_moves fun _ => .pure _

theorem traverse_moves (l : List α) : (traverse l : Router ε (List α)).Moves T :=
  .bind drawTick_moves fun _ => .pure _

theorem send_moves (id : Uuid) (generation : ℕ) (message : ServerMessage) :
    (send id generation message : Router ε Bool).Moves T := by
  intro s
  unfold send
  split
  · exact refl_of T s
  · split
    · exact IsTrans.trans _ _ _ (Routine.draw (Nat.le_succ s.tick)) (Routine.memory rfl rfl rfl)
    · exact refl_of T s

theorem sendError_moves (id : Uuid) (generation : ℕ) (requestId : Option String)
    (error : ActorError) : (sendError id generation requestId error : Router ε Unit).Moves T :=
  .bind (send_moves _ _ _) fun _ => .pure _

theorem publish_moves (event : WorkspaceEvent) (ids : List Uuid) :
    (publish event ids : Router ε _).Moves T := by
  induction ids with
  | nil => exact .pure _
  | cons id ids ih =>
    refine .bind (.read _) fun found => ?_
    cases found with
    | none => exact ih
    | some c => exact .bind (send_moves _ _ _) fun _ => .bind ih fun _ => .pure _

end Router

end

namespace Router

section

variable [World] {T : RouterState → RouterState → Prop} [Routine T]
  {fanout : WorkspaceEvent → Router StoreError Unit}
  {disconnect : Uuid → ℕ → Router StoreError Unit}

theorem dropFailed_moves (h : ∀ id generation, (disconnect id generation).Moves T)
    (failed : List (Uuid × ℕ)) : (dropFailed disconnect failed).Moves T := by
  induction failed with
  | nil => exact .pure _
  | cons x failed ih =>
    obtain ⟨id, generation⟩ := x
    refine .bind (.outcome (h _ _)) fun result => ?_
    cases result with
    | ok _ => exact ih
    | error _ => exact .bind (modify_moves fun _ => ⟨rfl, rfl, rfl⟩) fun _ => ih

theorem notifyTaskAttemptChanged_moves (workspace : WorkspaceName) (taskId : ℕ)
    (attempt : Option TaskAttempt) (closedAttemptId : Option Uuid) (agentId : String) :
    (notifyTaskAttemptChanged workspace taskId attempt closedAttemptId agentId).Moves T := by
  refine .bind (query_moves _) fun _ => .bind .get fun s => ?_
  split
  · exact .pure _
  · split
    · exact .pure _
    · exact .bind (send_moves _ _ _) fun _ => .pure _

theorem closeAttempt_moves (attemptId : Option Uuid) (reason : PauseReason) :
    (closeAttempt attemptId reason).Moves T := by
  cases attemptId with
  | none => exact .pure _
  | some id =>
    exact .bind (inStore_moves (.interruptAttempt _ _)) fun _ => .bind (query_moves _) fun _ =>
      .pure _

theorem cancelRecipient_moves (p : PendingRequest) (canceling : CancelingWork)
    (code : RouterErrorCode) : (cancelRecipient p canceling code).Moves T := by
  refine .bind .get fun s => ?_
  split
  · exact .pure _
  · exact .ite (.bind (updateConnection_moves _ _) fun _ =>
      .bind (send_moves _ _ _) fun _ => .pure _) (.pure _)

theorem notifyClosed_moves (p : PendingRequest) (workspace : WorkspaceName)
    (expected : TaskAttempt → Bool) (change : Option (WorkspaceName × TaskAttempt)) :
    (notifyClosed p workspace expected change).Moves T := by
  cases change with
  | none => exact .pure _
  | some x => exact .bind (.require _ _) fun _ => notifyTaskAttemptChanged_moves _ _ _ _ _

theorem finishPendingErrorWith_moves (h : ∀ event, (fanout event).Moves T)
    (workspace : WorkspaceName) (requestId : String) (code : RouterErrorCode) :
    (finishPendingErrorWith fanout workspace requestId code).Moves T := by
  refine .bind (.read _) fun found => ?_
  cases found with
  | none => exact .pure _
  | some p =>
    exact .bind (modify_moves fun _ => ⟨rfl, rfl, rfl⟩) fun _ =>
      .bind (closeAttempt_moves _ _) fun _ =>
      .bind (inStore_moves (.appendEvent _)) fun _ => .bind (cancelRecipient_moves _ _ _) fun _ =>
      .bind (notifyClosed_moves _ _ _ _) fun _ => .bind (send_moves _ _ _) fun _ =>
      .bind (.forEach h _) fun _ => h _

theorem dropBucket_moves (credentialId : Option Uuid) :
    (dropBucket credentialId).Moves T := by
  intro s
  cases credentialId with
  | none => exact refl_of T s
  | some id =>
    by_cases hconnected : s.connections.toList.any fun e => s.connectionCredentialId e.1 = some id
    · have hsame : (dropBucket (some id) s).2 = s := if_pos hconnected
      rw [hsame]
      exact refl_of T s
    · have hdropped : (dropBucket (some id) s).2 =
          { s with credentialBuckets := s.credentialBuckets.remove id } := if_neg hconnected
      rw [hdropped]
      exact Routine.forget s id

theorem announceLeft_moves (h : ∀ event, (fanout event).Moves T)
    (workspace : Option WorkspaceName) (actor : Option String) :
    (announceLeft fanout workspace actor).Moves T := by
  unfold announceLeft
  split
  · refine .bind (.outcome (inStore_moves (.appendEvent _))) fun result => ?_
    cases result with
    | ok event => exact h event
    | error _ => exact .pure _
  · exact .pure _

theorem unregister_moves (h : ∀ event, (fanout event).Moves T) (id : Uuid)
    (c : ConnectionState) (actor : Option String) :
    (unregister fanout id c actor).Moves T := by
  unfold unregister
  split
  · exact .bind (modify_moves fun _ => ⟨rfl, rfl, rfl⟩) fun _ => announceLeft_moves h _ _
  · exact modify_moves fun _ => ⟨rfl, rfl, rfl⟩
  · exact .pure _

theorem interruptConnection_moves (c : ConnectionState) (reason : PauseReason) :
    (interruptConnection c reason).Moves T := by
  unfold interruptConnection
  split
  · exact inSession_moves (.bind (.read _) fun _ => interruptAttempts_moves _ _)
  · exact .pure _

theorem disconnectWith_moves (h : ∀ event, (fanout event).Moves T) (id : Uuid)
    (generation : ℕ) (reason : PauseReason) :
    (disconnectWith fanout id generation reason).Moves T := by
  refine .bind .get fun s => ?_
  split
  · exact .pure _
  · refine .ite (.pure _) (.bind ?_ fun _ => ?_)
    · exact .bind (interruptConnection_moves _ _) fun _ =>
        .bind (modify_moves fun _ => ⟨rfl, rfl, rfl⟩) fun _ =>
        .bind (dropBucket_moves _) fun _ => .bind (.forEach h _) fun _ => unregister_moves h _ _ _
    · exact .bind (.read _) fun _ => .bind (traverse_moves _) fun _ =>
        .forEach (fun _ => finishPendingErrorWith_moves h _ _ _) _

theorem fanoutDepth_moves (depth : ℕ) (event : WorkspaceEvent) :
    (fanoutDepth depth event).Moves T := by
  induction depth generalizing event with
  | zero => exact .pure _
  | succ depth ih =>
    exact .bind (.read _) fun _ => .bind (traverse_moves _) fun _ =>
      .bind (publish_moves _ _) fun _ =>
      dropFailed_moves (fun _ _ => disconnectWith_moves (fun event => ih event) _ _ _) _

theorem fanout_moves (event : WorkspaceEvent) : (Router.fanout event).Moves T :=
  fun s => fanoutDepth_moves _ event s

theorem finishPendingError_moves (workspace : WorkspaceName) (requestId : String)
    (code : RouterErrorCode) : (finishPendingError workspace requestId code).Moves T :=
  finishPendingErrorWith_moves fanout_moves _ _ _

theorem disconnectWithReason_moves (id : Uuid) (generation : ℕ) (reason : PauseReason) :
    (disconnectWithReason id generation reason).Moves T :=
  disconnectWith_moves fanout_moves _ _ _

theorem revokeConnection_moves (target : Uuid × ℕ) : (revokeConnection target).Moves T := by
  refine .bind (.read _) fun _ => .bind (traverse_moves _) fun _ =>
    .bind (.forEach (fun id => .bind (.read _) fun found => ?_) _) fun _ =>
    disconnectWithReason_moves _ _ _
  cases found with
  | none => exact .pure _
  | some c => exact sendError_moves _ _ _ _

theorem revokeCredential_moves (credentialId : Uuid) :
    (Router.revokeCredential credentialId).Moves T :=
  .bind (inStore_moves (.revokeCredential _)) fun _ =>
    .ite (.bind (.read _) fun _ => .bind (traverse_moves _) fun _ =>
      .bind (.forEach revokeConnection_moves _) fun _ => .pure _) (.pure _)

theorem finishAll_moves (code : RouterErrorCode) (requests : List (WorkspaceName × String)) :
    (finishAll code requests).Moves T := .forEach (fun _ => finishPendingError_moves _ _ _) _

theorem expireDeadlines_moves : expireDeadlines.Moves T :=
  .bind nowInstant_moves fun _ => .bind (.read _) fun _ => .bind (traverse_moves _) fun _ =>
    finishAll_moves _ _

theorem shutdownPending_moves : shutdownPending.Moves T :=
  .bind (.read _) fun _ => .bind (traverse_moves _) fun _ => finishAll_moves _ _

theorem closeAll_moves : closeAll.Moves T := modify_moves fun _ => ⟨rfl, rfl, rfl⟩

end

section members

variable [World] {T : RouterState → RouterState → Prop} [Routine T]

theorem requireThat_moves (b : Bool) (code : RouterErrorCode) :
    (requireThat b code).Moves T := .require _ _

theorem failWith_moves {α : Type} (code : RouterErrorCode) :
    (failWith code : Router ActorError α).Moves T := .fail _

theorem requireUnregistered_moves (id : Uuid) : (requireUnregistered id).Moves T :=
  .bind (.read _) fun _ => requireThat_moves _ _

theorem requireRegistered_moves (id : Uuid) : (requireRegistered id).Moves T :=
  .bind (.read _) fun _ => requireThat_moves _ _

theorem requireOperator_moves (id : Uuid) : (requireOperator id).Moves T :=
  .bind (.read _) fun _ => requireThat_moves _ _

theorem requireAdmin_moves (id : Uuid) : (requireAdmin id).Moves T :=
  .bind (.read _) fun _ => requireThat_moves _ _

theorem requireWorkspaceMatch_moves (id : Uuid) (workspace : WorkspaceName) :
    (requireWorkspaceMatch id workspace).Moves T :=
  .bind (ask_moves _) fun _ => .require _ _

theorem authorizeWorkspace_moves (id : Uuid) (workspace : WorkspaceName) :
    (authorizeWorkspace id workspace).Moves T :=
  .bind (ask_moves _) fun _ => requireThat_moves _ _

theorem authenticate_moves (token : String) : (authenticate token).Moves T :=
  .bind (.read _) fun _ => .bind (.orFail _ _) fun _ =>
  .bind (requireThat_moves _ _) fun _ => .pure _

theorem sendExecutionSnapshot_moves (id : Uuid) (generation : ℕ) (agentId : String) :
    (sendExecutionSnapshot id generation agentId).Moves T := by
  refine .bind (lift_moves (query_moves _)) fun fences => ?_
  obtain ⟨current, stopPending⟩ := fences
  dsimp only
  split
  · exact .pure _
  · exact .bind (lift_moves (query_moves _)) fun _ => .bind (.orFail _ _) fun _ =>
      .bind (send_moves _ _ _) fun _ => .pure _

theorem registerAgent_moves (id : Uuid) (generation : ℕ) (registration : AgentRegistration)
    (token : String) (delegationToken : Option String) :
    (registerAgent id generation registration token delegationToken).Moves T :=
  .bind (requireUnregistered_moves _) fun _ => .bind (authenticate_moves _) fun _ =>
    .bind (.read _) fun _ => .bind (requireThat_moves _ _) fun _ =>
    .bind (requireThat_moves _ _) fun _ => .bind newUuid_moves fun _ =>
    .bind (modify_moves fun _ => ⟨rfl, rfl, rfl⟩) fun _ => .bind (send_moves _ _ _) fun _ =>
    sendExecutionSnapshot_moves _ _ _

theorem registerDelegate_moves (id : Uuid) (generation : ℕ) (ownerId token : String) :
    (registerDelegate id generation ownerId token).Moves T :=
  .bind (requireUnregistered_moves _) fun _ => .bind (.read _) fun _ => .bind (.orFail _ _) fun _ =>
    .bind (.read _) fun _ => .bind (modify_moves fun _ => ⟨rfl, rfl, rfl⟩) fun _ =>
    .bind (send_moves _ _ _) fun _ => .pure _

theorem registerOperator_moves (id : Uuid) (generation : ℕ) (token : String) :
    (registerOperator id generation token).Moves T :=
  .bind (requireUnregistered_moves _) fun _ => .bind (authenticate_moves _) fun _ =>
    .bind (requireThat_moves _ _) fun _ => .bind (updateConnection_moves _ _) fun _ =>
    .bind (send_moves _ _ _) fun _ => .pure _

theorem setReadiness_moves (id : Uuid) (ready : Bool) : (setReadiness id ready).Moves T := by
  refine .bind .get fun s => ?_
  split
  · exact failWith_moves _
  · split
    · exact failWith_moves _
    · exact .ite (updateConnection_moves _ _) (failWith_moves _)

theorem listAgents_moves (id : Uuid) (generation : ℕ) (requestId : String) :
    (listAgents id generation requestId).Moves T :=
  .bind (ask_moves _) fun _ => .bind (.read _) fun _ => .bind (send_moves _ _ _) fun _ => .pure _

theorem workspaceList_moves (id : Uuid) (generation : ℕ) (requestId : String)
    (after : Option String) (limit : Option ℕ) :
    (workspaceList id generation requestId after limit).Moves T :=
  .bind (ask_moves _) fun _ => .bind (requireThat_moves _ _) fun _ =>
    .bind (requireThat_moves _ _) fun _ => .bind (.read _) fun _ => .bind (.read _) fun _ =>
    .bind (requireThat_moves _ _) fun _ => .bind (ask_moves _) fun _ =>
    .bind (send_moves _ _ _) fun _ => .pure _

theorem syncDelegates_moves (owner : Uuid) (workspace : Option WorkspaceName) :
    (syncDelegates owner workspace).Moves T := by
  refine modify_moves fun s => ?_
  split <;> exact ⟨rfl, rfl, rfl⟩

theorem notifyChanged_moves (workspace : Option WorkspaceName) (cursor : ℕ) (id : Uuid) :
    (notifyChanged workspace cursor id).Moves T := by
  refine .bind (.read _) fun found => ?_
  cases found with
  | none => exact .pure _
  | some c => exact .bind (send_moves _ _ _) fun _ => .pure _

theorem notifyMembership_moves (owner : Uuid) (workspace : Option WorkspaceName) (cursor : ℕ) :
    (notifyMembership owner workspace cursor).Moves T := by
  refine .bind .get fun s => ?_
  split
  · exact .bind (notifyChanged_moves _ _ _) fun _ => .bind (traverse_moves _) fun _ =>
      .forEach (notifyChanged_moves _ _) _
  · exact notifyChanged_moves _ _ _
  · exact .pure _

theorem membershipEvent_moves (kind : WorkspaceEventKind) (workspace : WorkspaceName)
    (actorId : String) (isOperator : Bool) :
    (membershipEvent kind workspace actorId isOperator).Moves T :=
  .ite (.pure _) (.bind (lift_moves (inStore_moves (.appendEvent _))) fun _ => .pure _)

theorem joinCursor_moves (name : WorkspaceName) (event : Option WorkspaceEvent) :
    (joinCursor name event).Moves T := by
  cases event with
  | none => exact .read _
  | some e => exact .pure _

theorem fanoutAll_moves (events : List WorkspaceEvent) :
    (lift (Actor.forEach Router.fanout events)).Moves T :=
  lift_moves (.forEach fanout_moves _)

theorem workspaceJoin_moves (id : Uuid) (generation : ℕ) (requestId : String)
    (name : WorkspaceName) : (workspaceJoin id generation requestId name).Moves T := by
  refine .bind (.read _) fun _ => .bind (authorizeWorkspace_moves _ _) fun _ =>
    .bind (.read _) fun _ => .bind (requireThat_moves _ _) fun _ => .bind (.read _) fun _ =>
    .ite ?_ ?_
  · exact .bind (.read _) fun _ => .bind (send_moves _ _ _) fun _ => .pure _
  · exact .bind (requireThat_moves _ _) fun _ => .bind (ask_moves _) fun _ =>
      .bind (membershipEvent_moves _ _ _ _) fun _ => .bind (joinCursor_moves _ _) fun _ =>
      .bind .get fun _ => .bind (updateConnection_moves _ _) fun _ =>
      .bind (syncDelegates_moves _ _) fun _ => .bind (send_moves _ _ _) fun _ =>
      .bind (notifyMembership_moves _ _ _) fun _ => fanoutAll_moves _

theorem requireLeavable_moves (agentId : Option String) :
    (requireLeavable agentId).Moves T := by
  cases agentId with
  | none => exact .pure _
  | some agentId =>
    exact .bind (lift_moves (query_moves _)) fun _ => .bind (requireThat_moves _ _) fun _ =>
      requireThat_moves _ _

theorem workspaceLeave_moves (id : Uuid) (generation : ℕ) (requestId : String) :
    (workspaceLeave id generation requestId).Moves T := by
  refine .bind (.read _) fun _ => .bind (.read _) fun connection => ?_
  split
  · exact .bind (send_moves _ _ _) fun _ => .pure _
  · exact .bind (requireThat_moves _ _) fun _ => .bind (.read _) fun _ =>
      .bind (requireThat_moves _ _) fun _ => .bind (requireLeavable_moves _) fun _ =>
      .bind (ask_moves _) fun _ => .bind (membershipEvent_moves _ _ _ _) fun _ =>
      .bind (updateConnection_moves _ _) fun _ => .bind (syncDelegates_moves _ _) fun _ =>
      .bind (modify_moves fun _ => ⟨rfl, rfl, rfl⟩) fun _ => .bind (send_moves _ _ _) fun _ =>
      .bind (notifyMembership_moves _ _ _) fun _ => fanoutAll_moves _

theorem workspacePost_moves (id : Uuid) (generation : ℕ) (requestId content : String) :
    (workspacePost id generation requestId content).Moves T :=
  .bind (ask_moves _) fun _ => .bind (ask_moves _) fun _ =>
    .bind (lift_moves (inStore_moves (.appendChat _ _ _ _))) fun _ =>
    .bind (send_moves _ _ _) fun _ => .ite (lift_moves (fanout_moves _)) (.pure _)

theorem workspaceHistory_moves (id : Uuid) (generation : ℕ) (requestId : String)
    (after limit : Option ℕ) :
    (workspaceHistory id generation requestId after limit).Moves T :=
  .bind (ask_moves _) fun _ => .bind (.orFail _ _) fun _ => .bind (.read _) fun _ =>
    .bind (requireThat_moves _ _) fun _ => .bind (lift_moves (query_moves _)) fun _ =>
    .bind (ask_moves _) fun _ => .bind (send_moves _ _ _) fun _ => .pure _

theorem workspaceSubscribe_moves (id : Uuid) (generation : ℕ) (requestId : String) (after : ℕ) :
    (workspaceSubscribe id generation requestId after).Moves T := by
  refine .bind (ask_moves _) fun _ => .bind (.read _) fun _ =>
    .bind (requireThat_moves _ _) fun _ =>
    .bind (.read _) fun _ => .bind (requireThat_moves _ _) fun _ =>
    .bind (lift_moves (query_moves _)) fun _ => .bind (ask_moves _) fun _ => .ite ?_ ?_
  · exact .bind (send_moves _ _ _) fun _ => .pure _
  · exact .bind (modify_moves fun _ => ⟨rfl, rfl, rfl⟩) fun _ =>
      .bind (send_moves _ _ _) fun _ => .pure _

theorem workspaceUnsubscribe_moves (id : Uuid) (generation : ℕ) (requestId : String) :
    (workspaceUnsubscribe id generation requestId).Moves T :=
  .bind (ask_moves _) fun _ => .bind (modify_moves fun _ => ⟨rfl, rfl, rfl⟩) fun _ =>
    .bind (send_moves _ _ _) fun _ => .pure _

end members

section requests

variable [World] {T : RouterState → RouterState → Prop} [Routine T]

theorem requireUnblocked_moves (connection : Option ConnectionState) :
    (requireUnblocked connection).Moves T := by
  refine .bind (requireThat_moves _ _) fun _ => ?_
  split
  · exact .pure _
  · exact .bind (lift_moves (query_moves _)) fun _ => requireThat_moves _ _

theorem findRecipient_moves (workspace : WorkspaceName) (recipientId : String) :
    (findRecipient workspace recipientId).Moves T :=
  .bind .get fun _ => .bind (.orFail _ _) fun _ => .bind (.orFail _ _) fun _ =>
    .bind (requireThat_moves _ _) fun _ => .bind (.orFail _ _) fun _ =>
    .bind (requireThat_moves _ _) fun _ => .bind (lift_moves (query_moves _)) fun _ =>
    .bind (requireThat_moves _ _) fun _ => .bind (requireThat_moves _ _) fun _ => .pure _

theorem deliverRequest_moves (p : PendingRequest) (content : String) (timeoutMs : ℕ) :
    (deliverRequest p content timeoutMs).Moves T :=
  .bind (lift_moves (inStore_moves (.appendRequest _))) fun _ =>
    .bind (modify_moves fun _ => ⟨rfl, rfl, rfl⟩) fun _ => .bind (setBusy_moves _ _) fun _ =>
    .bind (ask_moves _) fun _ => .bind (send_moves _ _ _) fun _ => .pure _

theorem startRequest_moves (requester : Uuid) (generation : ℕ)
    (requestId recipientId content : String) (timeoutMs : Option ℕ) (task : Option TaskDispatch) :
    (startRequest requester generation requestId recipientId content timeoutMs task).Moves
      T := by
  refine .bind (ask_moves _) fun _ => .bind (.read _) fun _ => .bind (.read _) fun _ =>
    .bind (requireUnblocked_moves _) fun _ => .bind (.read _) fun _ =>
    .bind (requireThat_moves _ _) fun _ => .bind (.read _) fun _ =>
    .bind (requireThat_moves _ _) fun _ => .bind (findRecipient_moves _ _) fun _ =>
    .bind (ask_moves _) fun _ => .bind nowInstant_moves fun _ => .bind (.read _) fun _ =>
    .bind (deliverRequest_moves _ _ _) fun _ => .ite ?_ ?_
  · exact .bind (send_moves _ _ _) fun _ => lift_moves (fanout_moves _)
  · exact .bind (lift_moves (fanout_moves _)) fun _ =>
      .bind (lift_moves (finishPendingError_moves _ _ _)) fun _ => failWith_moves _

theorem finishReply_moves (id : Uuid) (generation : ℕ) (requestId : String) (ok : Bool)
    (content : Option String) (error : Option RouterErrorCode) :
    (finishReply id generation requestId ok content error).Moves T :=
  .bind (ask_moves _) fun _ => .bind (.read _) fun _ => .bind (.orFail _ _) fun _ =>
    .bind (requireThat_moves _ _) fun _ => .bind (modify_moves fun _ => ⟨rfl, rfl, rfl⟩) fun _ =>
    .bind (lift_moves (closeAttempt_moves _ _)) fun _ =>
    .bind (lift_moves (inStore_moves (.appendEvent _))) fun _ => .bind (setBusy_moves _ _) fun _ =>
    .bind (send_moves _ _ _) fun _ => .bind (lift_moves (notifyClosed_moves _ _ _ _)) fun _ =>
    .bind (fanoutAll_moves _) fun _ => lift_moves (fanout_moves _)

theorem workIdle_moves (id : Uuid) (generation : ℕ) (requestId : String)
    (workspace : WorkspaceName) (workRequestId : String) (task : Option TaskFence) (ready : Bool) :
    (workIdle id generation requestId workspace workRequestId task ready).Moves T :=
  .bind (requireWorkspaceMatch_moves _ _) fun _ => .bind (ask_moves _) fun _ =>
    .bind (lift_moves (query_moves _)) fun _ => .bind (updateConnection_moves _ _) fun _ =>
    .bind (send_moves _ _ _) fun _ => .pure _

theorem freeIdle_moves (id : Uuid) : (freeIdle id).Moves T :=
  .bind (.read _) fun _ => .ite (.pure _) (setBusy_moves _ _)

theorem readAttempt_moves (workspace : WorkspaceName) (taskId : ℕ) (attemptId : Uuid) :
    (readAttempt workspace taskId attemptId).Moves T :=
  .bind (lift_moves (query_moves _)) fun _ => .bind (.orFail _ _) fun _ =>
    .bind (.require _ _) fun _ => .pure _

theorem taskExecutionStopped_moves (id : Uuid) (generation : ℕ) (requestId : String)
    (workspace : WorkspaceName) (taskId : ℕ) (attemptId endedSessionId : Uuid)
    (reason : PauseReason) :
    (taskExecutionStopped id generation requestId workspace taskId attemptId endedSessionId
      reason).Moves T :=
  .bind (requireWorkspaceMatch_moves _ _) fun _ => .bind (ask_moves _) fun _ =>
    .bind (.mapError (inStore_moves (.recordStopped _ _ _ _ _ _ _)) _) fun _ =>
    .bind (freeIdle_moves _) fun _ => .bind (readAttempt_moves _ _ _) fun _ =>
    .bind (send_moves _ _ _) fun _ =>
    .bind (lift_moves (notifyTaskAttemptChanged_moves _ _ _ _ _)) fun _ => fanoutAll_moves _

theorem taskRequest_moves (id : Uuid) (generation : ℕ) (requestId : String)
    (workspace : WorkspaceName) (taskId expectedVersion : ℕ) (message : Option String)
    (timeoutMs : Option ℕ) :
    (taskRequest id generation requestId workspace taskId expectedVersion message timeoutMs).Moves
      T :=
  .bind (requireWorkspaceMatch_moves _ _) fun _ => .bind (lift_moves (query_moves _)) fun _ =>
    .bind (.orFail _ _) fun _ => .bind (.require _ _) fun _ =>
    .bind (requireThat_moves _ _) fun _ =>
    .bind (requireThat_moves _ _) fun _ => .bind (requireThat_moves _ _) fun _ =>
    .bind (.orFail _ _) fun _ => .bind (lift_moves (query_moves _)) fun _ =>
    .bind (requireThat_moves _ _) fun _ => .bind (.read _) fun _ =>
    .bind (requireThat_moves _ _) fun _ => startRequest_moves _ _ _ _ _ _ _

end requests

section tasks

variable [World] {T : RouterState → RouterState → Prop} [Routine T]

theorem taskList_moves (id : Uuid) (generation : ℕ) (requestId : String)
    (workspace : WorkspaceName) (states : Option (List TaskState))
    (assignedAgentId : Option String) (after limit : Option ℕ) :
    (taskList id generation requestId workspace states assignedAgentId after limit).Moves T :=
  .bind (requireWorkspaceMatch_moves _ _) fun _ => .bind (requireThat_moves _ _) fun _ =>
    .bind (requireThat_moves _ _) fun _ => .bind (.orFail _ _) fun _ =>
    .bind (lift_moves (query_moves _)) fun _ => .bind (ask_moves _) fun _ =>
    .bind (send_moves _ _ _) fun _ => .pure _

theorem taskGet_moves (id : Uuid) (generation : ℕ) (requestId : String)
    (workspace : WorkspaceName) (taskId : ℕ) :
    (taskGet id generation requestId workspace taskId).Moves T :=
  .bind (requireWorkspaceMatch_moves _ _) fun _ => .bind (lift_moves (query_moves _)) fun _ =>
    .bind (.orFail _ _) fun _ => .bind (send_moves _ _ _) fun _ => .pure _

theorem taskHistory_moves (id : Uuid) (generation : ℕ) (requestId : String)
    (workspace : WorkspaceName) (taskId : ℕ) (after limit : Option ℕ) :
    (taskHistory id generation requestId workspace taskId after limit).Moves T :=
  .bind (requireWorkspaceMatch_moves _ _) fun _ => .bind (lift_moves (query_moves _)) fun _ =>
    .bind (requireThat_moves _ _) fun _ => .bind (.orFail _ _) fun _ => .bind (.read _) fun _ =>
    .bind (requireThat_moves _ _) fun _ => .bind (.read _) fun _ => .bind (ask_moves _) fun _ =>
    .bind (ask_moves _) fun _ => .bind (send_moves _ _ _) fun _ => .pure _

theorem callerContext_moves (id : Uuid) (workspace : WorkspaceName) (command : TaskCommand) :
    (callerContext id workspace command).Moves T := by
  refine .bind (.read _) fun _ => .bind (.read _) fun _ => .bind (requireThat_moves _ _) fun _ =>
    .ite ?_ (ask_moves _)
  exact .bind (requireUnblocked_moves _) fun _ => ask_moves _

theorem interruptedRequest_moves (workspace : WorkspaceName) (command : TaskCommand) :
    (interruptedRequest workspace command).Moves T := by
  cases command with
  | interrupt _ _ _ _ =>
    exact .bind (.read _) fun _ => .bind (traverse_moves _) fun _ => .pure _
  | _ => exact .pure _

theorem bindAttempt_moves (workspace : WorkspaceName) (command : TaskCommand)
    (attemptId : Option Uuid) : (bindAttempt workspace command attemptId).Moves T := by
  cases command with
  | begin _ _ _ _ _ _ => exact modify_moves fun _ => ⟨rfl, rfl, rfl⟩
  | _ => exact .pure _

theorem freeStopped_moves (agentId : Option String) : (freeStopped agentId).Moves T := by
  refine .bind (.read _) fun found => ?_
  cases found with
  | none => exact .pure _
  | some id => exact setBusy_moves _ _

theorem announceMutation_moves (workspace : WorkspaceName) (command : TaskCommand)
    (interrupted : Option (WorkspaceName × String)) (result : TaskApplyResult) :
    (announceMutation workspace command interrupted result).Moves T := by
  refine .bind (lift_moves (fanout_moves _)) fun _ => ?_
  cases interrupted with
  | some key => exact lift_moves (finishPendingError_moves _ _ _)
  | none =>
    dsimp only
    split
    · exact .pure _
    · exact lift_moves (notifyTaskAttemptChanged_moves _ _ _ _ _)

theorem taskMutate_moves (id : Uuid) (generation : ℕ) (requestId : String)
    (workspace : WorkspaceName) (command : TaskCommand) :
    (taskMutate id generation requestId workspace command).Moves T :=
  .bind (requireWorkspaceMatch_moves _ _) fun _ => .bind (.read _) fun _ =>
    .bind (requireThat_moves _ _) fun _ => .bind (interruptedRequest_moves _ _) fun _ =>
    .bind (.read _) fun _ => .bind (callerContext_moves _ _ _) fun _ =>
    .bind (.mapError (inStore_moves (.applyTask _ _)) _) fun _ =>
    .bind (bindAttempt_moves _ _ _) fun _ => .bind (freeStopped_moves _) fun _ =>
    .bind (send_moves _ _ _) fun _ => announceMutation_moves _ _ _ _

end tasks

section external

variable [World] {T : RouterState → RouterState → Prop} [Routine T]

theorem activeBinding_moves (workspace : WorkspaceName) (provider : ExternalProvider)
    (operationId : Option Uuid) : (activeBinding workspace provider operationId).Moves T :=
  ask_moves _

theorem requireIntegrationSlot_moves (slot : Option (WorkspaceName × ℕ × ExternalProvider)) :
    (requireIntegrationSlot slot).Moves T :=
  .bind .get fun _ => .bind (requireThat_moves _ _) fun _ => .bind (requireThat_moves _ _) fun _ =>
    requireThat_moves _ _

theorem integrationList_moves (id : Uuid) (generation : ℕ) (requestId : String)
    (workspace : WorkspaceName) :
    (integrationList id generation requestId workspace).Moves T :=
  .bind (requireWorkspaceMatch_moves _ _) fun _ => .bind (ask_moves _) fun _ =>
    .bind (send_moves _ _ _) fun _ => .pure _

theorem externalStatusReply_moves (id : Uuid) (generation : ℕ) (requestId : String)
    (workspace : WorkspaceName) (operationId : Uuid) :
    (externalStatusReply id generation requestId workspace operationId).Moves T :=
  .bind (requireWorkspaceMatch_moves _ _) fun _ => .bind (.read _) fun _ =>
    .bind (.orFail _ _) fun _ => .bind (send_moves _ _ _) fun _ => .pure _

end external

section rounds

variable [World] {T : RouterState → RouterState → Prop} [Routine T]

theorem credentialIssue_moves (id : Uuid) (generation : ℕ) (requestId : String)
    (role : CredentialRole) (subject : String) (agentSide : Option AgentSide)
    (agentClient : Option AgentClient) (workspaces : List WorkspaceName) :
    (credentialIssue id generation requestId role subject agentSide agentClient workspaces).Moves
      T :=
  .bind (requireAdmin_moves _) fun _ => .bind (requireThat_moves _ _) fun _ =>
    .bind (.read _) fun _ => .bind (requireThat_moves _ _) fun _ =>
    .bind (.mapError (inStore_moves (.generateCredential _ _ _ _ _)) _) fun _ =>
    .bind (lift_moves (inStore_moves (.insertCredential _))) fun _ =>
    .bind (send_moves _ _ _) fun _ => .pure _

theorem credentialList_moves (id : Uuid) (generation : ℕ) (requestId : String)
    (after : Option Uuid) (limit : Option ℕ) :
    (credentialList id generation requestId after limit).Moves T :=
  .bind (requireAdmin_moves _) fun _ => .bind (requireThat_moves _ _) fun _ =>
    .bind (.read _) fun _ => .bind (send_moves _ _ _) fun _ => .pure _

theorem credentialRevoke_moves (id : Uuid) (generation : ℕ) (requestId : String)
    (credentialId : Uuid) : (credentialRevoke id generation requestId credentialId).Moves T :=
  .bind (requireAdmin_moves _) fun _ => .bind (.mapError (revokeCredential_moves _) _) fun _ =>
    .bind (requireThat_moves _ _) fun _ => .bind (send_moves _ _ _) fun _ => .pure _

theorem onboardingInviteIssue_moves (id : Uuid) (generation : ℕ) (requestId : String)
    (workspace : WorkspaceName) (createWorkspace : Bool) (provider : Option OnboardingProvider) :
    (onboardingInviteIssue id generation requestId workspace createWorkspace provider).Moves
      T :=
  .bind (requireAdmin_moves _) fun _ => .bind nowMillis_moves fun _ =>
    .bind (lift_moves (inStore_moves (.issueInvite _ _ _ _))) fun _ =>
    .bind (send_moves _ _ _) fun _ => .pure _

theorem onboardingInviteRevoke_moves (id : Uuid) (generation : ℕ) (requestId : String)
    (inviteId : Uuid) : (onboardingInviteRevoke id generation requestId inviteId).Moves T :=
  .bind (requireAdmin_moves _) fun _ => .bind nowMillis_moves fun _ =>
    .bind (lift_moves (inStore_moves (.revokeInvite _ _))) fun _ =>
    .bind (send_moves _ _ _) fun _ => .pure _

theorem workspaceCreate_moves (id : Uuid) (generation : ℕ) (requestId : String)
    (name : WorkspaceName) : (workspaceCreate id generation requestId name).Moves T :=
  .bind (requireAdmin_moves _) fun _ =>
  .bind (lift_moves (inStore_moves (.createWorkspace _))) fun _ =>
    .bind (requireThat_moves _ _) fun _ => .bind (send_moves _ _ _) fun _ => .pure _

theorem routerShutdown_moves (id : Uuid) (generation : ℕ) (requestId : String) :
    (routerShutdown id generation requestId).Moves T :=
  .bind (requireAdmin_moves _) fun _ => .bind (send_moves _ _ _) fun _ =>
    modify_moves fun _ => ⟨rfl, rfl, rfl⟩

theorem ping_moves (id : Uuid) (generation : ℕ) (requestId : String) :
    (ping id generation requestId).Moves T :=
  .bind (requireRegistered_moves _) fun _ => .bind (send_moves _ _ _) fun _ => .pure _

theorem markUnhealthy_moves : (markUnhealthy : Router StoreError Unit).Moves T :=
  modify_moves fun _ => ⟨rfl, rfl, rfl⟩

theorem openConnection_moves (generation : ℕ) : (openConnection generation).Moves T := by
  refine .bind .get fun s => .ite (.bind newUuid_moves fun _ => .ite (.pure _) ?_) (.pure _)
  exact modify_moves fun _ => ⟨rfl, rfl, rfl⟩

theorem failClosed_moves : failClosed.Moves T :=
  .bind markUnhealthy_moves fun _ => .bind (.outcome shutdownPending_moves) fun _ => closeAll_moves

end rounds

end Router

section

variable [World]

/-- A routine relation that also holds across the work on external operations, across the reload
of the bindings and across the redemption of invitations. -/
class Handled (T : RouterState → RouterState → Prop) : Prop extends Routine T where
  enroll : ∀ request expired, (Router.enroll request expired).Moves T
  check : ∀ id generation requestId workspace provider,
    (Router.integrationCheck id generation requestId workspace provider).Moves T
  reload : ∀ id generation requestId,
    (Router.integrationReload id generation requestId).Moves T
  start : ∀ id generation requestId workspace command,
    (Router.externalStart id generation requestId workspace command).Moves T
  resolve : ∀ id generation requestId workspace operationId resolutionId outcome externalId note,
    (Router.externalResolve id generation requestId workspace operationId resolutionId outcome
      externalId note).Moves T
  checkFinished : ∀ index result,
    (Router.handleControl (.checkFinished index result)).Moves T
  gate : ∀ index, (Router.handleControl (.externalGate index)).Moves T
  finished : ∀ index result, (Router.handleControl (.externalFinished index result)).Moves T
  resolved : ∀ index result, (Router.handleControl (.resolutionFinished index result)).Moves T

end

namespace Router

section handled

variable [World] {T : RouterState → RouterState → Prop} [Handled T]

theorem dispatch_moves (id : Uuid) (generation : ℕ) (message : ClientMessage) :
    (dispatch id generation message).Moves T := by
  cases message with
  | register => exact registerAgent_moves _ _ _ _ _
  | registerDelegate => exact registerDelegate_moves _ _ _ _
  | registerOperator => exact registerOperator_moves _ _ _
  | ping => exact ping_moves _ _ _
  | readiness => exact setReadiness_moves _ _
  | list => exact listAgents_moves _ _ _
  | workspaceMembers => exact listAgents_moves _ _ _
  | send => exact startRequest_moves _ _ _ _ _ _ _
  | reply => exact finishReply_moves _ _ _ _ _ _
  | workIdle => exact workIdle_moves _ _ _ _ _ _ _
  | taskExecutionStopped => exact taskExecutionStopped_moves _ _ _ _ _ _ _ _
  | credentialIssue => exact credentialIssue_moves _ _ _ _ _ _ _ _
  | credentialList => exact credentialList_moves _ _ _ _ _
  | credentialRevoke => exact credentialRevoke_moves _ _ _ _
  | onboardingInviteIssue => exact onboardingInviteIssue_moves _ _ _ _ _ _
  | onboardingInviteRevoke => exact onboardingInviteRevoke_moves _ _ _ _
  | workspaceCreate => exact workspaceCreate_moves _ _ _ _
  | workspaceList => exact workspaceList_moves _ _ _ _ _
  | workspaceJoin => exact workspaceJoin_moves _ _ _ _
  | workspaceLeave => exact workspaceLeave_moves _ _ _
  | workspacePost => exact workspacePost_moves _ _ _ _
  | workspaceHistory => exact workspaceHistory_moves _ _ _ _ _
  | workspaceSubscribe => exact workspaceSubscribe_moves _ _ _ _
  | workspaceUnsubscribe => exact workspaceUnsubscribe_moves _ _ _
  | taskList => exact taskList_moves _ _ _ _ _ _ _ _
  | taskGet => exact taskGet_moves _ _ _ _ _
  | taskHistory => exact taskHistory_moves _ _ _ _ _ _ _
  | taskRequest => exact taskRequest_moves _ _ _ _ _ _ _ _
  | taskImport => exact Handled.start _ _ _ _ _
  | taskLink => exact Handled.start _ _ _ _ _
  | taskPublish => exact Handled.start _ _ _ _ _
  | taskExternalStatus => exact externalStatusReply_moves _ _ _ _ _
  | taskExternalResolve => exact Handled.resolve _ _ _ _ _ _ _ _ _
  | integrationList => exact integrationList_moves _ _ _ _
  | integrationCheck => exact Handled.check _ _ _ _ _
  | integrationReload => exact Handled.reload _ _ _
  | routerShutdown => exact routerShutdown_moves _ _ _
  | _ => exact taskMutate_moves _ _ _ _ _

theorem dispatchReported_moves (id : Uuid) (generation : ℕ) (message : ClientMessage) :
    (dispatchReported id generation message).Moves T := by
  refine .bind (.outcome (dispatch_moves _ _ _)) fun result => ?_
  cases result with
  | ok _ => exact .pure _
  | error error =>
    exact .bind (sendError_moves _ _ _ _) fun _ => .ite markUnhealthy_moves (.pure _)

end handled

end Router

section

variable [World]

/-- A handled relation that also holds when a message is charged to its credential. -/
class Charged (T : RouterState → RouterState → Prop) : Prop extends Handled T where
  charge : ∀ credentialId, (Router.chargeCredential credentialId).Moves T

end

namespace Router

section controls

variable [World] {T : RouterState → RouterState → Prop} [Handled T]

theorem handleControl_moves (input : Input) : (handleControl input).Moves T := by
  cases input with
  | opened generation => exact .bind (openConnection_moves _) fun _ => .pure _
  | closed id generation => exact .bind (disconnectWithReason_moves _ _ _) fun _ => .pure _
  | direct id generation requestId code => exact .bind (sendError_moves _ _ _ _) fun _ => .pure _
  | revokeCredential credentialId => exact .bind (revokeCredential_moves _) fun _ => .pure _
  | enroll request expired => exact .bind (Handled.enroll _ _) fun _ => .pure _
  | checkFinished index result => exact Handled.checkFinished _ _
  | externalGate index => exact Handled.gate _
  | externalFinished index result => exact Handled.finished _ _
  | resolutionFinished index result => exact Handled.resolved _ _
  | shutdown =>
    exact .bind (modify_moves fun _ => ⟨rfl, rfl, rfl⟩) fun _ =>
      .bind shutdownPending_moves fun _ => .bind closeAll_moves fun _ => .pure _
  | deadline => exact .bind expireDeadlines_moves fun _ => .pure _
  | message => exact .pure _

theorem controlRound_moves (input : Input) : (controlRound input).Moves T := by
  refine .bind (.outcome (handleControl_moves _)) fun result => ?_
  cases result with
  | ok stop => exact .pure _
  | error _ => exact .bind failClosed_moves fun _ => .pure _

end controls

section charged

variable [World] {T : RouterState → RouterState → Prop} [Charged T]

theorem handleMessage_moves (id : Uuid) (generation : ℕ) (message : ClientMessage) :
    (handleMessage id generation message).Moves T := by
  have hanswer : ∀ allowed : Bool, (if allowed then dispatchReported id generation message
      else sendError id generation message.requestId? { code := .rateLimited }).Moves T :=
    fun _ => .ite (dispatchReported_moves _ _ _) (sendError_moves _ _ _ _)
  refine .bind (.read _) fun found => ?_
  cases found with
  | none => exact .pure _
  | some c =>
    refine .ite (.pure _) (.bind (.read _) fun credential => ?_)
    cases credential with
    | none => exact hanswer true
    | some credentialId => exact .bind (Charged.charge _) hanswer

theorem messageRound_moves (id : Uuid) (generation : ℕ) (message : ClientMessage) :
    (messageRound id generation message).Moves T :=
  .bind (.read _) fun _ => .ite (.pure _) (.bind (handleMessage_moves _ _ _) fun _ =>
    .bind (.read _) fun _ => .ite (.bind (.outcome shutdownPending_moves) fun _ =>
      .bind closeAll_moves fun _ => .pure _) (.pure _))

theorem round_moves (input : Input) : (round input).Moves T := by
  cases input with
  | message id generation message => exact messageRound_moves _ _ _
  | _ => exact controlRound_moves _

end charged

end Router

end SessionRouter
