import SessionRouter.Router.Commits
import SessionRouter.Router.Faults

/-!
A task command that is sent once more. Its receipt answers it, and nothing but time and messages
comes of that, unless a queue refuses one of the messages. The handler has checks of its own in
front of the receipt, and two of its effects reach past it: an interruption ends the request that
dispatches the task now, and a confirmed stop frees the agent.
-/

namespace SessionRouter

section

variable [World] {s s' s'' : RouterState}

/-- Every queue that was offered a message between the two states took it. -/
def Taken (s s' : RouterState) : Prop :=
  ∀ t, s.tick ≤ t → t < s'.tick → World.accepts t = true

/-- Nothing changed but the clock and the messages handed out. -/
structure Inert (s s' : RouterState) : Prop where
  db : s'.db = s.db
  pending : s'.pending = s.pending
  connections : s'.connections = s.connections
  outbox : s.outbox <+: s'.outbox

/-- Time passes, and nothing else happens while every message is taken. -/
structure Passive (s s' : RouterState) : Prop where
  tick : s.tick ≤ s'.tick
  inert : Taken s s' → Inert s s'

omit [World] in
theorem Inert.refl (s : RouterState) : Inert s s := ⟨rfl, rfl, rfl, List.prefix_rfl⟩

omit [World] in
theorem Inert.trans (h : Inert s s') (h' : Inert s' s'') : Inert s s'' :=
  ⟨h'.db.trans h.db, h'.pending.trans h.pending, h'.connections.trans h.connections,
    h.outbox.trans h'.outbox⟩

theorem Taken.first (h : Taken s s'') (htick : s'.tick ≤ s''.tick) : Taken s s' :=
  fun t hle hlt => h t hle (hlt.trans_le htick)

theorem Taken.rest (h : Taken s s'') (htick : s.tick ≤ s'.tick) : Taken s' s'' :=
  fun t hle hlt => h t (htick.trans hle) hlt

theorem Passive.of_inert (htick : s.tick ≤ s'.tick) (h : Inert s s') : Passive s s' :=
  ⟨htick, fun _ => h⟩

instance : Std.Refl (Passive : RouterState → RouterState → Prop) :=
  ⟨fun s => .of_inert le_rfl (.refl s)⟩

instance : IsTrans RouterState (Passive : RouterState → RouterState → Prop) :=
  ⟨fun _ _ _ h h' => ⟨h.tick.trans h'.tick, fun ht =>
    (h.inert (ht.first h'.tick)).trans (h'.inert (ht.rest h.tick))⟩⟩

/-- A message to a connection that is there is in the outbox when it is taken. -/
theorem send_taken {ε : Type} {id : Uuid} {c : ConnectionState}
    (hc : s.connections.get? id = some c) (message : ServerMessage) {Q : Bool → RouterState → Prop}
    {E : ε → RouterState → Prop}
    (hQ : ∀ sent s', Passive s s' → (Taken s s' → sent = true ∧
      s'.outbox = s.outbox ++ [(id, message)]) → Q sent s') :
    Actor.wp (Router.send id c.generation message) Q E s := by
  unfold Actor.wp Router.send
  simp only [hc, if_true]
  have hnow : ∀ s' : RouterState, s'.tick = s.tick + 1 → Taken s s' →
      World.accepts s.tick = true := fun s' htick ht => ht s.tick le_rfl (by omega)
  refine hQ _ _ ⟨Nat.le_succ _, fun ht => ⟨rfl, rfl, rfl, ?_⟩⟩ fun ht => ?_
  · simp only [hnow _ rfl ht, if_true]
    exact List.prefix_append _ _
  · simp only [hnow _ rfl ht, if_true]
    exact ⟨trivial, trivial⟩

namespace Router

variable {ε α : Type}

theorem traverse_passive (l : List α) : (traverse l : Router ε (List α)).Moves Passive :=
  fun s => .of_inert (Nat.le_succ s.tick) ⟨rfl, rfl, rfl, List.prefix_rfl⟩

theorem send_passive (id : Uuid) (generation : ℕ) (message : ServerMessage) :
    (send id generation message : Router ε Bool).Moves Passive := by
  refine .of_wp fun s => ?_
  cases hc : s.connections.get? id with
  | none =>
    unfold Actor.wp send
    simp only [hc]
    exact refl_of Passive s
  | some c =>
    by_cases hgeneration : c.generation = generation
    · subst hgeneration
      exact send_taken hc message fun _ _ h _ => h
    · unfold Actor.wp send
      simp only [hc, if_neg hgeneration]
      exact refl_of Passive s

/-- No recipient has refused the event when every message was taken. -/
theorem publish_passive (event : WorkspaceEvent) (ids : List Uuid) :
    Actor.wp (publish event ids : Router ε (List (Uuid × ℕ)))
      (fun failed s' => Passive s s' ∧ (Taken s s' → failed = [])) (fun _ _ => False) s := by
  induction ids generalizing s with
  | nil => exact ⟨refl_of Passive s, fun _ => rfl⟩
  | cons id ids ih =>
    unfold publish
    rw [Actor.wp_bind, Actor.wp_read]
    cases hc : s.connections.get? id with
    | none => exact ih
    | some c =>
      rw [Actor.wp_bind]
      refine send_taken hc _ fun sent s₁ hpassive hsent => ?_
      rw [Actor.wp_bind]
      refine Actor.wp_mono ih (fun failed s₂ hrest => ?_) fun _ _ hfalse => hfalse
      refine ⟨trans_of Passive hpassive hrest.1, fun ht => ?_⟩
      rw [(hsent (ht.first hrest.1.tick)).1, if_pos rfl]
      exact hrest.2 (ht.rest hpassive.tick)

theorem fanout_passive (event : WorkspaceEvent) : (fanout event).Moves Passive := by
  intro s
  have hlater : ∀ failed : List (Uuid × ℕ), (dropFailed (fun id generation =>
      disconnectWith (fanoutDepth s.connections.size) id generation .transportLost)
      failed).Moves Commits := fun failed =>
    dropFailed_moves (fun _ _ => disconnectWith_moves (fun e => fanoutDepth_moves _ e) _ _ _) failed
  have hall : Actor.wp (fanoutDepth (s.connections.size + 1) event) (fun _ s' => Passive s s')
      (fun _ s' => Passive s s') s := by
    unfold fanoutDepth fanoutWith
    simp only [Actor.wp_bind, Actor.wp_read]
    refine Actor.wp_mono (traverse_passive _).wp (fun recipients s₁ h₁ => ?_) fun _ _ h => h
    refine Actor.wp_mono (publish_passive event recipients) (fun failed s₂ h₂ => ?_)
      fun _ _ hfalse => hfalse.elim
    have h₀₂ := trans_of Passive h₁ h₂.1
    cases failed with
    | nil => exact h₀₂
    | cons x failed =>
      -- Somebody refused the event, so there is nothing to show but that time goes on.
      refine Actor.wp_mono (hlater (x :: failed)).wp ?_ ?_
      all_goals
        intro _ s₃ h₃
        have htick : s₂.tick ≤ s₃.tick := StoreSteps.tick h₃
        refine ⟨h₀₂.tick.trans htick, fun ht => ?_⟩
        have hnone := h₂.2 ((ht.first htick).rest h₁.tick)
        cases hnone
  exact Actor.wp_state.mp hall

theorem notifyTaskAttemptChanged_passive (workspace : WorkspaceName) (taskId : ℕ)
    (attempt : Option TaskAttempt) (closed : Option Uuid) (agentId : String) :
    (notifyTaskAttemptChanged workspace taskId attempt closed agentId).Moves Passive := by
  refine .bind (fun s => ?_) fun _ => .bind .get fun s => ?_
  · rw [query_state]
    exact refl_of Passive s
  · split
    · exact .pure _
    · split
      · exact .pure _
      · exact .bind (send_passive _ _ _) fun _ => .pure _

/-- Nobody is left to tell an error: the subscribers hear of the mutation, and the agent of the
attempt does. -/
theorem announceMutation_passive {F : Prop} {workspace : WorkspaceName} {command : TaskCommand}
    {result : TaskApplyResult} (h : Good (.rest F) s) :
    Actor.wp (announceMutation workspace command none result) (fun _ s' => Passive s s')
      (fun _ _ => False) s := by
  unfold announceMutation
  rw [Actor.wp_bind, wp_lift]
  refine Actor.wp_mono (Actor.wp_and (fanout_spec _ s _ h) (fanout_passive _).wp) ?_
    fun _ _ hfalse => hfalse.1.elim
  rintro - s₁ ⟨⟨h₁, -⟩, hpassive⟩
  dsimp only
  split
  · exact hpassive
  · rw [wp_lift]
    refine Actor.wp_mono (Actor.wp_and (notifyTaskAttemptChanged_spec h₁.base.store
      (Q := fun _ _ => True) (E := fun _ _ => False) fun _ _ => trivial)
      (notifyTaskAttemptChanged_passive _ _ _ _ _).wp) ?_ fun _ _ hfalse => hfalse.1
    rintro - s₂ ⟨-, h₂⟩
    exact trans_of Passive hpassive h₂

end Router

end

section

variable [World] {s s' : RouterState} {F : Prop} {id : Uuid} {generation : ℕ}
  {workspace : WorkspaceName} {command : TaskCommand} {caller : CallerContext}
  {receipt : MutationRow}

/-- A connection that is up sends a command once more that it, or another of its actor, was given a
receipt for in the workspace. -/
structure Retries (s : RouterState) (id : Uuid) (generation : ℕ) (workspace : WorkspaceName)
    (command : TaskCommand) (receipt : MutationRow) : Prop where
  running : s.shuttingDown = false
  connected : (s.connections.get? id).map ConnectionState.generation = some generation
  joined : s.currentWorkspace id = .ok workspace
  actor : s.actorId id = .ok receipt.actorId
  stored : s.db.mutations.get? (workspace, command.operationId) = some receipt
  same : receipt.requestHash = command

/-- What refuses a command before its receipt is found, or at the receipt. -/
inductive RetryRefused (s : RouterState) (id : Uuid) (workspace : WorkspaceName)
    (command : TaskCommand) : RouterErrorCode → Prop
  | active {taskId : ℕ} (htask : command.taskId? = some taskId)
      (hguarded : command.allowedWhileDispatched = false)
      (hdispatched : s.taskDispatched workspace taskId = true) :
      RetryRefused s id workspace command .taskActive
  | busy {c : ConnectionState} (hbegin : command.isBegin = true)
      (hc : s.effectiveConnection id = some c)
      (hbusy : c.canceling.isSome = true ∨
        ∃ agentId, c.agentId? = some agentId ∧ Unconfirmed s.db agentId) :
      RetryRefused s id workspace command .sessionBusy
  | invalid {caller : CallerContext} {code : RouterErrorCode}
      (hcaller : Router.callerOf s id workspace
        (Router.reservation s (s.effective id) workspace command) = .ok caller)
      (hinvalid : validateCommand caller command = some code) :
      RetryRefused s id workspace command code
  | stale (hbegin : command.isBegin = true) : RetryRefused s id workspace command .taskStaleAttempt

/-- The command is answered as it was answered first, and nothing comes of it. What becomes of the
readiness of an agent whose stop it confirms is left open. -/
structure RetryAnswered (id : Uuid) (requestId : String) (workspace : WorkspaceName)
    (command : TaskCommand) (receipt : MutationRow) (s s' : RouterState) : Prop where
  answer : ∃ mutation rest,
    s'.outbox = s.outbox ++ (id, .taskMutated requestId workspace mutation) :: rest ∧
    mutation.appliedVersion = receipt.appliedVersion ∧ mutation.reportId = receipt.reportId
  db : s'.db = s.db
  pending : ∀ key, s'.pending.get? key = s.pending.get? key
  canceling : ∀ i, (s'.connections.get? i).map ConnectionState.canceling =
    (s.connections.get? i).map ConnectionState.canceling
  connections : ∀ i, (∀ agentId, Router.stoppedAgent s.db command = some agentId →
    s.primaries.get? agentId ≠ some i) → s'.connections.get? i = s.connections.get? i

/-- A command that its receipt may answer is refused only as too late. -/
theorem applyTask_retried {t : Tx} (h : DbInv t.db t.tick)
    (hreceipt : t.db.mutations.get? (caller.workspace, command.operationId) = some receipt)
    (hactor : receipt.actorId = caller.actorId) (hsame : receipt.requestHash = command) :
    Txn.wp (applyTask caller command)
      (fun result t' => t' = t ∧ Replayed caller command t result receipt)
      (fun e => validateCommand caller command = some e.code ∨
        e.code = .taskStaleAttempt ∧ command.isBegin = true) t := by
  unfold applyTask
  cases hvalid : validateCommand caller command with
  | some code => exact .inl rfl
  | none =>
    simp only [Txn.wp_bind, Store.wp_read, hreceipt]
    refine Txn.wp_mono (replayReceipt_spec h hreceipt) (fun _ _ hr => hr) fun e he => ?_
    exact .inr (he.resolve_left fun hconflict => hconflict.2 ⟨hactor, hsame⟩)

theorem requireUnblocked_retried (h : Good (.rest F) s) (connection : Option ConnectionState) :
    Actor.wp (Router.requireUnblocked connection) (fun _ s' => s' = s)
      (fun e s' => s' = s ∧ e.code = .sessionBusy ∧ ∃ c, connection = some c ∧
        (c.canceling.isSome = true ∨
          ∃ agentId, c.agentId? = some agentId ∧ Unconfirmed s.db agentId)) s := by
  unfold Router.requireUnblocked
  rw [Actor.wp_bind, Router.wp_requireThat]
  refine ⟨fun _ => ?_, fun hcanceling => ⟨rfl, rfl, ?_⟩⟩
  · cases hagent : connection.bind ConnectionState.agentId? with
    | none => rfl
    | some agentId =>
      obtain ⟨running, stopPending, hq, hun, -⟩ :=
        agentExecutionBarriers_spec h.base.store.db.tasks agentId
      simp only [Actor.wp_bind, Router.wp_lift]
      refine Router.wp_query hq (Router.wp_requireThat.mpr ⟨fun _ => rfl, fun hstop => ?_⟩)
      obtain ⟨c, hc, hagent⟩ := Option.bind_eq_some_iff.mp hagent
      exact ⟨rfl, rfl, c, hc, .inr ⟨agentId, hagent, hun.mp (by simpa using hstop)⟩⟩
  · cases connection with
    | none => simp at hcanceling
    | some c =>
      refine ⟨c, rfl, .inl ?_⟩
      rw [Option.all_some] at hcanceling
      rw [← Option.not_isNone, hcanceling]
      rfl

theorem callerContext_retried {actor : String} (h : Good (.rest F) s)
    (hactor : s.actorId id = .ok actor) :
    Actor.wp (Router.callerContext id workspace command)
      (fun caller s' => s' = s ∧ Router.callerOf s id workspace
        (Router.reservation s (s.effective id) workspace command) = .ok caller)
      (fun e s' => s' = s ∧ RetryRefused s id workspace command e.code) s := by
  obtain ⟨⟨c, hc⟩, caller, hcaller⟩ := callerOf_ok hactor workspace
    (Router.reservation s (s.effective id) workspace command)
  unfold Router.callerContext
  simp only [Actor.wp_bind, Actor.wp_read]
  refine Router.wp_requireThat.mpr ⟨fun _ => ?_, fun hmissing => by simp [hc] at hmissing⟩
  have hlast : Actor.wp (Router.ask fun s' => Router.callerOf s' id workspace
      (Router.reservation s' (s.effective id) workspace command))
      (fun caller s' => s' = s ∧ Router.callerOf s id workspace
        (Router.reservation s (s.effective id) workspace command) = .ok caller)
      (fun e s' => s' = s ∧ RetryRefused s id workspace command e.code) s := by
    refine Router.wp_ask.mpr ⟨fun caller' hcaller' => ⟨rfl, hcaller'⟩, fun e he => ?_⟩
    rw [hcaller] at he
    cases he
  rw [Actor.wp_ite]
  refine ⟨fun hbegin => ?_, fun _ => hlast⟩
  rw [Actor.wp_bind]
  refine Actor.wp_mono (requireUnblocked_retried h _) ?_ ?_
  · rintro - _ rfl
    exact hlast
  · rintro e _ ⟨rfl, hcode, c', hc', hbusy⟩
    refine ⟨rfl, ?_⟩
    rw [hcode]
    exact .busy hbegin hc' hbusy

/-- The request that a repeated `Begin` is bound to carries its attempt already. -/
theorem bindAttempt_replayed {result : TaskApplyResult} (h : Good (.rest F) s)
    (hrun : s.shuttingDown = false) (hworkspace : caller.workspace = workspace)
    (hreplayed : Replayed caller command s.store.tx result receipt) :
    Actor.wp (Router.bindAttempt workspace command result.mutation.task.summary.currentAttemptId)
      (fun _ s' => (∀ key, s'.pending.get? key = s.pending.get? key) ∧ s'.store = s.store ∧
        s'.connections = s.connections ∧ s'.primaries = s.primaries ∧ s'.outbox = s.outbox)
      (fun _ _ => False) s := by
  cases hwork : command.workRequest? with
  | some work =>
    rw [bindAttempt_begin hwork]
    refine ⟨fun key => ?_, rfl, rfl, rfl, rfl⟩
    rw [← hworkspace]
    exact hreplayed.rebinds h hrun hwork key
  | none =>
    rw [bindAttempt_other hwork]
    exact ⟨fun _ => rfl, rfl, rfl, rfl, rfl⟩

/-- A confirmed stop changes the connection of the agent alone, and little of that. -/
structure Released (stopped : Option String) (s s' : RouterState) : Prop where
  store : s'.store = s.store
  pending : s'.pending = s.pending
  outbox : s'.outbox = s.outbox
  generation : ∀ i, (s'.connections.get? i).map ConnectionState.generation =
    (s.connections.get? i).map ConnectionState.generation
  canceling : ∀ i, (s'.connections.get? i).map ConnectionState.canceling =
    (s.connections.get? i).map ConnectionState.canceling
  connections : ∀ i, (∀ agentId, stopped = some agentId → s.primaries.get? agentId ≠ some i) →
    s'.connections.get? i = s.connections.get? i

omit [World] in
theorem freeStopped_released (stopped : Option String) :
    Actor.wp (Router.freeStopped stopped) (fun _ s' => Released stopped s s')
      (fun _ _ => False) s := by
  unfold Router.freeStopped
  rw [Actor.wp_bind, Actor.wp_read]
  cases hid : stopped.bind s.primaries.get? with
  | none => exact ⟨rfl, rfl, rfl, fun _ => rfl, fun _ => rfl, fun _ _ => rfl⟩
  | some i =>
    obtain ⟨agentId, hagent, hprimary⟩ := Option.bind_eq_some_iff.mp hid
    rw [Router.wp_setBusy]
    refine ⟨rfl, rfl, rfl, fun j => ?_, fun j => ?_, fun j hother => ?_⟩
    · simp only [Table.get?_adjust]
      split
      · next heq =>
        subst heq
        rw [Option.map_map]
        refine congrFun (congrArg Option.map (funext fun c => ?_)) _
        rw [Function.comp_apply, ← ConnectionState.card_generation, c.setBusy_card,
          ConnectionState.card_generation]
      · rfl
    · simp only [Table.get?_adjust]
      split
      · next heq =>
        subst heq
        rw [Option.map_map]
        exact congrFun (congrArg Option.map (funext fun c => c.setBusy_canceling s.db false)) _
      · rfl
    · refine (Table.get?_adjust _ _ _ _).trans (if_neg ?_)
      rintro rfl
      exact hother agentId hagent hprimary

omit [World] in
/-- The clock has no part in a refusal. -/
theorem RetryRefused.of_tick {tick : ℕ} {code : RouterErrorCode}
    (h : RetryRefused { s with store := { s.store with tick } } id workspace command code) :
    RetryRefused s id workspace command code := by
  cases h with
  | active htask hguarded hdispatched => exact .active htask hguarded hdispatched
  | busy hbegin hc hbusy => exact .busy hbegin hc hbusy
  | invalid hcaller hinvalid => exact .invalid hcaller hinvalid
  | stale hbegin => exact .stale hbegin

omit [World] in
theorem RetryAnswered.of_tick {tick : ℕ} {requestId : String}
    (h : RetryAnswered id requestId workspace command receipt
      { s with store := { s.store with tick } } s') :
    RetryAnswered id requestId workspace command receipt s s' :=
  ⟨h.answer, h.db, h.pending, h.canceling, h.connections⟩

/-- An interruption of a task that no request dispatches ends no request. -/
theorem Interrupts.eq_none {interrupted : Option (WorkspaceName × String)} (h : Good (.rest F) s)
    (hinterrupts : Interrupts s workspace command interrupted)
    (hends : ∀ taskId, command.interrupts? = some taskId →
      s.taskDispatched workspace taskId = false) : interrupted = none := by
  cases hcase : interrupted with
  | none => rfl
  | some key =>
    obtain ⟨p, dispatch, hp, hkey, hdispatch, hid⟩ := hinterrupts.found key hcase
    have hopen := hends dispatch.id hid
    have hpw : p.workspace = workspace :=
      (congrArg Prod.fst (h.base.requests.keyed key p hp)).symm.trans hkey
    simp only [RouterState.taskDispatched, List.any_eq_false] at hopen
    refine absurd ?_ (hopen (key, p) ((Table.mem_toList _ _ _).mpr hp))
    simp [PendingRequest.dispatches, hpw, hdispatch]

/-- What the handler does once the receipt has answered. -/
theorem replayed_answers {result : TaskApplyResult} {requestId : String} (h : Good (.rest False) s)
    (hrun : s.shuttingDown = false)
    (hconnected : (s.connections.get? id).map ConnectionState.generation = some generation)
    (hw : s.currentWorkspace id = .ok workspace) (hcaller : Presented s id workspace command caller)
    (hfree : ∀ taskId, command.taskId? = some taskId → command.allowedWhileDispatched = false →
      s.taskDispatched workspace taskId = false)
    (hreplayed : Replayed caller command s.store.tx result receipt)
    {Q : Unit → RouterState → Prop} {E : ActorError → RouterState → Prop}
    (hQ : ∀ s', (Taken s s' → RetryAnswered id requestId workspace command receipt s s') →
      Q () s') :
    Actor.wp (Router.bindAttempt workspace command result.mutation.task.summary.currentAttemptId)
      (fun _ s' => Actor.wp (Router.freeStopped (Router.stoppedAgent s.db command))
        (fun _ s' => Actor.wp
          (Router.send id generation (.taskMutated requestId workspace result.mutation))
          (fun _ s' => Actor.wp (Router.announceMutation workspace command none result) Q E s')
          E s') E s') E (s.commit s.store.tx) := by
  have hgood := replayed_spec (E := fun _ _ => False) h hrun hcaller hw hfree (fun hF => hF.elim)
    hreplayed (Q := fun _ s' => Good { Phase.rest False with exempt := none } s') fun _ hg => hg
  have hcommitted : Good (.rest False) (s.commit s.store.tx) :=
    h.stored (Stored.commit h.base.store (.refl h.base.store.db)) (fun _ => .none _ _) (by simp)
  refine Actor.wp_mono (Actor.wp_and hgood (bindAttempt_replayed hcommitted hrun hcaller.workspace
    hreplayed)) ?_ fun _ _ hfalse => hfalse.1.elim
  rintro - s₂ ⟨hfreed, hpending, hstore, hconnections, hprimaries, houtbox⟩
  refine Actor.wp_mono (Actor.wp_and hfreed (freeStopped_released _)) ?_
    fun _ _ hfalse => hfalse.1.elim
  rintro - s₃ ⟨h₃, hreleased⟩
  obtain ⟨c, hc, hgeneration⟩ : ∃ c, s₃.connections.get? id = some c ∧
      c.generation = generation := by
    have hthere := hreleased.generation id
    rw [hconnections] at hthere
    exact Option.map_eq_some_iff.mp (hthere.trans hconnected)
  subst hgeneration
  have hreplies := send_taken (ε := ActorError) (E := fun _ _ => False) hc
    (.taskMutated requestId workspace result.mutation) (Q := fun _ s' => Passive s₃ s' ∧
      (Taken s₃ s' → s'.outbox = s₃.outbox ++ [(id, .taskMutated requestId workspace
        result.mutation)])) fun _ _ hpassive hsent => ⟨hpassive, fun ht => (hsent ht).2⟩
  refine Actor.wp_mono (Actor.wp_and (Router.send_spec (E := fun _ _ => False)
    (Q := fun _ s' => Quiet s₃ s') fun _ _ hq => hq) hreplies) ?_ fun _ _ hfalse => hfalse.1.elim
  rintro - s₄ ⟨hquiet, hsent, hreply⟩
  refine Actor.wp_mono (Router.announceMutation_passive (h₃.quiet hquiet)) (fun _ s₅ hlast => ?_)
    fun _ _ hfalse => hfalse.elim
  refine hQ s₅ fun htaken => ?_
  have hstore₃ := hreleased.store.trans hstore
  have htick₃ : s.tick ≤ s₃.tick := (congrArg RouterStore.tick hstore₃).ge
  have hdb₃ : s₃.db = s.db := by
    change s₃.store.db = _
    rw [hstore₃]
    rfl
  have htaken₃ := htaken.rest htick₃
  have h₄ := hsent.inert (htaken₃.first hlast.tick)
  have h₅ := hlast.inert (htaken₃.rest hsent.tick)
  have hconnections₅ : s₅.connections = s₃.connections := h₅.connections.trans h₄.connections
  refine ⟨?_, h₅.db.trans (h₄.db.trans hdb₃), fun key => ?_, fun i => ?_, fun i hother => ?_⟩
  · obtain ⟨rest, hrest⟩ := h₅.outbox
    refine ⟨result.mutation, rest, ?_, hreplayed.version, hreplayed.report⟩
    rw [← hrest, hreply (htaken₃.first hlast.tick), hreleased.outbox, houtbox, List.append_assoc]
    rfl
  · rw [h₅.pending, h₄.pending, hreleased.pending]
    exact hpending key
  · rw [hconnections₅, hreleased.canceling, hconnections]
    rfl
  · rw [hconnections₅, hreleased.connections i fun agentId hagent => ?_, hconnections]
    · rfl
    · rw [hprimaries]
      exact hother agentId hagent

theorem taskMutate_retried (h : Good (.rest False) s)
    (hretries : Retries s id generation workspace command receipt)
    (hends : ∀ taskId, command.interrupts? = some taskId →
      s.taskDispatched workspace taskId = false) (requestId : String) :
    Actor.wp (Router.taskMutate id generation requestId workspace command)
      (fun _ s' => Taken s s' → RetryAnswered id requestId workspace command receipt s s')
      (fun e s' => RetryRefused s id workspace command e.code ∧ Inert s s') s := by
  obtain ⟨hrun, hconnected, hw, hactor, hreceipt, hsame⟩ := hretries
  unfold Router.taskMutate Router.requireWorkspaceMatch
  simp only [Actor.wp_bind]
  refine Router.wp_ask.mpr ⟨fun current hcurrent => ?_, fun e he => ?_⟩
  rotate_left
  · rw [hw] at he
    cases he
  rw [hw, Except.ok.injEq] at hcurrent
  subst hcurrent
  rw [Actor.wp_require]
  refine ⟨fun _ => ?_, fun hne => absurd hne (by simp)⟩
  rw [Actor.wp_read]
  refine Router.wp_requireThat.mpr ⟨fun hguard => ?_, fun hguard => ?_⟩
  rotate_left
  · cases htask : command.taskId? with
    | none => simp [htask] at hguard
    | some taskId =>
      simp only [htask, Option.any_some, Bool.or_eq_false_iff, Bool.not_eq_false'] at hguard
      exact ⟨.active htask hguard.1 hguard.2, .refl s⟩
  refine interruptedRequest_spec fun interrupted tick htick hinterrupts => ?_
  have hnone := hinterrupts.eq_none h hends
  subst hnone
  -- From here on only the clock differs from the state in which the command came.
  have hinert : Inert s { s with store := { s.store with tick } } :=
    ⟨rfl, rfl, rfl, List.prefix_rfl⟩
  have hq : Quiet s { s with store := { s.store with tick } } :=
    ⟨rfl, rfl, htick, rfl, rfl, rfl, rfl, rfl, fun hs => hs⟩
  have h₁ := h.quiet hq
  rw [Actor.wp_read]
  refine Actor.wp_mono (callerContext_retried h₁ hactor) ?_ ?_
  rotate_left
  · rintro e _ ⟨rfl, hrefused⟩
    exact ⟨hrefused.of_tick, hinert⟩
  rintro caller _ ⟨rfl, hcaller⟩
  have hpresented := callerOf_spec h₁ hrun hw hcaller
  have hsameActor : receipt.actorId = caller.actorId :=
    Except.ok.inj (hactor.symm.trans hpresented.actor)
  have hstored : s.db.mutations.get? (caller.workspace, command.operationId) = some receipt := by
    rw [hpresented.workspace]
    exact hreceipt
  rw [Actor.wp_mapError, Router.wp_inStore]
  refine Txn.wp_mono (applyTask_retried h₁.base.store.db hstored hsameActor hsame) ?_ ?_
  rotate_left
  · rintro e (hinvalid | ⟨hcode, hbegin⟩)
    · exact ⟨.of_tick (.invalid hcaller hinvalid), hinert⟩
    · refine ⟨?_, hinert⟩
      change RetryRefused s id workspace command e.code
      rw [hcode]
      exact .stale hbegin
  rintro result t ⟨rfl, hreplayed⟩
  have hfree : ∀ taskId, command.taskId? = some taskId → command.allowedWhileDispatched = false →
      s.taskDispatched workspace taskId = false := by
    intro taskId htask hallowed
    simpa [htask, hallowed] using hguard
  exact replayed_answers h₁ hrun hconnected hw hpresented hfree hreplayed fun s' hanswered htaken =>
    (hanswered (htaken.rest htick)).of_tick

end

namespace Sample

/-- A retry, as far as it can be computed. -/
def retries (s : RouterState) (id : Uuid) (generation : ℕ) (command : TaskCommand)
    (actor : String) : Bool :=
  !s.shuttingDown && (s.connections.get? id).map ConnectionState.generation = some generation &&
    (s.currentWorkspace id).toOption = some workspace && (s.actorId id).toOption = some actor &&
    (s.db.mutations.get? (workspace, command.operationId)).any fun m =>
      m.actorId = actor && m.requestHash = command

theorem toOption_some {ε α : Type} {r : Except ε α} {a : α} (h : r.toOption = some a) :
    r = .ok a := by
  cases r with
  | error e => cases h
  | ok b =>
    cases h
    rfl

theorem retries_exists {s : RouterState} {id : Uuid} {generation : ℕ} {command : TaskCommand}
    {actor : String} (h : retries s id generation command actor = true) :
    ∃ receipt, Retries s id generation workspace command receipt := by
  unfold retries at h
  simp only [Bool.and_eq_true, Bool.not_eq_true', decide_eq_true_eq] at h
  obtain ⟨⟨⟨⟨hrun, hconnected⟩, hw⟩, hactor⟩, hstored⟩ := h
  obtain ⟨receipt, hreceipt, hprops⟩ := (Option.any_eq_true _ _).mp hstored
  simp only [Bool.and_eq_true, decide_eq_true_eq] at hprops
  exact ⟨receipt, hrun, hconnected, toOption_some hw, hprops.1 ▸ toOption_some hactor, hreceipt,
    hprops.2⟩

/-- The code with which a handler fails. -/
def failure (r : Except ActorError Unit × RouterState) : Option RouterErrorCode :=
  match r.1 with
  | .ok _ => none
  | .error e => some e.code

theorem failure_none {r : Except ActorError Unit × RouterState} (h : failure r = none) :
    ∃ s', r = (.ok (), s') := by
  obtain ⟨r, s'⟩ := r
  cases r with
  | error e => cases h
  | ok _ => exact ⟨s', rfl⟩

theorem failure_some {r : Except ActorError Unit × RouterState} {code : RouterErrorCode}
    (h : failure r = some code) : ∃ e s', r = (.error e, s') ∧ e.code = code := by
  obtain ⟨r, s'⟩ := r
  cases r with
  | error e => exact ⟨e, s', rfl, Option.some.inj h⟩
  | ok _ => cases h

/-- The agent begins once more while its attempt runs and after it was interrupted, and the
administrator assigns the task once more while it is dispatched and interrupts it twice. -/
theorem retrying_checked :
    ((runInputs started (joining ++ beginning)).isSome = true ∧
      retries (after (joining ++ beginning)) agent 2 (.begin ⟨102⟩ 1 "r6" 2 none "go") "a" = true ∧
      failure (Router.taskMutate agent 2 "r9" workspace (.begin ⟨102⟩ 1 "r6" 2 none "go")
        (after (joining ++ beginning))) = none ∧
      retries (after (joining ++ beginning)) admin 1 (.assign ⟨101⟩ 1 1 (some "a"))
        "operator:admin" = true ∧
      failure (Router.taskMutate admin 1 "r9" workspace (.assign ⟨101⟩ 1 1 (some "a"))
        (after (joining ++ beginning))) = some .taskActive) ∧
    (runInputs started (joining ++ beginning ++ interrupting)).isSome = true ∧
      retries (after (joining ++ beginning ++ interrupting)) agent 2
        (.begin ⟨102⟩ 1 "r6" 2 none "go") "a" = true ∧
      failure (Router.taskMutate agent 2 "r9" workspace (.begin ⟨102⟩ 1 "r6" 2 none "go")
        (after (joining ++ beginning ++ interrupting))) = some .sessionBusy ∧
      retries (after (joining ++ beginning ++ interrupting)) admin 1 (.interrupt ⟨103⟩ 1 3 "stop")
        "operator:admin" = true ∧
      (after (joining ++ beginning ++ interrupting)).taskDispatched workspace 1 = false ∧
      failure (Router.taskMutate admin 1 "r9" workspace (.interrupt ⟨103⟩ 1 3 "stop")
        (after (joining ++ beginning ++ interrupting))) = none := by
  decide +kernel

theorem always_taken (s s' : RouterState) : Taken s s' := fun _ _ _ => rfl

end Sample

namespace Deaf

open Sample (fromAdmin)

/-- A world in which one message finds the queue full. -/
scoped instance world : World := { Sample.world with accepts := fun t => t ≠ 26 }

def started : RouterState :=
  match boot (openStore initialDb 1) with
  | (.ok (integrations, client), store) => { store, integrations, integrationClient := client }
  | (.error _, store) => {
      store, integrations := { configurationInvalid := true, active := ∅ },
      integrationClient := false }

/-- The administrator follows a workspace and creates a task. -/
def creating : List Input :=
  [.opened 1, fromAdmin (.registerOperator 2 (Sample.token 3)),
    fromAdmin (.workspaceCreate "r1" Sample.workspace),
    fromAdmin (.workspaceJoin "r2" Sample.workspace), fromAdmin (.workspaceSubscribe "r3" 0),
    fromAdmin (.taskCreate "r4" Sample.workspace ⟨100⟩ "t" "")]

def created : RouterState := (runInputs started creating).getD started

theorem created_reachable : Reachable (.up created) := by
  have hok : (boot (openStore initialDb 1)).1.isOk = true := by decide +kernel
  have hsome : (runInputs started creating).isSome = true := by decide +kernel
  have hstarted : Reachable (.up started) := by
    unfold started
    rcases hboot : boot (openStore initialDb 1) with ⟨result, store⟩
    rw [hboot] at hok
    cases result with
    | error e => cases hok
    | ok r => exact .start .create hboot
  obtain ⟨s', hs'⟩ := Option.isSome_iff_exists.mp hsome
  unfold created
  rw [hs']
  exact Runs.inputs hstarted (fun _ _ _ => trivial) hs'

/-- The creation is sent once more, and the administrator is gone when it is announced. -/
theorem recreation_checked :
    Sample.retries created Sample.admin 1 (.create ⟨100⟩ "t" "") "operator:admin" = true ∧
    Sample.failure (Router.taskMutate Sample.admin 1 "r5" Sample.workspace
      (.create ⟨100⟩ "t" "") created) = none ∧
    ((Router.taskMutate Sample.admin 1 "r5" Sample.workspace
      (.create ⟨100⟩ "t" "") created).2.connections.get? Sample.admin).isNone = true := by
  decide +kernel

end Deaf

end SessionRouter
