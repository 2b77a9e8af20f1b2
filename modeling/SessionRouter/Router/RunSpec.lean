import SessionRouter.Router.DispatchSpec

/-!
The invariant over whole runs: every round of the loop keeps it, a crash leaves a database that
satisfies its part of it, and starting on such a database establishes it again.
-/

namespace SessionRouter

variable [World] {s : RouterState} {F : Prop}

section rounds

variable {id : Uuid} {generation : ℕ} {message : ClientMessage}

omit [World] in
theorem ClientMessage.calm_of_same {s' : RouterState} (hdb : s'.db = s.db)
    (hconnections : s'.connections = s.connections) (hprimaries : s'.primaries = s.primaries)
    (hpending : s'.pending = s.pending) (h : message.calm s id) : message.calm s' id := by
  unfold ClientMessage.calm Calm RouterState.currentWorkspace RouterState.actorId
    RouterState.effectiveConnection RouterState.effective RouterState.effectivePrimary
    RouterState.taskDispatched at *
  simp only [hdb, hconnections, hprimaries, hpending]
  exact h

/-- A refused message is answered; a storage error stops the router. -/
theorem dispatchReported_spec {c : ConnectionState} (h : Good (.rest F) s)
    (hrun : s.shuttingDown = false) (hc : s.connections.get? id = some c)
    (hgen : c.generation = generation) :
    Actor.wp (Router.dispatchReported id generation message)
      (fun _ s' => Good (.rest (F ∧ message.calm s id)) s') (fun _ _ => False) s := by
  unfold Router.dispatchReported
  simp only [Actor.wp_bind, Actor.wp_outcome]
  refine Actor.wp_mono (dispatch_spec h hrun hc hgen) (fun _ _ hg => hg) ?_
  intro e s₁ he
  refine Router.sendError_spec fun s₂ hq => ?_
  have hbase := he.base.quiet hq
  rw [Actor.wp_ite]
  refine ⟨fun _ => ?_, fun hcode => ?_⟩
  · -- Shutting down makes up for what a failed store call left undone.
    have hquiet : Quiet s₂ { s₂ with
        healthy := false
        shuttingDown := true } :=
      ⟨rfl, rfl, le_rfl, rfl, rfl, rfl, rfl, rfl, fun _ => rfl⟩
    rcases he.live with hl | ⟨-, hx⟩
    · exact (Good.quiet ⟨he.base, hl⟩ hq).quiet hquiet
    · refine ⟨hbase.quiet hquiet, .inl ⟨?_, rfl⟩⟩
      change Exhausted s₂.db
      exact hq.kept.exhausted hx
  · exact Good.quiet ⟨he.base, he.live.resolve_right fun hx => hcode hx.1⟩ hq

theorem chargeCredential_spec {credentialId : Uuid} {Q : Bool → RouterState → Prop}
    {E : StoreError → RouterState → Prop}
    (hQ : ∀ allowed tick credentialBuckets, s.tick ≤ tick →
      Q allowed { s with
        store := { s.store with tick }
        credentialBuckets }) :
    Actor.wp (Router.chargeCredential credentialId) Q E s :=
  hQ _ _ _ (Nat.le_succ _)

theorem handleMessage_spec (h : Good (.rest F) s) (hrun : s.shuttingDown = false) :
    Actor.wp (Router.handleMessage id generation message)
      (fun _ s' => Good (.rest (F ∧ message.calm s id)) s') (fun _ _ => False) s := by
  have hweak : Good (.rest (F ∧ message.calm s id)) s := h.weaken And.left
  unfold Router.handleMessage
  rw [Actor.wp_bind, Actor.wp_read]
  cases hc : s.connections.get? id with
  | none => exact hweak
  | some c =>
    simp only
    rw [Actor.wp_ite]
    refine ⟨fun _ => hweak, fun hgen => ?_⟩
    rw [not_not] at hgen
    simp only [Actor.wp_bind, Actor.wp_read]
    cases hcredential : s.connectionCredentialId id with
    | none => exact dispatchReported_spec h hrun hc hgen
    | some credentialId =>
      simp only
      rw [Actor.wp_bind]
      refine chargeCredential_spec fun allowed tick credentialBuckets htick => ?_
      have hq : Quiet s { s with
          store := { s.store with tick }
          credentialBuckets } :=
        ⟨rfl, rfl, htick, rfl, rfl, rfl, rfl, rfl, fun hs => hs⟩
      rw [Actor.wp_ite]
      refine ⟨fun _ => ?_, fun _ => Router.sendError_spec fun _ hq' => (hweak.quiet hq).quiet hq'⟩
      exact dispatchReported_spec (h.quiet hq) hrun hc hgen

/-- What is left when the loop ends: the commits are sound. -/
theorem shutdownPending_sane {Q : Bool → RouterState → Prop} {E : StoreError → RouterState → Prop}
    {g : Phase} (h : Good g s) (hQ : ∀ s', StoreInv s'.store → Q true s') :
    Actor.wp (do
      let _ ← Actor.outcome (δ := StoreError) Router.shutdownPending
      Router.closeAll
      pure true) Q E s := by
  simp only [Actor.wp_bind, Actor.wp_outcome, Actor.wp_pure]
  refine Actor.wp_mono (shutdownPending_spec h) ?_ ?_
  · exact fun _ s' h' => hQ _ h'.1.base.store
  · exact fun _ s' h' => hQ _ h'.base.store

theorem messageRound_spec (h : Good (.rest F) s) :
    Actor.wp (Router.messageRound id generation message)
      (fun stop s' => StoreInv s'.store ∧
        (stop = false → Good (.rest (F ∧ message.calm s id)) s')) (fun _ _ => False) s := by
  have hweak : Good (.rest (F ∧ message.calm s id)) s := h.weaken And.left
  unfold Router.messageRound
  rw [Actor.wp_bind, Actor.wp_read, Actor.wp_ite]
  refine ⟨fun _ => ⟨h.base.store, fun _ => hweak⟩, fun hrun => ?_⟩
  simp only [Bool.or_eq_true, not_or, Bool.not_eq_true] at hrun
  rw [Actor.wp_bind]
  refine Actor.wp_mono (handleMessage_spec h hrun.1) ?_ fun _ _ hfalse => hfalse
  intro _ s₁ h₁
  rw [Actor.wp_bind, Actor.wp_read, Actor.wp_ite]
  refine ⟨fun _ => ?_, fun _ => ⟨h₁.base.store, fun _ => h₁⟩⟩
  exact shutdownPending_sane h₁ fun s₂ h₂ => ⟨h₂, fun hstop => by cases hstop⟩

/-- A connection that was never seen before plays no part yet. -/
theorem Good.opened (h : Good (.rest F) s) (hrun : s.shuttingDown = false) {id : Uuid}
    (hfresh : s.card id = none) (hdrawn : Drawn s.tick id)
    (hsize : s.connections.size < connectionLimit) :
    Good (.rest F) { s with connections := s.connections.put id (.opened generation) } := by
  have hcard : ∀ i, RouterState.card { s with
      connections := s.connections.put id (.opened generation) } i =
      if i = id then some (ConnectionState.opened generation).card else s.card i := by
    intro i
    simp only [RouterState.card, Table.get?_put]
    split <;> rfl
  have hother : ∀ {i c}, s.card i = some c → i ≠ id := by
    rintro i c hc rfl
    rw [hfresh] at hc
    cases hc
  have hkeep : ∀ {i c}, s.card i = some c → RouterState.card { s with
      connections := s.connections.put id (.opened generation) } i = some c := by
    intro i c hc
    rw [hcard, if_neg (hother hc)]
    exact hc
  have hreg := h.base.registry
  refine h.reconnect ?_ rfl rfl rfl ?_ ?_
  · constructor
    · intro i c hc
      rw [hcard] at hc
      split at hc
      · next hi => exact hi ▸ hdrawn
      · exact hreg.drawn i c hc
    · exact (Table.size_put_le _ _ _).trans hsize
    · intro i c agentId hc hagent
      rw [hcard] at hc
      split at hc
      · cases hc
        cases hagent
      · exact hreg.agents i c agentId hc hagent
    · intro agentId i hi
      refine (hreg.primaries agentId i hi).imp_right ?_
      rintro ⟨c, hc, hagent⟩
      exact ⟨c, hkeep hc, hagent⟩
    · simp [Phase.rest]
    · intro i c ownerId hc hrole
      rw [hcard] at hc
      split at hc
      · cases hc
        cases hrole
      · obtain ⟨hmem, owner, p, hprimary, hp, hrest⟩ := hreg.delegates i c ownerId hc hrole
        exact ⟨hmem, owner, p, hprimary, hkeep hp, hrest⟩
    · intro ownerId i hi
      refine (hreg.listed ownerId i hi).imp_right ?_
      rintro ⟨c, hc, hrole⟩
      exact ⟨c, hkeep hc, hrole⟩
    · intro w i hi
      obtain ⟨c, hc, hrest⟩ := hreg.subscribers w i hi
      exact ⟨c, hkeep hc, hrest⟩
    · intro i c w hc hw
      rw [hcard] at hc
      split at hc
      · cases hc
        cases hw
      · exact hreg.joined i c w hc hw
    · intro i c hc
      rw [hcard] at hc
      split at hc
      · cases hc
        trivial
      · exact hreg.actors i c hc
  · intro key p hp
    have hl := h.alive hrun
    obtain ⟨c, hc⟩ := (hl.requester key p hp).resolve_left (by simp [Phase.rest])
    obtain ⟨c', hc'⟩ := (hl.recipient key p hp).resolve_left (by simp [Phase.rest])
    exact ⟨(hkeep hc).trans hc.symm, (hkeep hc').trans hc'.symm⟩
  · intro _ i c hc
    change (s.connections.put id _).get? i = some c at hc
    rw [Table.get?_put] at hc
    split at hc
    · cases hc
      exact .inr (.of_none rfl rfl)
    · exact .inl hc

theorem openConnection_spec {E : StoreError → RouterState → Prop} (h : Good (.rest F) s) :
    Actor.wp (Router.openConnection generation) (fun _ s' => Good (.rest F) s') E s := by
  unfold Router.openConnection
  rw [Actor.wp_bind, Actor.wp_get, Actor.wp_ite]
  refine ⟨fun hsize => ?_, fun _ => h⟩
  rw [Actor.wp_bind]
  change Actor.wp _ _ _ { s with store := { s.store with tick := s.tick + 1 } }
  have h₁ := h.quiet (Router.quiet_tick s)
  rw [Actor.wp_ite]
  refine ⟨fun _ => h₁, fun hrun => ?_⟩
  rw [Actor.wp_modify]
  refine h₁.opened (by simpa using hrun) ?_ ⟨s.tick, Nat.lt_succ_self _, rfl⟩ hsize
  -- A new identifier names no connection.
  cases hc : RouterState.card { s with store := { s.store with tick := s.tick + 1 } }
    (World.uuid s.tick) with
  | none => rfl
  | some c =>
    obtain ⟨t, ht, heq⟩ := h.base.registry.drawn _ c hc
    exact absurd (World.uuid_injective heq) (Nat.ne_of_gt ht)

/-- What is left of the invariant when a control command fails. -/
structure Broken (F : Prop) (s : RouterState) : Prop where
  base : Base (.rest F) s
  live : (Stuck s ∨ Live (.rest F) s) ∨ Exhausted s.db

theorem Broken.of_failed {s' : RouterState} {e : StoreError} (h : Failed (.rest F) s e s') :
    Broken F s' := ⟨h.base, .inr h.exhausted⟩

theorem Broken.of_good (h : Good (.rest F) s) : Broken F s := ⟨h.base, .inl h.live⟩

/-- A router that shuts down needs no more than what is left. -/
theorem Broken.closed (h : Broken F s) : Good (.rest F) { s with
    healthy := false
    shuttingDown := true } := by
  have hq : Quiet s { s with
      healthy := false
      shuttingDown := true } :=
    ⟨rfl, rfl, le_rfl, rfl, rfl, rfl, rfl, rfl, fun _ => rfl⟩
  rcases h.live with hl | hx
  · exact Good.quiet ⟨h.base, hl⟩ hq
  · exact ⟨h.base.quiet hq, .inl ⟨hx, rfl⟩⟩

theorem enroll_spec {request : EnrollmentRequest} {expired : Bool}
    {E : StoreError → RouterState → Prop} (h : Good (.rest F) s) :
    Actor.wp (Router.enroll request expired) (fun _ s' => Good (.rest F) s') E s := by
  unfold Router.enroll
  rw [Actor.wp_bind, Actor.wp_read, Actor.wp_ite]
  refine ⟨fun _ => h, fun _ => ?_⟩
  rw [Actor.wp_bind]
  refine Router.nowMillis_spec fun now s₁ hq _ => ?_
  have h₁ := h.quiet hq
  rw [Actor.wp_bind, Actor.wp_outcome, Router.wp_inStore]
  refine Txn.wp_mono (redeemOnboarding_advance h₁.base.store.db) ?_ fun _ _ => h₁
  exact fun _ t hadv => h₁.commit hadv (by simp)

/-- A worker's report is handled after the worker is gone. -/
theorem finishWorker_spec {index : ℕ} {handle : Worker → Option (Router StoreError Unit)}
    (h : Good (.rest F) s)
    (hreport : ∀ worker report s', handle worker = some report → Good (.rest F) s' →
      Actor.wp report (fun _ s'' => Good (.rest F) s'') (fun _ s'' => Broken F s'') s') :
    Actor.wp (Router.finishWorker index handle) (fun _ s' => Good (.rest F) s')
      (fun _ s' => Broken F s') s := by
  unfold Router.finishWorker
  rw [Actor.wp_bind, Actor.wp_read]
  cases hfound : (s.workers[index]?).bind handle with
  | none => exact h
  | some report =>
    obtain ⟨worker, -, hhandle⟩ := Option.bind_eq_some_iff.mp hfound
    simp only [Actor.wp_bind, Actor.wp_modify]
    exact hreport worker report _ hhandle (h.quiet quiet_beside)

theorem answerGate_spec {index : ℕ} {E : StoreError → RouterState → Prop}
    (h : Good (.rest F) s) :
    Actor.wp (Router.answerGate index) (fun _ s' => Good (.rest F) s') E s := by
  unfold Router.answerGate
  rw [Actor.wp_bind, Actor.wp_read]
  split
  · rw [Actor.wp_ite]
    refine ⟨fun _ => ?_, fun _ => h⟩
    rw [Actor.wp_bind]
    refine Actor.wp_mono (externalGate_spec (E := E) h) (fun passed s₁ h₁ => ?_) fun _ _ he => he
    exact h₁.quiet quiet_beside
  · exact h

/-- Every control command and every deadline keeps the invariant, unless the store fails. -/
theorem handleControl_spec {input : Input} (h : Good (.rest F) s) :
    Actor.wp (Router.handleControl input)
      (fun stop s' => StoreInv s'.store ∧ (stop = false → Good (.rest F) s'))
      (fun _ s' => Broken F s') s := by
  have hgo : ∀ {x : Router StoreError Unit},
      Actor.wp x (fun _ s' => Good (.rest F) s') (fun _ s' => Broken F s') s →
      Actor.wp (x >>= fun _ => pure false)
        (fun stop s' => StoreInv s'.store ∧ (stop = false → Good (.rest F) s'))
        (fun _ s' => Broken F s') s := by
    intro x hx
    rw [Actor.wp_bind]
    exact Actor.wp_mono hx (fun _ s' h' => ⟨h'.base.store, fun _ => h'⟩) fun _ _ he => he
  cases input with
  | opened generation => exact hgo (openConnection_spec h)
  | closed id generation =>
    refine hgo (Actor.wp_mono (disconnectWithReason_spec h) (fun _ _ h' => h'.1) ?_)
    exact fun _ _ he => .of_failed he
  | direct id generation requestId code =>
    exact hgo (Router.sendError_spec fun _ hq => h.quiet hq)
  | revokeCredential credentialId =>
    unfold Router.handleControl
    rw [Actor.wp_bind]
    refine Actor.wp_mono (revokeCredential_spec h) (fun _ s' h' => ⟨h'.base.store, fun _ => h'⟩) ?_
    exact fun _ _ he => .of_failed he
  | enroll request expired => exact hgo (enroll_spec h)
  | checkFinished worker result =>
    refine hgo (finishWorker_spec h fun worker report s' hreport h' => ?_)
    split at hreport
    · cases hreport
      exact integrationCheckFinished_spec h'
    · cases hreport
  | externalGate worker => exact hgo (answerGate_spec h)
  | externalFinished worker result =>
    refine hgo (finishWorker_spec h fun worker report s' hreport h' => ?_)
    split at hreport
    · split at hreport
      · cases hreport
        exact Actor.wp_mono (externalFinished_spec h') (fun _ _ h'' => h'') fun _ _ h'' =>
          .of_good h''
      · cases hreport
    · cases hreport
  | resolutionFinished worker result =>
    refine hgo (finishWorker_spec h fun worker report s' hreport h' => ?_)
    split at hreport
    · cases hreport
      exact Actor.wp_mono (resolutionFinished_spec h') (fun _ _ h'' => h'') fun _ _ h'' =>
        .of_good h''
    · cases hreport
  | shutdown =>
    unfold Router.handleControl
    simp only [Actor.wp_bind, Actor.wp_modify, Actor.wp_pure]
    have hq : Quiet s { s with shuttingDown := true } :=
      ⟨rfl, rfl, le_rfl, rfl, rfl, rfl, rfl, rfl, fun _ => rfl⟩
    refine Actor.wp_mono (shutdownPending_spec (h.quiet hq)) (fun _ s' h' => ?_)
      fun _ _ he => .of_failed he
    exact ⟨h'.1.base.store, fun hstop => by cases hstop⟩
  | deadline =>
    refine hgo (Actor.wp_mono (expireDeadlines_spec h) (fun _ _ h' => h'.1) ?_)
    exact fun _ _ he => .of_failed he
  | message id generation message => exact ⟨h.base.store, fun _ => h⟩

theorem controlRound_spec {input : Input} (h : Good (.rest F) s) :
    Actor.wp (Router.controlRound input)
      (fun stop s' => StoreInv s'.store ∧ (stop = false → Good (.rest F) s'))
      (fun _ _ => False) s := by
  unfold Router.controlRound
  simp only [Actor.wp_bind, Actor.wp_outcome]
  refine Actor.wp_mono (handleControl_spec h) (fun _ _ h' => h') ?_
  intro _ s₁ hbroken
  unfold Router.failClosed
  simp only [Actor.wp_bind, Actor.wp_outcome, Actor.wp_pure]
  change Actor.wp Router.shutdownPending _ _ _
  refine Actor.wp_mono (shutdownPending_spec hbroken.closed) ?_ ?_
  · exact fun _ s' h' => ⟨h'.1.base.store, fun hstop => by cases hstop⟩
  · exact fun _ s' h' => ⟨h'.base.store, fun hstop => by cases hstop⟩

/-- The input does not confirm a stop once more while the agent works on a request. -/
def Input.calm (s : RouterState) : Input → Prop
  | .message id _ message => message.calm s id
  | _ => True

theorem round_spec {input : Input} (h : Good (.rest F) s) (hcalm : F → input.calm s) :
    Actor.wp (Router.round input)
      (fun stop s' => StoreInv s'.store ∧ (stop = false → Good (.rest F) s'))
      (fun _ _ => False) s := by
  cases input with
  | message id generation message =>
    refine Actor.wp_mono (messageRound_spec h) ?_ fun _ _ hfalse => hfalse
    rintro stop s' ⟨hstore, hgood⟩
    exact ⟨hstore, fun hstop => (hgood hstop).weaken fun hF => ⟨hF, hcalm hF⟩⟩
  | _ => exact controlRound_spec h

theorem Good.resume (h : Good (.rest F) s) : Good (.rest F) s.resume where
  base :=
    { store := ⟨h.base.store.db, by simp [RouterState.resume]⟩
      registry := h.base.registry.of_same le_rfl rfl rfl rfl rfl rfl
      requests := h.base.requests.of_same rfl rfl rfl
      truthful := fun hF => (h.base.truthful hF).of_same rfl rfl rfl }
  live := h.live.imp (fun hs => hs) fun hl => hl.of_same rfl rfl rfl

/-- One round of the loop keeps the invariant, and whatever it commits is sound. -/
theorem step_spec (input : Input) (h : Good (.rest F) s) (hcalm : F → input.calm s) :
    StoreInv (step s input).2.store ∧
      ∀ s', step s input = (true, s') → Good (.rest F) s' := by
  have hcalm' : F → input.calm s.resume := by
    intro hF
    have hs := hcalm hF
    cases input with
    | message id generation message => exact ClientMessage.calm_of_same rfl rfl rfl rfl hs
    | _ => trivial
  have hround := round_spec h.resume hcalm'
  unfold Actor.wp at hround
  unfold step
  rcases hr : Router.round input s.resume with ⟨result, s₁⟩
  rw [hr] at hround
  cases result with
  | error e => exact hround.elim
  | ok stop =>
    refine ⟨hround.1, fun s' heq => ?_⟩
    obtain ⟨hstop, rfl⟩ := Prod.mk.inj heq
    exact hround.2 (by simpa using hstop)

end rounds

section processes

/-- No request waits for a result and no attempt runs. -/
structure Quiescent (db : Db) : Prop where
  requests : unfinishedRequests db = []
  attempts : ∀ id a, db.attempts.get? id = some a → a.status ≠ .running

theorem Quiescent.advance {t t' : Tx} {es : List WorkspaceEvent}
    {stopped : Uuid → AttemptRow → Prop} (h : Quiescent t.db) (hadv : Advance t t' es stopped)
    (hkinds : ∀ e ∈ es, e.kind ≠ .request) : Quiescent t'.db where
  requests := unfinishedRequests_append _ hadv.grows.events hkinds h.requests
  attempts := by
    intro id a' ha' hrun
    obtain ⟨a, ha, hlater⟩ := hadv.back ha'
    exact h.attempts id a ha (hlater.running hrun)

theorem bootstrapAdmin_advance {t : Tx} (h : DbInv t.db t.tick) :
    Txn.wp bootstrapAdmin (fun _ t' => Advance t t' [] noAttempt) (fun _ => True) t := by
  unfold bootstrapAdmin
  simp only [Txn.wp_bind, Store.wp_read]
  split
  · simp only [Txn.wp_bind, Txn.wp_mapError]
    refine Txn.wp_mono (generateCredential_spec h) ?_ fun _ _ => trivial
    rintro c t' ⟨rfl, hinv, -⟩
    have hdrawn : Advance t { t with tick := t.tick + 2 } [] noAttempt :=
      (Advance.refl h).draw (by omega)
    refine Txn.wp_mono (insertCredential_spec hinv) ?_ fun _ _ => trivial
    intro _ t'' hadv
    simpa using hdrawn.then hadv
  · exact .refl h

/-- Starting on a sound database ends what was open; whatever it commits is sound. -/
theorem boot_spec (store : RouterStore) (h : StoreInv store) :
    Actor.wp boot (fun _ store' => StoreInv store' ∧ Quiescent store'.db)
      (fun _ store' => StoreInv store') store := by
  unfold boot
  rw [Actor.wp_bind, wp_transaction]
  refine Txn.wp_mono (recover_spec h.db) ?_ fun _ _ => h
  rintro _ t₁ ⟨⟨es, hadv₁⟩, hsettled⟩
  have h₁ := h.commit hadv₁.inv hadv₁.tick
  have hquiet₁ : Quiescent t₁.db := ⟨hsettled.requests, hsettled.attempts⟩
  rw [Actor.wp_bind, wp_transaction]
  refine Txn.wp_mono (bootstrapAdmin_advance h₁.db) ?_ fun _ _ => h₁
  intro _ t₂ hadv₂
  have h₂ := h₁.commit hadv₂.inv hadv₂.tick
  have hquiet₂ := hquiet₁.advance hadv₂ (by simp)
  rw [Actor.wp_bind, wp_transaction]
  refine serverIdConnection_spec h₂.db ?_
  have h₃ := h₂.commit (t := { db := t₂.db, tick := t₂.tick }) h₂.db le_rfl
  rw [Actor.wp_bind]
  refine Actor.wp_mono (registryLoad_spec h₃) ?_ fun _ _ hfalse => hfalse.elim
  rintro integrations store₄ ⟨h₄, es₄, hadv₄, hkinds₄⟩
  have hquiet₄ : Quiescent store₄.db :=
    hquiet₂.advance hadv₄ fun e he => by simp [hkinds₄ e he]
  exact ⟨h₄.draw (Nat.le_succ _), hquiet₄⟩

/-- A router that has just started. -/
theorem Good.started {store : RouterStore} {integrations : IntegrationRegistry} {client : Bool}
    (h : StoreInv store) (hquiet : Quiescent store.db) :
    Good (.rest F) { store, integrations, integrationClient := client } where
  base :=
    { store := h
      registry := by constructor <;> simp [RouterState.card, RouterState.delegatesOf,
        RouterState.subscribersOf, Phase.rest]
      requests := by constructor <;> simp
      truthful := fun _ => by constructor <;> simp }
  live := by
    refine .inr ?_
    constructor
    · simp
    · simp
    · intro w requestId hasked hopen
      obtain ⟨e, he, hkind, hw, hid⟩ := hasked
      have hmem : e ∈ unfinishedRequests store.db :=
        mem_unfinishedRequests.mpr ⟨he, hkind, fun x hx hxkind hxw =>
          hid ▸ hopen x hx hxkind (hxw.trans hw)⟩
      rw [hquiet.requests] at hmem
      cases hmem
    · exact fun id a ha hrun => absurd hrun (hquiet.attempts id a ha)
    · simp
    · simp
    · simp

theorem epilogue_spec (h : StoreInv s.store) : StoreInv (Router.epilogue s).2.store := by
  have hwp : Actor.wp Router.epilogue (fun _ s' => StoreInv s'.store)
      (fun _ s' => StoreInv s'.store) s := by
    unfold Router.epilogue
    rw [Actor.wp_bind, Actor.wp_outcome, Router.wp_inStore]
    refine Txn.wp_mono (recoverExternalInflight_spec h.db) ?_ fun _ _ => h
    rintro _ t ⟨es, hadv⟩
    exact h.commit hadv.inv hadv.tick
  exact (Actor.wp_state (P := fun s' : RouterState => StoreInv s'.store)).mp hwp

theorem initialDb_inv : DbInv initialDb 1 where
  tasks := by constructor <;> simp [initialDb]
  journal := by constructor <;> simp [initialDb]
  admin := by
    constructor
    · exact World.uuid_ne_nil 0
    all_goals simp [initialDb]
  external := by constructor <;> simp [initialDb]

/-- The invariant of the process. -/
def ProcessInv (F : Prop) : Process → Prop
  | .down db tick => DbInv db tick
  | .up s => Good (.rest F) s

theorem StoreInv.of_commits {store : RouterStore} (h : StoreInv store) {db : Db}
    (hdb : db ∈ commits store) : DbInv db store.tick := by
  rcases List.mem_cons.mp hdb with rfl | hmem
  · exact h.db
  · exact h.journal db hmem

/-- The invariant holds in every process that a run leads to. -/
theorem Runs.invariant {allowed : RouterState → Input → Prop} {p : Process} (h : Runs allowed p)
    (hcalm : F → ∀ s input, allowed s input → input.calm s) : ProcessInv F p := by
  induction h with
  | create => exact initialDb_inv
  | @start db tick integrations client store _ hboot ih =>
    have hb := boot_spec (openStore db tick) ⟨ih, by simp [openStore]⟩
    unfold Actor.wp at hb
    rw [hboot] at hb
    exact .started hb.1 hb.2
  | @startCrash db db' tick _ hdb ih =>
    have hb := boot_spec (openStore db tick) ⟨ih, by simp [openStore]⟩
    have hstore := Actor.wp_state.mp (Actor.wp_mono hb (fun _ _ h => h.1) fun _ _ h => h)
    exact hstore.of_commits hdb
  | step _ hinput hstep ih => exact (step_spec _ ih fun hF => hcalm hF _ _ hinput).2 _ hstep
  | halt _ ih => exact ih.base.store.db
  | crash _ hinput hdb ih =>
    exact (step_spec _ ih fun hF => hcalm hF _ _ hinput).1.of_commits hdb
  | @stop s s' input db _ hinput hstep hdb ih =>
    have hs := (step_spec _ ih fun hF => hcalm hF _ _ hinput).1
    rw [hstep] at hs
    exact (epilogue_spec hs).of_commits hdb

/-- What holds in every reachable state, whatever the inputs. -/
theorem Reachable.good (h : Reachable (.up s)) : Good (.rest False) s :=
  Runs.invariant h (F := False) fun hF => hF.elim

theorem Reachable.db {db : Db} {tick : ℕ} (h : Reachable (.down db tick)) : DbInv db tick :=
  Runs.invariant h (F := False) fun hF => hF.elim

end processes

end SessionRouter
