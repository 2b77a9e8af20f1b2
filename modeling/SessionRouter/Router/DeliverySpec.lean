import SessionRouter.Router.Depart

/-!
Publishing, ending requests and disconnecting keep the invariant. A publication never fails: a
disconnect that does fail has run out of a counter and stops the router.
-/

namespace SessionRouter

variable [World] {s : RouterState} {g : Phase}

/-- The publication keeps the invariant and does not fail. -/
def Publishes (fanout : WorkspaceEvent → Router StoreError Unit) : Prop :=
  ∀ (g : Phase) (s : RouterState) (event : WorkspaceEvent), Good g s →
    Actor.wp (fanout event) (fun _ s' => Good g s' ∧ Kept s s') (fun _ _ => False) s

/-- A store call ran out of a counter: what is left of the invariant. -/
structure Failed (g : Phase) (s : RouterState) (e : StoreError) (s' : RouterState) : Prop where
  error : e = .sqlite .constraint
  base : Base g s'
  exhausted : Exhausted s'.db
  kept : Kept s s'

theorem Failed.of_kept {s₁ s' : RouterState} {e : StoreError} (h : Failed g s₁ e s')
    (hk : Kept s s₁) : Failed g s e s' := ⟨h.error, h.base, h.exhausted, hk.trans h.kept⟩

theorem Publishes.each {fanout : WorkspaceEvent → Router StoreError Unit}
    (hf : Publishes fanout) (h : Good g s)
    (events : List WorkspaceEvent) :
    Actor.wp (Actor.forEach fanout events) (fun _ s' => Good g s' ∧ Kept s s') (fun _ _ => False)
      s := by
  refine Actor.wp_forEach (I := fun s' => Good g s' ∧ Kept s s') ⟨h, .refl s⟩ ?_
  rintro event - s₁ ⟨h₁, hk₁⟩
  refine Actor.wp_mono (hf g s₁ event h₁) ?_ fun _ _ hfalse => hfalse
  exact fun _ s₂ h₂ => ⟨h₂.1, hk₁.trans h₂.2⟩

section finish

omit [World] in
theorem dropped_kept (key : WorkspaceName × String) :
    Kept s { s with pending := s.pending.remove key } where
  pending := by
    intro k p hp
    change (s.pending.remove key).get? k = some p at hp
    rw [Table.get?_remove] at hp
    split at hp
    · cases hp
    · exact hp
  card := fun _ _ hc => hc
  size := le_rfl
  shutting := id
  grows := ⟨[], .refl _⟩

theorem Base.dropped (h : Base g s) (key : WorkspaceName × String) :
    Base g { s with pending := s.pending.remove key } where
  store := h.store
  registry := h.registry.of_same le_rfl rfl rfl rfl rfl rfl
  requests := h.requests.shrink (dropped_kept key).pending (fun _ _ hc => hc) (.refl _) (by simp)
  truthful := by
    intro hflight
    obtain ⟨h1, h2, h3, h4⟩ := h.truthful hflight
    have hkept := (dropped_kept (s := s) key).pending
    exact ⟨fun k k' p p' hp hp' => h1 k k' p p' (hkept k p hp) (hkept k' p' hp'),
      fun k p c d hp => h2 k p c d (hkept k p hp), h3, h4⟩

omit [World] in
theorem ConnectionState.cancel_card (canceling : CancelingWork) (c : ConnectionState) :
    (c.cancel canceling).card = c.card := by
  cases hr : c.role with
  | none => simp [cancel, card, mapDescriptor, hr]
  | some role => cases role <;> simp [cancel, card, mapDescriptor, hr]

omit [World] in
theorem ConnectionState.cancel_freed (db : Db) (canceling : CancelingWork) {c : ConnectionState}
    {agentId : String} (hagent : c.agentId? = some agentId) (hw : c.workspace.isSome = true) :
    Freed db (ConnectionState.cancel canceling) c := by
  obtain ⟨claims, descriptor, token, hrole, -⟩ := ConnectionState.role_of_agentId hagent
  have hcancelled : (c.cancel canceling).descriptor? =
      some { descriptor with status := .busy, ready := false } := by
    simp [cancel, descriptor?, mapDescriptor, hrole]
  have hworkspace : (c.cancel canceling).workspace = c.workspace := by
    simp [cancel, mapDescriptor, hrole]
  refine ⟨fun d hd _ => rfl, fun d hd hready => ?_, fun _ => ⟨_, hcancelled, rfl, ?_⟩⟩
  · rw [hcancelled, Option.some.injEq] at hd
    simp [← hd] at hready
  · rw [hworkspace]
    exact hw

/-- Marking the recipient of a cancelled request adjusts its connection, if it is still there. -/
theorem cancelRecipient_spec {p : PendingRequest} {canceling : CancelingWork}
    {code : RouterErrorCode} {Q : Unit → RouterState → Prop} {E : StoreError → RouterState → Prop}
    (htarget : ∀ c, s.connections.get? p.recipient = some c →
      c.generation = p.recipientGeneration ∧ c.descriptor?.isSome)
    (hQ : ∀ s', Quiet { s with
      connections := s.connections.adjust p.recipient (ConnectionState.cancel canceling) } s' →
      Q () s') :
    Actor.wp (Router.cancelRecipient p canceling code) Q E s := by
  unfold Router.cancelRecipient
  simp only [Actor.wp_bind, Actor.wp_get]
  cases hc : s.connections.get? p.recipient with
  | none =>
    have hsame : s.connections.adjust p.recipient (ConnectionState.cancel canceling) =
        s.connections := by
      unfold Table.adjust
      rw [hc]
    refine hQ s ?_
    rw [hsame]
    exact .refl s
  | some c =>
    simp only [htarget c hc, and_self, if_true, Actor.wp_bind, Router.wp_updateConnection,
      Actor.wp_pure]
    exact Router.send_spec fun _ s' hq => hQ s' hq

theorem notifyClosed_spec {p : PendingRequest} {workspace : WorkspaceName}
    {expected : TaskAttempt → Bool} {attemptChange : Option (WorkspaceName × TaskAttempt)}
    {Q : Unit → RouterState → Prop} {E : StoreError → RouterState → Prop} (hinv : StoreInv s.store)
    (hchange : ∀ w attempt, attemptChange = some (w, attempt) →
      w = workspace ∧ expected attempt = true)
    (hQ : ∀ s', Quiet s s' → Q () s') :
    Actor.wp (Router.notifyClosed p workspace expected attemptChange) Q E s := by
  cases attemptChange with
  | none => exact hQ s (.refl s)
  | some change =>
    obtain ⟨w, attempt⟩ := change
    obtain ⟨rfl, hexpected⟩ := hchange w attempt rfl
    simp only [Router.notifyClosed, hexpected, decide_true, Bool.and_self, Actor.require, if_true,
      Actor.wp_bind, Actor.wp_pure]
    exact Router.notifyTaskAttemptChanged_spec hinv hQ

variable {key : WorkspaceName × String} {p : PendingRequest}

/-- The two commits that close a request, from the state that has forgotten it. -/
theorem Closed.of_stored {s₂ s₃ : RouterState} {es : List WorkspaceEvent} {e : WorkspaceEvent}
    (h₂ : Stored { s with pending := s.pending.remove key } s₂ es fun i _ => p.attemptId = some i)
    (hkinds : ∀ x ∈ es, x.kind = .task)
    (hended : ∀ id a, p.attemptId = some id → s₂.db.attempts.get? id = some a →
      a.status ≠ .running)
    (h₃ : Stored s₂ s₃ [e] noAttempt)
    (he : e.kind = .result ∧ e.workspace = key.1 ∧ e.requestId = some key.2) :
    Closed s key p s₃.store (es ++ [e]) where
  inv := h₃.store
  advance := (h₂.trans h₃ fun _ _ _ hs => hs).advance
  ended := by
    intro id a hid ha hrun
    obtain ⟨b, hb, hlater⟩ := h₃.advance.back ha
    exact hended id b hid hb (hlater.running hrun)
  result := ⟨e, by simp, he⟩
  kinds := by
    intro x hx
    rcases List.mem_append.mp hx with hx | hx
    · simp [hkinds x hx]
    · rw [List.mem_singleton] at hx
      subst hx
      exact ⟨by simp [he.1], fun _ => he.2⟩

/-- Once the result is stored and the recipient marked, the state is the closed one up to what the
invariant does not read. -/
theorem Good.closed {s₂ s₃ : RouterState} {es : List WorkspaceEvent} {e : WorkspaceEvent}
    {f : ConnectionState → ConnectionState} (h : Good g s) (hp : s.pending.get? key = some p)
    (h₂ : Stored { s with pending := s.pending.remove key } s₂ es fun i _ => p.attemptId = some i)
    (h₃ : Stored s₂ s₃ [e] noAttempt) (hclosed : Closed s key p s₃.store (es ++ [e]))
    (hf : ∀ c, s.connections.get? p.recipient = some c → (f c).card = c.card)
    (hfreed : g.flight → ∀ c, s.connections.get? p.recipient = some c → Freed s₃.db f c) :
    let s₄ := { s₃ with connections := s₃.connections.adjust p.recipient f }
    Good g s₄ ∧ Kept s s₄ ∧ s₄.pending.get? key = none := by
  intro s₄
  have hconnections : s₃.connections = s.connections := h₃.connections.trans h₂.connections
  have hpending : s₃.pending = s.pending.remove key := h₃.pending.trans h₂.pending
  have hquiet : Quiet (s.close key p s₃.store f) s₄ := by
    refine ⟨rfl, rfl, le_rfl, ?_, h₃.primaries.trans h₂.primaries, h₃.delegates.trans h₂.delegates,
      h₃.subscribers.trans h₂.subscribers, hpending, fun hs => ?_⟩
    · change s₃.connections.adjust p.recipient f = s.connections.adjust p.recipient f
      rw [hconnections]
    · exact (h₃.shutting.trans h₂.shutting).trans hs
  refine ⟨(h.close hp hclosed hf hfreed).quiet hquiet,
    (close_kept hclosed hf).trans hquiet.kept, ?_⟩
  change s₃.pending.get? key = none
  rw [hpending, Table.get?_remove_self]

/-- The parties of a pending request that are still connected. -/
theorem Base.recipient_agent (h : Base g s) (hp : s.pending.get? key = some p)
    {c : ConnectionState} (hc : s.connections.get? p.recipient = some c) :
    c.generation = p.recipientGeneration ∧ c.workspace = some p.workspace ∧
      c.agentId? = some p.recipientId := by
  have htarget := h.requests.target key p c.card hp (RouterState.card_eq hc)
  simpa using htarget

theorem Base.dispatch_valid (h : Base g s) (hp : s.pending.get? key = some p) :
    ∀ id, p.task.map TaskDispatch.id = some id → 1 ≤ id ∧ id ≤ maxSafeInteger := by
  intro id hid
  obtain ⟨dispatch, hd, rfl⟩ := Option.map_eq_some_iff.mp hid
  obtain ⟨r, hr⟩ := h.requests.dispatched key p dispatch hp hd
  exact (TaskRow.check_iff.mp (h.store.db.tasks.locals _ _ r hr).check).1

theorem finishPendingErrorWith_spec {fanout : WorkspaceEvent → Router StoreError Unit}
    (hf : Publishes fanout) (h : Good g s)
    {workspace : WorkspaceName} {requestId : String} {code : RouterErrorCode} :
    Actor.wp (Router.finishPendingErrorWith fanout workspace requestId code)
      (fun _ s' => Good g s' ∧ Kept s s' ∧ s'.pending.get? (workspace, requestId) = none)
      (Failed g s) s := by
  unfold Router.finishPendingErrorWith
  simp only [Actor.wp_bind, Actor.wp_read]
  cases hp : s.pending.get? (workspace, requestId) with
  | none => exact ⟨h, .refl s, hp⟩
  | some p =>
    have hreq := h.base.requests
    obtain ⟨hpw, hpid⟩ := Prod.mk.inj (hreq.keyed _ p hp)
    simp only [Actor.wp_bind, Actor.wp_modify]
    have hbase₁ := h.base.dropped (workspace, requestId)
    have hkept₁ := dropped_kept (s := s) (workspace, requestId)
    refine Actor.wp_mono (closeAttempt_spec hbase₁.store) ?_ ?_
    · rintro ⟨taskEvent, attemptChange⟩ s₂ ⟨h₂, hkinds, hended, hchange⟩
      have hbase₂ := hbase₁.stored h₂ fun e he => by simp [hkinds e he]
      have hevents : s₂.db.events = s.db.events ++ taskEvent.toList := h₂.advance.grows.events
      refine Actor.wp_mono (appendResult_spec hbase₂.store rfl ?_ ?_ ?_) ?_ ?_
      · exact ⟨validActor_router, h.base.dispatch_valid hp, rfl⟩
      · obtain ⟨e, he, hrest⟩ := hreq.asked _ p hp
        exact ⟨e, by rw [hevents]; exact List.mem_append_left _ he, hrest⟩
      · intro e he hkind
        rw [hevents, List.mem_append] at he
        rcases he with he | he
        · exact hreq.unanswered _ p hp e he hkind
        · rw [hkinds e he] at hkind
          cases hkind
      · rintro event s₃ ⟨h₃, hevent⟩
        have hclosed := Closed.of_stored (s := s) h₂ hkinds hended h₃ hevent
        have hagent := fun c hc => h.base.recipient_agent hp (c := c) hc
        refine cancelRecipient_spec ?_ fun s₄ hq₄ => ?_
        · intro c hc
          rw [h₃.connections, h₂.connections] at hc
          obtain ⟨hgen, -, hid⟩ := hagent c hc
          refine ⟨hgen, ?_⟩
          obtain ⟨d, hd, -⟩ := Option.map_eq_some_iff.mp hid
          simp [hd]
        · obtain ⟨hgood, hkept, hgone⟩ := h.closed hp h₂ h₃ hclosed
            (f := ConnectionState.cancel { workspace, requestId, task := Router.pendingFence p })
            (fun c _ => c.cancel_card _)
            fun _ c hc => ConnectionState.cancel_freed _ _ (hagent c hc).2.2
              (by simp [(hagent c hc).2.1])
          refine notifyClosed_spec (hgood.quiet hq₄).base.store ?_ fun s₅ hq₅ => ?_
          · intro w attempt heq
            obtain ⟨id, a, hid, ha, rfl, -⟩ := hchange w attempt heq
            obtain ⟨b, dispatch, hb, -, hof⟩ := hreq.named _ p id hp hid
            change s.db.attempts.get? id = some a at ha
            rw [ha] at hb
            cases hb
            exact ⟨hof.1.trans hpw.symm, rfl⟩
          · refine Router.send_spec fun _ s₆ hq₆ => ?_
            have hq := (hq₄.trans hq₅).trans hq₆
            have hkept₆ := hkept.trans hq.kept
            refine Actor.wp_mono (hf.each (hgood.quiet hq) _) ?_
              fun _ _ hfalse => hfalse.elim
            rintro - s₇ ⟨h₇, hk₇⟩
            have hkept₇ := hkept₆.trans hk₇
            refine Actor.wp_mono (hf g s₇ event h₇) ?_
              fun _ _ hfalse => hfalse.elim
            rintro - s₈ ⟨h₈, hk₈⟩
            refine ⟨h₈, hkept₇.trans hk₈, ?_⟩
            exact (hq.kept.trans (hk₇.trans hk₈)).gone hgone
      · rintro e s' ⟨rfl, he, hx⟩
        exact ⟨he, hbase₂, hx, hkept₁.trans h₂.kept⟩
    · rintro e s' ⟨rfl, he, hx⟩
      exact ⟨he, hbase₁, hx, hkept₁⟩

end finish

section disconnect

variable {fanout : WorkspaceEvent → Router StoreError Unit} {family : List Uuid}

/-- The requests that name the family are closed one after the other. -/
theorem closeFamily_spec (hf : Publishes fanout)
    (h : Good { g with dying := family ++ g.dying } s) :
    Actor.wp (Router.closeFamily fanout family) (fun _ s' => Good g s' ∧ Kept s s')
      (Failed g s) s := by
  unfold Router.closeFamily
  simp only [Actor.wp_bind, Actor.wp_read]
  refine Router.traverse_spec fun affected s₁ hq₁ hperm => ?_
  refine Actor.wp_mono (Actor.wp_forEach_rest (I := fun rest s' =>
    Good { g with dying := family ++ g.dying } s' ∧ Kept s s' ∧
      ∀ key p, s'.pending.get? key = some p → p.requester ∈ family ∨ p.recipient ∈ family →
        ∃ x ∈ rest, (x.1, x.2.1) = key) (E := Failed g s) ?_ ?_) ?_ ?_
  · refine ⟨h.quiet hq₁, hq₁.kept, fun key p hp hmem => ?_⟩
    have hp : s.pending.get? key = some p := hq₁.kept.pending key p hp
    refine ⟨(p.workspace, p.requestId, if p.requester ∈ family then .requesterDisconnected else
      .targetDisconnected), ?_, (h.base.requests.keyed key p hp).symm⟩
    rw [hperm.mem_iff, Router.affectedRequests, List.mem_map]
    exact ⟨(key, p), by simpa [List.mem_filter, Table.mem_toList, hp] using hmem, rfl⟩
  · rintro ⟨w, requestId, code⟩ rest s₂ ⟨h₂, hk₂, hleft₂⟩
    refine Actor.wp_mono (finishPendingErrorWith_spec hf h₂) ?_ ?_
    · rintro - s₃ ⟨h₃, hk₃, hgone⟩
      refine ⟨h₃, hk₂.trans hk₃, fun key p hp hmem => ?_⟩
      obtain ⟨x, hx, rfl⟩ := hleft₂ key p (hk₃.pending key p hp) hmem
      rcases List.mem_cons.mp hx with rfl | hx
      · rw [hgone] at hp
        cases hp
      · exact ⟨x, hx, rfl⟩
    · rintro e s₃ ⟨he, hbase, hx, hk₃⟩
      exact ⟨he, ⟨hbase.store, hbase.registry.of_leaving rfl, hbase.requests, hbase.truthful⟩, hx,
        hk₂.trans hk₃⟩
  · rintro - s₂ ⟨h₂, hk₂, hleft₂⟩
    refine ⟨h₂.buried fun key p hp => ?_, hk₂⟩
    constructor
    · exact fun hmem => by simpa using hleft₂ key p hp (.inl hmem)
    · exact fun hmem => by simpa using hleft₂ key p hp (.inr hmem)
  · exact fun _ _ he => he

theorem announceLeft_spec (hf : Publishes fanout) (h : Good g s)
    {workspace : Option WorkspaceName} {actor : Option String} :
    Actor.wp (Router.announceLeft fanout workspace actor) (fun _ s' => Good g s' ∧ Kept s s')
      (fun _ _ => False) s := by
  unfold Router.announceLeft
  split
  · next workspace actorId =>
    simp only [Actor.wp_bind, Actor.wp_outcome, Router.wp_inStore]
    refine Txn.wp_mono (Q := fun e t => Advance s.store.tx t [e] noAttempt ∧ ∃ seq now, e = _)
      (appendEvent_advance h.base.store.db (by simp) (by simp)) ?_ ?_
    · rintro event t ⟨hadv, seq, now, rfl⟩
      have hs := Stored.commit h.base.store hadv
      have hgood := h.stored hs (fun _ => .none g s) (by simp [EventInsert.toEvent])
      refine Actor.wp_mono (hf g _ _ hgood) ?_ fun _ _ hfalse => hfalse
      exact fun _ s' h' => ⟨h'.1, hs.kept.trans h'.2⟩
    · exact fun _ _ => ⟨h, .refl s⟩
  · exact ⟨h, .refl s⟩

omit [World] in
theorem dropBucket_quiet {credentialId : Option Uuid} {Q : Unit → RouterState → Prop}
    {E : StoreError → RouterState → Prop} (hQ : ∀ s', Quiet s s' → Q () s') :
    Actor.wp (Router.dropBucket credentialId) Q E s := by
  unfold Router.dropBucket
  rw [Actor.wp_modify]
  split
  · exact hQ s (.refl s)
  · split
    · exact hQ s (.refl s)
    · exact hQ _ ⟨rfl, rfl, le_rfl, rfl, rfl, rfl, rfl, rfl, id⟩

/-- Interrupting what an agent connection runs leaves nothing running there. -/
theorem interruptConnection_agent (h : Good g s) {id : Uuid} {c : ConnectionState}
    {claims : PublicCredentialClaims} {d : AgentDescriptor} {token : Option String}
    {reason : PauseReason} (hc : s.connections.get? id = some c)
    (hrole : c.role = some (.agent claims d token)) :
    Actor.wp (Router.interruptConnection c reason)
      (fun es s' => ∃ ids, s' = { s with store := s'.store } ∧
        Departed s ((s.delegatesOf d.agentId).insert id) s'.store es ids)
      (Failed g s) s := by
  have hcard := RouterState.card_eq hc
  have hagent : c.card.agentId? = some d.agentId := by
    rw [ConnectionState.card_agentId]
    simp [ConnectionState.agentId?, ConnectionState.descriptor?, hrole]
  have hprimary := h.base.registry.agents id c.card d.agentId hcard hagent
  -- The attempts to interrupt are those of the agent itself.
  have hsession : ∀ i, i ∈ sessionAttempts s.db d.agentId claims.id d.sessionId c.generation ↔
      ∃ a, s.db.attempts.get? i = some a ∧ a.status = .running ∧ a.agentId = d.agentId ∧
        a.credentialId = claims.id ∧ a.sessionId = d.sessionId ∧
        a.connectionGeneration = c.generation := by
    intro i
    simp only [sessionAttempts, List.mem_map, Prod.exists, Table.mem_ofFilter, Bool.and_eq_true,
      decide_eq_true_eq, exists_and_right, exists_eq_right]
    constructor
    · rintro ⟨a, ha, ⟨⟨⟨h1, h2⟩, h3⟩, h4⟩, h5⟩
      exact ⟨a, ha, h5, h1, h2, h3, h4⟩
    · rintro ⟨a, ha, h5, h1, h2, h3, h4⟩
      exact ⟨a, ha, ⟨⟨⟨h1, h2⟩, h3⟩, h4⟩, h5⟩
  unfold Router.interruptConnection interruptSessionAttempts
  rw [hrole]
  rw [Router.wp_inSession]
  simp only [Actor.wp_bind, Actor.wp_read]
  refine Actor.wp_mono (interruptAttempts_spec h.base.store) ?_ ?_
  · rintro es store ⟨hinv, hadv, hkinds, hended⟩
    refine ⟨_, trivial, hinv, hadv, hkinds, ?_, ?_⟩
    · intro i hi a ha
      obtain ⟨b, hb, -, hb', -⟩ := (hsession i).mp hi
      rw [ha] at hb
      cases hb
      exact ⟨id, by simp, by rw [hb']; exact hprimary⟩
    · intro i a' ha' hrun k hruns id' hid' hk
      obtain ⟨a, ha, hlater⟩ := hadv.back ha'
      have hruns' := k.runs_of_origin hlater.origin.symm hruns
      have hid : s.primaries.get? a.agentId = some id' :=
        h.base.registry.agents id' k a.agentId hk hruns'.agentId
      rcases List.mem_insert_iff.mp hid' with rfl | hid'
      · rw [hcard, Option.some.injEq] at hk
        subst hk
        obtain ⟨claims', d', token', hrole', h1, h2, h3, h4⟩ := (c.card_runs a).mp hruns'
        rw [hrole] at hrole'
        cases hrole'
        exact hended i ((hsession i).mpr ⟨a, ha, hlater.running hrun, h1, h2, h3, h4⟩) a' ha' hrun
      · rcases h.base.registry.listed d.agentId id' hid' with hleaving | ⟨k', hk', hrole'⟩
        · exact h.base.registry.left d.agentId hleaving id c.card hcard hagent
        · rw [hk] at hk'
          cases hk'
          obtain ⟨_, _, _, hrole'', -⟩ := hruns'
          rw [hrole'] at hrole''
          cases hrole''
  · rintro e store ⟨he, hinv, hx, es, hadv, hkinds⟩
    have hs : Stored s { s with store } es _ := ⟨hadv, hinv, rfl, rfl, rfl, rfl, rfl, rfl⟩
    exact ⟨he, h.base.stored hs fun e he => by simp [hkinds e he], hx, hs.kept⟩

/-- The departure of a connection up to the requests that name its family. -/
theorem depart_agent (hf : Publishes fanout) (h : Good g s) {id : Uuid} {c : ConnectionState}
    {claims : PublicCredentialClaims} {d : AgentDescriptor} {token : Option String}
    {credentialId : Option Uuid} {actor : Option String} {reason : PauseReason}
    (hc : s.connections.get? id = some c) (hrole : c.role = some (.agent claims d token))
    :
    let family := (s.delegatesOf d.agentId).insert id
    Actor.wp (Router.depart fanout id c family credentialId actor reason)
      (fun _ s' => Good { g with dying := family ++ g.dying } s' ∧ Kept s s')
      (Failed g s) s := by
  intro family
  have hcard := RouterState.card_eq hc
  have hagent : c.card.agentId? = some d.agentId := by
    rw [ConnectionState.card_agentId]
    simp [ConnectionState.agentId?, ConnectionState.descriptor?, hrole]
  unfold Router.depart
  simp only [Actor.wp_bind]
  refine Actor.wp_mono (interruptConnection_agent h hc hrole) ?_ fun _ _ hfail => hfail
  rintro interrupted s₁ ⟨ids, hs₁, hd⟩
  simp only [Router.removeFamily, Actor.wp_modify]
  have hsev := h.base.registry.severed_agent hcard hagent
  have hgood := h.without hsev hd
  have hkept : Kept s (s.without family s₁.store s.delegates) := hd.kept
  rw [hs₁]
  refine dropBucket_quiet fun s₂ hq₂ => ?_
  change Quiet (s.without family s₁.store s.delegates) s₂ at hq₂
  have hkept₂ := hkept.trans hq₂.kept
  refine Actor.wp_mono (hf.each (hgood.quiet hq₂) _) ?_ fun _ _ hfalse => hfalse.elim
  rintro - s₃ ⟨h₃, hk₃⟩
  simp only [Router.unregister, hrole, Actor.wp_bind, Actor.wp_modify]
  have hgood₄ := Good.unregister (g := { g with dying := family ++ g.dying }) h₃
  refine Actor.wp_mono (announceLeft_spec hf hgood₄) ?_
    fun _ _ hfalse => hfalse.elim
  rintro - s₅ ⟨h₅, hk₅⟩
  have hkept₅ : Kept s₃ s₅ := ⟨hk₅.pending, hk₅.card, hk₅.size, hk₅.shutting, hk₅.grows⟩
  exact ⟨h₅, (hkept₂.trans hk₃).trans hkept₅⟩

/-- A connection that is no agent goes without further events. -/
theorem depart_single (h : Good g s) {id : Uuid} {c : ConnectionState}
    {credentialId : Option Uuid} {actor : Option String} {reason : PauseReason}
    (hc : s.connections.get? id = some c) (hagent : c.agentId? = none)
    :
    Actor.wp (Router.depart fanout id c [id] credentialId actor reason)
      (fun _ s' => Good { g with dying := [id] ++ g.dying } s' ∧ Kept s s')
      (Failed g s) s := by
  have hcard := RouterState.card_eq hc
  have hnone : c.card.agentId? = none := by rw [ConnectionState.card_agentId, hagent]
  have hreg := h.base.registry
  have hd : Departed s [id] s.store [] [] := by
    refine ⟨h.base.store, .refl h.base.store.db, by simp, by simp, ?_⟩
    intro i a _ _ k hruns id' hid' hk
    rw [List.mem_singleton] at hid'
    subst hid'
    rw [hcard, Option.some.injEq] at hk
    subst hk
    rw [hruns.agentId] at hnone
    cases hnone
  have hinterrupted : Router.interruptConnection c reason = pure [] := by
    unfold Router.interruptConnection
    split
    · next hrole =>
      simp [ConnectionState.agentId?, ConnectionState.descriptor?, hrole] at hagent
    · rfl
  unfold Router.depart
  simp only [hinterrupted, Actor.wp_bind, Actor.wp_pure, Router.removeFamily, Actor.wp_modify]
  refine dropBucket_quiet fun s₂ hq₂ => ?_
  change Quiet (s.without [id] s.store s.delegates) s₂ at hq₂
  simp only [Actor.forEach, Actor.wp_pure]
  have hfrom : ∀ ownerId, id ∈ s.delegatesOf ownerId →
      ownerId ∈ g.leaving ∨ c.role = some (.delegate ownerId) := by
    intro ownerId hmem
    refine (hreg.listed ownerId id hmem).imp_right ?_
    rintro ⟨k, hk, hrole⟩
    rw [hcard, Option.some.injEq] at hk
    subst hk
    exact (c.card_delegate ownerId).mp hrole
  by_cases hdelegate : ∃ ownerId, c.role = some (.delegate ownerId)
  · obtain ⟨ownerId, hrole⟩ := hdelegate
    simp only [Router.unregister, hrole, Actor.wp_modify]
    have hlist : ∀ o i, i ∈ ((s.delegates.adjust ownerId fun ids =>
        ids.filter fun d => d ≠ id).get? o).getD [] ↔
        i ∈ s.delegatesOf o ∧ ¬ (o = ownerId ∧ i = id) := by
      intro o i
      rw [Table.get?_adjust]
      by_cases ho : o = ownerId
      · subst ho
        cases hget : s.delegates.get? o with
        | none => simp [RouterState.delegatesOf, hget]
        | some ids => simp [RouterState.delegatesOf, hget, List.mem_filter]
      · simp [RouterState.delegatesOf, ho]
    have hsev := hreg.severed_single
      (s.delegates.adjust ownerId fun ids => ids.filter fun d => d ≠ id) hcard hnone ?_ ?_
    · have hquiet : Quiet (s.without [id] s.store (s.delegates.adjust ownerId fun ids =>
          ids.filter fun d => d ≠ id)) { s₂ with
            delegates := s₂.delegates.adjust ownerId fun ids => ids.filter fun d => d ≠ id } := by
        refine ⟨hq₂.db, hq₂.journal, hq₂.tick, hq₂.connections, hq₂.primaries, ?_, hq₂.subscribers,
          hq₂.pending, hq₂.shutting⟩
        change s₂.delegates.adjust ownerId _ = s.delegates.adjust ownerId _
        rw [hq₂.delegates]
        rfl
      exact ⟨(h.without hsev hd).quiet hquiet, hd.kept.trans hquiet.kept⟩
    · intro o i hi
      rw [hlist]
      simp [hi]
    · intro o hmem
      obtain ⟨hmem, hne⟩ := (hlist o id).mp hmem
      refine (hfrom o hmem).resolve_right fun hrole' => hne ⟨?_, rfl⟩
      rw [hrole] at hrole'
      simpa using hrole'.symm
  · have hpure : Router.unregister fanout id c actor = pure () := by
      unfold Router.unregister
      split
      · next hrole =>
        simp [ConnectionState.agentId?, ConnectionState.descriptor?, hrole] at hagent
      · next ownerId hrole => exact absurd ⟨ownerId, hrole⟩ hdelegate
      · rfl
    have hsev := hreg.severed_single s.delegates hcard hnone
      (fun _ _ _ => Iff.rfl) fun o hmem =>
        (hfrom o hmem).resolve_right fun hrole => hdelegate ⟨o, hrole⟩
    rw [hpure, Actor.wp_pure]
    exact ⟨(h.without hsev hd).quiet hq₂, hd.kept.trans hq₂.kept⟩

theorem disconnectWith_spec (hf : Publishes fanout) (h : Good g s) {id : Uuid} {generation : ℕ}
    {reason : PauseReason} :
    Actor.wp (Router.disconnectWith fanout id generation reason)
      (fun _ s' => Good g s' ∧ Kept s s') (Failed g s) s := by
  unfold Router.disconnectWith
  rw [Actor.wp_bind, Actor.wp_get]
  cases hc : s.connections.get? id with
  | none => exact ⟨h, .refl s⟩
  | some c =>
    by_cases hgen : c.generation = generation
    · simp only [hgen, ne_eq, not_true_eq_false, if_false]
      rw [Actor.wp_bind]
      have hdepart : Actor.wp (Router.depart fanout id c (s.connectionFamily id)
          (s.connectionCredentialId id) (s.actorId id).toOption reason)
          (fun _ s' => Good { g with dying := s.connectionFamily id ++ g.dying } s' ∧ Kept s s')
          (Failed g s) s := by
        cases hagent : c.agentId? with
        | none =>
          have hfamily : s.connectionFamily id = [id] := by
            simp [RouterState.connectionFamily, hc, hagent]
          rw [hfamily]
          exact depart_single h hc hagent
        | some agentId =>
          obtain ⟨claims, d, token, hrole, rfl⟩ := ConnectionState.role_of_agentId hagent
          have hfamily : s.connectionFamily id = (s.delegatesOf d.agentId).insert id := by
            simp [RouterState.connectionFamily, hc, hagent]
          rw [hfamily]
          exact depart_agent hf h hc hrole
      refine Actor.wp_mono hdepart ?_ fun _ _ hfail => hfail
      rintro - s₁ ⟨h₁, hk₁⟩
      refine Actor.wp_mono (closeFamily_spec hf h₁) ?_ fun _ _ hfail => hfail.of_kept hk₁
      exact fun _ s₂ h₂ => ⟨h₂.1, hk₁.trans h₂.2⟩
    · simp only [hgen, ne_eq, not_false_eq_true, if_true]
      exact ⟨h, .refl s⟩

end disconnect

section fanout

/-- Handing an event to its recipients changes no table. -/
theorem publish_spec {ε : Type} {event : WorkspaceEvent} {ids : List Uuid}
    {Q : List (Uuid × ℕ) → RouterState → Prop} {E : ε → RouterState → Prop}
    (hQ : ∀ failed s', Quiet s s' → Q failed s') : Actor.wp (Router.publish event ids) Q E s := by
  induction ids generalizing s Q with
  | nil => exact hQ [] s (.refl s)
  | cons id ids ih =>
    simp only [Router.publish, Actor.wp_bind, Actor.wp_read]
    split
    · exact ih hQ
    · simp only [Actor.wp_bind, Actor.wp_pure]
      refine Router.send_spec fun _ s₁ hq₁ => ?_
      exact ih fun failed s₂ hq₂ => hQ _ s₂ (hq₁.trans hq₂)

theorem Failed.stuck {s' : RouterState} {e : StoreError} (h : Failed g s e s') :
    Good g { s' with healthy := false, shuttingDown := true } ∧
      Kept s { s' with healthy := false, shuttingDown := true } := by
  have hq : Quiet s' { s' with healthy := false, shuttingDown := true } :=
    ⟨rfl, rfl, le_rfl, rfl, rfl, rfl, rfl, rfl, fun _ => rfl⟩
  exact ⟨⟨h.base.quiet hq, .inl ⟨h.exhausted, rfl⟩⟩, h.kept.trans hq.kept⟩

/-- Disconnecting those that refused an event: an error stops the router. -/
theorem dropFailed_spec {disconnect : Uuid → ℕ → Router StoreError Unit}
    (hdisconnect : ∀ id generation s, Good g s → Actor.wp (disconnect id generation)
      (fun _ s' => Good g s' ∧ Kept s s') (Failed g s) s)
    (h : Good g s) (failed : List (Uuid × ℕ)) :
    Actor.wp (Router.dropFailed disconnect failed) (fun _ s' => Good g s' ∧ Kept s s')
      (fun _ _ => False) s := by
  induction failed generalizing s with
  | nil => exact ⟨h, .refl s⟩
  | cons x failed ih =>
    obtain ⟨id, generation⟩ := x
    simp only [Router.dropFailed, Actor.wp_bind, Actor.wp_outcome]
    refine Actor.wp_mono (hdisconnect id generation s h) ?_ ?_
    · rintro - s₁ ⟨h₁, hk₁⟩
      refine Actor.wp_mono (ih h₁) ?_ fun _ _ hfalse => hfalse
      exact fun _ s₂ h₂ => ⟨h₂.1, hk₁.trans h₂.2⟩
    · intro e s₁ hfail
      obtain ⟨h₁, hk₁⟩ := hfail.stuck
      simp only [Router.markUnhealthy, Actor.wp_modify]
      refine Actor.wp_mono (ih h₁) ?_ fun _ _ hfalse => hfalse
      exact fun _ s₂ h₂ => ⟨h₂.1, hk₁.trans h₂.2⟩

theorem fanoutWith_spec {disconnect : Uuid → ℕ → Router StoreError Unit}
    (hdisconnect : ∀ g id generation s, Good g s → Actor.wp (disconnect id generation)
      (fun _ s' => Good g s' ∧ Kept s s') (Failed g s) s) :
    Publishes (Router.fanoutWith disconnect) := by
  intro g s event h
  unfold Router.fanoutWith
  simp only [Actor.wp_bind, Actor.wp_read]
  refine Router.traverse_spec fun recipients s₁ hq₁ _ => ?_
  refine publish_spec fun failed s₂ hq₂ => ?_
  have hq := hq₁.trans hq₂
  refine Actor.wp_mono (dropFailed_spec (hdisconnect g) (h.quiet hq) failed) ?_
    fun _ _ hfalse => hfalse
  exact fun _ s₃ h₃ => ⟨h₃.1, hq.kept.trans h₃.2⟩

theorem fanoutDepth_spec (depth : ℕ) : Publishes (Router.fanoutDepth depth) := by
  induction depth with
  | zero => exact fun _ s _ h => ⟨h, .refl s⟩
  | succ depth ih => exact fanoutWith_spec fun _ _ _ _ h => disconnectWith_spec ih h

theorem fanout_spec : Publishes Router.fanout := by
  intro g s event h
  exact fanoutDepth_spec (s.connections.size + 1) g s event h

theorem finishPendingError_spec (h : Good g s) {workspace : WorkspaceName} {requestId : String}
    {code : RouterErrorCode} :
    Actor.wp (Router.finishPendingError workspace requestId code)
      (fun _ s' => Good g s' ∧ Kept s s' ∧ s'.pending.get? (workspace, requestId) = none)
      (Failed g s) s :=
  finishPendingErrorWith_spec fanout_spec h

theorem disconnectWithReason_spec (h : Good g s) {id : Uuid} {generation : ℕ}
    {reason : PauseReason} :
    Actor.wp (Router.disconnectWithReason id generation reason)
      (fun _ s' => Good g s' ∧ Kept s s') (Failed g s) s :=
  disconnectWith_spec fanout_spec h

theorem finishAll_spec (h : Good g s) {code : RouterErrorCode}
    {requests : List (WorkspaceName × String)} :
    Actor.wp (Router.finishAll code requests)
      (fun _ s' => Good g s' ∧ Kept s s' ∧ ∀ key ∈ requests, s'.pending.get? key = none)
      (Failed g s) s := by
  unfold Router.finishAll
  refine Actor.wp_mono (Actor.wp_forEach_rest (I := fun rest s' => Good g s' ∧ Kept s s' ∧
    ∀ key ∈ requests, key ∉ rest → s'.pending.get? key = none) ⟨h, .refl s, ?_⟩ ?_) ?_
    fun _ _ he => he
  · exact fun key hmem hnot => absurd hmem hnot
  · rintro ⟨w, requestId⟩ rest s₁ ⟨h₁, hk₁, hgone₁⟩
    refine Actor.wp_mono (finishPendingError_spec h₁) ?_ fun _ _ he => he.of_kept hk₁
    rintro - s₂ ⟨h₂, hk₂, hgone₂⟩
    refine ⟨h₂, hk₁.trans hk₂, fun key hmem hnot => ?_⟩
    by_cases hkey : key = (w, requestId)
    · exact hkey ▸ hgone₂
    · exact hk₂.gone (hgone₁ key hmem (by simp [hkey, hnot]))
  · exact fun _ s' h' => ⟨h'.1, h'.2.1, fun key hmem => h'.2.2 key hmem (by simp)⟩

theorem expireDeadlines_spec (h : Good g s) :
    Actor.wp Router.expireDeadlines (fun _ s' => Good g s' ∧ Kept s s')
      (Failed g s) s := by
  unfold Router.expireDeadlines
  simp only [Actor.wp_bind, Actor.wp_read]
  refine Router.nowInstant_spec fun now s₁ hq₁ => ?_
  refine Router.traverse_spec fun expired s₂ hq₂ _ => ?_
  have hq := hq₁.trans hq₂
  refine Actor.wp_mono (finishAll_spec (h.quiet hq)) ?_ fun _ _ he => he.of_kept hq.kept
  exact fun _ s₃ h₃ => ⟨h₃.1, hq.kept.trans h₃.2.1⟩

/-- After the last requests were ended none is pending. -/
theorem shutdownPending_spec (h : Good g s) :
    Actor.wp Router.shutdownPending
      (fun _ s' => Good g s' ∧ Kept s s' ∧ ∀ key, s'.pending.get? key = none)
      (Failed g s) s := by
  unfold Router.shutdownPending
  simp only [Actor.wp_bind, Actor.wp_read]
  refine Router.traverse_spec fun requests s₁ hq₁ hperm => ?_
  refine Actor.wp_mono (finishAll_spec (h.quiet hq₁)) ?_ fun _ _ he => he.of_kept hq₁.kept
  rintro - s₂ ⟨h₂, hk₂, hgone⟩
  refine ⟨h₂, hq₁.kept.trans hk₂, fun key => ?_⟩
  cases hp : s₂.pending.get? key with
  | none => rfl
  | some p =>
    have hps := hq₁.kept.pending key p (hk₂.pending key p hp)
    rw [← hp]
    refine hgone key (hperm.mem_iff.mpr (List.mem_map.mpr ⟨(key, p), ?_, ?_⟩))
    · exact (Table.mem_toList _ _ _).mpr hps
    · exact (h.base.requests.keyed key p hps).symm

theorem revokeConnection_spec (h : Good g s) {target : Uuid × ℕ} :
    Actor.wp (Router.revokeConnection target) (fun _ s' => Good g s' ∧ Kept s s')
      (Failed g s) s := by
  unfold Router.revokeConnection
  simp only [Actor.wp_bind, Actor.wp_read]
  refine Router.traverse_spec fun family s₁ hq₁ _ => ?_
  refine Actor.wp_mono (Actor.wp_forEach (I := fun s' => Quiet s s') hq₁ ?_) ?_
    fun _ _ hfalse => hfalse
  · intro id _ s₂ hq₂
    rw [Actor.wp_bind, Actor.wp_read]
    split
    · exact hq₂
    · exact Router.sendError_spec fun s₃ hq₃ => hq₂.trans hq₃
  · intro _ s₂ hq₂
    refine Actor.wp_mono (disconnectWithReason_spec (h.quiet hq₂)) ?_
      fun _ _ he => he.of_kept hq₂.kept
    exact fun _ s₃ h₃ => ⟨h₃.1, hq₂.kept.trans h₃.2⟩

end fanout

end SessionRouter
