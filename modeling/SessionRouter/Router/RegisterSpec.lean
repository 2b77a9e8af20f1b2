import SessionRouter.Router.Touch

/-!
How a handler may refuse, and the handlers of registration and readiness: they keep the invariant,
and refuse without a storage error unless a counter has run out.
-/

namespace SessionRouter

variable [World] {s : RouterState} {F X : Prop}

/-- How a handler may fail: the invariant holds, or the store has run out of a counter and the
router is about to stop. A storage error has no other cause than that and `X`. -/
structure Refused (F X : Prop) (e : ActorError) (s' : RouterState) : Prop where
  base : Base (.rest F) s'
  live : (Stuck s' ∨ Live (.rest F) s') ∨ (e.code = .storageError ∧ Exhausted s'.db)
  excused : e.code = .storageError → Exhausted s'.db ∨ X

/-- The handler keeps the invariant. -/
def Handles (F X : Prop) {α : Type} (x : Router ActorError α) (s : RouterState) : Prop :=
  Actor.wp x (fun _ s' => Good (.rest F) s') (Refused F X) s

namespace Refused

theorem of_good {e : ActorError} (h : Good (.rest F) s) (hcode : e.code ≠ .storageError) :
    Refused F X e s :=
  ⟨h.base, .inl h.live, fun hs => absurd hs hcode⟩

theorem of_exhausted {e : ActorError} (h : Good (.rest F) s)
    (hcode : e.code = .storageError → Exhausted s.db ∨ X) : Refused F X e s :=
  ⟨h.base, .inl h.live, hcode⟩

theorem of_failed {e : StoreError} {s' : RouterState} (h : Failed (.rest F) s e s') :
    Refused F X (.ofStore e) s' := by
  refine ⟨h.base, .inr ⟨?_, h.exhausted⟩, fun _ => .inl h.exhausted⟩
  rw [h.error]
  rfl

end Refused

section guards

variable {α : Type} {Q : α → RouterState → Prop}

theorem guard_requireThat {b : Bool} {code : RouterErrorCode} {Q : Unit → RouterState → Prop}
    (h : Good (.rest F) s) (hcode : code ≠ .storageError) (hQ : b = true → Q () s) :
    Actor.wp (Router.requireThat b code) Q (Refused F X) s :=
  Router.wp_requireThat.mpr ⟨hQ, fun _ => .of_good h hcode⟩

theorem guard_require {b : Bool} {e : ActorError} {Q : Unit → RouterState → Prop}
    (h : Good (.rest F) s) (hcode : e.code ≠ .storageError) (hQ : b = true → Q () s) :
    Actor.wp (Actor.require b e) Q (Refused F X) s :=
  (Actor.wp_require b e).mpr ⟨hQ, fun _ => .of_good h hcode⟩

theorem guard_orFail {o : Option α} {e : ActorError} (h : Good (.rest F) s)
    (hcode : e.code ≠ .storageError) (hQ : ∀ a, o = some a → Q a s) :
    Actor.wp (Actor.orFail e o) Q (Refused F X) s :=
  (Actor.wp_orFail e o).mpr ⟨hQ, fun _ => .of_good h hcode⟩

theorem guard_ask {f : RouterState → Except ActorError α} (h : Good (.rest F) s)
    (hcode : ∀ e, f s = .error e → e.code ≠ .storageError) (hQ : ∀ a, f s = .ok a → Q a s) :
    Actor.wp (Router.ask f) Q (Refused F X) s :=
  Router.wp_ask.mpr ⟨hQ, fun e he => .of_good h (hcode e he)⟩

end guards

section reads

omit [World]

variable {id : Uuid}

theorem currentWorkspace_error {e : ActorError} (h : s.currentWorkspace id = .error e) :
    e.code ≠ .storageError := by
  unfold RouterState.currentWorkspace at h
  split at h
  · cases h
  · cases h
    simp

theorem currentWorkspace_ok {w : WorkspaceName} (h : s.currentWorkspace id = .ok w) :
    ∃ c, s.connections.get? (s.effective id) = some c ∧ c.workspace = some w := by
  unfold RouterState.currentWorkspace RouterState.effectiveConnection at h
  split at h
  · next w' hw =>
    obtain ⟨c, hc, hcw⟩ := Option.bind_eq_some_iff.mp hw
    cases h
    exact ⟨c, hc, hcw⟩
  · cases h

theorem claims_error {e : ActorError} (h : s.claims id = .error e) : e.code ≠ .storageError := by
  unfold RouterState.claims at h
  split at h
  · cases h
  · cases h
  · cases h
    simp

theorem actorId_error {e : ActorError} (h : s.actorId id = .error e) :
    e.code ≠ .storageError := by
  unfold RouterState.actorId at h
  split at h
  · cases h
  · cases h
  · cases h
    simp

/-- The name a connection acts under comes from the role of its effective connection. -/
theorem actorId_ok {actor : String} (h : s.actorId id = .ok actor) :
    ∃ c, s.connections.get? (s.effective id) = some c ∧
      ((∃ claims d token, c.role = some (.agent claims d token) ∧ actor = d.agentId) ∨
        ∃ claims admin, c.role = some (.operator claims admin) ∧
          actor = "operator:" ++ claims.subject) := by
  unfold RouterState.actorId RouterState.effectiveConnection at h
  split at h
  · next claims d token hrole =>
    obtain ⟨c, hc, hr⟩ := Option.bind_eq_some_iff.mp hrole
    cases h
    exact ⟨c, hc, .inl ⟨claims, d, token, hr, rfl⟩⟩
  · next claims admin hrole =>
    obtain ⟨c, hc, hr⟩ := Option.bind_eq_some_iff.mp hrole
    cases h
    exact ⟨c, hc, .inr ⟨claims, admin, hr, rfl⟩⟩
  · cases h

end reads

theorem Base.actor_valid {g : Phase} (h : Base g s) {id : Uuid} {actor : String}
    (hactor : s.actorId id = .ok actor) : ValidActor actor := by
  obtain ⟨c, hc, hrole⟩ := actorId_ok hactor
  have hvalid := (c.card_actorsValid).mp (h.registry.actors _ _ (RouterState.card_eq hc))
  rcases hrole with ⟨claims, d, token, hrole, rfl⟩ | ⟨claims, admin, hrole, rfl⟩
  · simpa [ConnectionState.actorsValid, hrole] using hvalid
  · simpa [ConnectionState.actorsValid, hrole] using hvalid

/-- The workspace a connection is in exists. -/
theorem Base.workspace_exists {g : Phase} (h : Base g s) {id : Uuid} {w : WorkspaceName}
    (hw : s.currentWorkspace id = .ok w) : ∃ row, s.db.workspaces.get? w = some row := by
  obtain ⟨c, hc, hcw⟩ := currentWorkspace_ok hw
  exact (h.registry.joined _ _ w (RouterState.card_eq hc) (by simpa using hcw)).2

/-- A delegate's owner is connected, so the connection in whose name it acts is no delegate. -/
theorem Registry.effective_primary {g : Phase} (h : Registry g s) {id : Uuid} {c : ConnectionState}
    (hc : s.connections.get? (s.effective id) = some c) : c.isDelegate = false := by
  unfold RouterState.effective RouterState.effectivePrimary at hc
  cases hid : s.connections.get? id with
  | none => simp [hid] at hc
  | some k =>
    simp only [hid, Option.bind_some] at hc
    split at hc
    · next ownerId hrole =>
      have hcard := RouterState.card_eq hid
      obtain ⟨-, owner, p, howner, hp, hagent, -⟩ := h.delegates id k.card ownerId hcard
        ((k.card_delegate ownerId).mpr hrole)
      simp only [howner, Option.getD_some] at hc
      rw [RouterState.card_eq hc, Option.some.injEq] at hp
      subst hp
      rw [ConnectionState.card_agentId] at hagent
      obtain ⟨claims, d, token, hr, -⟩ := ConnectionState.role_of_agentId hagent
      simp [ConnectionState.isDelegate, hr]
    · next hnot =>
      simp only [Option.getD_none, hid, Option.some.injEq] at hc
      subst hc
      unfold ConnectionState.isDelegate
      split
      · next ownerId hrole => exact absurd hrole (hnot ownerId)
      · rfl

section registration

variable {id : Uuid} {generation : ℕ}

theorem requireUnregistered_spec {Q : Unit → RouterState → Prop} (h : Good (.rest F) s)
    (hQ : ∀ c, s.connections.get? id = some c → c.role = none → Q () s) :
    Actor.wp (Router.requireUnregistered id) Q (Refused F X) s := by
  unfold Router.requireUnregistered
  rw [Actor.wp_bind, Actor.wp_read]
  refine guard_requireThat h (by simp) fun hunknown => ?_
  cases hc : s.connections.get? id with
  | none => simp [hc] at hunknown
  | some c =>
    rw [hc] at hunknown
    exact hQ c hc (by simpa using hunknown)

/-- A token that authenticates is the one of an unrevoked credential. -/
theorem authenticate_spec {token : String} {Q : PublicCredentialClaims → RouterState → Prop}
    (h : Good (.rest F) s)
    (hQ : ∀ credential, credentialByHash s.db token = some credential →
      credential.revokedAt = none → Q credential.claims s) :
    Actor.wp (Router.authenticate token) Q (Refused F X) s := by
  unfold Router.authenticate
  simp only [Actor.wp_bind, Actor.wp_read, Actor.wp_pure]
  refine guard_orFail h (by simp) fun credential hfound => ?_
  refine guard_requireThat h (by simp) fun hrevoked => ?_
  exact hQ credential hfound (by simpa using hrevoked)

theorem sendExecutionSnapshot_spec {agentId : String} (h : Good (.rest F) s) :
    Handles F X (Router.sendExecutionSnapshot id generation agentId) s := by
  obtain ⟨⟨current, stopPending⟩, hfences, -, -, hnamed⟩ :=
    agentExecutionFences_spec h.base.store.db.tasks agentId
  unfold Handles Router.sendExecutionSnapshot
  simp only [Actor.wp_bind, Router.wp_lift]
  refine Router.wp_query hfences ?_
  cases hselected : current.or stopPending with
  | none => exact h
  | some selected =>
    obtain ⟨a, ha⟩ := hnamed selected hselected
    obtain ⟨found, hfound, hsome, -⟩ := executionAttempt_spec s.db selected.attemptId
    obtain ⟨attempt, hattempt, -⟩ := hsome a ha
    simp only [Actor.wp_bind, Router.wp_lift]
    refine Router.wp_query hfound ?_
    rw [hattempt]
    simp only [Actor.orFail, Actor.wp_pure]
    exact Router.send_spec fun _ _ hq => h.quiet hq

omit [World] in
/-- Only the connection that registers changes. -/
theorem registers_card {f : ConnectionState → ConnectionState} {c : ConnectionState}
    (hc : s.connections.get? id = some c) {connections : Table Uuid ConnectionState}
    (hconnections : connections = s.connections.adjust id f) :
    (connections.get? id).map ConnectionState.card = some (f c).card ∧
      (∀ i, i ≠ id → (connections.get? i).map ConnectionState.card = s.card i) ∧
      connections.size = s.connections.size := by
  subst hconnections
  refine ⟨by simp [Table.get?_adjust, hc], fun i hi => ?_, Table.size_adjust _ _ _⟩
  simp [Table.get?_adjust, hi, RouterState.card]

omit [World] in
theorem credentialByHash_some {db : Db} {token : String} {credential : StoredCredential}
    (h : credentialByHash db token = some credential) :
    ∃ i r, db.credentials.get? i = some r ∧ r.tokenHash = token ∧
      credential = credentialFromRow i r := by
  unfold credentialByHash at h
  obtain ⟨⟨i, r⟩, hfound, rfl⟩ := Option.map_eq_some_iff.mp h
  have hmem := List.mem_of_find?_eq_some hfound
  have hhash := List.find?_some hfound
  exact ⟨i, r, (Table.mem_toList _ _ _).mp hmem, by simpa using hhash, rfl⟩

theorem registerAgent_spec {registration : AgentRegistration} {token : String}
    {delegationToken : Option String} (h : Good (.rest F) s) :
    Handles F X (Router.registerAgent id generation registration token delegationToken) s := by
  unfold Handles Router.registerAgent
  simp only [Actor.wp_bind]
  refine requireUnregistered_spec h fun c hc hrole => ?_
  refine authenticate_spec h fun credential hcredential _ => ?_
  rw [Actor.wp_read]
  refine guard_requireThat h (by simp) fun hfree => ?_
  refine guard_requireThat h (by simp) fun hmatches => ?_
  refine Router.newUuid_spec fun t s₁ hq₁ _ _ => ?_
  rw [Actor.wp_modify]
  have h₁ := h.quiet hq₁
  have hc₁ : s₁.connections.get? id = some c := by rw [hq₁.connections]; exact hc
  have hfree₁ : s₁.primaries.get? registration.agentId = none := by
    rw [hq₁.primaries]
    simpa [Table.contains] using hfree
  have hvalid : ValidActor registration.agentId := by
    obtain ⟨i, r, hr, -, rfl⟩ := credentialByHash_some hcredential
    have hsubject := (h.base.store.db.admin.credentials i r hr).2
    simp only [Router.matchesRegistration, credentialFromRow, Bool.and_eq_true] at hmatches
    have hagentRole : r.role = .agent := of_decide_eq_true hmatches.1.1.1
    have hagentId : r.subject = registration.agentId := of_decide_eq_true hmatches.1.1.2
    rw [CredentialRow.subjectValid, hagentRole] at hsubject
    exact hagentId ▸ validActor_agent hsubject
  obtain ⟨hcard, hothers, hsize⟩ := registers_card (s := s₁) hc₁ rfl
    (f := fun c => { c with role := some (.agent credential.claims
      { agentId := registration.agentId, side := registration.side,
        client := registration.client, activity := registration.activity, status := .idle,
        deliveryMode := registration.deliveryMode, ready := false, sessionId := World.uuid t }
      delegationToken) })
  have hw : c.workspace = none := by
    have := h.base.registry.unregistered (RouterState.card_eq hc)
      (by simp [ConnectionState.card, ConnectionState.mapDescriptor, hrole])
    simpa using this
  refine Router.send_spec fun _ s₂ hq₂ => sendExecutionSnapshot_spec (Good.quiet ?_ hq₂)
  refine h₁.register hc₁ hrole ⟨hcard, hothers, hsize, rfl, ?_, ?_, ?_, ?_, ?_, ?_, ?_, ?_⟩ rfl rfl
    rfl rfl ?_
  · intro agentId hagent
    have hagent : registration.agentId = agentId :=
      Option.some.inj ((ConnectionState.card_agentId _).symm.trans hagent)
    subst hagent
    exact Table.get?_put_self _ _ _
  · intro agentId i hi
    change (s₁.primaries.put registration.agentId id).get? agentId = some i
    rw [Table.get?_put_ne]
    · exact hi
    · rintro rfl
      rw [hfree₁] at hi
      cases hi
  · intro agentId i hi
    change (s₁.primaries.put registration.agentId id).get? agentId = some i at hi
    rw [Table.get?_put] at hi
    split at hi
    · next heq =>
      cases hi
      refine .inr ⟨rfl, (ConnectionState.card_agentId _).trans ?_⟩
      rw [heq]
      rfl
    · exact .inl hi
  · intro ownerId hdelegate
    rw [ConnectionState.card_delegate] at hdelegate
    cases hdelegate
  · exact fun _ _ hi => hi
  · exact fun _ _ hi => .inl hi
  · intro w hcw
    rw [ConnectionState.card_workspace] at hcw
    simp [hw] at hcw
  · exact (ConnectionState.card_actorsValid _).mpr hvalid
  · intro _ hcancel
    constructor <;> simp [ConnectionState.descriptor?, hcancel]
    intro _ _ p hp hid
    have := h₁.base.no_party (RouterState.card_eq hc₁) (by simpa using hw) hp
    exact this.2 hid

theorem registerOperator_spec {token : String} (h : Good (.rest F) s) :
    Handles F X (Router.registerOperator id generation token) s := by
  unfold Handles Router.registerOperator
  simp only [Actor.wp_bind]
  refine requireUnregistered_spec h fun c hc hrole => ?_
  refine authenticate_spec h fun credential hcredential _ => ?_
  refine guard_requireThat h (by simp) fun hoperator => ?_
  rw [Router.wp_updateConnection]
  have hvalid : ValidActor ("operator:" ++ credential.claims.subject) := by
    obtain ⟨i, r, hr, -, rfl⟩ := credentialByHash_some hcredential
    have hsubject := (h.base.store.db.admin.credentials i r hr).2
    have hr : r.role = .operator := of_decide_eq_true hoperator
    rw [CredentialRow.subjectValid, hr] at hsubject
    exact validActor_operator hsubject
  have hw : c.workspace = none := by
    have := h.base.registry.unregistered (RouterState.card_eq hc)
      (by simp [ConnectionState.card, ConnectionState.mapDescriptor, hrole])
    simpa using this
  obtain ⟨hcard, hothers, hsize⟩ := registers_card (s := s) hc rfl
    (f := fun c => { c with role := some (.operator credential.claims
      (credential.claims.subject = "admin" && credential.claims.workspaces.isEmpty)) })
  refine Router.send_spec fun _ s₂ hq₂ => Good.quiet ?_ hq₂
  refine h.register hc hrole
    ⟨hcard, hothers, hsize, rfl, ?_, fun _ _ hi => hi, fun _ _ hi => .inl hi, ?_,
      fun _ _ hi => hi, fun _ _ hi => .inl hi, ?_, ?_⟩ rfl rfl rfl rfl ?_
  · intro agentId hagent
    rw [ConnectionState.card_agentId] at hagent
    cases hagent
  · intro ownerId hdelegate
    rw [ConnectionState.card_delegate] at hdelegate
    cases hdelegate
  · intro w hcw
    rw [ConnectionState.card_workspace] at hcw
    simp [hw] at hcw
  · exact (ConnectionState.card_actorsValid _).mpr hvalid
  · exact fun _ hcancel => .of_none rfl hcancel

omit [World] in
theorem delegationOwner_some {ownerId token : String} {d : AgentDescriptor}
    {workspace : Option WorkspaceName}
    (h : Router.delegationOwner s ownerId token = some (d, workspace)) :
    ∃ owner c, s.primaries.get? ownerId = some owner ∧ s.connections.get? owner = some c ∧
      c.workspace = workspace := by
  unfold Router.delegationOwner at h
  obtain ⟨c, hc, hmatch⟩ := Option.bind_eq_some_iff.mp h
  obtain ⟨owner, howner, hget⟩ := Option.bind_eq_some_iff.mp hc
  refine ⟨owner, c, howner, hget, ?_⟩
  split at hmatch
  · split at hmatch
    · cases hmatch
      rfl
    · cases hmatch
  · cases hmatch

theorem registerDelegate_spec {ownerId token : String} (h : Good (.rest F) s) :
    Handles F X (Router.registerDelegate id generation ownerId token) s := by
  unfold Handles Router.registerDelegate
  simp only [Actor.wp_bind, Actor.wp_pure]
  refine requireUnregistered_spec h fun c hc hrole => ?_
  rw [Actor.wp_read]
  refine guard_orFail h (by simp) ?_
  rintro ⟨d, workspace⟩ howner
  obtain ⟨owner, p, hprimary, hp, rfl⟩ := delegationOwner_some howner
  have hreg := h.base.registry
  obtain ⟨p', hp', hagent⟩ := (hreg.primaries ownerId owner hprimary).resolve_left
    (by simp [Phase.rest])
  rw [RouterState.card_eq hp, Option.some.injEq] at hp'
  subst hp'
  rw [Actor.wp_read, Actor.wp_modify]
  have hlist : ∀ o i, i ∈ ((s.delegates.put ownerId
      ((s.delegatesOf ownerId).insert id)).get? o).getD [] ↔
      i ∈ s.delegatesOf o ∨ (i = id ∧ o = ownerId) := by
    intro o i
    rw [Table.get?_put]
    by_cases ho : o = ownerId
    · subst ho
      simp [or_comm]
    · simp [ho, RouterState.delegatesOf]
  obtain ⟨hcard, hothers, hsize⟩ := registers_card (s := s) hc rfl
    (f := fun c => { c with role := some (.delegate ownerId), workspace := p.workspace })
  refine Router.send_spec fun _ s₂ hq₂ => Good.quiet ?_ hq₂
  refine h.register hc hrole ⟨hcard, hothers, hsize, rfl, ?_, fun _ _ hi => hi,
    fun _ _ hi => .inl hi, ?_, ?_, ?_, ?_, ?_⟩ rfl rfl rfl rfl ?_
  · intro agentId hid
    rw [ConnectionState.card_agentId] at hid
    cases hid
  · intro o hdelegate
    rw [ConnectionState.card_delegate, Option.some.injEq,
      ConnectionRole.delegate.injEq] at hdelegate
    subst hdelegate
    refine ⟨(hlist ownerId id).mpr (.inr ⟨rfl, rfl⟩), owner, p.card, hprimary,
      RouterState.card_eq hp, hagent, ?_⟩
    rw [ConnectionState.card_workspace, ConnectionState.card_workspace]
  · exact fun o i hi => (hlist o i).mpr (.inl hi)
  · intro o i hi
    refine ((hlist o i).mp hi).imp_right ?_
    rintro ⟨rfl, rfl⟩
    exact ⟨rfl, (ConnectionState.card_delegate _ _).mpr rfl⟩
  · intro w hcw
    rw [ConnectionState.card_workspace] at hcw
    refine ⟨(ConnectionState.card_granted _ w).mpr trivial, ?_⟩
    exact (hreg.joined owner p.card w (RouterState.card_eq hp)
      ((p.card_workspace).trans hcw)).2
  · exact (ConnectionState.card_actorsValid _).mpr trivial
  · exact fun _ hcancel => .of_none rfl hcancel

end registration

section readiness

variable {id : Uuid} {generation : ℕ}

omit [World] in
/-- A connection whose status and canceling marker stay as they are is still truthful when its
readiness is. -/
theorem Honest.of_same {g : Phase} {c c' : ConnectionState} (ht : Truthful s)
    (hflight : g.flight) (hc : s.connections.get? id = some c)
    (hdesc : ∀ d', c'.descriptor? = some d' → ∃ d, c.descriptor? = some d ∧ d'.status = d.status)
    (hagent : ∀ d, c.descriptor? = some d → ∃ d', c'.descriptor? = some d')
    (hcancel : c'.canceling = c.canceling) (hw : c'.workspace = c.workspace)
    (hready : ∀ d', c'.descriptor? = some d' → d'.ready = true → d'.status = .idle ∧
      c.canceling = none ∧ c.workspace.isSome = true ∧ ¬ Barrier s.db d'.agentId) :
    Honest g s id c' where
  working := by
    rintro key p d' hp rfl hd'
    obtain ⟨d, hd, hstatus⟩ := hdesc d' hd'
    rw [hstatus, hcancel]
    exact ht.working key p c d hp hc hd
  ready := by
    rw [hcancel, hw]
    exact hready
  canceling := by
    rw [hcancel, hw]
    intro hsome
    obtain ⟨d, hd, hbusy, hjoined⟩ := ht.canceling id c hc hsome
    obtain ⟨d', hd'⟩ := hagent d hd
    obtain ⟨d₀, hd₀, hstatus⟩ := hdesc d' hd'
    rw [hd, Option.some.injEq] at hd₀
    subst hd₀
    exact ⟨d', hd', hstatus.trans hbusy, hjoined⟩
  busy := by
    intro hl d' hd' hbusy
    obtain ⟨d, hd, hstatus⟩ := hdesc d' hd'
    rw [hcancel]
    exact hl.busy hflight id c d hc hd (hstatus.symm.trans hbusy)

theorem Base.barred_iff {g : Phase} (h : Base g s) (agentId : String) :
    barred s.db agentId = true ↔ Barrier s.db agentId :=
  SessionRouter.barred_iff h.store.db.tasks agentId

theorem setReadiness_spec {ready : Bool} (h : Good (.rest F) s) :
    Handles F X (Router.setReadiness id ready) s := by
  unfold Handles Router.setReadiness
  rw [Actor.wp_bind, Actor.wp_get]
  split
  · exact .of_good h (by simp)
  · next c hc =>
    split
    · exact .of_good h (by simp)
    · next d hd =>
      rw [Actor.wp_ite]
      refine ⟨fun _ => ?_, fun _ => .of_good h (by simp)⟩
      rw [Router.wp_updateConnection]
      refine h.touch ?_ ?_
      · intro c _
        cases hr : c.role with
        | none => simp [ConnectionState.setReadiness, ConnectionState.card,
            ConnectionState.mapDescriptor, hr]
        | some role => cases role <;> simp [ConnectionState.setReadiness,
            ConnectionState.card, ConnectionState.mapDescriptor, hr]
      · intro hflight c' hc'
        rw [hc, Option.some.injEq] at hc'
        subst hc'
        have hdesc : (c.setReadiness s.db ready).descriptor? = some { d with
            ready := ready && c.canceling.isNone && !barred s.db d.agentId && d.status = .idle &&
              c.workspace.isSome } := by
          refine (c.mapDescriptor_descriptor _).trans ?_
          rw [hd]
          rfl
        refine .of_same (h.base.truthful hflight) hflight hc ?_ ?_ ?_ ?_ ?_
        · intro d' hd'
          rw [hdesc, Option.some.injEq] at hd'
          exact ⟨d, hd, by rw [← hd']⟩
        · exact fun _ _ => ⟨_, hdesc⟩
        · exact c.mapDescriptor_canceling _
        · exact c.mapDescriptor_workspace _
        · intro d' hd' hready
          rw [hdesc, Option.some.injEq] at hd'
          subst hd'
          simp only [Bool.and_eq_true, decide_eq_true_eq, Bool.not_eq_true',
            Option.isNone_iff_eq_none] at hready
          obtain ⟨⟨⟨⟨-, hcancel⟩, hbarred⟩, hidle⟩, hw⟩ := hready
          refine ⟨hidle, hcancel, hw, fun hb => ?_⟩
          rw [(h.base.barred_iff d.agentId).mpr hb] at hbarred
          cases hbarred

end readiness

end SessionRouter
