import SessionRouter.Router.RegisterSpec

/-!
The handlers of workspace membership: joining and leaving with one's delegates, posting, reading
the history and subscribing.
-/

namespace SessionRouter

variable [World] {s : RouterState} {F X : Prop}

section membership

variable {id : Uuid} {generation : ℕ}

omit [World] in
theorem boundPage_error {α κ : Type} {items : List α} {cursor : α → κ} {inputCursor : κ}
    {more : Bool} {budget : List α → κ → Bool → JsonValue} {e : ActorError}
    (h : boundPage items cursor inputCursor more budget = .error e) : e.code ≠ .storageError := by
  unfold boundPage largestResponsePrefix at h
  dsimp only at h
  split at h
  · cases h
    simp
  · split at h
    · cases h
      simp
    · cases h

omit [World] in
theorem boundWorkspaceList_error {requestId : String} {workspaces : List WorkspaceSummary}
    {cursor : Option String} {more : Bool} {e : ActorError}
    (h : boundWorkspaceList requestId workspaces cursor more = .error e) :
    e.code ≠ .storageError := by
  unfold boundWorkspaceList at h
  exact boundPage_error h

omit [World] in
theorem boundHistoryPage_error {messageType requestId : String} {w : WorkspaceName}
    {events : List WorkspaceEvent} {cursor : ℕ} {more : Bool} {e : ActorError}
    (h : boundHistoryPage messageType requestId w events cursor more = .error e) :
    e.code ≠ .storageError := by
  unfold boundHistoryPage at h
  exact boundPage_error h

theorem listAgents_spec {requestId : String} (h : Good (.rest F) s) :
    Handles F X (Router.listAgents id generation requestId) s := by
  unfold Handles Router.listAgents
  simp only [Actor.wp_bind, Actor.wp_pure]
  refine guard_ask h (fun _ he => currentWorkspace_error he) fun w _ => ?_
  rw [Actor.wp_read]
  exact Router.send_spec fun _ _ hq => h.quiet hq

omit [World] in
theorem agentsInWorkspace_le (s : RouterState) (w : WorkspaceName) :
    (s.agentsInWorkspace w).length ≤ s.connections.size := by
  unfold RouterState.agentsInWorkspace
  rw [List.length_insertionSort]
  refine (List.length_filterMap_le _ _).trans ?_
  refine (List.length_filter_le _ _).trans ?_
  simp [Table.toList, Table.size, AList.keys, List.keys]

theorem workspaceList_spec {requestId : String} {after : Option String} {limit : Option ℕ}
    (h : Good (.rest F) s) :
    Handles F X (Router.workspaceList id generation requestId after limit) s := by
  unfold Handles Router.workspaceList
  simp only [Actor.wp_bind, Actor.wp_pure]
  refine guard_ask h (fun _ he => claims_error he) ?_
  rintro ⟨claims, admin⟩ -
  refine guard_requireThat h (by simp) fun _ => ?_
  refine guard_requireThat h (by simp) fun _ => ?_
  simp only [Actor.wp_read]
  rw [Router.wp_requireThat]
  refine ⟨fun _ => ?_, fun hfalse => ?_⟩
  · rw [Router.wp_ask]
    refine ⟨?_, fun e he => .of_good h (boundWorkspaceList_error he)⟩
    rintro ⟨workspaces, nextCursor, hasMore⟩ -
    exact Router.send_spec fun _ _ hq => h.quiet hq
  · -- No more agents are connected than there are connections.
    rw [List.all_eq_false] at hfalse
    obtain ⟨summary, hmem, hlarge⟩ := hfalse
    obtain ⟨row, -, rfl⟩ := List.mem_map.mp hmem
    have hle := (agentsInWorkspace_le s row.1).trans h.base.registry.size
    exact absurd (decide_eq_true (hle.trans (by decide))) hlarge

/-- Appending a membership event. -/
theorem membershipEvent_spec {kind : WorkspaceEventKind} {workspace : WorkspaceName}
    {actorId : String} {isOperator : Bool} {row : WorkspaceRow}
    {Q : Option WorkspaceEvent → RouterState → Prop} (h : Good (.rest F) s)
    (hkind : kind = .memberJoined ∨ kind = .memberLeft) (hactor : ValidActor actorId)
    (hrow : s.db.workspaces.get? workspace = some row)
    (hQ : ∀ event s', Stored s s' event.toList noAttempt → Good (.rest F) s' → Q event s') :
    Actor.wp (Router.membershipEvent kind workspace actorId isOperator) Q (Refused F X) s := by
  unfold Router.membershipEvent
  rw [Actor.wp_ite]
  refine ⟨fun _ => hQ none s (.refl h.base.store) h, fun _ => ?_⟩
  simp only [Actor.wp_bind, Actor.wp_pure, Router.wp_lift, Router.wp_inStore]
  have hvalid : EventInsert.Valid { workspace, kind, actorId } := by
    refine ⟨hactor, by simp, ?_⟩
    rcases hkind with rfl | rfl <;> rfl
  have hkey : KeyFree s.store.tx.db (EventInsert.key { workspace, kind, actorId }) := by
    rcases hkind with rfl | rfl <;> exact .inl rfl
  refine appendEvent_spec h.base.store.db hrow hvalid hkey ?_ ?_ (fun hinv => ?_) fun hx => ?_
  · rcases hkind with rfl | rfl <;> simp
  · rcases hkind with rfl | rfl <;> simp
  · have hadv : Advance s.store.tx _ [_] noAttempt := .append hinv
    have hs := Stored.commit h.base.store hadv
    refine hQ (some _) _ hs (h.stored hs (fun _ => .none _ s) ?_)
    rcases hkind with rfl | rfl <;> simp
  · exact .of_exhausted h fun _ => .inl hx

omit [World] in
/-- An owner and its delegates change their workspace together. -/
theorem syncDelegates_spec {owner : Uuid} {f : ConnectionState → ConnectionState}
    {w' : Option WorkspaceName} {c : ConnectionState} {Q : Unit → RouterState → Prop}
    {E : ActorError → RouterState → Prop} (hc : s.connections.get? owner = some c)
    (hf : (f c).agentId? = c.agentId?)
    (hQ : ∀ ds, s.party owner = owner :: ds → Q () { s with
      connections := ds.foldl (fun m d => m.adjust d fun c => { c with workspace := w' })
        (s.connections.adjust owner f) }) :
    Actor.wp (Router.syncDelegates owner w') Q E
      { s with connections := s.connections.adjust owner f } := by
  unfold Router.syncDelegates
  rw [Actor.wp_modify]
  have hget : (s.connections.adjust owner f).get? owner = some (f c) := by
    rw [Table.get?_adjust, if_pos rfl, hc, Option.map_some]
  simp only [hget, Option.bind_some, hf]
  cases ha : c.agentId? with
  | none => exact hQ [] (by simp [RouterState.party, hc, ha])
  | some agentId => exact hQ (s.delegatesOf agentId) (by simp [RouterState.party, hc, ha])

theorem notifyChanged_spec {workspace : Option WorkspaceName} {cursor : ℕ}
    {Q : Unit → RouterState → Prop} {E : ActorError → RouterState → Prop}
    (hQ : ∀ s', Quiet s s' → Q () s') :
    Actor.wp (Router.notifyChanged workspace cursor id) Q E s := by
  unfold Router.notifyChanged
  rw [Actor.wp_bind, Actor.wp_read]
  split
  · exact hQ s (.refl s)
  · simp only [Actor.wp_bind, Actor.wp_pure]
    exact Router.send_spec fun _ s' hq => hQ s' hq

theorem notifyMembership_spec {workspace : Option WorkspaceName} {cursor : ℕ}
    {Q : Unit → RouterState → Prop} {E : ActorError → RouterState → Prop}
    (hQ : ∀ s', Quiet s s' → Q () s') :
    Actor.wp (Router.notifyMembership id workspace cursor) Q E s := by
  unfold Router.notifyMembership
  rw [Actor.wp_bind, Actor.wp_get]
  split
  · simp only [Actor.wp_bind]
    refine notifyChanged_spec fun s₁ hq₁ => ?_
    refine Router.traverse_spec fun delegates s₂ hq₂ _ => ?_
    refine Actor.wp_mono (Actor.wp_forEach (I := fun s' => Quiet s s') (hq₁.trans hq₂) ?_)
      (fun _ s' hq => hQ s' hq) fun _ _ he => he
    exact fun i _ s₃ hq₃ => notifyChanged_spec fun s₄ hq₄ => hq₃.trans hq₄
  · exact notifyChanged_spec hQ
  · exact hQ s (.refl s)

theorem fanoutAll_handled {events : List WorkspaceEvent} (h : Good (.rest F) s) :
    Handles F X (Router.lift (Actor.forEach Router.fanout events)) s := by
  unfold Handles
  rw [Router.wp_lift]
  refine Actor.wp_mono (fanout_spec.each h events) (fun _ _ h' => h'.1) ?_
  exact fun _ _ hfalse => hfalse.elim

theorem fanout_handled {event : WorkspaceEvent} (h : Good (.rest F) s) :
    Handles F X (Router.lift (Router.fanout event)) s := by
  unfold Handles
  rw [Router.wp_lift]
  exact Actor.wp_mono (fanout_spec _ s event h) (fun _ _ h' => h'.1) fun _ _ hfalse => hfalse.elim

theorem Good.alive {g : Phase} (h : Good g s) (hrun : s.shuttingDown = false) : Live g s := by
  refine h.live.resolve_left fun hstuck => ?_
  rw [hstuck.2] at hrun
  cases hrun

omit [World] in
/-- A connection that is no delegate acts in its own name. -/
theorem effective_self {i : Uuid} {c : ConnectionState} (hc : s.connections.get? i = some c)
    (hdelegate : c.isDelegate = false) : s.effective i = i := by
  unfold RouterState.effective RouterState.effectivePrimary
  rw [hc, Option.bind_some]
  split
  · next ownerId hrole => simp [ConnectionState.isDelegate, hrole] at hdelegate
  · rfl

theorem Registry.effective_idem {g : Phase} (h : Registry g s) (i : Uuid) :
    s.effective (s.effective i) = s.effective i := by
  cases hc : s.connections.get? (s.effective i) with
  | none =>
    rw [RouterState.effective, RouterState.effectivePrimary, hc]
    rfl
  | some c => exact effective_self hc (h.effective_primary hc)

/-- Who passes the check may join the workspace. -/
theorem authorizeWorkspace_spec {effective : Uuid} {name : WorkspaceName}
    {Q : Unit → RouterState → Prop} (h : Good (.rest F) s)
    (hQ : ∀ c, s.connections.get? (s.effective effective) = some c → c.granted name → Q () s) :
    Actor.wp (Router.authorizeWorkspace effective name) Q (Refused F X) s := by
  unfold Router.authorizeWorkspace
  simp only [Actor.wp_bind]
  refine guard_ask h (fun _ he => claims_error he) ?_
  rintro ⟨claims, admin⟩ hclaims
  refine guard_requireThat h (by simp) fun hgrant => ?_
  simp only [Bool.or_eq_true, decide_eq_true_eq] at hgrant
  unfold RouterState.claims RouterState.effectiveConnection at hclaims
  split at hclaims
  · next hrole =>
    obtain ⟨c, hc, hr⟩ := Option.bind_eq_some_iff.mp hrole
    cases hclaims
    exact hQ c hc (by simpa [ConnectionState.granted, hr] using hgrant)
  · next hrole =>
    obtain ⟨c, hc, hr⟩ := Option.bind_eq_some_iff.mp hrole
    cases hclaims
    exact hQ c hc (by simpa [ConnectionState.granted, hr] using hgrant)
  · cases hclaims

omit [World] in
theorem ConnectionState.join_card (db : Db) (w : WorkspaceName) (c : ConnectionState) :
    (c.join db w).card = { c.card with workspace := some w } := by
  cases hr : c.role with
  | none => simp [join, card, descriptor?, mapDescriptor, hr]
  | some role => cases role <;> simp [join, card, descriptor?, mapDescriptor, hr]

omit [World] in
theorem ConnectionState.join_agentId (db : Db) (w : WorkspaceName) (c : ConnectionState) :
    (c.join db w).agentId? = c.agentId? := by
  cases hr : c.role with
  | none => simp [join, agentId?, descriptor?, hr]
  | some role => cases role <;> simp [join, agentId?, descriptor?, mapDescriptor, hr]

omit [World] in
theorem ConnectionState.join_fields (db : Db) (w : WorkspaceName) (c : ConnectionState) :
    (c.join db w).descriptor? = c.descriptor?.map (fun d =>
        { d with ready := d.deliveryMode = .push && !barred db d.agentId }) ∧
      (c.join db w).canceling = c.canceling ∧ (c.join db w).workspace = some w := by
  cases hr : c.role with
  | none => simp [join, descriptor?, hr]
  | some role => cases role <;> simp [join, descriptor?, mapDescriptor, hr]

/-- The agent that joins is idle, so it may announce that it is ready. -/
theorem join_honest (h : Good (.rest F) s) (hrun : s.shuttingDown = false) (hflight : F)
    {c : ConnectionState} (hc : s.connections.get? id = some c) (hw : c.workspace = none)
    (w : WorkspaceName) : Honest (.rest F) s id (c.join s.db w) := by
  have ht := h.base.truthful hflight
  have hl := h.alive hrun
  have hnone : ∀ key p, s.pending.get? key = some p → p.recipient ≠ id := fun key p hp =>
    (h.base.no_party (RouterState.card_eq hc) (by simpa using hw) hp).2
  have hcancel : c.canceling = none := by
    by_contra hsome
    obtain ⟨d, -, -, hjoined⟩ := ht.canceling id c hc (Option.isSome_iff_ne_none.mpr hsome)
    simp [hw] at hjoined
  obtain ⟨hdesc, hcanceling, hworkspace⟩ := c.join_fields s.db w
  rw [hcancel] at hcanceling
  cases hd : c.descriptor? with
  | none =>
    rw [hd] at hdesc
    exact .of_none hdesc hcanceling
  | some d =>
    rw [hd, Option.map_some] at hdesc
    have hidle : d.status = .idle := by
      cases hstatus : d.status with
      | idle => rfl
      | busy =>
        rcases hl.busy hflight id c d hc hd hstatus with hsome | ⟨key, p, hp, hid⟩
        · simp [hcancel] at hsome
        · exact absurd hid (hnone key p hp)
    refine ⟨fun key p d' hp hid => absurd hid (hnone key p hp), ?_, by simp [hcanceling], ?_⟩
    · intro d' hd' hready
      rw [hdesc, Option.some.injEq] at hd'
      subst hd'
      rw [hcanceling, hworkspace]
      simp only [Bool.and_eq_true, Bool.not_eq_true'] at hready
      refine ⟨hidle, rfl, rfl, fun hb => ?_⟩
      rw [(h.base.barred_iff d.agentId).mpr hb] at hready
      cases hready.2
    · intro _ d' hd' hbusy
      rw [hdesc, Option.some.injEq] at hd'
      subst hd'
      rw [hidle] at hbusy
      cases hbusy

omit [World] in
theorem joinCursor_spec {name : WorkspaceName} {event : Option WorkspaceEvent}
    {Q : ℕ → RouterState → Prop} {E : ActorError → RouterState → Prop}
    (hQ : ∀ cursor, Q cursor s) : Actor.wp (Router.joinCursor name event) Q E s := by
  unfold Router.joinCursor
  split
  · exact hQ _
  · exact hQ _

theorem workspaceJoin_spec {requestId : String} {name : WorkspaceName} (h : Good (.rest F) s)
    (hrun : s.shuttingDown = false) :
    Handles F X (Router.workspaceJoin id generation requestId name) s := by
  unfold Handles Router.workspaceJoin
  simp only [Actor.wp_bind, Actor.wp_read]
  refine authorizeWorkspace_spec h fun c hc hgranted => ?_
  refine guard_requireThat h (by simp) fun hknown => ?_
  obtain ⟨row, hrow⟩ := (Table.contains_iff _ _).mp hknown
  have hdelegate := h.base.registry.effective_primary hc
  rw [h.base.registry.effective_idem] at hc
  rw [Actor.wp_ite]
  refine ⟨fun _ => ?_, fun hnew => ?_⟩
  · simp only [Actor.wp_bind, Actor.wp_read, Actor.wp_pure]
    exact Router.send_spec fun _ _ hq => h.quiet hq
  · simp only [Actor.wp_bind]
    refine guard_requireThat h (by simp) fun hnone => ?_
    have hw : c.workspace = none := by simpa [hc] using hnone
    refine guard_ask h (fun _ he => actorId_error he) fun actor hactor => ?_
    refine membershipEvent_spec h (.inl rfl) (h.base.actor_valid hactor) hrow
      fun event s₁ hs₁ h₁ => ?_
    have hc₁ : s₁.connections.get? (s.effective id) = some c := by rw [hs₁.connections]; exact hc
    obtain ⟨row₁, hrow₁, -⟩ := hs₁.advance.grows.workspaces name row hrow
    refine joinCursor_spec fun cursor => ?_
    rw [Actor.wp_get, Router.wp_updateConnection]
    refine syncDelegates_spec hc₁ (c.join_agentId s₁.db name) fun ds hds => ?_
    have hparty : ∀ i ∈ s₁.party (s.effective id), ∀ k, s₁.card i = some k →
        k.workspace = none := by
      intro i hi k hk
      rw [h₁.base.registry.party_workspace (RouterState.card_eq hc₁) hi hk,
        ConnectionState.card_workspace, hw]
    have hgood := h₁.move (some name) s₁.subscribers hc₁ hdelegate hds
      (c.join_card s₁.db name) ?_ ?_ ?_
      (fun hflight => join_honest h₁ (hs₁.shutting.trans hrun) hflight hc₁ hw name)
    · refine Router.send_spec fun _ s₃ hq₃ => ?_
      refine notifyMembership_spec fun s₄ hq₄ => ?_
      exact fanoutAll_handled (hgood.quiet (hq₃.trans hq₄))
    · intro w hw'
      cases hw'
      exact ⟨hgranted, row₁, hrow₁⟩
    · intro w i
      refine ⟨fun hi => ⟨hi, fun hmem => ?_⟩, fun hi => hi.1⟩
      obtain ⟨k, hk, -, hkw⟩ := h₁.base.registry.subscribers w i hi
      rw [hparty i hmem k hk] at hkw
      cases hkw
    · intro key p hp
      have hlive := h₁.alive (hs₁.shutting.trans hrun)
      constructor
      · intro hmem
        obtain ⟨k, hk⟩ := (hlive.requester key p hp).resolve_left (by simp [Phase.rest])
        exact (h₁.base.no_party hk (hparty _ hmem k hk) hp).1 rfl
      · intro hmem
        obtain ⟨k, hk⟩ := (hlive.recipient key p hp).resolve_left (by simp [Phase.rest])
        exact (h₁.base.no_party hk (hparty _ hmem k hk) hp).2 rfl

omit [World] in
theorem ConnectionState.leave_card (c : ConnectionState) :
    c.leave.card = { c.card with workspace := none } := by
  cases hr : c.role with
  | none => simp [leave, card, mapDescriptor, hr]
  | some role => cases role <;> simp [leave, card, mapDescriptor, hr]

omit [World] in
theorem ConnectionState.leave_fields (c : ConnectionState) :
    c.leave.descriptor? = c.descriptor?.map (fun d => { d with ready := false }) ∧
      c.leave.canceling = c.canceling := by
  cases hr : c.role with
  | none => simp [leave, descriptor?, mapDescriptor, hr]
  | some role => cases role <;> simp [leave, descriptor?, mapDescriptor, hr]

omit [World] in
theorem ConnectionState.leave_agentId (c : ConnectionState) : c.leave.agentId? = c.agentId? := by
  simp only [agentId?, (c.leave_fields).1, Option.map_map]
  rfl

theorem requireLeavable_spec {agentId : Option String} {Q : Unit → RouterState → Prop}
    (h : Good (.rest F) s) (hQ : Q () s) :
    Actor.wp (Router.requireLeavable agentId) Q (Refused F X) s := by
  unfold Router.requireLeavable
  split
  · exact hQ
  · next agentId =>
    obtain ⟨running, stopPending, hq, -⟩ :=
      agentExecutionBarriers_spec h.base.store.db.tasks agentId
    simp only [Actor.wp_bind, Router.wp_lift]
    refine Router.wp_query hq ?_
    refine guard_requireThat h (by simp) fun _ => ?_
    exact guard_requireThat h (by simp) fun _ => hQ

/-- The subscriptions of a party end with its membership. -/
theorem removeSubscriptions_spec (h : Registry (.rest F) s) {owner : Uuid} {ownerId : String}
    {c : ConnectionState} (hc : s.connections.get? owner = some c)
    (howner : ownerId = c.agentId?.getD "") (w : WorkspaceName) (i : Uuid) :
    i ∈ ((s.subscribers.mapValues fun ids => ids.filter fun i =>
      i ∉ owner :: s.delegatesOf ownerId).get? w).getD [] ↔
      i ∈ s.subscribersOf w ∧ i ∉ s.party owner := by
  have hfilter : i ∈ ((s.subscribers.mapValues fun ids => ids.filter fun i =>
      i ∉ owner :: s.delegatesOf ownerId).get? w).getD [] ↔
      i ∈ s.subscribersOf w ∧ i ∉ owner :: s.delegatesOf ownerId := by
    rw [Table.get?_mapValues, RouterState.subscribersOf]
    cases s.subscribers.get? w with
    | none => simp
    | some ids => simp [List.mem_filter]
  rw [hfilter]
  refine and_congr_right fun hi => not_congr ?_
  obtain ⟨k, hk, hdelegate, -⟩ := h.subscribers w i hi
  cases ha : c.agentId? with
  | some agentId => simp [RouterState.party, hc, ha, howner]
  | none =>
    rw [List.mem_cons]
    simp only [RouterState.party, hc, Option.bind_some, ha, Option.map_none, Option.getD_none,
      List.mem_cons, List.not_mem_nil]
    refine or_congr_right ⟨fun hmem => ?_, False.elim⟩
    -- Delegates do not subscribe.
    obtain ⟨k', hk', hrole⟩ := (h.listed ownerId i hmem).resolve_left (by simp [Phase.rest])
    rw [hk, Option.some.injEq] at hk'
    subst hk'
    simp [ConnectionState.isDelegate, hrole] at hdelegate

omit [World] in
theorem mem_connectionFamily {owner i : Uuid} :
    i ∈ s.connectionFamily owner ↔ i ∈ s.party owner := by
  unfold RouterState.connectionFamily RouterState.party
  split
  · next agentId ha => simp [ha]
  · next ha => simp [ha]

theorem workspaceLeave_spec {requestId : String} (h : Good (.rest F) s)
    (hrun : s.shuttingDown = false) :
    Handles F X (Router.workspaceLeave id generation requestId) s := by
  unfold Handles Router.workspaceLeave
  simp only [Actor.wp_bind, Actor.wp_read]
  cases hcw : (s.connections.get? (s.effective id)).bind ConnectionState.workspace with
  | none =>
    simp only [Actor.wp_bind, Actor.wp_pure]
    exact Router.send_spec fun _ _ hq => h.quiet hq
  | some workspace =>
    obtain ⟨c, hc, hw⟩ := Option.bind_eq_some_iff.mp hcw
    have hcard := RouterState.card_eq hc
    have hdelegate := h.base.registry.effective_primary hc
    obtain ⟨-, row, hrow⟩ := h.base.registry.joined _ _ workspace hcard (by simpa using hw)
    simp only [Actor.wp_bind, Actor.wp_read]
    refine guard_requireThat h (by simp) fun hcancel => ?_
    have hcancel : c.canceling = none := by simpa [hc] using hcancel
    refine guard_requireThat h (by simp) fun hidle => ?_
    refine requireLeavable_spec h ?_
    refine guard_ask h (fun _ he => actorId_error he) fun actor hactor => ?_
    refine membershipEvent_spec h (.inr rfl) (h.base.actor_valid hactor) hrow
      fun event s₁ hs₁ h₁ => ?_
    have hlive := h₁.alive (hs₁.shutting.trans hrun)
    have hc₁ : s₁.connections.get? (s.effective id) = some c := by rw [hs₁.connections]; exact hc
    have hcard₁ := RouterState.card_eq hc₁
    -- No request of the workspace names the party.
    have hfree : ∀ key p, s₁.pending.get? key = some p →
        p.requester ∉ s₁.party (s.effective id) ∧ p.recipient ∉ s₁.party (s.effective id) := by
      have hguard : ∀ key p, s.pending.get? key = some p → p.workspace = workspace →
          p.requester ∉ s.connectionFamily (s.effective id) ∧
            p.recipient ∉ s.connectionFamily (s.effective id) := by
        intro key p hp hpw
        simp only [Bool.not_eq_true', List.any_eq_false] at hidle
        have := hidle (key, p) ((Table.mem_toList _ _ _).mpr hp)
        simpa [hpw] using this
      have hsame : ∀ i,
          i ∈ s₁.party (s.effective id) ↔ i ∈ s.connectionFamily (s.effective id) := by
        intro i
        rw [mem_connectionFamily, RouterState.party, RouterState.party, hs₁.connections]
        have hof : s₁.delegatesOf = s.delegatesOf := by
          funext ownerId
          rw [RouterState.delegatesOf, RouterState.delegatesOf, hs₁.delegates]
        rw [hof]
      intro key p hp
      have hp₀ : s.pending.get? key = some p := by rw [← hs₁.pending]; exact hp
      have hjoined : ∀ i, p.requester = i ∨ p.recipient = i → i ∈ s₁.party (s.effective id) →
          (∃ k, s₁.card i = some k) → p.workspace = workspace := by
        rintro i hi hmem ⟨k, hk⟩
        have h₂ := h₁.base.party_joined hp hi hk
        rw [h₁.base.registry.party_workspace hcard₁ hmem hk, ConnectionState.card_workspace, hw,
          Option.some.injEq] at h₂
        exact h₂.symm
      constructor
      · intro hmem
        have hk := (hlive.requester key p hp).resolve_left (by simp [Phase.rest])
        exact (hguard key p hp₀ (hjoined _ (.inl rfl) hmem hk)).1 ((hsame _).mp hmem)
      · intro hmem
        have hk := (hlive.recipient key p hp).resolve_left (by simp [Phase.rest])
        exact (hguard key p hp₀ (hjoined _ (.inr rfl) hmem hk)).2 ((hsame _).mp hmem)
    rw [Router.wp_updateConnection]
    refine syncDelegates_spec hc₁ c.leave_agentId fun ds hds => ?_
    unfold Router.removeSubscriptionsForOwner
    rw [Actor.wp_modify]
    have howner : (ds.foldl (fun m d => m.adjust d fun c => { c with workspace := none })
        (s₁.connections.adjust (s.effective id) ConnectionState.leave)).get? (s.effective id) =
        some c.leave := by
      rw [moved_connection _ (h₁.base.registry.owner_not_listed hc₁ hdelegate hds), if_pos rfl, hc₁,
        Option.map_some]
    have hhonest : F → Honest (.rest F) s₁ (s.effective id) c.leave := by
      intro hflight
      obtain ⟨hdesc, hcanceling⟩ := c.leave_fields
      rw [hcancel] at hcanceling
      refine ⟨?_, ?_, by simp [hcanceling], ?_⟩
      · intro key p d hp hid
        exact absurd (hid ▸ List.mem_cons_self) (hfree key p hp).2
      · intro d hd hready
        rw [hdesc] at hd
        obtain ⟨d₀, -, rfl⟩ := Option.map_eq_some_iff.mp hd
        cases hready
      · intro hl d hd hbusy
        rw [hdesc] at hd
        obtain ⟨d₀, hd₀, rfl⟩ := Option.map_eq_some_iff.mp hd
        rw [hcanceling, ← hcancel]
        exact hl.busy hflight _ c d₀ hc₁ hd₀ hbusy
    have hgood := h₁.move none _ hc₁ hdelegate hds c.leave_card (by simp)
      (removeSubscriptions_spec h₁.base.registry hc₁ rfl) hfree hhonest
    simp only [howner, Option.bind_some, ConnectionState.leave_agentId]
    refine Router.send_spec fun _ s₃ hq₃ => ?_
    refine notifyMembership_spec fun s₄ hq₄ => ?_
    exact fanoutAll_handled (hgood.quiet (hq₃.trans hq₄))

theorem workspacePost_spec {requestId content : String} (h : Good (.rest F) s) :
    Handles F X (Router.workspacePost id generation requestId content) s := by
  unfold Handles Router.workspacePost
  simp only [Actor.wp_bind]
  refine guard_ask h (fun _ he => currentWorkspace_error he) fun workspace hw => ?_
  refine guard_ask h (fun _ he => actorId_error he) fun actor hactor => ?_
  obtain ⟨row, hrow⟩ := h.base.workspace_exists hw
  rw [Router.wp_lift, Router.wp_inStore]
  refine Txn.wp_mono (appendChatIdempotent_spec h.base.store.db (h.base.actor_valid hactor) hrow)
    ?_ ?_
  · rintro ⟨event, inserted⟩ t hcases
    have hgood : Good (.rest F) (s.commit t) := by
      rcases hcases with ⟨-, rfl⟩ | ⟨-, hadv, hkind, -⟩
      · have hadv : Advance s.store.tx s.store.tx [] noAttempt := .refl h.base.store.db
        have hs := Stored.commit h.base.store hadv
        exact h.stored hs (fun _ => .none _ s) (by simp)
      · have hs := Stored.commit (s := s) h.base.store hadv
        have hkind : event.kind = .chat := hkind
        exact h.stored hs (fun _ => .none _ s) (by simp [hkind])
    refine Router.send_spec fun _ s₁ hq₁ => ?_
    rw [Actor.wp_ite]
    exact ⟨fun _ => fanout_handled (hgood.quiet hq₁), fun _ => hgood.quiet hq₁⟩
  · exact fun e he => .of_exhausted h fun hcode => .inl (he hcode)

theorem workspaceHistory_spec {requestId : String} {after limit : Option ℕ}
    (h : Good (.rest F) s) :
    Handles F X (Router.workspaceHistory id generation requestId after limit) s := by
  unfold Handles Router.workspaceHistory
  simp only [Actor.wp_bind, Actor.wp_pure]
  refine guard_ask h (fun _ he => currentWorkspace_error he) fun workspace hw => ?_
  obtain ⟨row, hrow⟩ := h.base.workspace_exists hw
  refine guard_orFail h (by simp) ?_
  rintro ⟨cursor, size⟩ -
  rw [Actor.wp_read]
  refine guard_requireThat h (by simp) fun hafter => ?_
  have hlatest : latestSeq s.db workspace = some (row.nextSeq - 1) := by simp [latestSeq, hrow]
  rw [Router.wp_lift]
  have hpage : ∃ page, (if after.isNone then recentHistory s.db workspace size
      else SessionRouter.history s.db workspace cursor size) = .ok page := by
    cases hrecent : after.isNone with
    | true => exact recentHistory_spec hlatest
    | false =>
      refine history_spec hlatest ?_
      simpa [hrecent, hlatest] using hafter
  obtain ⟨page, hpage⟩ := hpage
  refine Router.wp_query hpage ?_
  rw [Router.wp_ask]
  refine ⟨fun _ _ => ?_, fun e he => .of_good h (boundHistoryPage_error he)⟩
  exact Router.send_spec fun _ _ hq => h.quiet hq

/-- Subscribing changes nothing else about a connection. -/
theorem subscribed_honest (h : Good (.rest F) s) (hflight : F) {c : ConnectionState}
    (hc : s.connections.get? id = some c) (subscribed : Bool) :
    Honest (.rest F) s id { c with subscribed } := by
  have ht := h.base.truthful hflight
  exact .of_same ht hflight hc (fun d hd => ⟨d, hd, rfl⟩) (fun d hd => ⟨d, hd⟩) rfl rfl
    fun d hd => ht.ready id c d hc hd

/-- Subscriptions change; a subscriber is in the workspace and no delegate. -/
theorem Good.resubscribe (h : Good (.rest F) s) {subscribers : Table WorkspaceName (List Uuid)}
    {subscribed : Bool} (hsubscribers : ∀ w i, i ∈ (subscribers.get? w).getD [] →
      ∃ c, s.card i = some c ∧ c.isDelegate = false ∧ c.workspace = some w) :
    Good (.rest F) { s with
      subscribers
      connections := s.connections.adjust id fun c => { c with subscribed } } := by
  have hcard : ∀ i, ({ s with
      subscribers
      connections := s.connections.adjust id fun c => { c with subscribed } } :
        RouterState).card i = s.card i := by
    refine fun i => card_adjust (fun c _ => ?_) i
    cases hr : c.role with
    | none => simp [ConnectionState.card, ConnectionState.mapDescriptor, hr]
    | some role => cases role <;> simp [ConnectionState.card, ConnectionState.mapDescriptor, hr]
  refine h.reconnect ?_ rfl rfl rfl (fun _ _ _ => ⟨hcard _, hcard _⟩) ?_
  · obtain ⟨h1, h2, h3, h4, h5, h6, h7, -, h9, h10⟩ := h.base.registry
    refine ⟨?_, (Table.size_adjust _ _ _).le.trans h2, ?_, ?_, ?_, ?_, ?_, ?_, ?_, ?_⟩ <;>
      simp only [hcard]
    · exact h1
    · exact h3
    · exact h4
    · exact h5
    · exact h6
    · exact h7
    · exact hsubscribers
    · exact h9
    · exact h10
  · intro hflight i c' hc'
    change (s.connections.adjust id fun c => { c with subscribed }).get? i = some c' at hc'
    rw [Table.get?_adjust] at hc'
    split at hc'
    · next hi =>
      subst hi
      obtain ⟨c, hc, rfl⟩ := Option.map_eq_some_iff.mp hc'
      exact .inr (subscribed_honest h hflight hc subscribed)
    · exact .inl hc'

theorem subscribe_spec {workspace : WorkspaceName} {Q : Unit → RouterState → Prop}
    {E : ActorError → RouterState → Prop} (h : Good (.rest F) s)
    (hw : s.currentWorkspace id = .ok workspace)
    (hdelegate : (s.connections.get? id).any ConnectionState.isDelegate = false)
    (hQ : ∀ s', Good (.rest F) s' → Q () s') : Actor.wp (Router.subscribe id workspace) Q E s := by
  unfold Router.subscribe
  rw [Actor.wp_modify]
  refine hQ _ (h.resubscribe fun w i hi => ?_)
  rw [Table.get?_put] at hi
  split at hi
  · next heq =>
    subst heq
    rw [Option.getD_some, List.mem_insert_iff] at hi
    rcases hi with rfl | hi
    · obtain ⟨c, hc, hcw⟩ := currentWorkspace_ok hw
      cases hi : s.connections.get? i with
      | none =>
        rw [RouterState.effective, RouterState.effectivePrimary, hi] at hc
        simp [hi] at hc
      | some k =>
        have hk : k.isDelegate = false := by simpa [hi] using hdelegate
        rw [effective_self hi hk, hi, Option.some.injEq] at hc
        subst hc
        exact ⟨k.card, RouterState.card_eq hi, by simpa using hk, by simpa using hcw⟩
    · exact h.base.registry.subscribers w i hi
  · exact h.base.registry.subscribers w i hi

theorem workspaceSubscribe_spec {requestId : String} {after : ℕ} (h : Good (.rest F) s) :
    Handles F X (Router.workspaceSubscribe id generation requestId after) s := by
  unfold Handles Router.workspaceSubscribe
  simp only [Actor.wp_bind]
  refine guard_ask h (fun _ he => currentWorkspace_error he) fun workspace hw => ?_
  obtain ⟨row, hrow⟩ := h.base.workspace_exists hw
  simp only [Actor.wp_read]
  refine guard_requireThat h (by simp) fun hdelegate => ?_
  refine guard_requireThat h (by simp) fun hafter => ?_
  have hlatest : latestSeq s.db workspace = some (row.nextSeq - 1) := by simp [latestSeq, hrow]
  obtain ⟨page, hpage⟩ := history_spec hlatest
    (by simpa [hlatest] using hafter)
  rw [Router.wp_lift]
  refine Router.wp_query hpage ?_
  rw [Router.wp_ask]
  refine ⟨?_, fun e he => .of_good h (boundHistoryPage_error he)⟩
  rintro ⟨events, nextCursor, hasMore⟩ -
  rw [Actor.wp_ite]
  refine ⟨fun _ => ?_, fun _ => ?_⟩
  · simp only [Actor.wp_bind, Actor.wp_pure]
    exact Router.send_spec fun _ _ hq => h.quiet hq
  · simp only [Actor.wp_bind]
    refine subscribe_spec h hw (by simpa using hdelegate) fun s₁ h₁ => ?_
    exact Router.send_spec fun _ _ hq => h₁.quiet hq

theorem workspaceUnsubscribe_spec {requestId : String} (h : Good (.rest F) s) :
    Handles F X (Router.workspaceUnsubscribe id generation requestId) s := by
  unfold Handles Router.workspaceUnsubscribe
  simp only [Actor.wp_bind, Actor.wp_pure]
  refine guard_ask h (fun _ he => currentWorkspace_error he) fun workspace hw => ?_
  rw [Actor.wp_modify]
  refine Router.send_spec fun _ s₁ hq₁ => Good.quiet ?_ hq₁
  refine h.resubscribe fun w i hi => h.base.registry.subscribers w i ?_
  rw [Table.get?_adjust] at hi
  split at hi
  · next heq =>
    subst heq
    unfold RouterState.subscribersOf
    cases hget : s.subscribers.get? w with
    | none => simp [hget] at hi
    | some ids =>
      rw [hget] at hi
      have hi : i ∈ ids ∧ ¬ i = id := by simpa using hi
      exact hi.1
  · exact hi

end membership

end SessionRouter
