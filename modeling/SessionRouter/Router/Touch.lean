import SessionRouter.Router.DeliverySpec

/-!
Changes of connections in place: a connection that keeps its card, one that registers, and an owner
that takes its delegates to another workspace.
-/

namespace SessionRouter

variable {s s' : RouterState} {g : Phase}

/-- The connection `c` is truthful under the identity `id`. -/
structure Honest (g : Phase) (s : RouterState) (id : Uuid) (c : ConnectionState) : Prop where
  working : ∀ key p d, s.pending.get? key = some p → p.recipient = id → c.descriptor? = some d →
    d.status = .busy ∧ c.canceling = none
  ready : ∀ d, c.descriptor? = some d → d.ready = true → d.status = .idle ∧ c.canceling = none ∧
    c.workspace.isSome = true ∧ ¬ Barrier s.db d.agentId
  canceling : c.canceling.isSome = true →
    ∃ d, c.descriptor? = some d ∧ d.status = .busy ∧ c.workspace.isSome = true
  busy : Live g s → ∀ d, c.descriptor? = some d → d.status = .busy →
    c.canceling.isSome = true ∨ ∃ key p, s.pending.get? key = some p ∧ p.recipient = id

/-- A connection without a descriptor has nothing to be untruthful about. -/
theorem Honest.of_none {id : Uuid} {c : ConnectionState} (hdesc : c.descriptor? = none)
    (hcancel : c.canceling = none) : Honest g s id c := by
  constructor <;> simp [hdesc, hcancel]

theorem Truthful.reconnect (h : Truthful s) (hdb : s'.db = s.db) (hpending : s'.pending = s.pending)
    (hconn : ∀ id c, s'.connections.get? id = some c →
      s.connections.get? id = some c ∨ Honest g s id c) : Truthful s' where
  single := by
    rw [hpending]
    exact h.single
  working := by
    rw [hpending]
    intro key p c d hp hc hd
    rcases hconn p.recipient c hc with hold | hnew
    · exact h.working key p c d hp hold hd
    · exact hnew.working key p d hp rfl hd
  ready := by
    rw [hdb]
    intro id c d hc hd hready
    rcases hconn id c hc with hold | hnew
    · exact h.ready id c d hold hd hready
    · exact hnew.ready d hd hready
  canceling := by
    intro id c hc hcancel
    rcases hconn id c hc with hold | hnew
    · exact h.canceling id c hold hcancel
    · exact hnew.canceling hcancel

section

variable [World]

/-- Connections may change as long as the parties of requests keep their cards and the routing
tables stay in order. -/
theorem Good.reconnect (h : Good g s) (hreg : Registry g s') (hstore : s'.store = s.store)
    (hpending : s'.pending = s.pending) (hshut : s'.shuttingDown = s.shuttingDown)
    (hparties : ∀ key p, s.pending.get? key = some p →
      s'.card p.requester = s.card p.requester ∧ s'.card p.recipient = s.card p.recipient)
    (hconn : g.flight → ∀ id c, s'.connections.get? id = some c →
      s.connections.get? id = some c ∨ Honest g s id c) : Good g s' := by
  have hdb : s'.db = s.db := congrArg RouterStore.db hstore
  refine ⟨⟨hstore ▸ h.base.store, hreg, ?_, ?_⟩, ?_⟩
  · obtain ⟨h1, h2, h3, h4, h5, h6, h7, h8⟩ := h.base.requests
    refine ⟨?_, ?_, ?_, ?_, ?_, ?_, ?_, ?_⟩ <;> simp only [hpending, hdb]
    · exact h1
    · exact h2
    · exact h3
    · intro key p c hp hc
      rw [(hparties key p hp).1] at hc
      exact h4 key p c hp hc
    · intro key p c hp hc
      rw [(hparties key p hp).2] at hc
      exact h5 key p c hp hc
    · exact h6
    · exact h7
    · exact h8
  · exact fun hflight => (h.base.truthful hflight).reconnect hdb hpending (hconn hflight)
  · rcases h.live with hstuck | hl
    · refine .inl ⟨?_, hshut.trans hstuck.2⟩
      rw [hdb]
      exact hstuck.1
    · refine .inr ⟨?_, ?_, ?_, ?_, ?_, ?_, ?_⟩ <;> simp only [hpending, hdb]
      · intro key p hp
        rw [(hparties key p hp).1]
        exact hl.requester key p hp
      · intro key p hp
        rw [(hparties key p hp).2]
        exact hl.recipient key p hp
      · exact hl.waiting
      · intro id a ha hrun
        obtain ⟨p, c, hp, hid, hc, hruns⟩ := hl.running id a ha hrun
        exact ⟨p, c, hp, hid, (hparties _ p hp).2.trans hc, hruns⟩
      · exact hl.stopped
      · intro hflight id c d hc hd hbusy
        rcases hconn hflight id c hc with hold | hnew
        · exact hl.busy hflight id c d hold hd hbusy
        · exact hnew.busy hl d hd hbusy
      · exact hl.confirmed

/-- A connection that keeps its card changes in place. -/
theorem Good.touch (h : Good g s) {id : Uuid} {f : ConnectionState → ConnectionState}
    (hcard : ∀ c, s.connections.get? id = some c → (f c).card = c.card)
    (hhonest : g.flight → ∀ c, s.connections.get? id = some c → Honest g s id (f c)) :
    Good g { s with connections := s.connections.adjust id f } := by
  refine h.reconnect ?_ rfl rfl rfl ?_ ?_
  · exact h.base.registry.of_cards le_rfl (card_adjust hcard) (Table.size_adjust _ _ _) rfl rfl rfl
      fun w row hrow => ⟨row, hrow⟩
  · exact fun key p _ => ⟨card_adjust hcard _, card_adjust hcard _⟩
  · intro hflight i c' hc'
    change (s.connections.adjust id f).get? i = some c' at hc'
    rw [Table.get?_adjust] at hc'
    split at hc'
    · next hi =>
      subst hi
      obtain ⟨c, hc, rfl⟩ := Option.map_eq_some_iff.mp hc'
      exact .inr (hhonest hflight c hc)
    · exact .inl hc'

/-- A registered connection is in a workspace only when its credential grants it, so one that is
not registered takes no part in requests. -/
theorem Registry.unregistered (h : Registry g s) {id : Uuid} {c : ConnectionState}
    (hc : s.card id = some c) (hrole : c.role = none) : c.workspace = none := by
  cases hw : c.workspace with
  | none => rfl
  | some w =>
    have := (h.joined id c w hc hw).1
    simp [ConnectionState.granted, hrole] at this

theorem Base.party_joined (h : Base g s) {key : WorkspaceName × String} {p : PendingRequest}
    (hp : s.pending.get? key = some p) {id : Uuid} {c : ConnectionState}
    (hid : p.requester = id ∨ p.recipient = id) (hc : s.card id = some c) :
    c.workspace = some p.workspace := by
  rcases hid with rfl | rfl
  · exact (h.requests.source key p c hp hc).2
  · exact (h.requests.target key p c hp hc).2.1

/-- A connection that is in no workspace is no party of a request. -/
theorem Base.no_party (h : Base g s) {id : Uuid} {c : ConnectionState} (hc : s.card id = some c)
    (hw : c.workspace = none) {key : WorkspaceName × String} {p : PendingRequest}
    (hp : s.pending.get? key = some p) : p.requester ≠ id ∧ p.recipient ≠ id := by
  constructor
  · intro hid
    have := h.party_joined hp (.inl hid) hc
    rw [hw] at this
    cases this
  · intro hid
    have := h.party_joined hp (.inr hid) hc
    rw [hw] at this
    cases this

/-- A connection registers: what its new card `k` and the changed tables have to satisfy. -/
structure Registers (s s' : RouterState) (id : Uuid) (k : ConnectionState) : Prop where
  card : s'.card id = some k
  others : ∀ i, i ≠ id → s'.card i = s.card i
  size : s'.connections.size = s.connections.size
  subscribers : s'.subscribers = s.subscribers
  primary : ∀ agentId, k.agentId? = some agentId → s'.primaries.get? agentId = some id
  primaries : ∀ agentId i, s.primaries.get? agentId = some i → s'.primaries.get? agentId = some i
  fresh : ∀ agentId i, s'.primaries.get? agentId = some i →
    s.primaries.get? agentId = some i ∨ (i = id ∧ k.agentId? = some agentId)
  owner : ∀ ownerId, k.role = some (.delegate ownerId) → id ∈ s'.delegatesOf ownerId ∧
    ∃ owner p, s.primaries.get? ownerId = some owner ∧ s.card owner = some p ∧
      p.agentId? = some ownerId ∧ k.workspace = p.workspace
  delegates : ∀ ownerId i, i ∈ s.delegatesOf ownerId → i ∈ s'.delegatesOf ownerId
  listed : ∀ ownerId i, i ∈ s'.delegatesOf ownerId →
    i ∈ s.delegatesOf ownerId ∨ (i = id ∧ k.role = some (.delegate ownerId))
  joined : ∀ w, k.workspace = some w → k.granted w ∧ ∃ row, s.db.workspaces.get? w = some row
  actor : k.actorsValid

theorem Registry.register {F : Prop} (h : Registry (.rest F) s) {id : Uuid}
    {c k : ConnectionState} (hc : s.card id = some c) (hrole : c.role = none)
    (hreg : Registers s s' id k) (hstore : s'.store = s.store) : Registry (.rest F) s' := by
  have hdb : s'.db = s.db := congrArg RouterStore.db hstore
  have hother : ∀ i c', s.card i = some c' → c'.role ≠ none → s'.card i = some c' := by
    intro i c' hi hne
    rw [hreg.others i, hi]
    rintro rfl
    rw [hc, Option.some.injEq] at hi
    exact hne (hi ▸ hrole)
  have hcases : ∀ i c', s'.card i = some c' → (i = id ∧ c' = k) ∨ s.card i = some c' := by
    intro i c' hi
    by_cases hid : i = id
    · subst hid
      rw [hreg.card, Option.some.injEq] at hi
      exact .inl ⟨rfl, hi.symm⟩
    · exact .inr ((hreg.others i hid).symm.trans hi)
  have hagentRole : ∀ {c' : ConnectionState} {agentId : String}, c'.agentId? = some agentId →
      c'.role ≠ none := by
    intro c' agentId hagent hnone
    simp [ConnectionState.agentId?, ConnectionState.descriptor?, hnone] at hagent
  constructor
  · intro i c' hi
    have htick : s'.tick = s.tick := congrArg RouterStore.tick hstore
    rw [htick]
    rcases hcases i c' hi with ⟨rfl, -⟩ | hi
    · exact h.drawn i c hc
    · exact h.drawn i c' hi
  · rw [hreg.size]
    exact h.size
  · intro i c' agentId hi hagent
    rcases hcases i c' hi with ⟨rfl, rfl⟩ | hi
    · exact hreg.primary agentId hagent
    · exact hreg.primaries agentId i (h.agents i c' agentId hi hagent)
  · intro agentId i hi
    rcases hreg.fresh agentId i hi with hi | ⟨rfl, hagent⟩
    · obtain ⟨c', hc', hagent⟩ := (h.primaries agentId i hi).resolve_left (by simp [Phase.rest])
      exact .inr ⟨c', hother i c' hc' (hagentRole hagent), hagent⟩
    · exact .inr ⟨k, hreg.card, hagent⟩
  · simp [Phase.rest]
  · intro i c' ownerId hi hdelegate
    rcases hcases i c' hi with ⟨rfl, rfl⟩ | hi
    · obtain ⟨hmem, owner, p, howner, hp, hagent, hw⟩ := hreg.owner ownerId hdelegate
      exact ⟨hmem, owner, p, hreg.primaries ownerId owner howner,
        hother owner p hp (hagentRole hagent), hagent, hw⟩
    · obtain ⟨hmem, owner, p, howner, hp, hagent, hw⟩ := h.delegates i c' ownerId hi hdelegate
      exact ⟨hreg.delegates ownerId i hmem, owner, p, hreg.primaries ownerId owner howner,
        hother owner p hp (hagentRole hagent), hagent, hw⟩
  · intro ownerId i hi
    rcases hreg.listed ownerId i hi with hi | ⟨rfl, hdelegate⟩
    · obtain ⟨c', hc', hdelegate⟩ := (h.listed ownerId i hi).resolve_left (by simp [Phase.rest])
      exact .inr ⟨c', hother i c' hc' (by simp [hdelegate]), hdelegate⟩
    · exact .inr ⟨k, hreg.card, hdelegate⟩
  · intro w i hi
    have hi : i ∈ s.subscribersOf w := by
      simpa only [RouterState.subscribersOf, hreg.subscribers] using hi
    obtain ⟨c', hc', hdelegate, hw⟩ := h.subscribers w i hi
    refine ⟨c', hother i c' hc' fun hnone => ?_, hdelegate, hw⟩
    rw [h.unregistered hc' hnone] at hw
    cases hw
  · rw [hdb]
    intro i c' w hi hw
    rcases hcases i c' hi with ⟨rfl, rfl⟩ | hi
    · exact hreg.joined w hw
    · exact h.joined i c' w hi hw
  · intro i c' hi
    rcases hcases i c' hi with ⟨rfl, rfl⟩ | hi
    · exact hreg.actor
    · exact h.actors i c' hi

/-- A registration keeps the invariant when the new connection is truthful. -/
theorem Good.register {F : Prop} (h : Good (.rest F) s) {id : Uuid} {c : ConnectionState}
    {k : ConnectionState} {f : ConnectionState → ConnectionState}
    (hc : s.connections.get? id = some c) (hrole : c.role = none) (hreg : Registers s s' id k)
    (hconnections : s'.connections = s.connections.adjust id f) (hstore : s'.store = s.store)
    (hpending : s'.pending = s.pending) (hshut : s'.shuttingDown = s.shuttingDown)
    (hhonest : F → c.canceling = none → Honest (.rest F) s id (f c)) : Good (.rest F) s' := by
  have hcard := RouterState.card_eq hc
  have hcardRole : c.card.role = none := by
    simp [ConnectionState.card, ConnectionState.mapDescriptor, hrole]
  have hw := h.base.registry.unregistered hcard hcardRole
  refine h.reconnect (h.base.registry.register hcard hcardRole hreg hstore) hstore hpending hshut
    ?_ ?_
  · intro key p hp
    obtain ⟨h₁, h₂⟩ := h.base.no_party hcard hw hp
    exact ⟨hreg.others _ h₁, hreg.others _ h₂⟩
  · intro hflight i c' hc'
    rw [hconnections, Table.get?_adjust] at hc'
    split at hc'
    · next hi =>
      subst hi
      rw [hc, Option.map_some, Option.some.injEq] at hc'
      subst hc'
      refine .inr (hhonest hflight ?_)
      by_contra hcancel
      obtain ⟨d, hd, -⟩ := (h.base.truthful hflight).canceling i c hc
        (Option.isSome_iff_ne_none.mpr hcancel)
      simp [ConnectionState.descriptor?, hrole] at hd
    · exact .inl hc'

/-- A family of connections goes to the workspace `w'` together. -/
structure Moves (s s' : RouterState) (family : List Uuid) (w' : Option WorkspaceName) : Prop where
  store : s'.store = s.store
  cards : ∀ i, s'.card i =
    if i ∈ family then (s.card i).map fun c => { c with workspace := w' } else s.card i
  size : s'.connections.size = s.connections.size
  primaries : s'.primaries = s.primaries
  delegates : s'.delegates = s.delegates
  subscribers : ∀ w i, i ∈ s'.subscribersOf w ↔ i ∈ s.subscribersOf w ∧ i ∉ family
  pending : s'.pending = s.pending
  shutting : s'.shuttingDown = s.shuttingDown

omit [World] in
theorem Moves.card {family : List Uuid} {w' : Option WorkspaceName} (h : Moves s s' family w')
    {i : Uuid} {c' : ConnectionState} (hc' : s'.card i = some c') :
    ∃ c, s.card i = some c ∧ ((i ∈ family ∧ c' = { c with workspace := w' }) ∨
      (i ∉ family ∧ c' = c)) := by
  rw [h.cards] at hc'
  split at hc'
  · next hi =>
    obtain ⟨c, hc, rfl⟩ := Option.map_eq_some_iff.mp hc'
    exact ⟨c, hc, .inl ⟨hi, rfl⟩⟩
  · next hi => exact ⟨c', hc', .inr ⟨hi, rfl⟩⟩

theorem Registry.move {F : Prop} (h : Registry (.rest F) s) {family : List Uuid}
    {w' : Option WorkspaceName} (hm : Moves s s' family w')
    (hclosed : ∀ i c ownerId owner, s.card i = some c → c.role = some (.delegate ownerId) →
      s.primaries.get? ownerId = some owner → (i ∈ family ↔ owner ∈ family))
    (hgranted : ∀ i c w, i ∈ family → s.card i = some c → w' = some w → c.granted w ∧
      ∃ row, s.db.workspaces.get? w = some row) : Registry (.rest F) s' := by
  have hdb : s'.db = s.db := congrArg RouterStore.db hm.store
  have htick : s'.tick = s.tick := congrArg RouterStore.tick hm.store
  have hlist : ∀ ownerId, s'.delegatesOf ownerId = s.delegatesOf ownerId := by
    intro ownerId
    simp only [RouterState.delegatesOf, hm.delegates]
  -- A card changes its workspace at most.
  have hcard : ∀ i c, s.card i = some c → ∃ c', s'.card i = some c' ∧ c'.role = c.role ∧
      (i ∉ family → c' = c) ∧ (i ∈ family → c'.workspace = w') := by
    intro i c hc
    rw [hm.cards, hc]
    by_cases hi : i ∈ family
    · exact ⟨{ c with workspace := w' }, by simp [hi], rfl, fun hn => absurd hi hn, fun _ => rfl⟩
    · exact ⟨c, by simp [hi], rfl, fun _ => rfl, fun hn => absurd hn hi⟩
  have hagent : ∀ {c c' : ConnectionState}, c'.role = c.role → c'.agentId? = c.agentId? := by
    intro c c' hrole
    simp only [ConnectionState.agentId?, ConnectionState.descriptor?, hrole]
  have hrole' : ∀ {i : Uuid} {c' : ConnectionState}, s'.card i = some c' →
      ∃ c, s.card i = some c ∧ c'.role = c.role := by
    intro i c' hc'
    obtain ⟨c, hc, ⟨-, rfl⟩ | ⟨-, rfl⟩⟩ := hm.card hc'
    · exact ⟨c, hc, rfl⟩
    · exact ⟨c', hc, rfl⟩
  constructor
  · intro i c' hc'
    obtain ⟨c, hc, -⟩ := hrole' hc'
    rw [htick]
    exact h.drawn i c hc
  · rw [hm.size]
    exact h.size
  · intro i c' agentId hc' ha
    obtain ⟨c, hc, hrole⟩ := hrole' hc'
    rw [hm.primaries]
    exact h.agents i c agentId hc ((hagent hrole).symm.trans ha)
  · intro agentId i hi
    rw [hm.primaries] at hi
    obtain ⟨c, hc, ha⟩ := (h.primaries agentId i hi).resolve_left (by simp [Phase.rest])
    obtain ⟨c', hc', hrole, -⟩ := hcard i c hc
    exact .inr ⟨c', hc', (hagent hrole).trans ha⟩
  · simp [Phase.rest]
  · intro i c' ownerId hc' hdelegate
    obtain ⟨c, hc, hcases⟩ := hm.card hc'
    have hrole : c.role = some (.delegate ownerId) := by
      rcases hcases with ⟨-, rfl⟩ | ⟨-, rfl⟩
      · exact hdelegate
      · exact hdelegate
    obtain ⟨hmem, owner, p, howner, hp, ha, hw⟩ := h.delegates i c ownerId hc hrole
    obtain ⟨p', hp', hprole, hkeep, hmoved⟩ := hcard owner p hp
    rw [hlist, hm.primaries]
    refine ⟨hmem, owner, p', howner, hp', (hagent hprole).trans ha, ?_⟩
    have hiff := hclosed i c ownerId owner hc hrole howner
    rcases hcases with ⟨hi, rfl⟩ | ⟨hi, rfl⟩
    · exact (hmoved (hiff.mp hi)).symm
    · rw [hkeep fun hn => hi (hiff.mpr hn)]
      exact hw
  · intro ownerId i hi
    rw [hlist] at hi
    obtain ⟨c, hc, hrole⟩ := (h.listed ownerId i hi).resolve_left (by simp [Phase.rest])
    obtain ⟨c', hc', hrole', -⟩ := hcard i c hc
    exact .inr ⟨c', hc', hrole'.trans hrole⟩
  · intro w i hi
    obtain ⟨hi, hout⟩ := (hm.subscribers w i).mp hi
    obtain ⟨c, hc, hrest⟩ := h.subscribers w i hi
    exact ⟨c, by rw [hm.cards, if_neg hout, hc], hrest⟩
  · rw [hdb]
    intro i c' w hc' hw
    obtain ⟨c, hc, ⟨hi, rfl⟩ | ⟨-, rfl⟩⟩ := hm.card hc'
    · exact hgranted i c w hi hc hw
    · exact h.joined i c' w hc hw
  · intro i c' hc'
    obtain ⟨c, hc, hrole⟩ := hrole' hc'
    have := h.actors i c hc
    simpa only [ConnectionState.actorsValid, hrole] using this

/-- The connections that share the workspace of an owner: itself and its delegates. -/
def RouterState.party (s : RouterState) (owner : Uuid) : List Uuid :=
  owner :: (((s.connections.get? owner).bind ConnectionState.agentId?).map s.delegatesOf).getD []

omit [World] in
theorem RouterState.mem_party {owner i : Uuid} : i ∈ s.party owner ↔ i = owner ∨
    ∃ c agentId, s.card owner = some c ∧ c.agentId? = some agentId ∧ i ∈ s.delegatesOf agentId := by
  simp only [RouterState.party, List.mem_cons, RouterState.card]
  cases hc : s.connections.get? owner with
  | none => simp
  | some c =>
    cases ha : c.agentId? with
    | none => simp [ha]
    | some agentId => simp [ha]

/-- The party of a connection that is no delegate is closed under the owner relation. -/
theorem Registry.party_closed {F : Prop} (h : Registry (.rest F) s) {owner : Uuid}
    {c : ConnectionState} (hc : s.card owner = some c) (hdelegate : c.isDelegate = false) {i : Uuid}
    {k : ConnectionState} {ownerId : String} {primary : Uuid} (hk : s.card i = some k)
    (hrole : k.role = some (.delegate ownerId))
    (hprimary : s.primaries.get? ownerId = some primary) :
    i ∈ s.party owner ↔ primary ∈ s.party owner := by
  obtain ⟨hmem, primary', p, hprimary', hp, ha, -⟩ := h.delegates i k ownerId hk hrole
  rw [hprimary, Option.some.injEq] at hprimary'
  subst hprimary'
  rw [RouterState.mem_party, RouterState.mem_party]
  constructor
  · rintro (rfl | ⟨c', agentId, hc', hagent, hi⟩)
    · rw [hc, Option.some.injEq] at hk
      subst hk
      simp [ConnectionState.isDelegate, hrole] at hdelegate
    · obtain ⟨k', hk', hrole'⟩ := (h.listed agentId i hi).resolve_left (by simp [Phase.rest])
      rw [hk, Option.some.injEq] at hk'
      subst hk'
      rw [hrole, Option.some.injEq, ConnectionRole.delegate.injEq] at hrole'
      subst hrole'
      have := h.agents owner c' ownerId hc' hagent
      rw [hprimary, Option.some.injEq] at this
      exact .inl this
  · rintro (rfl | ⟨c', agentId, hc', hagent, hi⟩)
    · exact .inr ⟨p, ownerId, hp, ha, hmem⟩
    · obtain ⟨k', hk', hrole'⟩ := (h.listed agentId primary hi).resolve_left (by simp [Phase.rest])
      rw [hp, Option.some.injEq] at hk'
      subst hk'
      simp [ConnectionState.agentId?, ConnectionState.descriptor?, hrole'] at ha

/-- A party shares one workspace. -/
theorem Registry.party_workspace {F : Prop} (h : Registry (.rest F) s) {owner : Uuid}
    {c : ConnectionState} (hc : s.card owner = some c) {i : Uuid} (hi : i ∈ s.party owner)
    {k : ConnectionState} (hk : s.card i = some k) : k.workspace = c.workspace := by
  rcases RouterState.mem_party.mp hi with rfl | ⟨c', agentId, hc', hagent, hlisted⟩
  · rw [hc, Option.some.injEq] at hk
    rw [hk]
  · rw [hc, Option.some.injEq] at hc'
    subst hc'
    obtain ⟨k', hk', hrole⟩ := (h.listed agentId i hlisted).resolve_left (by simp [Phase.rest])
    rw [hk, Option.some.injEq] at hk'
    subst hk'
    obtain ⟨-, primary, p, hprimary, hp, -, hw⟩ := h.delegates i k agentId hk hrole
    rw [h.agents owner c agentId hc hagent, Option.some.injEq] at hprimary
    subst hprimary
    rw [hc, Option.some.injEq] at hp
    rw [hw, hp]

/-- The rest of a party are delegates. -/
theorem Registry.party_delegates {F : Prop} (h : Registry (.rest F) s) {owner : Uuid}
    {c : ConnectionState} {ds : List Uuid} (hc : s.connections.get? owner = some c)
    (hds : s.party owner = owner :: ds) {i : Uuid} (hi : i ∈ ds) :
    ∃ k ownerId, s.card i = some k ∧ k.role = some (.delegate ownerId) := by
  unfold RouterState.party at hds
  obtain ⟨-, htail⟩ := List.cons.inj hds
  rw [hc, Option.bind_some] at htail
  rw [← htail] at hi
  cases ha : c.agentId? with
  | none => simp [ha] at hi
  | some agentId =>
    simp only [ha, Option.map_some, Option.getD_some] at hi
    obtain ⟨k, hk, hrole⟩ := (h.listed agentId i hi).resolve_left (by simp [Phase.rest])
    exact ⟨k, agentId, hk, hrole⟩

theorem Registry.owner_not_listed {F : Prop} (h : Registry (.rest F) s) {owner : Uuid}
    {c : ConnectionState} {ds : List Uuid} (hc : s.connections.get? owner = some c)
    (hdelegate : c.isDelegate = false) (hds : s.party owner = owner :: ds) : owner ∉ ds := by
  intro hin
  obtain ⟨k, ownerId, hk, hrole⟩ := h.party_delegates hc hds hin
  rw [RouterState.card_eq hc, Option.some.injEq] at hk
  subst hk
  rw [ConnectionState.card_delegate] at hrole
  simp [ConnectionState.isDelegate, hrole] at hdelegate

omit [World] in
/-- The connections after an owner moved, and its delegates with it. -/
theorem moved_connection {owner : Uuid} {ds : List Uuid} {f : ConnectionState → ConnectionState}
    (w' : Option WorkspaceName) (howner : owner ∉ ds) (i : Uuid) :
    (ds.foldl (fun m d => m.adjust d fun c => { c with workspace := w' })
      (s.connections.adjust owner f)).get? i =
    if i = owner then (s.connections.get? i).map f
    else if i ∈ ds then (s.connections.get? i).map fun c => { c with workspace := w' }
    else s.connections.get? i := by
  rw [Table.get?_foldl_adjust (f := fun c : ConnectionState => { c with workspace := w' })
    (fun _ => rfl), Table.get?_adjust]
  by_cases hi : i = owner
  · subst hi
    simp [howner]
  · simp [hi]

/-- An owner and its delegates change their workspace. -/
theorem Good.move {F : Prop} (h : Good (.rest F) s) {owner : Uuid} {c : ConnectionState}
    {f : ConnectionState → ConnectionState} {ds : List Uuid} (w' : Option WorkspaceName)
    (subscribers : Table WorkspaceName (List Uuid))
    (hc : s.connections.get? owner = some c) (hdelegate : c.isDelegate = false)
    (hds : s.party owner = owner :: ds) (hcard : (f c).card = { c.card with workspace := w' })
    (hgranted : ∀ w, w' = some w → c.granted w ∧ ∃ row, s.db.workspaces.get? w = some row)
    (hsubscribers : ∀ w i, i ∈ (subscribers.get? w).getD [] ↔
      i ∈ s.subscribersOf w ∧ i ∉ s.party owner)
    (hfree : ∀ key p, s.pending.get? key = some p →
      p.requester ∉ s.party owner ∧ p.recipient ∉ s.party owner)
    (hhonest : F → Honest (.rest F) s owner (f c)) :
    Good (.rest F) { s with
      connections := ds.foldl (fun m d => m.adjust d fun c => { c with workspace := w' })
        (s.connections.adjust owner f)
      subscribers } := by
  have hreg := h.base.registry
  have hcc := RouterState.card_eq hc
  have hdc : c.card.isDelegate = false := by rw [ConnectionState.card_isDelegate, hdelegate]
  have hmem : ∀ i, i ∈ ds → ∃ k ownerId, s.card i = some k ∧ k.role = some (.delegate ownerId) :=
    fun i hi => hreg.party_delegates hc hds hi
  have howner := hreg.owner_not_listed hc hdelegate hds
  have hget := moved_connection (s := s) (f := f) w' howner
  have hdelegateCard : ∀ i k, s.connections.get? i = some k → i ∈ ds →
      ({ k with workspace := w' } : ConnectionState).card = { k.card with workspace := w' } ∧
        k.descriptor? = none := by
    intro i k hk hi
    obtain ⟨k', ownerId, hk', hrole⟩ := hmem i hi
    rw [RouterState.card_eq hk, Option.some.injEq] at hk'
    subst hk'
    have hrole := (k.card_delegate ownerId).mp hrole
    simp [ConnectionState.card, ConnectionState.mapDescriptor, ConnectionState.descriptor?, hrole]
  have hm : Moves s { s with
      connections := ds.foldl (fun m d => m.adjust d fun c => { c with workspace := w' })
        (s.connections.adjust owner f)
      subscribers } (s.party owner) w' := by
    refine ⟨rfl, fun i => ?_, ?_, rfl, rfl, hsubscribers, rfl, rfl⟩
    · simp only [RouterState.card, hget, hds, List.mem_cons]
      by_cases hi : i = owner
      · subst hi
        simp [hc, hcard]
      · by_cases hin : i ∈ ds
        · simp only [hi, hin, or_true, if_true, if_false]
          cases hk : s.connections.get? i with
          | none => rfl
          | some k => simp [(hdelegateCard i k hk hin).1]
        · simp [hi, hin]
    · exact (Table.size_foldl_adjust _ _ _).trans (Table.size_adjust _ _ _)
  refine h.reconnect (hreg.move hm ?_ ?_) rfl rfl rfl ?_ ?_
  · exact fun i k ownerId primary hk hrole hprimary =>
      hreg.party_closed hcc hdc hk hrole hprimary
  · intro i k w hi hk hw
    have hrow := (hgranted w hw).2
    rw [hds] at hi
    rcases List.mem_cons.mp hi with rfl | hi
    · rw [hcc, Option.some.injEq] at hk
      subst hk
      exact ⟨(c.card_granted w).mpr (hgranted w hw).1, hrow⟩
    · obtain ⟨k', ownerId, hk', hrole⟩ := hmem i hi
      rw [hk, Option.some.injEq] at hk'
      subst hk'
      exact ⟨by simp [ConnectionState.granted, hrole], hrow⟩
  · intro key p hp
    obtain ⟨h₁, h₂⟩ := hfree key p hp
    rw [hm.cards, hm.cards, if_neg h₁, if_neg h₂]
    exact ⟨rfl, rfl⟩
  · intro hflight i c' hc'
    change (ds.foldl (fun m d => m.adjust d fun c => { c with workspace := w' })
        (s.connections.adjust owner f)).get? i = some c' at hc'
    rw [hget] at hc'
    split at hc'
    · next hi =>
      subst hi
      rw [hc, Option.map_some, Option.some.injEq] at hc'
      subst hc'
      exact .inr (hhonest hflight)
    · split at hc'
      · next hin =>
        obtain ⟨k, hk, rfl⟩ := Option.map_eq_some_iff.mp hc'
        have hdesc := (hdelegateCard i k hk hin).2
        refine .inr (.of_none hdesc ?_)
        by_contra hcancel
        obtain ⟨d, hd, -⟩ := (h.base.truthful hflight).canceling i k hk
          (Option.isSome_iff_ne_none.mpr hcancel)
        rw [hdesc] at hd
        cases hd
      · exact .inl hc'

end

end SessionRouter
