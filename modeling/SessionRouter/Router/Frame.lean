import SessionRouter.Router.Invariant

/-!
What a step of the router leaves alone, and why the invariant does not depend on the rest: moves
that touch no table, commits of the database, and connections that change without changing their
place in the routing tables.
-/

namespace SessionRouter

variable {s s' s'' : RouterState} {g : Phase}

/-- No table of the invariant changed. -/
structure Quiet (s s' : RouterState) : Prop where
  db : s'.db = s.db
  journal : s'.store.journal = s.store.journal
  tick : s.tick ≤ s'.tick
  connections : s'.connections = s.connections
  primaries : s'.primaries = s.primaries
  delegates : s'.delegates = s.delegates
  subscribers : s'.subscribers = s.subscribers
  pending : s'.pending = s.pending
  shutting : s.shuttingDown = true → s'.shuttingDown = true

theorem Quiet.refl (s : RouterState) : Quiet s s :=
  ⟨rfl, rfl, le_rfl, rfl, rfl, rfl, rfl, rfl, id⟩

theorem Quiet.trans (h : Quiet s s') (h' : Quiet s' s'') : Quiet s s'' :=
  ⟨h'.db.trans h.db, h'.journal.trans h.journal, h.tick.trans h'.tick,
    h'.connections.trans h.connections, h'.primaries.trans h.primaries,
    h'.delegates.trans h.delegates, h'.subscribers.trans h.subscribers,
    h'.pending.trans h.pending, fun hs => h'.shutting (h.shutting hs)⟩

/-- Requests and connections only disappear, and the database only grows. -/
structure Kept (s s' : RouterState) : Prop where
  pending : ∀ key p, s'.pending.get? key = some p → s.pending.get? key = some p
  card : ∀ id c, s'.card id = some c → s.card id = some c
  size : s'.connections.size ≤ s.connections.size
  shutting : s.shuttingDown = true → s'.shuttingDown = true
  grows : ∃ es, Extends s.db s'.db es

theorem Kept.refl (s : RouterState) : Kept s s :=
  ⟨fun _ _ h => h, fun _ _ h => h, le_rfl, id, [], .refl _⟩

theorem Kept.trans (h : Kept s s') (h' : Kept s' s'') : Kept s s'' where
  pending := fun key p hp => h.pending key p (h'.pending key p hp)
  card := fun id c hc => h.card id c (h'.card id c hc)
  size := h'.size.trans h.size
  shutting := fun hs => h'.shutting (h.shutting hs)
  grows := by
    obtain ⟨es, hes⟩ := h.grows
    obtain ⟨es', hes'⟩ := h'.grows
    exact ⟨es ++ es', hes.trans hes'⟩

theorem Kept.exhausted (h : Kept s s') (hx : Exhausted s.db) : Exhausted s'.db := by
  obtain ⟨es, hes⟩ := h.grows
  exact hes.exhausted hx

theorem Kept.stuck (h : Kept s s') (hs : Stuck s) : Stuck s' :=
  ⟨h.exhausted hs.1, h.shutting hs.2⟩

theorem Kept.gone (h : Kept s s') {key : WorkspaceName × String}
    (hnone : s.pending.get? key = none) : s'.pending.get? key = none := by
  cases hp : s'.pending.get? key with
  | none => rfl
  | some p =>
    rw [h.pending key p hp] at hnone
    cases hnone

theorem Quiet.card (h : Quiet s s') (id : Uuid) : s'.card id = s.card id := by
  simp only [RouterState.card, h.connections]

theorem Quiet.kept (h : Quiet s s') : Kept s s' where
  pending := by
    rw [h.pending]
    exact fun _ _ hp => hp
  card := fun id c hc => (h.card id).symm.trans hc
  size := by rw [h.connections]
  shutting := h.shutting
  grows := ⟨[], by rw [h.db]; exact .refl _⟩

section

variable [World]

namespace Registry

/-- The routing tables depend on the cards of the connections only. -/
theorem of_cards (h : Registry g s) (htick : s.tick ≤ s'.tick)
    (hcard : ∀ id, s'.card id = s.card id) (hsize : s'.connections.size = s.connections.size)
    (hprimaries : s'.primaries = s.primaries) (hdelegates : s'.delegates = s.delegates)
    (hsubscribers : s'.subscribers = s.subscribers)
    (hworkspaces : ∀ w row, s.db.workspaces.get? w = some row →
      ∃ row', s'.db.workspaces.get? w = some row') : Registry g s' := by
  have hdelegatesOf : ∀ ownerId, s'.delegatesOf ownerId = s.delegatesOf ownerId := by
    intro ownerId
    simp only [RouterState.delegatesOf, hdelegates]
  have hsubscribersOf : ∀ w, s'.subscribersOf w = s.subscribersOf w := by
    intro w
    simp only [RouterState.subscribersOf, hsubscribers]
  constructor
  · intro id c hc
    rw [hcard] at hc
    exact (h.drawn id c hc).mono htick
  · rw [hsize]
    exact h.size
  · simp only [hcard, hprimaries]
    exact h.agents
  · simp only [hcard, hprimaries]
    exact h.primaries
  · simp only [hcard]
    exact h.left
  · simp only [hcard, hprimaries, hdelegatesOf]
    exact h.delegates
  · simp only [hcard, hdelegatesOf]
    exact h.listed
  · simp only [hcard, hsubscribersOf]
    exact h.subscribers
  · intro id c w hc hw
    rw [hcard] at hc
    obtain ⟨hgrant, row, hrow⟩ := h.joined id c w hc hw
    exact ⟨hgrant, hworkspaces w row hrow⟩
  · simp only [hcard]
    exact h.actors

/-- The routing tables depend on who is leaving only. -/
theorem of_leaving {g' : Phase} (h : Registry g s) (hleaving : g'.leaving = g.leaving) :
    Registry g' s :=
  { h with
    primaries := hleaving ▸ h.primaries
    left := hleaving ▸ h.left
    listed := hleaving ▸ h.listed }

/-- The routing tables are the same. -/
theorem of_same (h : Registry g s) (htick : s.tick ≤ s'.tick)
    (hconnections : s'.connections = s.connections) (hprimaries : s'.primaries = s.primaries)
    (hdelegates : s'.delegates = s.delegates) (hsubscribers : s'.subscribers = s.subscribers)
    (hdb : s'.db = s.db) : Registry g s' := by
  refine h.of_cards htick (fun id => ?_) (by rw [hconnections]) hprimaries hdelegates hsubscribers
    fun w row hrow => ⟨row, hdb ▸ hrow⟩
  unfold RouterState.card
  rw [hconnections]

end Registry

omit [World] in
theorem Requests.of_same (h : Requests s) (hconnections : s'.connections = s.connections)
    (hpending : s'.pending = s.pending) (hdb : s'.db = s.db) : Requests s' := by
  obtain ⟨h1, h2, h3, h4, h5, h6, h7, h8⟩ := h
  constructor <;> simp only [RouterState.card, hconnections, hpending, hdb] <;> assumption

omit [World] in
theorem Truthful.of_same (h : Truthful s) (hconnections : s'.connections = s.connections)
    (hpending : s'.pending = s.pending) (hdb : s'.db = s.db) : Truthful s' := by
  obtain ⟨h1, h2, h3, h4⟩ := h
  constructor <;> simp only [hconnections, hpending, hdb] <;> assumption

omit [World] in
theorem Live.of_same (h : Live g s) (hconnections : s'.connections = s.connections)
    (hpending : s'.pending = s.pending) (hdb : s'.db = s.db) : Live g s' := by
  obtain ⟨h1, h2, h3, h4, h5, h6, h7⟩ := h
  constructor <;> simp only [RouterState.card, hconnections, hpending, hdb] <;> assumption

omit [World] in
/-- Requests that remain stay sound when the database grows without answering them. -/
theorem Requests.shrink {es : List WorkspaceEvent} (h : Requests s)
    (hpending : ∀ key p, s'.pending.get? key = some p → s.pending.get? key = some p)
    (hcard : ∀ id c, s'.card id = some c → s.card id = some c)
    (hgrows : Extends s.db s'.db es)
    (hresults : ∀ e ∈ es, e.kind = .result → ∀ key p, s'.pending.get? key = some p →
      e.workspace = key.1 → e.requestId ≠ some key.2) : Requests s' where
  keyed := fun key p hp => h.keyed key p (hpending key p hp)
  asked := by
    intro key p hp
    obtain ⟨e, he, hkind⟩ := h.asked key p (hpending key p hp)
    exact ⟨e, by rw [hgrows.events]; exact List.mem_append_left _ he, hkind⟩
  unanswered := by
    intro key p hp e he hkind
    rw [hgrows.events] at he
    rcases List.mem_append.mp he with he | he
    · exact h.unanswered key p (hpending key p hp) e he hkind
    · exact hresults e he hkind key p hp
  source := fun key p c hp hc => h.source key p c (hpending key p hp) (hcard _ c hc)
  target := fun key p c hp hc => h.target key p c (hpending key p hp) (hcard _ c hc)
  named := by
    intro key p id hp hid
    obtain ⟨a, dispatch, ha, hd, hof⟩ := h.named key p id (hpending key p hp) hid
    obtain ⟨a', ha', hlater⟩ := hgrows.attempts id a ha
    exact ⟨a', dispatch, ha', hd, AttemptRow.isOf_of_origin hlater.origin hof⟩
  dispatched := by
    intro key p dispatch hp hd
    obtain ⟨r, hr⟩ := h.dispatched key p dispatch (hpending key p hp) hd
    obtain ⟨r', hr', -⟩ := hgrows.tasks _ r hr
    exact ⟨r', hr'⟩
  tasks := fun key key' p p' d d' hp hp' =>
    h.tasks key key' p p' d d' (hpending key p hp) (hpending key' p' hp')

/-- What a commit of the store changes. -/
structure Stored (s s' : RouterState) (es : List WorkspaceEvent)
    (stopped : Uuid → AttemptRow → Prop) : Prop where
  advance : Advance s.store.tx s'.store.tx es stopped
  store : StoreInv s'.store
  connections : s'.connections = s.connections
  primaries : s'.primaries = s.primaries
  delegates : s'.delegates = s.delegates
  subscribers : s'.subscribers = s.subscribers
  pending : s'.pending = s.pending
  shutting : s'.shuttingDown = s.shuttingDown

namespace Stored

variable {es : List WorkspaceEvent} {stopped : Uuid → AttemptRow → Prop}

theorem card (h : Stored s s' es stopped) (id : Uuid) : s'.card id = s.card id := by
  simp only [RouterState.card, h.connections]

theorem kept (h : Stored s s' es stopped) : Kept s s' where
  pending := by
    rw [h.pending]
    exact fun _ _ hp => hp
  card := fun id c hc => (h.card id).symm.trans hc
  size := by rw [h.connections]
  shutting := fun hs => h.shutting.trans hs
  grows := ⟨es, h.advance.grows⟩

end Stored

/-- The state after a transaction. -/
def RouterState.commit (s : RouterState) (t : Tx) : RouterState :=
  { s with store := { db := t.db, tick := t.tick, journal := t.db :: s.store.journal } }

theorem Stored.commit {t : Tx} {es : List WorkspaceEvent} {stopped : Uuid → AttemptRow → Prop}
    (h : StoreInv s.store) (hadv : Advance s.store.tx t es stopped) :
    Stored s (s.commit t) es stopped :=
  ⟨hadv, h.commit hadv.inv hadv.tick, rfl, rfl, rfl, rfl, rfl, rfl⟩

theorem barrier_of_extends {t t' : Tx} {es : List WorkspaceEvent}
    {stopped : Uuid → AttemptRow → Prop} (h : Advance t t' es stopped) {agentId : String}
    (hb : Barrier t'.db agentId) : Barrier t.db agentId := by
  obtain ⟨id, a', ha', hagent, hbar⟩ := hb
  obtain ⟨a, ha, hlater⟩ := h.back ha'
  exact ⟨id, a, ha, hlater.agentId.trans hagent, hlater.barrier hbar⟩

/-- Truthfulness after a commit that begins no work. -/
theorem Truthful.stored {es : List WorkspaceEvent} {stopped : Uuid → AttemptRow → Prop}
    (h : Truthful s) (hs : Stored s s' es stopped) : Truthful s' where
  single := by
    rw [hs.pending]
    exact h.single
  working := by
    rw [hs.pending, hs.connections]
    exact h.working
  ready := by
    rw [hs.connections]
    intro id c d hc hd hready
    obtain ⟨hidle, hcancel, hjoined, hbar⟩ := h.ready id c d hc hd hready
    exact ⟨hidle, hcancel, hjoined, fun hb => hbar (barrier_of_extends hs.advance hb)⟩
  canceling := by
    rw [hs.connections]
    exact h.canceling

theorem Base.stored {es : List WorkspaceEvent} {stopped : Uuid → AttemptRow → Prop}
    (h : Base g s) (hs : Stored s s' es stopped) (hkinds : ∀ e ∈ es, e.kind ≠ .result) :
    Base g s' where
  store := hs.store
  registry := by
    refine h.registry.of_cards hs.advance.tick hs.card (by rw [hs.connections]) hs.primaries
      hs.delegates hs.subscribers ?_
    intro w row hrow
    obtain ⟨row', hrow', -⟩ := hs.advance.grows.workspaces w row hrow
    exact ⟨row', hrow'⟩
  requests := h.requests.shrink hs.kept.pending hs.kept.card hs.advance.grows
    fun e he hkind => absurd hkind (hkinds e he)
  truthful := fun hf => (h.truthful hf).stored hs

/-- An attempt that became unconfirmed ran before. -/
theorem Advance.was_running {t t' : Tx} {es : List WorkspaceEvent}
    {stopped : Uuid → AttemptRow → Prop} (h : Advance t t' es stopped) {id : Uuid}
    {a' : AttemptRow} (ha' : t'.db.attempts.get? id = some a') (hun : a'.unconfirmed = true) :
    ∃ a, t.db.attempts.get? id = some a ∧ a.Later a' ∧
      (a.unconfirmed = true ∨ (a.status = .running ∧ stopped id a')) := by
  obtain ⟨a, ha, hlater⟩ := h.back ha'
  refine ⟨a, ha, hlater, ?_⟩
  rcases h.attempts id a' ha' with ⟨b, hb, hstop⟩ | ⟨-, hfalse⟩
  · rw [ha] at hb
    cases hb
    rcases hstop hun with hun | hstopped
    · exact .inl hun
    · rcases (AttemptRow.barrier_iff a).mp
        (hlater.barrier ((AttemptRow.barrier_iff a').mpr (.inr hun))) with hrun | hun
      · exact .inr ⟨hrun, hstopped⟩
      · exact .inl hun
  · exact hfalse.elim

/-- The attempts a commit stopped are not those of the requests that still wait. -/
def StopsOther (g : Phase) (s : RouterState) (stopped : Uuid → AttemptRow → Prop) : Prop :=
  ∀ id a a', s.db.attempts.get? id = some a → a.status = .running → a.Later a' → stopped id a' →
    ∀ key p, s.pending.get? key = some p → p.recipient ∉ g.dying → some key ≠ g.exempt →
    (∀ dispatch, p.task = some dispatch → ¬ a.isOf p.workspace dispatch.id) ∧
    (g.flight → a.agentId ≠ p.recipientId)

omit [World] in
theorem StopsOther.none (g : Phase) (s : RouterState) : StopsOther g s noAttempt :=
  fun _ _ _ _ _ _ hfalse => hfalse.elim

theorem Live.stored {es : List WorkspaceEvent} {stopped : Uuid → AttemptRow → Prop}
    (h : Live g s) (hs : Stored s s' es stopped) (hother : StopsOther g s stopped)
    (hkinds : ∀ e ∈ es, e.kind ≠ .request ∧ e.kind ≠ .result) : Live g s' where
  requester := by
    simp only [hs.pending, hs.card]
    exact h.requester
  recipient := by
    simp only [hs.pending, hs.card]
    exact h.recipient
  waiting := by
    intro w requestId hasked hopen
    have hevents : s'.db.events = s.db.events ++ es := hs.advance.grows.events
    obtain ⟨e, he, hkind, hw, hid⟩ := hasked
    rw [hevents, List.mem_append] at he
    have hold : e ∈ s.db.events := by
      rcases he with he | he
      · exact he
      · exact absurd hkind (hkinds e he).1
    rw [hs.pending]
    refine h.waiting w requestId ⟨e, hold, hkind, hw, hid⟩ fun x hx => hopen x ?_
    rw [hevents]
    exact List.mem_append_left _ hx
  running := by
    intro id a' ha' hrun
    obtain ⟨a, ha, hlater⟩ := hs.advance.back ha'
    obtain ⟨p, c, hp, hid, hc, hruns⟩ := h.running id a ha (hlater.running hrun)
    refine ⟨p, c, ?_, hid, (hs.card _).trans hc, c.runs_of_origin hlater.origin hruns⟩
    rw [hs.pending, ← hlater.workspace, ← hlater.workRequestId]
    exact hp
  stopped := by
    intro key p dispatch hp hd hdying hexempt id a' ha' hof
    rw [hs.pending] at hp
    by_contra hun
    rw [Bool.not_eq_false] at hun
    obtain ⟨a, ha, hlater, hcase⟩ := hs.advance.was_running ha' hun
    have hof' := AttemptRow.isOf_of_origin hlater.origin.symm hof
    rcases hcase with hold | ⟨hrun, hstop⟩
    · exact absurd (h.stopped key p dispatch hp hd hdying hexempt id a ha hof') (by simp [hold])
    · exact (hother id a a' ha hrun hlater hstop key p hp hdying hexempt).1 dispatch hd hof'
  busy := by
    rw [hs.pending, hs.connections]
    exact h.busy
  confirmed := by
    intro hf key p hp hdying hexempt
    rw [hs.pending] at hp
    rintro ⟨id, a', ha', hagent, hun⟩
    obtain ⟨a, ha, hlater, hcase⟩ := hs.advance.was_running ha' hun
    rcases hcase with hold | ⟨hrun, hstop⟩
    · exact h.confirmed hf key p hp hdying hexempt ⟨id, a, ha, hlater.agentId.trans hagent, hold⟩
    · exact (hother id a a' ha hrun hlater hstop key p hp hdying hexempt).2 hf
        (hlater.agentId.trans hagent)

/-- A commit that neither asks nor answers and stops no pending work. -/
theorem Good.stored {es : List WorkspaceEvent} {stopped : Uuid → AttemptRow → Prop}
    (h : Good g s) (hs : Stored s s' es stopped) (hother : Live g s → StopsOther g s stopped)
    (hkinds : ∀ e ∈ es, e.kind ≠ .request ∧ e.kind ≠ .result) : Good g s' where
  base := h.base.stored hs fun e he => (hkinds e he).2
  live := h.live.imp hs.kept.stuck fun hl => hl.stored hs (hother hl) hkinds

theorem Quiet.stored (h : Quiet s s') (hinv : StoreInv s.store) :
    StoreInv s'.store ∧ Advance s.store.tx s'.store.tx [] noAttempt := by
  have hdb : s'.store.db = s.store.db := h.db
  have htick : s.store.tick ≤ s'.store.tick := h.tick
  refine ⟨⟨?_, ?_⟩, ⟨?_, htick, ?_, .of_eq ?_⟩⟩
  · rw [hdb]
    exact hinv.db.mono htick
  · rw [h.journal]
    exact fun d hd => (hinv.journal d hd).mono htick
  · simp only [RouterStore.tx, hdb]
    exact hinv.db.mono htick
  · simp only [RouterStore.tx, hdb]
    exact .refl _
  · simp only [RouterStore.tx, hdb]

theorem Base.quiet (h : Base g s) (hq : Quiet s s') : Base g s' := by
  obtain ⟨hstore, hadv⟩ := hq.stored h.store
  have hdb : s'.db = s.db := hq.db
  exact ⟨hstore, h.registry.of_same hq.tick hq.connections hq.primaries hq.delegates hq.subscribers
    hdb, h.requests.of_same hq.connections hq.pending hdb,
    fun hf => (h.truthful hf).of_same hq.connections hq.pending hdb⟩

/-- Moves that touch no table keep the invariant. -/
theorem Good.quiet (h : Good g s) (hq : Quiet s s') : Good g s' := by
  have hdb : s'.db = s.db := hq.db
  exact ⟨h.base.quiet hq, h.live.imp hq.kept.stuck fun hl =>
    hl.of_same hq.connections hq.pending hdb⟩

end

end SessionRouter
