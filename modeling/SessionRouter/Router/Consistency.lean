import SessionRouter.Router.Executions
import SessionRouter.Router.Onboarding

/-!
What the invariant says of every state between two inputs: where the routing tables lead, which
requests wait for a result and which agents are ready.
-/

namespace SessionRouter

section

variable [World] {s : RouterState} {F : Prop} {id : Uuid} {c : ConnectionState} {w : WorkspaceName}

theorem Registry.primary_iff (h : Registry (.rest F) s) (agentId : String) (id : Uuid) :
    s.primaries.get? agentId = some id ↔
      ∃ c, s.connections.get? id = some c ∧ c.agentId? = some agentId := by
  constructor
  · intro hid
    obtain ⟨k, hk, hagent⟩ := (h.primaries agentId id hid).resolve_left List.not_mem_nil
    obtain ⟨c, hc, rfl⟩ := RouterState.of_card hk
    exact ⟨c, hc, by simpa using hagent⟩
  · rintro ⟨c, hc, hagent⟩
    exact h.agents id c.card agentId (RouterState.card_eq hc) (by simpa using hagent)

theorem Registry.owner (h : Registry (.rest F) s) {ownerId : String}
    (hc : s.connections.get? id = some c) (hrole : c.role = some (.delegate ownerId)) :
    id ∈ s.delegatesOf ownerId ∧ ∃ owner o, s.primaries.get? ownerId = some owner ∧
      s.connections.get? owner = some o ∧ o.agentId? = some ownerId ∧
      c.workspace = o.workspace := by
  obtain ⟨hmem, owner, p, hprimary, hp, hagent, hworkspace⟩ :=
    h.delegates id c.card ownerId (RouterState.card_eq hc) (by simpa using hrole)
  obtain ⟨o, ho, rfl⟩ := RouterState.of_card hp
  exact ⟨hmem, owner, o, hprimary, ho, by simpa using hagent, by simpa using hworkspace⟩

/-- A connection acts through a connected agent or operator in the same workspace. -/
theorem Registry.acts (h : Registry (.rest F) s) (hc : s.connections.get? id = some c)
    (hw : c.workspace = some w) : ∃ e, s.effectiveConnection id = some e ∧
      e.isDelegate = false ∧ e.workspace = some w ∧ e.granted w := by
  have hjoined : ∀ {i e}, s.connections.get? i = some e → e.workspace = some w → e.granted w := by
    intro i e he hew
    have hgranted := (h.joined i e.card w (RouterState.card_eq he) (by simpa using hew)).1
    simpa using hgranted
  cases hd : c.isDelegate with
  | false =>
    refine ⟨c, ?_, hd, hw, hjoined hc hw⟩
    rw [RouterState.effectiveConnection, effective_self hc hd]
    exact hc
  | true =>
    obtain ⟨ownerId, hrole⟩ : ∃ ownerId, c.role = some (.delegate ownerId) := by
      unfold ConnectionState.isDelegate at hd
      split at hd
      · next ownerId hrole => exact ⟨ownerId, hrole⟩
      · cases hd
    obtain ⟨-, owner, o, hprimary, ho, hagent, hworkspace⟩ := h.owner hc hrole
    have how : o.workspace = some w := hworkspace ▸ hw
    obtain ⟨claims, d, token, hagentRole, -⟩ := ConnectionState.role_of_agentId hagent
    refine ⟨o, ?_, by simp [ConnectionState.isDelegate, hagentRole], how, hjoined ho how⟩
    have heffective : s.effective id = owner := by
      simp [RouterState.effective, RouterState.effectivePrimary, hc, hrole, hprimary]
    rw [RouterState.effectiveConnection, heffective]
    exact ho

theorem Registry.currentWorkspace (h : Registry (.rest F) s)
    (hc : s.connections.get? id = some c) (hw : c.workspace = some w) :
    s.currentWorkspace id = .ok w := by
  obtain ⟨e, he, -, hew, -⟩ := h.acts hc hw
  simp [RouterState.currentWorkspace, he, hew]

theorem Registry.claims_granted (h : Registry (.rest F) s)
    (hc : s.connections.get? id = some c) (hw : c.workspace = some w) :
    ∃ claims admin, s.claims id = .ok (claims, admin) ∧ (admin = true ∨ w ∈ claims.workspaces) := by
  obtain ⟨e, he, hdelegate, -, hgranted⟩ := h.acts hc hw
  unfold ConnectionState.granted at hgranted
  unfold RouterState.claims
  rw [he, Option.bind_some]
  cases hrole : e.role with
  | none => simp [hrole] at hgranted
  | some role =>
    cases role with
    | agent claims d token =>
      rw [hrole] at hgranted
      exact ⟨claims, false, rfl, .inr hgranted⟩
    | delegate ownerId => simp [ConnectionState.isDelegate, hrole] at hdelegate
    | operator claims admin =>
      rw [hrole] at hgranted
      exact ⟨claims, admin, rfl, hgranted⟩

/-- The router has not run out of numbers and stopped. -/
def RouterState.running (s : RouterState) : Prop :=
  s.shuttingDown = false ∨ ¬ Exhausted s.db

theorem Good.running {g : Phase} (h : Good g s) (hrun : s.running) : Live g s := by
  refine h.live.resolve_left fun hstuck => ?_
  rcases hrun with hrun | hrun
  · rw [hstuck.2] at hrun
    cases hrun
  · exact hrun hstuck.1

/-- The five routing tables lead to connections that are there and where they are said to be. -/
theorem routing_tables_agree (h : Reachable (.up s)) :
    (∀ agentId id, s.primaries.get? agentId = some id ↔
      ∃ c, s.connections.get? id = some c ∧ c.agentId? = some agentId) ∧
    (∀ id c ownerId, s.connections.get? id = some c → c.role = some (.delegate ownerId) →
      id ∈ s.delegatesOf ownerId ∧ ∃ owner o, s.primaries.get? ownerId = some owner ∧
        s.connections.get? owner = some o ∧ o.agentId? = some ownerId ∧
        c.workspace = o.workspace) ∧
    (∀ w id, id ∈ s.subscribersOf w → ∃ c, s.connections.get? id = some c ∧
      c.isDelegate = false ∧ c.workspace = some w) ∧
    (∀ id c w, s.connections.get? id = some c → c.workspace = some w →
      ∃ claims admin, s.claims id = .ok (claims, admin) ∧
        (admin = true ∨ w ∈ claims.workspaces)) ∧
    (s.running → ∀ key p, s.pending.get? key = some p →
      (∃ c, s.connections.get? p.requester = some c ∧ c.generation = p.requesterGeneration) ∧
      (∃ c, s.connections.get? p.recipient = some c ∧ c.generation = p.recipientGeneration ∧
        c.agentId? = some p.recipientId) ∧
      s.primaries.get? p.recipientId = some p.recipient ∧
      s.currentWorkspace p.requester = .ok p.workspace ∧
      s.currentWorkspace p.recipient = .ok p.workspace) := by
  have hgood := h.good
  have hreg := hgood.base.registry
  refine ⟨hreg.primary_iff, fun id c ownerId => hreg.owner, ?_,
    fun id c w => hreg.claims_granted, ?_⟩
  · intro w id hid
    obtain ⟨k, hk, hdelegate, hworkspace⟩ := hreg.subscribers w id hid
    obtain ⟨c, hc, rfl⟩ := RouterState.of_card hk
    exact ⟨c, hc, by simpa using hdelegate, by simpa using hworkspace⟩
  · intro hrun key p hp
    have hlive := hgood.running hrun
    have hrequests := hgood.base.requests
    obtain ⟨k, hk⟩ := (hlive.requester key p hp).resolve_left List.not_mem_nil
    obtain ⟨c, hc, rfl⟩ := RouterState.of_card hk
    obtain ⟨hgeneration, hworkspace⟩ := hrequests.source key p _ hp hk
    obtain ⟨k', hk'⟩ := (hlive.recipient key p hp).resolve_left List.not_mem_nil
    obtain ⟨c', hc', rfl⟩ := RouterState.of_card hk'
    obtain ⟨hgeneration', hworkspace', hagent⟩ := hrequests.target key p _ hp hk'
    rw [ConnectionState.card_generation] at hgeneration hgeneration'
    rw [ConnectionState.card_workspace] at hworkspace hworkspace'
    rw [ConnectionState.card_agentId] at hagent
    exact ⟨⟨c, hc, hgeneration⟩, ⟨c', hc', hgeneration', hagent⟩,
      (hreg.primary_iff _ _).mpr ⟨c', hc', hagent⟩, hreg.currentWorkspace hc hworkspace,
      hreg.currentWorkspace hc' hworkspace'⟩

end

open Sample in
theorem routing_tables_agree_working :
    let s := after (joining ++ beginning)
    Reachable (.up s) ∧ s.running ∧ ∃ p, s.pending.get? (workspace, "r6") = some p ∧
      p.recipientId = "a" ∧ s.primaries.get? "a" = some p.recipient ∧
      s.currentWorkspace p.recipient = .ok workspace := by
  intro s
  have hreach : Reachable (.up s) := after_reachable (joining ++ beginning) (by decide +kernel)
  have hrun : s.running := .inl (by decide +kernel)
  have hpending : (s.pending.get? (workspace, "r6")).any (fun p =>
      p.recipientId = "a" && p.workspace = workspace) = true := by decide +kernel
  obtain ⟨p, hp, hprops⟩ := (Option.any_eq_true _ _).mp hpending
  simp only [Bool.and_eq_true, decide_eq_true_eq] at hprops
  obtain ⟨-, -, hprimary, -, hworkspace⟩ :=
    (routing_tables_agree hreach).2.2.2.2 hrun (workspace, "r6") p hp
  exact ⟨hreach, hrun, p, hp, hprops.1, hprops.1 ▸ hprimary, hprops.2 ▸ hworkspace⟩

section

variable [World] {s : RouterState} {p : Process}

/-- The events of a kind about a request. -/
def eventsOf (db : Db) (kind : WorkspaceEventKind) (w : WorkspaceName)
    (requestId : Option String) : List WorkspaceEvent :=
  db.events.filter fun e => e.kind = kind && e.workspace = w && e.requestId = requestId

omit [World] in
theorem mem_eventsOf {db : Db} {kind : WorkspaceEventKind} {w : WorkspaceName}
    {requestId : Option String} {e : WorkspaceEvent} : e ∈ eventsOf db kind w requestId ↔
      e ∈ db.events ∧ e.kind = kind ∧ e.workspace = w ∧ e.requestId = requestId := by
  simp [eventsOf, and_assoc]

omit [World] in
/-- No request is asked or answered twice. -/
theorem Journal.eventsOf_le {db : Db} (h : Journal db) {kind : WorkspaceEventKind}
    (hkind : kind = .request ∨ kind = .result) (w : WorkspaceName) (requestId : Option String) :
    (eventsOf db kind w requestId).length ≤ 1 := by
  have hpair := h.keys.sublist (List.filter_sublist (p := fun e =>
    e.kind = kind && e.workspace = w && e.requestId = requestId))
  change (eventsOf db kind w requestId).Pairwise _ at hpair
  rcases hlist : eventsOf db kind w requestId with _ | ⟨e, _ | ⟨e', es⟩⟩
  · exact Nat.zero_le 1
  · exact le_rfl
  · rw [hlist] at hpair
    have hkeys := (List.pairwise_cons.mp hpair).1 e' List.mem_cons_self
    have he : e ∈ eventsOf db kind w requestId := hlist ▸ List.mem_cons_self
    have he' : e' ∈ eventsOf db kind w requestId :=
      hlist ▸ List.mem_cons_of_mem _ List.mem_cons_self
    obtain ⟨-, hk, hw, hid⟩ := mem_eventsOf.mp he
    obtain ⟨-, hk', hw', hid'⟩ := mem_eventsOf.mp he'
    rcases hkind with rfl | rfl <;>
      simp [eventKey, hk, hk', hw, hw', hid, hid'] at hkeys

omit [World] in
theorem Settled.answered {db : Db} (h : Settled db) {e : WorkspaceEvent} (he : e ∈ db.events)
    (hkind : e.kind = .request) : 1 ≤ (eventsOf db .result e.workspace e.requestId).length := by
  have hopen : e ∉ unfinishedRequests db := by
    rw [h.requests]
    exact List.not_mem_nil
  have hresult : ∃ x ∈ db.events, x.kind = .result ∧ x.workspace = e.workspace ∧
      x.requestId = e.requestId := by
    by_contra hnone
    push Not at hnone
    exact hopen (mem_unfinishedRequests.mpr ⟨he, hkind, hnone⟩)
  obtain ⟨x, hx, hxkind, hw, hid⟩ := hresult
  exact List.length_pos_of_mem (mem_eventsOf.mpr ⟨hx, hxkind, hw, hid⟩)

omit [World] in
theorem transaction_of_ok {ε α : Type} {x : Store ε α} {store : RouterStore} {a : α} {t : Tx}
    (h : x store.tx = .ok (a, t)) : transaction x store =
      (.ok a, { db := t.db, tick := t.tick, journal := t.db :: store.journal }) := by
  have h : x { db := store.db, tick := store.tick } = .ok (a, t) := h
  unfold transaction
  rw [h]

theorem recover_slack {db : Db} {tick : ℕ} (h : DbInv db tick)
    (hslack : Slack db (recoverySize db)) :
    ∃ store, transaction recover (openStore db tick) = (.ok (), store) := by
  have hspec := recover_spec (t := (openStore db tick).tx) h
  unfold Txn.wp at hspec
  cases hx : recover (openStore db tick).tx with
  | error e =>
    rw [hx] at hspec
    exact absurd hslack hspec
  | ok r => exact ⟨_, transaction_of_ok hx⟩

theorem recover_done {db : Db} {tick : ℕ} {store : RouterStore} (h : DbInv db tick)
    (hstore : transaction recover (openStore db tick) = (.ok (), store)) :
    DbInv store.db store.tick ∧ Journal store.db ∧ Settled store.db := by
  obtain ⟨t, ht, rfl⟩ := transaction_ok hstore
  have hspec := recover_spec (t := (openStore db tick).tx) h
  unfold Txn.wp at hspec
  rw [ht] at hspec
  obtain ⟨⟨es, hadvance⟩, hsettled⟩ := hspec
  exact ⟨hadvance.inv, hadvance.inv.journal, hsettled⟩

/-- Every request gets exactly one result, from the router that took it or from the recovery. -/
theorem requests_answered_once (h : Reachable p) :
    (∀ w requestId, (eventsOf p.db .request w requestId).length ≤ 1 ∧
      (eventsOf p.db .result w requestId).length ≤ 1) ∧
    (∀ s, p = .up s → s.running → ∀ w requestId,
      (s.pending.get? (w, requestId)).isSome = true ↔
        eventsOf s.db .request w (some requestId) ≠ [] ∧
          eventsOf s.db .result w (some requestId) = []) ∧
    ∀ db tick, p = .down db tick →
      (Slack db (recoverySize db) →
        ∃ store, transaction recover (openStore db tick) = (.ok (), store)) ∧
      ∀ store, transaction recover (openStore db tick) = (.ok (), store) →
        (∀ e ∈ store.db.events, e.kind = .request →
          (eventsOf store.db .result e.workspace e.requestId).length = 1) ∧
        (∀ id a, store.db.attempts.get? id = some a → a.status ≠ .running) ∧
        (∀ key r, store.db.operations.get? key = some r → r.status ≠ .running) ∧
        ∀ tick', store.tick ≤ tick' → ∃ store',
          transaction recover (openStore store.db tick') = (.ok (), store') ∧
            store'.db = store.db := by
  have hjournal := (Reachable.dbInv h).journal
  refine ⟨fun w requestId => ⟨hjournal.eventsOf_le (.inl rfl) w requestId,
    hjournal.eventsOf_le (.inr rfl) w requestId⟩, ?_, ?_⟩
  · rintro s rfl hrun w requestId
    have hgood := h.good
    constructor
    · intro hsome
      obtain ⟨q, hq⟩ := Option.isSome_iff_exists.mp hsome
      obtain ⟨e, he, hkind, hw, hid⟩ := hgood.base.requests.asked _ q hq
      refine ⟨List.ne_nil_of_mem (mem_eventsOf.mpr ⟨he, hkind, hw, hid⟩), ?_⟩
      rw [List.eq_nil_iff_forall_not_mem]
      intro e' he'
      obtain ⟨hmem, hkind', hw', hid'⟩ := mem_eventsOf.mp he'
      exact hgood.base.requests.unanswered _ q hq e' hmem hkind' hw' hid'
    · rintro ⟨hasked, hopen⟩
      obtain ⟨e, he⟩ := List.exists_mem_of_ne_nil _ hasked
      obtain ⟨hmem, hkind, hw, hid⟩ := mem_eventsOf.mp he
      obtain ⟨q, hq⟩ := (hgood.running hrun).waiting w requestId ⟨e, hmem, hkind, hw, hid⟩
        fun e' hmem' hkind' hw' hid' => by
          have hin := mem_eventsOf.mpr ⟨hmem', hkind', hw', hid'⟩
          rw [hopen] at hin
          cases hin
      rw [hq]
      rfl
  · rintro db tick rfl
    have hinv : DbInv db tick := Reachable.db h
    refine ⟨recover_slack hinv, fun store hstore => ?_⟩
    obtain ⟨hdb, hjournal, hsettled⟩ := recover_done hinv hstore
    refine ⟨fun e he hkind => ?_, hsettled.attempts, hsettled.operations, ?_⟩
    · exact le_antisymm (hjournal.eventsOf_le (.inr rfl) e.workspace e.requestId)
        (hsettled.answered he hkind)
    · intro tick' htick
      exact ⟨_, transaction_of_ok (recover_settled (t := (openStore store.db tick').tx)
        (hdb.mono htick) hsettled), rfl⟩

end

open Sample in
theorem requests_answered_once_crashed :
    let s := after (joining ++ beginning)
    Reachable (.down s.db s.tick) ∧ (eventsOf s.db .result workspace (some "r6")).length = 0 ∧
      ∃ store, transaction recover (openStore s.db s.tick) = (.ok (), store) ∧
        (eventsOf store.db .result workspace (some "r6")).length = 1 := by
  intro s
  have hreach : Reachable (.up s) := after_reachable (joining ++ beginning) (by decide +kernel)
  have hdown : Reachable (.down s.db s.tick) := .halt hreach
  have hopen : (eventsOf s.db .result workspace (some "r6")).length = 0 := by decide +kernel
  have hok : (transaction recover (openStore s.db s.tick)).1.isOk = true := by decide +kernel
  have hasked : (eventsOf (transaction recover (openStore s.db s.tick)).2.db .request workspace
      (some "r6")).length = 1 := by decide +kernel
  obtain ⟨_, hrecover⟩ := transaction_of_isOk hok
  refine ⟨hdown, hopen, _, hrecover, ?_⟩
  obtain ⟨e, he⟩ := List.length_eq_one_iff.mp hasked
  obtain ⟨hmem, hkind, hw, hid⟩ := mem_eventsOf.mp (he ▸ List.mem_singleton_self e)
  have hanswered := ((requests_answered_once hdown).2.2 _ _ rfl).2 _ hrecover
  have hone := hanswered.1 e hmem hkind
  rwa [hw, hid] at hone

end SessionRouter
