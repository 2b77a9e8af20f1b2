import SessionRouter.Router.Rules

/-!
Closing a request: its attempt is interrupted, its result is stored and its recipient is marked,
in the reply path and in the error path alike.
-/

namespace SessionRouter

variable {s : RouterState} {g : Phase}

theorem card_adjust {id : Uuid} {f : ConnectionState → ConnectionState}
    (hf : ∀ c, s.connections.get? id = some c → (f c).card = c.card) (i : Uuid) :
    ({ s with connections := s.connections.adjust id f } : RouterState).card i = s.card i := by
  simp only [RouterState.card, Table.get?_adjust]
  split
  · next hi =>
    subst hi
    cases hc : s.connections.get? i with
    | none => rfl
    | some c => simp [hf c hc]
  · rfl

section

variable [World]

theorem Stored.refl (h : StoreInv s.store) {stopped : Uuid → AttemptRow → Prop} :
    Stored s s [] stopped :=
  ⟨.refl h.db, h, rfl, rfl, rfl, rfl, rfl, rfl⟩

theorem Stored.trans {s' s'' : RouterState} {es es' : List WorkspaceEvent}
    {stopped : Uuid → AttemptRow → Prop} (h : Stored s s' es stopped)
    (h' : Stored s' s'' es' noAttempt)
    (hkeep : ∀ id a a', stopped id a → stopped id a') : Stored s s'' (es ++ es') stopped where
  advance := h.advance.trans (h'.advance.mono fun _ _ hfalse => hfalse.elim)
    fun id a a' _ _ hs => hkeep id a a' hs
  store := h'.store
  connections := h'.connections.trans h.connections
  primaries := h'.primaries.trans h.primaries
  delegates := h'.delegates.trans h.delegates
  subscribers := h'.subscribers.trans h.subscribers
  pending := h'.pending.trans h.pending
  shutting := h'.shutting.trans h.shutting

/-- Interrupting the attempt of a request. -/
theorem closeAttempt_spec {attemptId : Option Uuid} {reason : PauseReason} (h : StoreInv s.store) :
    Actor.wp (Router.closeAttempt attemptId reason)
      (fun r s' => Stored s s' r.1.toList (fun i _ => attemptId = some i) ∧
        (∀ e ∈ r.1.toList, e.kind = .task) ∧
        (∀ id a, attemptId = some id → s'.db.attempts.get? id = some a → a.status ≠ .running) ∧
        ∀ w attempt, r.2 = some (w, attempt) → ∃ id a, attemptId = some id ∧
          s.db.attempts.get? id = some a ∧ a.workspace = w ∧ a.taskId = attempt.taskId)
      (fun e s' => s' = s ∧ e = .sqlite .constraint ∧ Exhausted s.db) s := by
  unfold Router.closeAttempt
  cases attemptId with
  | none =>
    rw [Actor.wp_pure]
    exact ⟨.refl h, by simp, by simp, by simp⟩
  | some id =>
    simp only [Actor.wp_bind, Actor.wp_pure, Router.wp_inStore]
    refine Txn.wp_mono (interruptAttempt_spec h.db) ?_ ?_
    · rintro event t ⟨hadv, hkinds, hstopped⟩
      obtain ⟨found, hfound, hsome, hnone⟩ := executionAttempt_spec (s.commit t).db id
      refine Router.wp_query hfound ⟨?_, hkinds, ?_, ?_⟩
      · refine Stored.commit h (hadv.mono ?_)
        rintro i - rfl
        rfl
      · rintro i a hi ha
        cases hi
        exact hstopped a ha
      · intro w attempt hr
        cases ha : t.db.attempts.get? id with
        | none =>
          have := hnone ha
          rw [hr] at this
          cases this
        | some a' =>
          obtain ⟨a, hback, hlater⟩ := hadv.back ha
          obtain ⟨attempt', heq, htask⟩ := hsome a' ha
          rw [hr, Option.some.injEq, Prod.mk.injEq] at heq
          obtain ⟨rfl, rfl⟩ := heq
          refine ⟨id, a, rfl, hback, hlater.workspace, ?_⟩
          rw [htask]
          exact congrArg AttemptOrigin.taskId hlater.origin
    · exact fun e he => ⟨trivial, he⟩

/-- Storing the result of a request that has none. -/
theorem appendResult_spec {insert : EventInsert} (h : StoreInv s.store)
    (hkind : insert.kind = .result) (hvalid : insert.Valid)
    (hasked : Asked s.db insert.workspace insert.requestId)
    (hfree : ∀ e ∈ s.db.events, e.kind = .result → e.workspace = insert.workspace →
      e.requestId ≠ insert.requestId) :
    Actor.wp (Router.inStore (appendEvent insert))
      (fun e s' => Stored s s' [e] noAttempt ∧ e.kind = .result ∧ e.workspace = insert.workspace ∧
        e.requestId = insert.requestId)
      (fun e s' => s' = s ∧ e = .sqlite .constraint ∧ Exhausted s.db) s := by
  obtain ⟨request, hrequest, -, hw, -⟩ := id hasked
  obtain ⟨row, hrow⟩ := h.db.journal.workspace request hrequest
  rw [hw] at hrow
  have hkey : KeyFree s.db insert.key := by
    refine .inr fun e he heq => ?_
    simp only [EventInsert.key, eventKey, EventInsert.toEvent, hkind] at heq
    cases hk : e.kind <;> simp only [hk] at heq <;> try cases heq
    rw [Option.some.injEq, EventKey.result.injEq] at heq
    exact hfree e he hk heq.1 heq.2
  rw [Router.wp_inStore]
  refine appendEvent_spec h.db hrow hvalid hkey (by simp [hkind]) (fun _ => ?_) ?_ ?_
  · exact hasked
  · exact fun hinv => ⟨Stored.commit h (.append hinv), hkind, rfl, rfl⟩
  · exact fun hx => ⟨rfl, rfl, hx⟩

/-- The store after the request `p` under `key` was closed: its attempt does not run, and the
events are those of its task and its result. -/
structure Closed (s : RouterState) (key : WorkspaceName × String) (p : PendingRequest)
    (store : RouterStore) (es : List WorkspaceEvent) : Prop where
  inv : StoreInv store
  advance : Advance s.store.tx store.tx es (fun i _ => p.attemptId = some i)
  ended : ∀ id a, p.attemptId = some id → store.db.attempts.get? id = some a → a.status ≠ .running
  result : ∃ e ∈ es, e.kind = .result ∧ e.workspace = key.1 ∧ e.requestId = some key.2
  kinds : ∀ e ∈ es, e.kind ≠ .request ∧
    (e.kind = .result → e.workspace = key.1 ∧ e.requestId = some key.2)

/-- How the recipient of a closed request is left: busy only while it still cancels the work, and
ready only when it may take new work. -/
structure Freed (db : Db) (f : ConnectionState → ConnectionState) (c : ConnectionState) : Prop where
  busy : ∀ d, (f c).descriptor? = some d → d.status = .busy → (f c).canceling.isSome = true
  ready : ∀ d, (f c).descriptor? = some d → d.ready = true →
    d.status = .idle ∧ (f c).canceling = none ∧ (f c).workspace.isSome = true ∧
      ¬ Barrier db d.agentId
  canceling : (f c).canceling.isSome = true →
    ∃ d, (f c).descriptor? = some d ∧ d.status = .busy ∧ (f c).workspace.isSome = true

/-- The state after a request was closed. -/
def RouterState.close (s : RouterState) (key : WorkspaceName × String) (p : PendingRequest)
    (store : RouterStore) (f : ConnectionState → ConnectionState) : RouterState :=
  { s with
    store
    pending := s.pending.remove key
    connections := s.connections.adjust p.recipient f }

section close

variable {key : WorkspaceName × String} {p : PendingRequest} {store : RouterStore}
  {es : List WorkspaceEvent} {f : ConnectionState → ConnectionState}

omit [World] in
theorem close_pending {k : WorkspaceName × String} {q : PendingRequest} :
    (s.close key p store f).pending.get? k = some q ↔ k ≠ key ∧ s.pending.get? k = some q := by
  simp only [RouterState.close, Table.get?_remove]
  split
  · next hk => simp [hk]
  · next hk => simp [hk]

omit [World] in
theorem close_card (hf : ∀ c, s.connections.get? p.recipient = some c → (f c).card = c.card)
    (id : Uuid) : (s.close key p store f).card id = s.card id :=
  card_adjust hf id

theorem close_kept (hclosed : Closed s key p store es)
    (hf : ∀ c, s.connections.get? p.recipient = some c → (f c).card = c.card) :
    Kept s (s.close key p store f) where
  pending := fun _ _ hq => (close_pending.mp hq).2
  card := fun id _ hc => (close_card hf id).symm.trans hc
  size := (Table.size_adjust _ _ _).le
  shutting := fun h => h
  grows := ⟨es, hclosed.advance.grows⟩

omit [World] in
/-- A connection after the request was closed. -/
theorem close_connection {id : Uuid} {c' : ConnectionState}
    (hc' : (s.close key p store f).connections.get? id = some c') :
    (id ≠ p.recipient ∧ s.connections.get? id = some c') ∨
      ∃ c, id = p.recipient ∧ s.connections.get? id = some c ∧ c' = f c := by
  simp only [RouterState.close, Table.get?_adjust] at hc'
  split at hc'
  · next hid =>
    obtain ⟨c, hc, rfl⟩ := Option.map_eq_some_iff.mp hc'
    exact .inr ⟨c, hid, hid ▸ hc, rfl⟩
  · next hid => exact .inl ⟨hid, hc'⟩

theorem Base.close (h : Base g s) (hp : s.pending.get? key = some p)
    (hclosed : Closed s key p store es)
    (hf : ∀ c, s.connections.get? p.recipient = some c → (f c).card = c.card)
    (hfreed : g.flight → ∀ c, s.connections.get? p.recipient = some c → Freed store.db f c) :
    Base g (s.close key p store f) where
  store := hclosed.inv
  registry := by
    refine h.registry.of_cards hclosed.advance.tick (close_card hf) (Table.size_adjust _ _ _) rfl
      rfl rfl ?_
    intro w row hrow
    obtain ⟨row', hrow', -⟩ := hclosed.advance.grows.workspaces w row hrow
    exact ⟨row', hrow'⟩
  requests := by
    refine h.requests.shrink (close_kept hclosed hf).pending (close_kept hclosed hf).card
      hclosed.advance.grows ?_
    intro e he hkind k q hq hw hid
    obtain ⟨hw', hid'⟩ := (hclosed.kinds e he).2 hkind
    rw [hid', Option.some.injEq] at hid
    exact (close_pending.mp hq).1 (Prod.ext (hw.symm.trans hw') hid.symm)
  truthful := by
    intro hflight
    have ht := h.truthful hflight
    have hfreed := hfreed hflight
    have hbarrier : ∀ agentId, Barrier store.db agentId → Barrier s.db agentId :=
      fun _ hb => barrier_of_extends hclosed.advance hb
    constructor
    · intro k k' q q' hq hq'
      exact ht.single k k' q q' (close_pending.mp hq).2 (close_pending.mp hq').2
    · intro k q c' d hq hc' hd
      obtain ⟨hk, hq⟩ := close_pending.mp hq
      rcases close_connection hc' with ⟨-, hc⟩ | ⟨c, hid, -, -⟩
      · exact ht.working k q c' d hq hc hd
      · exact absurd (ht.single k key q p hq hp hid) hk
    · intro id c' d hc' hd hready
      rcases close_connection hc' with ⟨-, hc⟩ | ⟨c, rfl, hc, rfl⟩
      · obtain ⟨hidle, hcancel, hjoined, hbar⟩ := ht.ready id c' d hc hd hready
        exact ⟨hidle, hcancel, hjoined, fun hb => hbar (hbarrier _ hb)⟩
      · exact (hfreed c hc).ready d hd hready
    · intro id c' hc' hcancel
      rcases close_connection hc' with ⟨-, hc⟩ | ⟨c, rfl, hc, rfl⟩
      · exact ht.canceling id c' hc hcancel
      · exact (hfreed c hc).canceling hcancel

omit [World] in
/-- The attempt of the closed request is the one that was stopped, and it is of no other. -/
theorem Live.owner (h : Live g s) (hreq : Requests s) (hp : s.pending.get? key = some p) {id : Uuid}
    {a : AttemptRow} (ha : s.db.attempts.get? id = some a) (hrun : a.status = .running)
    (hid : p.attemptId = some id) :
    key = (a.workspace, a.workRequestId) ∧ ∃ c, s.card p.recipient = some c ∧ c.runs a := by
  obtain ⟨q, c, hq, hqid, hc, hruns⟩ := h.running id a ha hrun
  obtain ⟨b, dispatch, hb, hd, hof⟩ := hreq.named key p id hp hid
  obtain ⟨b', dispatch', hb', hd', hof'⟩ := hreq.named _ q id hq hqid
  rw [hb] at hb'
  cases hb'
  have hkey : key = (a.workspace, a.workRequestId) :=
    hreq.tasks _ _ p q dispatch dispatch' hp hq hd hd' (hof.1.symm.trans hof'.1)
      (hof.2.symm.trans hof'.2)
  subst hkey
  rw [hp] at hq
  cases hq
  exact ⟨rfl, c, hc, hruns⟩

omit [World] in
theorem ConnectionState.runs.agentId {c : ConnectionState} {a : AttemptRow} (h : c.runs a) :
    c.agentId? = some a.agentId := by
  obtain ⟨claims, d, token, hrole, hagent, -⟩ := h
  simp [ConnectionState.agentId?, ConnectionState.descriptor?, hrole, hagent]

/-- Two requests whose recipients are the same agent have the same recipient. -/
theorem Base.recipient_eq (h : Base g s) {k k' : WorkspaceName × String} {q q' : PendingRequest}
    (hq : s.pending.get? k = some q) (hq' : s.pending.get? k' = some q') {c c' : ConnectionState}
    (hc : s.card q.recipient = some c) (hc' : s.card q'.recipient = some c')
    (heq : q.recipientId = q'.recipientId) : q.recipient = q'.recipient := by
  have h₁ := h.registry.agents _ c _ hc (h.requests.target k q c hq hc).2.2
  have h₂ := h.registry.agents _ c' _ hc' (h.requests.target k' q' c' hq' hc').2.2
  rw [heq, h₂] at h₁
  exact (Option.some.inj h₁).symm

theorem Live.close (h : Live g s) (hbase : Base g s) (hp : s.pending.get? key = some p)
    (hclosed : Closed s key p store es)
    (hf : ∀ c, s.connections.get? p.recipient = some c → (f c).card = c.card)
    (hfreed : g.flight → ∀ c, s.connections.get? p.recipient = some c → Freed store.db f c) :
    Live g (s.close key p store f) := by
  have hreq := hbase.requests
  have hadv := hclosed.advance
  -- The attempt that was stopped belongs to the request that is gone.
  have hstop : ∀ id a', store.db.attempts.get? id = some a' → a'.unconfirmed = true →
      ∃ a, s.db.attempts.get? id = some a ∧ a.Later a' ∧
        (a.unconfirmed = true ∨ (a.status = .running ∧ p.attemptId = some id)) :=
    fun id a' ha' hun => hadv.was_running ha' hun
  constructor
  · intro k q hq
    rw [close_card hf]
    exact h.requester k q (close_pending.mp hq).2
  · intro k q hq
    rw [close_card hf]
    exact h.recipient k q (close_pending.mp hq).2
  · intro w requestId hasked hopen
    have hevents : store.db.events = s.db.events ++ es := hadv.grows.events
    obtain ⟨r, hr, hrkind, hrw, hrid⟩ := hclosed.result
    have hne : (w, requestId) ≠ key := by
      rintro rfl
      refine hopen r ?_ hrkind hrw hrid
      change r ∈ store.db.events
      rw [hevents]
      exact List.mem_append_right _ hr
    obtain ⟨e, he, hkind, hw, hid⟩ := hasked
    change e ∈ store.db.events at he
    rw [hevents, List.mem_append] at he
    have hold : e ∈ s.db.events := by
      rcases he with he | he
      · exact he
      · exact absurd hkind (hclosed.kinds e he).1
    obtain ⟨q, hq⟩ := h.waiting w requestId ⟨e, hold, hkind, hw, hid⟩ (by
      intro x hx
      refine hopen x ?_
      change x ∈ store.db.events
      rw [hevents]
      exact List.mem_append_left _ hx)
    exact ⟨q, close_pending.mpr ⟨hne, hq⟩⟩
  · intro id a' ha' hrun
    obtain ⟨a, ha, hlater⟩ := hadv.back ha'
    obtain ⟨q, c, hq, hqid, hc, hruns⟩ := h.running id a ha (hlater.running hrun)
    refine ⟨q, c, close_pending.mpr ⟨?_, ?_⟩, hqid, (close_card hf _).trans hc,
      c.runs_of_origin hlater.origin hruns⟩
    · intro hk
      rw [← hlater.workspace, ← hlater.workRequestId] at hk
      rw [hk, hp] at hq
      cases hq
      exact hclosed.ended id a' hqid ha' hrun
    · rw [← hlater.workspace, ← hlater.workRequestId]
      exact hq
  · intro k q dispatch hq hd hdying hexempt id a' ha' hof
    obtain ⟨hk, hq⟩ := close_pending.mp hq
    by_contra hun
    rw [Bool.not_eq_false] at hun
    obtain ⟨a, ha, hlater, hcase⟩ := hstop id a' ha' hun
    have hof' := AttemptRow.isOf_of_origin hlater.origin.symm hof
    rcases hcase with hold | ⟨hrun, hid⟩
    · exact absurd (h.stopped k q dispatch hq hd hdying hexempt id a ha hof') (by simp [hold])
    · obtain ⟨b, dispatch', hb, hd', hof''⟩ := hreq.named key p id hp hid
      rw [ha] at hb
      cases hb
      exact hk (hreq.tasks k key q p dispatch dispatch' hq hp hd hd'
        (hof'.1.symm.trans hof''.1) (hof'.2.symm.trans hof''.2))
  · intro hflight id c' d hc' hd hbusy
    rcases close_connection hc' with ⟨hid, hc⟩ | ⟨c, rfl, hc, rfl⟩
    · rcases h.busy hflight id c' d hc hd hbusy with hcancel | ⟨k, q, hq, rfl⟩
      · exact .inl hcancel
      · refine .inr ⟨k, q, close_pending.mpr ⟨?_, hq⟩, rfl⟩
        rintro rfl
        rw [hp] at hq
        cases hq
        exact hid rfl
    · exact .inl ((hfreed hflight c hc).busy d hd hbusy)
  · intro hflight k q hq hdying hexempt
    obtain ⟨hk, hq⟩ := close_pending.mp hq
    rintro ⟨id, a', ha', hagent, hun⟩
    obtain ⟨a, ha, hlater, hcase⟩ := hstop id a' ha' hun
    rcases hcase with hold | ⟨hrun, hid⟩
    · exact h.confirmed hflight k q hq hdying hexempt
        ⟨id, a, ha, hlater.agentId.trans hagent, hold⟩
    · obtain ⟨-, c, hc, hruns⟩ := h.owner hreq hp ha hrun hid
      obtain ⟨c', hc'⟩ := (h.recipient k q hq).resolve_left hdying
      have hpid : p.recipientId = q.recipientId := by
        have htarget := (hreq.target key p c hp hc).2.2
        rw [hruns.agentId, Option.some.injEq] at htarget
        rw [← htarget, hlater.agentId, hagent]
      exact hk ((hbase.truthful hflight).single k key q p hq hp
        (hbase.recipient_eq hp hq hc hc' hpid).symm)

/-- Closing a request keeps the invariant. -/
theorem Good.close (h : Good g s) (hp : s.pending.get? key = some p)
    (hclosed : Closed s key p store es)
    (hf : ∀ c, s.connections.get? p.recipient = some c → (f c).card = c.card)
    (hfreed : g.flight → ∀ c, s.connections.get? p.recipient = some c → Freed store.db f c) :
    Good g (s.close key p store f) where
  base := h.base.close hp hclosed hf hfreed
  live := h.live.imp (close_kept hclosed hf).stuck fun hl => hl.close h.base hp hclosed hf hfreed

end close

end

end SessionRouter
