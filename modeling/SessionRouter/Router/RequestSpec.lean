import SessionRouter.Router.MembershipSpec

/-!
The handlers of requests: a request is stored, delivered and answered, and its recipient is busy
from the delivery until it is free again.
-/

namespace SessionRouter

variable [World] {s : RouterState} {F X : Prop}

omit [World] in
theorem ConnectionState.setBusy_card (db : Db) (busy : Bool) (c : ConnectionState) :
    (c.setBusy db busy).card = c.card := by
  cases hr : c.role with
  | none => simp [setBusy, card, mapDescriptor, hr]
  | some role => cases role <;> simp [setBusy, card, mapDescriptor, hr]

omit [World] in
theorem ConnectionState.setBusy_descriptor (db : Db) (busy : Bool) (c : ConnectionState) :
    (c.setBusy db busy).descriptor? = c.descriptor?.map (fun d => { d with
      status := if busy || c.canceling.isSome then .busy else .idle
      ready := !(busy || c.canceling.isSome) && !barred db d.agentId && c.storedReady &&
        c.workspace.isSome }) :=
  c.mapDescriptor_descriptor _

omit [World] in
theorem ConnectionState.setBusy_canceling (db : Db) (busy : Bool) (c : ConnectionState) :
    (c.setBusy db busy).canceling = c.canceling := c.mapDescriptor_canceling _

omit [World] in
theorem ConnectionState.setBusy_workspace (db : Db) (busy : Bool) (c : ConnectionState) :
    (c.setBusy db busy).workspace = c.workspace := c.mapDescriptor_workspace _

/-- A request that may be delivered. -/
structure Deliverable (s : RouterState) (p : PendingRequest) : Prop where
  requester : ∃ c, s.card p.requester = some c ∧ c.generation = p.requesterGeneration ∧
    c.workspace = some p.workspace
  recipient : ∃ c d, s.connections.get? p.recipient = some c ∧
    c.generation = p.recipientGeneration ∧ c.workspace = some p.workspace ∧
    c.descriptor? = some d ∧ d.agentId = p.recipientId ∧ d.status = .idle ∧ c.canceling = none
  unbarred : ¬ Barrier s.db p.recipientId
  fresh : s.pending.get? (p.workspace, p.requestId) = none
  unbound : p.attemptId = none
  task : ∀ dispatch, p.task = some dispatch →
    (∃ r, s.db.tasks.get? (p.workspace, dispatch.id) = some r) ∧
    (∀ key q d', s.pending.get? key = some q → q.task = some d' → q.workspace = p.workspace →
      d'.id ≠ dispatch.id) ∧
    ∀ id a, s.db.attempts.get? id = some a → a.isOf p.workspace dispatch.id →
      a.unconfirmed = false

/-- The state after a request was stored and its recipient marked busy. -/
def RouterState.deliver (s : RouterState) (t : Tx) (p : PendingRequest) : RouterState :=
  { s.commit t with
    pending := s.pending.put (p.workspace, p.requestId) p
    connections := s.connections.adjust p.recipient (ConnectionState.setBusy t.db true) }

/-- The request was stored. -/
structure Requested (s : RouterState) (t : Tx) (p : PendingRequest) (e : WorkspaceEvent) :
    Prop where
  advance : Advance s.store.tx t [e] noAttempt
  kind : e.kind = .request
  workspace : e.workspace = p.workspace
  requestId : e.requestId = some p.requestId
  unasked : ¬ Asked s.db p.workspace (some p.requestId)

section deliver

variable {t : Tx} {p : PendingRequest} {e : WorkspaceEvent} {g : Phase}

omit [World] in
theorem deliver_pending {key : WorkspaceName × String} {q : PendingRequest}
    (h : (s.deliver t p).pending.get? key = some q) :
    (key = (p.workspace, p.requestId) ∧ q = p) ∨
      (key ≠ (p.workspace, p.requestId) ∧ s.pending.get? key = some q) := by
  change (s.pending.put (p.workspace, p.requestId) p).get? key = some q at h
  rw [Table.get?_put] at h
  split at h
  · next heq =>
    cases h
    exact .inl ⟨heq, rfl⟩
  · next hne => exact .inr ⟨hne, h⟩

omit [World] in
theorem deliver_old {key : WorkspaceName × String} {q : PendingRequest} (hd : Deliverable s p)
    (hq : s.pending.get? key = some q) : (s.deliver t p).pending.get? key = some q := by
  change (s.pending.put (p.workspace, p.requestId) p).get? key = some q
  rw [Table.get?_put_ne]
  · exact hq
  · rintro rfl
    rw [hd.fresh] at hq
    cases hq

omit [World] in
theorem deliver_card (i : Uuid) : (s.deliver t p).card i = s.card i :=
  card_adjust (s := s) (fun c _ => c.setBusy_card t.db true) i

theorem Requests.deliver (h : Requests s) (hinv : StoreInv s.store) (hd : Deliverable s p)
    (hr : Requested s t p e) : Requests (s.deliver t p) := by
  have hevents : t.db.events = s.db.events ++ [e] := hr.advance.grows.events
  have hgrows : Extends s.db t.db [e] := hr.advance.grows
  constructor
  · intro key q hq
    rcases deliver_pending hq with ⟨rfl, rfl⟩ | ⟨-, hq⟩
    · rfl
    · exact h.keyed key q hq
  · intro key q hq
    rcases deliver_pending hq with ⟨rfl, rfl⟩ | ⟨-, hq⟩
    · exact ⟨e, by change e ∈ t.db.events; simp [hevents], hr.kind, hr.workspace, hr.requestId⟩
    · obtain ⟨x, hx, hrest⟩ := h.asked key q hq
      exact ⟨x, by change x ∈ t.db.events; simp [hevents, hx], hrest⟩
  · intro key q hq x hx hkind
    change x ∈ t.db.events at hx
    rw [hevents, List.mem_append, List.mem_singleton] at hx
    rcases hx with hx | rfl
    · rcases deliver_pending hq with ⟨rfl, rfl⟩ | ⟨-, hq⟩
      · intro hw hid
        have hasked := hinv.db.journal.asked x hx hkind
        rw [hw, hid] at hasked
        exact hr.unasked hasked
      · exact h.unanswered key q hq x hx hkind
    · rw [hr.kind] at hkind
      cases hkind
  · intro key q c hq hc
    rw [deliver_card] at hc
    rcases deliver_pending hq with ⟨rfl, rfl⟩ | ⟨-, hq⟩
    · obtain ⟨c', hc', hgen, hw⟩ := hd.requester
      rw [hc, Option.some.injEq] at hc'
      subst hc'
      exact ⟨hgen, hw⟩
    · exact h.source key q c hq hc
  · intro key q c hq hc
    rw [deliver_card] at hc
    rcases deliver_pending hq with ⟨rfl, rfl⟩ | ⟨-, hq⟩
    · obtain ⟨c', d, hc', hgen, hw, hdesc, hid, -⟩ := hd.recipient
      rw [RouterState.card_eq hc', Option.some.injEq] at hc
      subst hc
      refine ⟨by simpa using hgen, by simpa using hw, ?_⟩
      rw [ConnectionState.card_agentId, ConnectionState.agentId?, hdesc, Option.map_some, hid]
    · exact h.target key q c hq hc
  · intro key q id hq hid
    rcases deliver_pending hq with ⟨rfl, rfl⟩ | ⟨-, hq⟩
    · rw [hd.unbound] at hid
      cases hid
    · obtain ⟨a, dispatch, ha, htask, hof⟩ := h.named key q id hq hid
      obtain ⟨a', ha', hlater⟩ := hgrows.attempts id a ha
      exact ⟨a', dispatch, ha', htask, AttemptRow.isOf_of_origin hlater.origin hof⟩
  · intro key q dispatch hq htask
    have hrow : ∃ r, s.db.tasks.get? (q.workspace, dispatch.id) = some r := by
      rcases deliver_pending hq with ⟨rfl, rfl⟩ | ⟨-, hq⟩
      · exact (hd.task dispatch htask).1
      · exact h.dispatched key q dispatch hq htask
    obtain ⟨r, hrow⟩ := hrow
    obtain ⟨r', hrow', -⟩ := hgrows.tasks _ r hrow
    exact ⟨r', hrow'⟩
  · intro key key' q q' dispatch dispatch' hq hq' htask htask' hw hid
    rcases deliver_pending hq with ⟨rfl, rfl⟩ | ⟨-, hold⟩
    · rcases deliver_pending hq' with ⟨rfl, rfl⟩ | ⟨-, hold'⟩
      · rfl
      · exact absurd hid.symm ((hd.task dispatch htask).2.1 key' q' dispatch' hold' htask' hw.symm)
    · rcases deliver_pending hq' with ⟨rfl, rfl⟩ | ⟨-, hold'⟩
      · exact absurd hid ((hd.task dispatch' htask').2.1 key q dispatch hold htask hw)
      · exact h.tasks key key' q q' dispatch dispatch' hold hold' htask htask' hw hid

omit [World] in
/-- The connections after a delivery: the recipient is busy. -/
theorem deliver_connection {id : Uuid} {c' : ConnectionState} (hd : Deliverable s p)
    (hc' : (s.deliver t p).connections.get? id = some c') :
    (id ≠ p.recipient ∧ s.connections.get? id = some c') ∨
      (id = p.recipient ∧ c'.canceling = none ∧
        ∀ d, c'.descriptor? = some d → d.status = .busy ∧ d.ready = false) := by
  change (s.connections.adjust p.recipient (ConnectionState.setBusy t.db true)).get? id = some c'
    at hc'
  rw [Table.get?_adjust] at hc'
  split at hc'
  · next heq =>
    obtain ⟨c, d, hc, -, -, -, -, -, hcancel⟩ := hd.recipient
    rw [hc, Option.map_some, Option.some.injEq] at hc'
    subst hc'
    refine .inr ⟨heq, by rw [ConnectionState.setBusy_canceling, hcancel], fun d hdesc => ?_⟩
    rw [ConnectionState.setBusy_descriptor] at hdesc
    obtain ⟨d₀, -, rfl⟩ := Option.map_eq_some_iff.mp hdesc
    exact ⟨rfl, rfl⟩
  · next hne => exact .inl ⟨hne, hc'⟩

theorem Truthful.deliver (h : Truthful s) (hd : Deliverable s p) (hr : Requested s t p e) :
    Truthful (s.deliver t p) := by
  -- The recipient was idle, so it works on nothing else.
  have hfree : ∀ key q, s.pending.get? key = some q → q.recipient ≠ p.recipient := by
    intro key q hq heq
    obtain ⟨c, d, hc, -, -, hdesc, -, hidle, -⟩ := hd.recipient
    have := (h.working key q c d hq (heq ▸ hc) hdesc).1
    rw [hidle] at this
    cases this
  constructor
  · intro key key' q q' hq hq' heq
    rcases deliver_pending hq with ⟨rfl, rfl⟩ | ⟨-, hold⟩
    · rcases deliver_pending hq' with ⟨rfl, rfl⟩ | ⟨-, hold'⟩
      · rfl
      · exact absurd heq.symm (hfree key' q' hold')
    · rcases deliver_pending hq' with ⟨rfl, rfl⟩ | ⟨-, hold'⟩
      · exact absurd heq (hfree key q hold)
      · exact h.single key key' q q' hold hold' heq
  · intro key q c d hq hc hdesc
    rcases deliver_connection hd hc with ⟨hne, hc⟩ | ⟨-, hcancel, hbusy⟩
    · rcases deliver_pending hq with ⟨-, rfl⟩ | ⟨-, hold⟩
      · exact absurd rfl hne
      · exact h.working key q c d hold hc hdesc
    · exact ⟨(hbusy d hdesc).1, hcancel⟩
  · intro id c d hc hdesc hready
    rcases deliver_connection hd hc with ⟨-, hc⟩ | ⟨-, -, hbusy⟩
    · obtain ⟨hidle, hcancel, hjoined, hbar⟩ := h.ready id c d hc hdesc hready
      exact ⟨hidle, hcancel, hjoined, fun hb => hbar (barrier_of_extends hr.advance hb)⟩
    · rw [(hbusy d hdesc).2] at hready
      cases hready
  · intro id c hc hcancel
    rcases deliver_connection hd hc with ⟨-, hc⟩ | ⟨-, hnone, -⟩
    · exact h.canceling id c hc hcancel
    · simp [hnone] at hcancel

theorem Live.deliver (h : Live (.rest F) s) (hd : Deliverable s p) (hr : Requested s t p e) :
    Live (.rest F) (s.deliver t p) := by
  have hevents : t.db.events = s.db.events ++ [e] := hr.advance.grows.events
  have hstop : ∀ id a', t.db.attempts.get? id = some a' → a'.unconfirmed = true →
      ∃ a, s.db.attempts.get? id = some a ∧ a.Later a' ∧ a.unconfirmed = true := by
    intro id a' ha' hun
    obtain ⟨a, ha, hlater, hold | ⟨-, hfalse⟩⟩ := hr.advance.was_running ha' hun
    · exact ⟨a, ha, hlater, hold⟩
    · exact hfalse.elim
  constructor
  · intro key q hq
    rw [deliver_card]
    rcases deliver_pending hq with ⟨-, rfl⟩ | ⟨-, hold⟩
    · obtain ⟨c, hc, -⟩ := hd.requester
      exact .inr ⟨c, hc⟩
    · exact h.requester key q hold
  · intro key q hq
    rw [deliver_card]
    rcases deliver_pending hq with ⟨-, rfl⟩ | ⟨-, hold⟩
    · obtain ⟨c, d, hc, -⟩ := hd.recipient
      exact .inr ⟨c.card, RouterState.card_eq hc⟩
    · exact h.recipient key q hold
  · intro w requestId hasked hopen
    by_cases hnew : (w, requestId) = (p.workspace, p.requestId)
    · refine ⟨p, ?_⟩
      change (s.pending.put (p.workspace, p.requestId) p).get? (w, requestId) = some p
      rw [hnew]
      exact Table.get?_put_self _ _ _
    · obtain ⟨x, hx, hkind, hw, hid⟩ := hasked
      change x ∈ t.db.events at hx
      rw [hevents, List.mem_append, List.mem_singleton] at hx
      have hold : x ∈ s.db.events := by
        rcases hx with hx | rfl
        · exact hx
        · rw [hr.requestId, Option.some.injEq] at hid
          exact absurd (Prod.ext (hw.symm.trans hr.workspace) hid.symm) hnew
      obtain ⟨q, hq⟩ := h.waiting w requestId ⟨x, hold, hkind, hw, hid⟩ fun y hy => hopen y (by
        change y ∈ t.db.events
        simp [hevents, hy])
      exact ⟨q, deliver_old hd hq⟩
  · intro id a' ha' hrun
    obtain ⟨a, ha, hlater⟩ := hr.advance.back ha'
    obtain ⟨q, c, hq, hid, hc, hruns⟩ := h.running id a ha (hlater.running hrun)
    refine ⟨q, c, ?_, hid, (deliver_card _).trans hc, c.runs_of_origin hlater.origin hruns⟩
    rw [← hlater.workspace, ← hlater.workRequestId]
    exact deliver_old hd hq
  · intro key q dispatch hq htask hdying hexempt id a' ha' hof
    by_contra hun
    rw [Bool.not_eq_false] at hun
    obtain ⟨a, ha, hlater, hold⟩ := hstop id a' ha' hun
    have hof' := AttemptRow.isOf_of_origin hlater.origin.symm hof
    rcases deliver_pending hq with ⟨-, rfl⟩ | ⟨-, hq⟩
    · rw [(hd.task dispatch htask).2.2 id a ha hof'] at hold
      cases hold
    · rw [h.stopped key q dispatch hq htask hdying hexempt id a ha hof'] at hold
      cases hold
  · intro hflight id c d hc hdesc hbusy
    rcases deliver_connection hd hc with ⟨-, hc⟩ | ⟨rfl, -, -⟩
    · refine (h.busy hflight id c d hc hdesc hbusy).imp_right ?_
      rintro ⟨key, q, hq, hid⟩
      exact ⟨key, q, deliver_old hd hq, hid⟩
    · exact .inr ⟨_, p, Table.get?_put_self _ _ _, rfl⟩
  · intro hflight key q hq hdying hexempt
    rintro ⟨id, a', ha', hagent, hun⟩
    obtain ⟨a, ha, hlater, hold⟩ := hstop id a' ha' hun
    rcases deliver_pending hq with ⟨-, rfl⟩ | ⟨-, hq⟩
    · exact hd.unbarred ⟨id, a, ha, hlater.agentId.trans hagent,
        (AttemptRow.barrier_iff a).mpr (.inr hold)⟩
    · exact h.confirmed hflight key q hq hdying hexempt
        ⟨id, a, ha, hlater.agentId.trans hagent, hold⟩

/-- A delivered request keeps the invariant. -/
theorem Good.deliver (h : Good (.rest F) s) (hd : Deliverable s p) (hr : Requested s t p e) :
    Good (.rest F) (s.deliver t p) where
  base :=
    { store := h.base.store.commit hr.advance.inv hr.advance.tick
      registry := by
        refine h.base.registry.of_cards hr.advance.tick deliver_card (Table.size_adjust _ _ _) rfl
          rfl rfl ?_
        intro w row hrow
        obtain ⟨row', hrow', -⟩ := hr.advance.grows.workspaces w row hrow
        exact ⟨row', hrow'⟩
      requests := h.base.requests.deliver h.base.store hd hr
      truthful := fun hflight => (h.base.truthful hflight).deliver hd hr }
  live := by
    refine h.live.imp ?_ fun hl => hl.deliver hd hr
    exact fun hstuck => ⟨Extends.exhausted hr.advance.grows hstuck.1, hstuck.2⟩

end deliver

section requests

variable {id : Uuid} {generation : ℕ}

/-- An agent that passes the check cancels nothing and has confirmed every stop. -/
theorem requireUnblocked_spec {connection : Option ConnectionState} {Q : Unit → RouterState → Prop}
    (h : Good (.rest F) s)
    (hQ : (∀ c agentId, connection = some c → c.agentId? = some agentId →
      ¬ Unconfirmed s.db agentId) → Q () s) :
    Actor.wp (Router.requireUnblocked connection) Q (Refused F X) s := by
  unfold Router.requireUnblocked
  simp only [Actor.wp_bind]
  refine guard_requireThat h (by simp) fun _ => ?_
  cases hagent : connection.bind ConnectionState.agentId? with
  | none =>
    refine hQ fun c agentId hc ha => ?_
    rw [hc, Option.bind_some, ha] at hagent
    cases hagent
  | some agentId =>
    obtain ⟨running, stopPending, hq, hun, -⟩ :=
      agentExecutionBarriers_spec h.base.store.db.tasks agentId
    simp only [Actor.wp_bind, Router.wp_lift]
    refine Router.wp_query hq ?_
    refine guard_requireThat h (by simp) fun hfree => ?_
    refine hQ fun c agentId' hc ha => ?_
    rw [hc, Option.bind_some, ha, Option.some.injEq] at hagent
    subst hagent
    intro hu
    have hstop : stopPending = false := by simpa using hfree
    rw [hun.mpr hu] at hstop
    cases hstop

theorem findRecipient_spec {workspace : WorkspaceName} {recipientId : String}
    {Q : Uuid × ConnectionState → RouterState → Prop} (h : Good (.rest F) s)
    (hQ : ∀ recipient c d, s.connections.get? recipient = some c → c.workspace = some workspace →
      c.descriptor? = some d → d.agentId = recipientId → d.status = .idle → c.canceling = none →
      ¬ Barrier s.db recipientId → Q (recipient, c) s) :
    Actor.wp (Router.findRecipient workspace recipientId) Q (Refused F X) s := by
  unfold Router.findRecipient
  simp only [Actor.wp_bind, Actor.wp_get, Actor.wp_pure]
  refine guard_orFail h (by simp) fun recipient hrecipient => ?_
  refine guard_orFail h (by simp) fun c hc => ?_
  refine guard_requireThat h (by simp) fun hw => ?_
  refine guard_orFail h (by simp) fun d hd => ?_
  refine guard_requireThat h (by simp) fun hfree => ?_
  simp only [Bool.not_eq_true', Bool.or_eq_false_iff, Option.isSome_eq_false_iff,
    Option.isNone_iff_eq_none] at hfree
  have hidle : d.status = .idle := by
    have hne : d.status ≠ .busy := of_decide_eq_false hfree.2
    cases hstatus : d.status with
    | idle => rfl
    | busy => exact absurd hstatus hne
  have hagent : d.agentId = recipientId := by
    obtain ⟨k, hk, hagent⟩ := (h.base.registry.primaries recipientId recipient
      hrecipient).resolve_left (by simp [Phase.rest])
    rw [RouterState.card_eq hc, Option.some.injEq] at hk
    subst hk
    rw [ConnectionState.card_agentId, ConnectionState.agentId?, hd, Option.map_some,
      Option.some.injEq] at hagent
    exact hagent
  obtain ⟨blocked, hq, hbar⟩ := agentHasExecutionBarrier_spec h.base.store.db.tasks d.agentId
  rw [Router.wp_lift]
  refine Router.wp_query hq ?_
  refine guard_requireThat h (by simp) fun hunblocked => ?_
  refine guard_requireThat h (by simp) fun _ => ?_
  refine hQ recipient c d hc (of_decide_eq_true hw) hd hagent hidle hfree.1 fun hb => ?_
  rw [hbar.mpr (hagent ▸ hb)] at hunblocked
  cases hunblocked

/-- Storing and delivering a request. -/
theorem deliverRequest_spec {p : PendingRequest} {content : String} {timeoutMs : ℕ}
    {Q : WorkspaceEvent × Bool → RouterState → Prop} (h : Good (.rest F) s)
    (hd : Deliverable s p) (hactor : ValidActor p.requesterId)
    (hQ : ∀ event sent s', Good (.rest F) s' → Q (event, sent) s') :
    Actor.wp (Router.deliverRequest p content timeoutMs) Q (Refused F X) s := by
  obtain ⟨c, hc, -, hw⟩ := hd.requester
  obtain ⟨-, row, hrow⟩ := h.base.registry.joined _ c _ hc hw
  have hdispatch : ∀ id, p.task.map TaskDispatch.id = some id → 1 ≤ id ∧ id ≤ maxSafeInteger := by
    intro id hid
    obtain ⟨dispatch, htask, rfl⟩ := Option.map_eq_some_iff.mp hid
    obtain ⟨r, hr⟩ := (hd.task dispatch htask).1
    exact (TaskRow.check_iff.mp (h.base.store.db.tasks.locals _ _ r hr).check).1
  unfold Router.deliverRequest
  simp only [Actor.wp_bind, Router.wp_lift, Router.wp_inStore, Actor.wp_pure]
  refine Txn.wp_mono (appendRequest_spec h.base.store.db hactor hrow hdispatch) ?_ ?_
  · rintro event t ⟨hadv, hkind, hw', hid, hunasked⟩
    have hgood := h.deliver hd ⟨hadv, hkind, hw', hid, hunasked⟩
    rw [Actor.wp_modify, Router.wp_setBusy, Router.wp_ask]
    change (∀ a, _ → Actor.wp _ _ _ (s.deliver t p)) ∧ _
    refine ⟨fun sender _ => ?_, fun e he => .of_good hgood (actorId_error he)⟩
    exact Router.send_spec fun sent s' hq => hQ event sent s' (hgood.quiet hq)
  · exact fun e he => .of_exhausted h fun hcode => .inl (he hcode)

/-- What a request needs to know about the task it dispatches. -/
def Dispatchable (s : RouterState) (w : WorkspaceName) (task : Option TaskDispatch) : Prop :=
  ∀ dispatch, task = some dispatch → (∃ r, s.db.tasks.get? (w, dispatch.id) = some r) ∧
    (∀ key q d', s.pending.get? key = some q → q.task = some d' → q.workspace = w →
      d'.id ≠ dispatch.id) ∧
    ∀ id a, s.db.attempts.get? id = some a → a.isOf w dispatch.id → a.unconfirmed = false

/-- A connection is in the workspace it acts in, also as a delegate. -/
theorem Registry.current_workspace {g : Phase} (h : Registry g s) {c : ConnectionState}
    (hc : s.connections.get? id = some c) {w : WorkspaceName}
    (hw : s.currentWorkspace id = .ok w) : c.workspace = some w := by
  obtain ⟨k, hk, hkw⟩ := currentWorkspace_ok hw
  by_cases hdelegate : c.isDelegate = true
  · have hrole : ∃ ownerId, c.role = some (.delegate ownerId) := by
      unfold ConnectionState.isDelegate at hdelegate
      split at hdelegate
      · next ownerId hrole => exact ⟨ownerId, hrole⟩
      · cases hdelegate
    obtain ⟨ownerId, hrole⟩ := hrole
    obtain ⟨-, owner, p, howner, hp, -, hpw⟩ := h.delegates id c.card ownerId
      (RouterState.card_eq hc) ((c.card_delegate ownerId).mpr hrole)
    have heff : s.effective id = owner := by
      simp [RouterState.effective, RouterState.effectivePrimary, hc, hrole, howner]
    rw [heff] at hk
    rw [RouterState.card_eq hk, Option.some.injEq] at hp
    subst hp
    simpa [hkw] using hpw
  · rw [effective_self hc (by simpa using hdelegate), hc, Option.some.injEq] at hk
    rw [hk, hkw]

theorem startRequest_spec {requestId recipientId content : String} {timeoutMs : Option ℕ}
    {task : Option TaskDispatch} {c : ConnectionState} (h : Good (.rest F) s)
    (hc : s.connections.get? id = some c) (hgen : c.generation = generation)
    (htask : ∀ w, s.currentWorkspace id = .ok w → Dispatchable s w task) :
    Handles F X (Router.startRequest id generation requestId recipientId content timeoutMs task)
      s := by
  unfold Handles Router.startRequest
  simp only [Actor.wp_bind]
  refine guard_ask h (fun _ he => currentWorkspace_error he) fun workspace hw => ?_
  simp only [Actor.wp_read]
  refine requireUnblocked_spec h fun _ => ?_
  refine guard_requireThat h (by simp) fun _ => ?_
  refine guard_requireThat h (by simp) fun hfresh => ?_
  refine findRecipient_spec h fun recipient k d hk hkw hd hagent hidle hcancel hbar => ?_
  refine guard_ask h (fun _ he => actorId_error he) fun requesterId hactor => ?_
  refine Router.nowInstant_spec fun now s₁ hq₁ => ?_
  have h₁ := h.quiet hq₁
  have hdb : s₁.db = s.db := hq₁.db
  refine deliverRequest_spec h₁ ?_ (h.base.actor_valid hactor) fun event sent s₂ h₂ => ?_
  · refine ⟨⟨c.card, ?_, by simpa using hgen, ?_⟩, ⟨k, d, ?_, rfl, hkw, hd, hagent, hidle,
      hcancel⟩, ?_, ?_, rfl, ?_⟩
    · rw [hq₁.card]
      exact RouterState.card_eq hc
    · rw [ConnectionState.card_workspace]
      exact h.base.registry.current_workspace hc hw
    · rw [hq₁.connections]
      exact hk
    · rw [hdb]
      exact hbar
    · rw [hq₁.pending]
      simpa [Table.contains] using hfresh
    · rw [hdb, hq₁.pending]
      exact htask workspace hw
  · rw [Actor.wp_ite]
    refine ⟨fun _ => ?_, fun _ => ?_⟩
    · simp only [Actor.wp_bind]
      exact Router.send_spec fun _ s₃ hq₃ => fanout_handled (h₂.quiet hq₃)
    · simp only [Actor.wp_bind]
      refine Actor.wp_mono (fanout_handled h₂) (fun _ s₃ h₃ => ?_) fun _ _ he => he
      rw [Router.wp_lift]
      refine Actor.wp_mono (finishPendingError_spec h₃) (fun _ s₄ h₄ => ?_)
        fun _ _ hfail => .of_failed hfail
      exact .of_good h₄.1 (by simp)

/-- A connection that is marked free is busy only while it cancels work. -/
theorem ConnectionState.setBusy_freed {db : Db} {tick : ℕ} {c : ConnectionState} {g : Phase}
    (hdb : DbInv db tick) (h : Base g s) (hflight : g.flight)
    (hc : s.connections.get? id = some c) : Freed db (ConnectionState.setBusy db false) c := by
  have hdesc := c.setBusy_descriptor db false
  refine ⟨?_, ?_, ?_⟩
  · intro d hd hbusy
    rw [hdesc] at hd
    obtain ⟨d₀, -, rfl⟩ := Option.map_eq_some_iff.mp hd
    rw [ConnectionState.setBusy_canceling]
    by_contra hnone
    simp [hnone] at hbusy
  · intro d hd hready
    rw [hdesc] at hd
    obtain ⟨d₀, -, rfl⟩ := Option.map_eq_some_iff.mp hd
    simp only [Bool.false_or, Bool.and_eq_true, Bool.not_eq_true',
      Option.isSome_eq_false_iff, Option.isNone_iff_eq_none] at hready
    obtain ⟨⟨⟨hcancel, hbarred⟩, -⟩, hw⟩ := hready
    rw [ConnectionState.setBusy_canceling, ConnectionState.setBusy_workspace]
    refine ⟨by simp [hcancel], hcancel, hw, fun hb => ?_⟩
    rw [(SessionRouter.barred_iff hdb.tasks d₀.agentId).mpr hb] at hbarred
    cases hbarred
  · intro hcancel
    rw [ConnectionState.setBusy_canceling] at hcancel
    obtain ⟨d, hd, -, hw⟩ := (h.truthful hflight).canceling id c hc hcancel
    rw [ConnectionState.setBusy_workspace, hdesc, hd]
    exact ⟨_, rfl, by simp [hcancel], hw⟩

theorem finishReply_spec {requestId : String} {ok : Bool} {content : Option String}
    {error : Option RouterErrorCode} (h : Good (.rest F) s) :
    Handles F X (Router.finishReply id generation requestId ok content error) s := by
  unfold Handles Router.finishReply
  simp only [Actor.wp_bind]
  refine guard_ask h (fun _ he => currentWorkspace_error he) fun workspace hw => ?_
  rw [Actor.wp_read]
  refine guard_orFail h (by simp) fun p hp => ?_
  refine guard_requireThat h (by simp) fun hrecipient => ?_
  simp only [Bool.and_eq_true, decide_eq_true_eq] at hrecipient
  obtain ⟨rfl, hgen⟩ := hrecipient
  have hreq := h.base.requests
  obtain ⟨hpw, hpid⟩ := Prod.mk.inj (hreq.keyed _ p hp)
  -- The recipient replies itself, so it is connected.
  obtain ⟨c, hc⟩ : ∃ c, s.connections.get? p.recipient = some c := by
    obtain ⟨k, hk, -⟩ := currentWorkspace_ok hw
    cases hc : s.connections.get? p.recipient with
    | none =>
      rw [RouterState.effective, RouterState.effectivePrimary, hc] at hk
      simp [hc] at hk
    | some c => exact ⟨c, rfl⟩
  have hagent := h.base.recipient_agent hp hc
  have hactor : ValidActor p.recipientId := by
    have hvalid := (c.card_actorsValid).mp (h.base.registry.actors _ _ (RouterState.card_eq hc))
    obtain ⟨claims, d, token, hrole, hid⟩ := ConnectionState.role_of_agentId hagent.2.2
    simpa [ConnectionState.actorsValid, hrole, hid] using hvalid
  rw [Actor.wp_modify]
  have hbase₁ := h.base.dropped (workspace, requestId)
  have hkept₁ := dropped_kept (s := s) (workspace, requestId)
  rw [Router.wp_lift]
  refine Actor.wp_mono (closeAttempt_spec hbase₁.store) ?_ ?_
  · rintro ⟨taskEvent, attemptChange⟩ s₂ ⟨h₂, hkinds, hended, hchange⟩
    have hbase₂ := hbase₁.stored h₂ fun e he => by simp [hkinds e he]
    have hevents : s₂.db.events = s.db.events ++ taskEvent.toList := h₂.advance.grows.events
    rw [Router.wp_lift]
    refine Actor.wp_mono (appendResult_spec hbase₂.store rfl ?_ ?_ ?_) ?_ ?_
    · refine ⟨hactor, h.base.dispatch_valid hp, ?_⟩
      cases ok <;> simp [eventShape, EventInsert.toEvent, Router.replyOutcome]
    · obtain ⟨e, he, hrest⟩ := hreq.asked _ p hp
      exact ⟨e, by rw [hevents]; exact List.mem_append_left _ he, hpid ▸ hrest⟩
    · intro e he hkind
      rw [hevents, List.mem_append] at he
      rcases he with he | he
      · have := hreq.unanswered _ p hp e he hkind
        exact hpid ▸ this
      · rw [hkinds e he] at hkind
        cases hkind
    · rintro event s₃ ⟨h₃, hkind, hew, heid⟩
      have hevent : event.kind = .result ∧ event.workspace = (workspace, requestId).1 ∧
          event.requestId = some (workspace, requestId).2 := ⟨hkind, hew, by rw [heid, hpid]⟩
      have hclosed := Closed.of_stored (s := s) h₂ hkinds hended h₃ hevent
      obtain ⟨hgood, hkept, -⟩ := h.closed hp h₂ h₃ hclosed
        (f := ConnectionState.setBusy s₃.db false) (fun c _ => c.setBusy_card _ _)
        fun hflight c hc => ConnectionState.setBusy_freed h₃.store.db h.base hflight hc
      rw [Router.wp_setBusy]
      refine Router.send_spec fun _ s₄ hq₄ => ?_
      rw [Router.wp_lift]
      refine notifyClosed_spec (hgood.quiet hq₄).base.store ?_ fun s₅ hq₅ => ?_
      · intro w attempt heq
        obtain ⟨i, a, hi, ha, rfl, htask⟩ := hchange w attempt heq
        obtain ⟨b, dispatch, hb, hdispatch, hof⟩ := hreq.named _ p i hp hi
        change s.db.attempts.get? i = some a at ha
        rw [ha] at hb
        cases hb
        refine ⟨hof.1.trans hpw.symm, ?_⟩
        simp [hdispatch, ← htask, hof.2]
      · have hq := hq₄.trans hq₅
        refine Actor.wp_mono (fanoutAll_handled (hgood.quiet hq)) ?_ fun _ _ he => he
        exact fun _ s₆ h₆ => fanout_handled h₆
    · rintro e s' ⟨rfl, he, hx⟩
      exact .of_failed (s := s) ⟨he, hbase₂, hx, hkept₁.trans h₂.kept⟩
  · rintro e s' ⟨rfl, he, hx⟩
    exact .of_failed (s := s) ⟨he, hbase₁, hx, hkept₁⟩

theorem requireWorkspaceMatch_spec {workspace : WorkspaceName} {Q : Unit → RouterState → Prop}
    (h : Good (.rest F) s) (hQ : s.currentWorkspace id = .ok workspace → Q () s) :
    Actor.wp (Router.requireWorkspaceMatch id workspace) Q (Refused F X) s := by
  unfold Router.requireWorkspaceMatch
  simp only [Actor.wp_bind]
  refine guard_ask h (fun _ he => currentWorkspace_error he) fun current hcurrent => ?_
  refine guard_require h (by simp) fun heq => hQ ?_
  rw [hcurrent, of_decide_eq_true heq]

omit [World] in
/-- A freed connection without work is truthful. -/
theorem Freed.honest {g : Phase} {f : ConnectionState → ConnectionState} {c : ConnectionState}
    (h : Freed s.db f c) (hnone : ∀ key p, s.pending.get? key = some p → p.recipient ≠ id) :
    Honest g s id (f c) where
  working := fun key p _ hp hid => absurd hid (hnone key p hp)
  ready := h.ready
  canceling := h.canceling
  busy := fun _ d hd hbusy => .inl (h.busy d hd hbusy)

omit [World] in
theorem idleAgent_ok {expected : CancelingWork} {agentId : String}
    (h : Router.idleAgent s id generation expected = .ok agentId) :
    ∃ c d, s.connections.get? id = some c ∧ c.descriptor? = some d ∧ d.agentId = agentId ∧
      c.canceling = some expected := by
  unfold Router.idleAgent at h
  dsimp only at h
  split at h
  · cases h
  · next c hc =>
    split at h
    · cases h
    · next agentId' hagent =>
      obtain ⟨d, hd, hid⟩ := Option.map_eq_some_iff.mp hagent
      split at h
      · next hmatch =>
        cases h
        exact ⟨c, d, hc, hd, hid, hmatch.2⟩
      · split at h
        · cases h
        · cases h

omit [World] in
theorem idleAgent_error {expected : CancelingWork} {e : ActorError}
    (h : Router.idleAgent s id generation expected = .error e) : e.code ≠ .storageError := by
  unfold Router.idleAgent at h
  dsimp only at h
  split at h
  · cases h
    simp
  · split at h
    · cases h
      simp
    · split at h
      · cases h
      · split at h
        · cases h
          simp
        · cases h
          simp

omit [World] in
theorem ConnectionState.idle_card (ready blocked : Bool) (c : ConnectionState) :
    (c.idle ready blocked).card = c.card := by
  cases hr : c.role with
  | none => simp [idle, card, mapDescriptor, hr]
  | some role => cases role <;> simp [idle, card, mapDescriptor, hr]

omit [World] in
/-- A connection that reports its cancelled work as ended is free. -/
theorem ConnectionState.idle_freed {db : Db} {ready blocked : Bool} {c : ConnectionState}
    {d : AgentDescriptor} (hd : c.descriptor? = some d)
    (hblocked : blocked = true ↔ Barrier db d.agentId) :
    Freed db (ConnectionState.idle ready blocked) c := by
  have hdesc : (c.idle ready blocked).descriptor? = some { d with
      status := .idle
      ready := ready && !blocked && c.workspace.isSome } := by
    refine (c.mapDescriptor_descriptor _).trans ?_
    rw [hd]
    rfl
  refine ⟨?_, ?_, fun hcancel => by simp [idle] at hcancel⟩
  · intro d' hd' hbusy
    rw [hdesc, Option.some.injEq] at hd'
    subst hd'
    cases hbusy
  · intro d' hd' hready
    rw [hdesc, Option.some.injEq] at hd'
    subst hd'
    simp only [Bool.and_eq_true, Bool.not_eq_true'] at hready
    refine ⟨rfl, rfl, ?_, fun hb => ?_⟩
    · exact (congrArg Option.isSome (c.mapDescriptor_workspace _)).trans hready.2
    · rw [hblocked.mpr hb] at hready
      cases hready.1.2

theorem workIdle_spec {requestId workRequestId : String} {workspace : WorkspaceName}
    {task : Option TaskFence} {ready : Bool} (h : Good (.rest F) s) :
    Handles F X (Router.workIdle id generation requestId workspace workRequestId task ready) s := by
  unfold Handles Router.workIdle
  simp only [Actor.wp_bind, Actor.wp_pure]
  refine requireWorkspaceMatch_spec h fun _ => ?_
  refine guard_ask h (fun _ he => idleAgent_error he) fun agentId hagent => ?_
  obtain ⟨c, d, hc, hd, rfl, hcancel⟩ := idleAgent_ok hagent
  obtain ⟨blocked, hq, hbar⟩ := agentHasExecutionBarrier_spec h.base.store.db.tasks d.agentId
  rw [Router.wp_lift]
  refine Router.wp_query hq ?_
  rw [Router.wp_updateConnection]
  refine Router.send_spec fun _ s₁ hq₁ => Good.quiet ?_ hq₁
  refine h.touch (fun c _ => c.idle_card ready blocked) fun hflight c' hc' => ?_
  rw [hc, Option.some.injEq] at hc'
  subst hc'
  refine (ConnectionState.idle_freed hd hbar).honest fun key p hp hid => ?_
  -- An agent that cancels work has no pending request.
  have := ((h.base.truthful hflight).working key p c d hp (hid ▸ hc) hd).2
  rw [hcancel] at this
  cases this

omit [World] in
theorem hasWork_false (h : s.hasWork id = false) {key : WorkspaceName × String}
    {p : PendingRequest} (hp : s.pending.get? key = some p) : p.recipient ≠ id := by
  unfold RouterState.hasWork at h
  rw [List.any_eq_false] at h
  simpa using h (key, p) ((Table.mem_toList _ _ _).mpr hp)

/-- Freeing a connection that has no work. -/
theorem Good.freed {g : Phase} (h : Good g s)
    (hnone : g.flight → ∀ key p, s.pending.get? key = some p → p.recipient ≠ id) :
    Good g { s with
      connections := s.connections.adjust id (ConnectionState.setBusy s.db false) } :=
  h.touch (fun c _ => c.setBusy_card s.db false) fun hflight _ hc =>
    (ConnectionState.setBusy_freed h.base.store.db h.base hflight hc).honest (hnone hflight)

theorem freeIdle_spec {g : Phase} {Q : Unit → RouterState → Prop}
    {E : ActorError → RouterState → Prop} (h : Good g s)
    (hQ : ∀ s', Good g s' → s'.store = s.store → Q () s') :
    Actor.wp (Router.freeIdle id) Q E s := by
  unfold Router.freeIdle
  rw [Actor.wp_bind, Actor.wp_read, Actor.wp_ite]
  refine ⟨fun _ => hQ s h rfl, fun hidle => ?_⟩
  rw [Router.wp_setBusy]
  exact hQ _ (h.freed fun _ key p hp => hasWork_false (by simpa using hidle) hp) rfl

omit [World] in
/-- The attempt a handler just wrote is read back. -/
theorem readAttempt_spec {attemptId : Uuid} {workspace : WorkspaceName} {taskId : ℕ}
    {a : AttemptRow} {Q : TaskAttempt → RouterState → Prop} {E : ActorError → RouterState → Prop}
    (ha : s.db.attempts.get? attemptId = some a) (hof : a.isOf workspace taskId)
    (hQ : ∀ attempt, Q attempt s) :
    Actor.wp (Router.readAttempt workspace taskId attemptId) Q E s := by
  obtain ⟨found, hfound, hsome, -⟩ := executionAttempt_spec s.db attemptId
  obtain ⟨attempt, rfl, htask⟩ := hsome a ha
  unfold Router.readAttempt
  simp only [Actor.wp_bind, Router.wp_lift]
  refine Router.wp_query hfound ?_
  simp only [Actor.orFail, Actor.wp_pure, hof.1, htask, hof.2, decide_true, Bool.and_self,
    Actor.require, if_true]
  exact hQ attempt

omit [World] in
theorem agentIdentity_ok {agentId : String} {credentialId : Uuid}
    (h : Router.agentIdentity s id = .ok (agentId, credentialId)) :
    ∃ c claims d token, s.connections.get? id = some c ∧
      c.role = some (.agent claims d token) ∧ d.agentId = agentId ∧ claims.id = credentialId := by
  unfold Router.agentIdentity at h
  split at h
  · next claims d token hrole =>
    obtain ⟨c, hc, hr⟩ := Option.bind_eq_some_iff.mp hrole
    cases h
    exact ⟨c, claims, d, token, hc, hr, rfl, rfl⟩
  · cases h

omit [World] in
theorem agentIdentity_error {e : ActorError} (h : Router.agentIdentity s id = .error e) :
    e.code ≠ .storageError := by
  unfold Router.agentIdentity at h
  split at h
  · cases h
  · cases h
    simp

theorem taskExecutionStopped_spec {requestId : String} {workspace : WorkspaceName} {taskId : ℕ}
    {attemptId endedSessionId : Uuid} {reason : PauseReason} (h : Good (.rest F) s) :
    Handles F X (Router.taskExecutionStopped id generation requestId workspace taskId attemptId
      endedSessionId reason) s := by
  unfold Handles Router.taskExecutionStopped
  simp only [Actor.wp_bind]
  refine requireWorkspaceMatch_spec h fun _ => ?_
  refine guard_ask h (fun _ he => agentIdentity_error he) ?_
  rintro ⟨agentId, credentialId⟩ hidentity
  obtain ⟨c, claims, d, token, hc, hrole, rfl, rfl⟩ := agentIdentity_ok hidentity
  have hactor : ValidActor d.agentId := by
    have hvalid := (c.card_actorsValid).mp (h.base.registry.actors _ _ (RouterState.card_eq hc))
    simpa [ConnectionState.actorsValid, hrole] using hvalid
  rw [Actor.wp_mapError, Router.wp_inStore]
  refine Txn.wp_mono (recordExecutionStopped_spec h.base.store.db hactor) ?_ ?_
  · rintro event t ⟨hadv, hkinds, a, ha, hof⟩
    have hs := Stored.commit (s := s) h.base.store hadv
    have h₁ := h.stored hs (fun _ => .none _ s) fun e he => by simp [hkinds e he]
    refine freeIdle_spec h₁ fun s₂ h₂ hstore => ?_
    have ha₂ : s₂.db.attempts.get? attemptId = some a := by
      rw [RouterState.db, hstore]
      exact ha
    refine readAttempt_spec ha₂ hof fun attempt => ?_
    refine Router.send_spec fun _ s₃ hq₃ => ?_
    have h₃ := h₂.quiet hq₃
    rw [Router.wp_lift]
    refine Router.notifyTaskAttemptChanged_spec h₃.base.store fun s₄ hq₄ => ?_
    exact fanoutAll_handled (h₃.quiet hq₄)
  · rintro e (hstale | ⟨rfl, hx⟩)
    · refine .of_good h ?_
      change e.code ≠ .storageError
      simp [hstale]
    · exact .of_exhausted h fun _ => .inl hx

omit [World] in
/-- The last attempt of a task that is not running and whose stop is known bars nothing. -/
theorem TaskLocal.settled {db : Db} {w : WorkspaceName} {taskId : ℕ} {r : TaskRow}
    (h : TaskLocal db w taskId r) (hcurrent : r.currentAttemptId = none)
    (hevidence : (taskSummaryOf db w taskId r).stopEvidence ≠ some .unknown) {id : Uuid}
    {a : AttemptRow} (ha : db.attempts.get? id = some a) (hof : a.isOf w taskId) :
    a.unconfirmed = false := by
  by_contra hun
  rw [Bool.not_eq_false] at hun
  have hlast := h.fit.live id a ha hof ((AttemptRow.barrier_iff a).mpr (.inr hun))
  simp only [AttemptRow.unconfirmed, Bool.and_eq_true, decide_eq_true_eq] at hun
  refine hevidence ?_
  simp [taskSummaryOf, hcurrent, hlast, ha, hun.2]

theorem taskRequest_spec {requestId : String} {workspace : WorkspaceName}
    {taskId expectedVersion : ℕ} {message : Option String} {timeoutMs : Option ℕ}
    {c : ConnectionState} (h : Good (.rest F) s) (hc : s.connections.get? id = some c)
    (hgen : c.generation = generation) :
    Handles F X (Router.taskRequest id generation requestId workspace taskId expectedVersion
      message timeoutMs) s := by
  unfold Handles Router.taskRequest
  simp only [Actor.wp_bind]
  refine requireWorkspaceMatch_spec h fun hw => ?_
  obtain ⟨found, hfound, hsummary⟩ := getTaskDetail_spec h.base.store.db.tasks workspace taskId
  rw [Router.wp_lift]
  refine Router.wp_query hfound ?_
  refine guard_orFail h (by simp) fun task htask => ?_
  obtain ⟨r, hr, hsum⟩ := hsummary task htask
  refine guard_require h (by simp) fun _ => ?_
  refine guard_requireThat h (by simp) fun _ => ?_
  refine guard_requireThat h (by simp) fun hcurrent => ?_
  refine guard_requireThat h (by simp) fun hevidence => ?_
  refine guard_orFail h (by simp) fun agentId _ => ?_
  obtain ⟨blocked, hq, -⟩ := agentHasExecutionBarrier_spec h.base.store.db.tasks agentId
  rw [Router.wp_lift]
  refine Router.wp_query hq ?_
  refine guard_requireThat h (by simp) fun _ => ?_
  rw [Actor.wp_read]
  refine guard_requireThat h (by simp) fun hdispatched => ?_
  refine startRequest_spec h hc hgen fun w hw' dispatch hdispatch => ?_
  rw [hw] at hw'
  cases hw'
  cases hdispatch
  refine ⟨⟨r, hr⟩, ?_, ?_⟩
  · intro key q d' hp htask' hqw hid
    simp only [RouterState.taskDispatched, Bool.not_eq_true', List.any_eq_false] at hdispatched
    have := hdispatched (key, q) ((Table.mem_toList _ _ _).mpr hp)
    simp [PendingRequest.dispatches, hqw, htask', hid] at this
  · intro i a ha hof
    rw [hsum] at hcurrent hevidence
    have hlocal := h.base.store.db.tasks.locals _ _ r hr
    refine hlocal.settled ?_ (of_decide_eq_true hevidence) ha hof
    simpa [taskSummaryOf] using hcurrent

end requests

end SessionRouter
