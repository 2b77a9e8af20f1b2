import SessionRouter.Router.RequestSpec
import SessionRouter.Tasks.TitleSpec

/-!
The task handlers. A mutation is applied once; the request it runs under carries the new attempt,
the request whose task it interrupts is ended, and a confirmed stop frees the agent. A confirmation
that is sent again frees the agent a second time, also when it works by then.
-/

namespace SessionRouter

variable [World] {s : RouterState} {F X : Prop}

/-- The requests are the same, whatever the order of their table. -/
theorem Good.same_pending {g : Phase} {pending : Table (WorkspaceName × String) PendingRequest}
    (h : Good g s) (hsame : ∀ key, pending.get? key = s.pending.get? key) :
    Good g { s with pending } where
  base :=
    { store := h.base.store
      registry := h.base.registry.of_same le_rfl rfl rfl rfl rfl rfl
      requests := by
        obtain ⟨h1, h2, h3, h4, h5, h6, h7, h8⟩ := h.base.requests
        constructor <;> simp only [hsame] <;> assumption
      truthful := fun hflight => by
        obtain ⟨h1, h2, h3, h4⟩ := h.base.truthful hflight
        constructor <;> simp only [hsame] <;> assumption }
  live := by
    refine h.live.imp id fun hl => ?_
    obtain ⟨h1, h2, h3, h4, h5, h6, h7⟩ := hl
    constructor <;> simp only [hsame] <;> assumption

/-- A weaker phase asks for less. -/
theorem Good.weaken {g : Phase} (h : Good g s) {F' : Prop} (hF : F' → g.flight) :
    Good { g with flight := F' } s where
  base :=
    { store := h.base.store
      registry := h.base.registry.of_leaving rfl
      requests := h.base.requests
      truthful := fun hflight => h.base.truthful (hF hflight) }
  live := by
    refine h.live.imp id fun hl => ?_
    obtain ⟨h1, h2, h3, h4, h5, h6, h7⟩ := hl
    exact ⟨h1, h2, h3, h4, h5, fun hflight => h6 (hF hflight), fun hflight => h7 (hF hflight)⟩

/-- The exempt request plays no part in what holds whatever the store does. -/
theorem Base.exempting {g : Phase} (h : Base g s) (key : Option (WorkspaceName × String)) :
    Base { g with exempt := key } s where
  store := h.store
  registry := h.registry.of_leaving rfl
  requests := h.requests
  truthful := h.truthful

/-- One more request may be exempt. -/
theorem Good.exempting {g : Phase} (h : Good g s) (hnone : g.exempt = none)
    (key : Option (WorkspaceName × String)) : Good { g with exempt := key } s where
  base := h.base.exempting key
  live := by
    refine h.live.imp id fun hl => ?_
    obtain ⟨h1, h2, h3, h4, h5, h6, h7⟩ := hl
    exact ⟨h1, h2, h3, h4, fun k p d hp hd hdying _ => h5 k p d hp hd hdying (by simp [hnone]), h6,
      fun hflight k p hp hdying _ => h7 hflight k p hp hdying (by simp [hnone])⟩

section begin

/-- The request `p` under `key` carries the attempt `id` from now on. -/
def RouterState.bind (s : RouterState) (t : Tx) (key : WorkspaceName × String) (id : Uuid) :
    RouterState :=
  { s.commit t with
    pending := s.pending.adjust key fun p => { p with attemptId := some id } }

/-- A new attempt runs under a request that was delivered to its agent. -/
structure Started (s : RouterState) (t : Tx) (es : List WorkspaceEvent)
    (key : WorkspaceName × String) (p : PendingRequest) (id : Uuid) (a : AttemptRow) : Prop where
  inv : DbInv t.db t.tick
  tick : s.tick ≤ t.tick
  grows : Extends s.db t.db es
  kinds : ∀ e ∈ es, e.kind = .task
  fresh : s.db.attempts.get? id = none
  stored : t.db.attempts.get? id = some a
  running : a.status = .running
  others : ∀ i a', t.db.attempts.get? i = some a' → i ≠ id → ∃ b, s.db.attempts.get? i = some b ∧
    b.Later a' ∧ (a'.unconfirmed = true → b.unconfirmed = true)
  pending : s.pending.get? key = some p
  key : key = (a.workspace, a.workRequestId)
  task : ∃ dispatch, p.task = some dispatch ∧ a.taskId = dispatch.id
  agent : ∃ c, s.card p.recipient = some c ∧ c.runs a

variable {t : Tx} {es : List WorkspaceEvent} {key : WorkspaceName × String} {p : PendingRequest}
  {id : Uuid} {a : AttemptRow}

omit [World] in
/-- Every request is as before, except for the attempt of the one under `key`. -/
theorem bind_pending {k : WorkspaceName × String} {q : PendingRequest}
    (hq : (s.bind t key id).pending.get? k = some q) : ∃ q₀, s.pending.get? k = some q₀ ∧
      q = { q₀ with attemptId := q.attemptId } ∧
      ((k = key ∧ q.attemptId = some id) ∨ (k ≠ key ∧ q.attemptId = q₀.attemptId)) := by
  change (s.pending.adjust key fun p => { p with attemptId := some id }).get? k = some q at hq
  rw [Table.get?_adjust] at hq
  split at hq
  · next heq =>
    obtain ⟨q₀, hq₀, rfl⟩ := Option.map_eq_some_iff.mp hq
    exact ⟨q₀, heq ▸ hq₀, rfl, .inl ⟨heq, rfl⟩⟩
  · next hne => exact ⟨q, hq, rfl, .inr ⟨hne, rfl⟩⟩

omit [World] in
theorem bind_other {k : WorkspaceName × String} {q : PendingRequest} (hne : k ≠ key)
    (hq : s.pending.get? k = some q) : (s.bind t key id).pending.get? k = some q := by
  change (s.pending.adjust key fun p => { p with attemptId := some id }).get? k = some q
  rw [Table.get?_adjust, if_neg hne]
  exact hq

omit [World] in
theorem bind_same (hp : s.pending.get? key = some p) :
    (s.bind t key id).pending.get? key = some { p with attemptId := some id } := by
  change (s.pending.adjust key fun p => { p with attemptId := some id }).get? key = _
  rw [Table.get?_adjust, if_pos rfl, hp]
  rfl

theorem Started.same (h : Started s t es key p id a) {j : Uuid} {b : AttemptRow}
    (hb : t.db.attempts.get? j = some b) (hj : j = id) : b = a := by
  have hstored := h.stored
  rw [← hj, hb] at hstored
  exact Option.some.inj hstored

/-- The requests of the bound state are those of the old one, up to the attempt. -/
theorem Started.requests (h : Started s t es key p id a) (hreq : Requests s) :
    Requests (s.bind t key id) := by
  have hevents : (s.bind t key id).db.events = s.db.events ++ es := h.grows.events
  constructor
  · intro k q hq
    obtain ⟨q₀, hq₀, heq, -⟩ := bind_pending hq
    rw [heq]
    exact hreq.keyed k q₀ hq₀
  · intro k q hq
    obtain ⟨q₀, hq₀, -⟩ := bind_pending hq
    obtain ⟨e, he, hrest⟩ := hreq.asked k q₀ hq₀
    exact ⟨e, by rw [hevents]; exact List.mem_append_left _ he, hrest⟩
  · intro k q hq e he hkind
    obtain ⟨q₀, hq₀, -⟩ := bind_pending hq
    rw [hevents, List.mem_append] at he
    rcases he with he | he
    · exact hreq.unanswered k q₀ hq₀ e he hkind
    · rw [h.kinds e he] at hkind
      cases hkind
  · intro k q c hq hc
    obtain ⟨q₀, hq₀, heq, -⟩ := bind_pending hq
    rw [heq] at hc ⊢
    exact hreq.source k q₀ c hq₀ hc
  · intro k q c hq hc
    obtain ⟨q₀, hq₀, heq, -⟩ := bind_pending hq
    rw [heq] at hc ⊢
    exact hreq.target k q₀ c hq₀ hc
  · intro k q i hq hi
    obtain ⟨q₀, hq₀, heq, ⟨rfl, hid⟩ | ⟨-, hid⟩⟩ := bind_pending hq
    · have hp := h.pending
      rw [hq₀] at hp
      cases hp
      rw [hid] at hi
      cases hi
      obtain ⟨dispatch, hdispatch, htask⟩ := h.task
      refine ⟨a, dispatch, h.stored, by rw [heq]; exact hdispatch, ?_, htask⟩
      rw [heq]
      exact congrArg Prod.fst (h.key.symm.trans (hreq.keyed _ _ hq₀))
    · obtain ⟨b, dispatch, hb, hdispatch, hof⟩ := hreq.named k q₀ i hq₀ (hid.symm.trans hi)
      obtain ⟨b', hb', hlater⟩ := h.grows.attempts i b hb
      refine ⟨b', dispatch, hb', by rw [heq]; exact hdispatch, ?_⟩
      rw [heq]
      exact AttemptRow.isOf_of_origin hlater.origin hof
  · intro k q dispatch hq hd
    obtain ⟨q₀, hq₀, heq, -⟩ := bind_pending hq
    rw [heq] at hd ⊢
    obtain ⟨r, hr⟩ := hreq.dispatched k q₀ dispatch hq₀ hd
    obtain ⟨r', hr', -⟩ := h.grows.tasks _ r hr
    exact ⟨r', hr'⟩
  · intro k k' q q' d d' hq hq' hd hd'
    obtain ⟨q₀, hq₀, heq, -⟩ := bind_pending hq
    obtain ⟨q₀', hq₀', heq', -⟩ := bind_pending hq'
    rw [heq] at hd ⊢
    rw [heq'] at hd' ⊢
    exact hreq.tasks k k' q₀ q₀' d d' hq₀ hq₀' hd hd'

/-- The agent of the new attempt is the recipient of its request. -/
theorem Started.recipient {g : Phase} (h : Started s t es key p id a) (hbase : Base g s) {i : Uuid}
    {c : ConnectionState} {d : AgentDescriptor} (hc : s.connections.get? i = some c)
    (hd : c.descriptor? = some d) (hagent : a.agentId = d.agentId) : i = p.recipient := by
  obtain ⟨k, hk, hruns⟩ := h.agent
  have hprimary := hbase.registry.agents _ k a.agentId hk hruns.agentId
  have hprimary' := hbase.registry.agents i c.card d.agentId (RouterState.card_eq hc)
    (by rw [ConnectionState.card_agentId, ConnectionState.agentId?, hd, Option.map_some])
  rw [hagent, hprimary'] at hprimary
  exact Option.some.inj hprimary

theorem Started.truthful {g : Phase} (h : Started s t es key p id a) (hbase : Base g s)
    (htrue : Truthful s) : Truthful (s.bind t key id) where
  single := by
    intro k k' q q' hq hq' hsame
    obtain ⟨q₀, hq₀, heq, -⟩ := bind_pending hq
    obtain ⟨q₀', hq₀', heq', -⟩ := bind_pending hq'
    rw [heq, heq'] at hsame
    exact htrue.single k k' q₀ q₀' hq₀ hq₀' hsame
  working := by
    intro k q c d hq hc hd
    obtain ⟨q₀, hq₀, heq, -⟩ := bind_pending hq
    rw [heq] at hc
    exact htrue.working k q₀ c d hq₀ hc hd
  ready := by
    intro i c d hc hd hready
    obtain ⟨hidle, hcancel, hjoined, hbar⟩ := htrue.ready i c d hc hd hready
    refine ⟨hidle, hcancel, hjoined, ?_⟩
    rintro ⟨j, b, hb, hagent, hbarrier⟩
    by_cases hj : j = id
    · -- The new attempt bars its agent, which is busy with the request.
      obtain rfl := h.same hb hj
      have hi := h.recipient hbase hc hd hagent
      rw [(htrue.working key p c d h.pending (hi ▸ hc) hd).1] at hidle
      cases hidle
    · obtain ⟨b₀, hb₀, hlater, -⟩ := h.others j b hb hj
      exact hbar ⟨j, b₀, hb₀, hlater.agentId.trans hagent, hlater.barrier hbarrier⟩
  canceling := htrue.canceling

theorem Started.live {g : Phase} (h : Started s t es key p id a) (hbase : Base g s)
    (hl : Live g s) : Live g (s.bind t key id) where
  requester := by
    intro k q hq
    obtain ⟨q₀, hq₀, heq, -⟩ := bind_pending hq
    rw [heq]
    exact hl.requester k q₀ hq₀
  recipient := by
    intro k q hq
    obtain ⟨q₀, hq₀, heq, -⟩ := bind_pending hq
    rw [heq]
    exact hl.recipient k q₀ hq₀
  waiting := by
    intro w requestId hasked hopen
    have hevents : (s.bind t key id).db.events = s.db.events ++ es := h.grows.events
    obtain ⟨e, he, hkind, hrest⟩ := hasked
    rw [hevents, List.mem_append] at he
    have hold : e ∈ s.db.events := by
      rcases he with he | he
      · exact he
      · rw [h.kinds e he] at hkind
        cases hkind
    obtain ⟨q, hq⟩ := hl.waiting w requestId ⟨e, hold, hkind, hrest⟩ fun x hx => hopen x (by
      rw [hevents]
      exact List.mem_append_left _ hx)
    by_cases hk : (w, requestId) = key
    · rw [hk] at hq ⊢
      exact ⟨_, bind_same hq⟩
    · exact ⟨q, bind_other hk hq⟩
  running := by
    intro i b hb hrun
    by_cases hi : i = id
    · obtain rfl := h.same hb hi
      obtain ⟨c, hc, hruns⟩ := h.agent
      refine ⟨{ p with attemptId := some id }, c, ?_, by rw [hi], hc, hruns⟩
      rw [← h.key]
      exact bind_same h.pending
    · obtain ⟨b₀, hb₀, hlater, -⟩ := h.others i b hb hi
      obtain ⟨q, c, hq, hid, hc, hruns⟩ := hl.running i b₀ hb₀ (hlater.running hrun)
      rw [hlater.workspace, hlater.workRequestId] at hq
      refine ⟨q, c, bind_other ?_ hq, hid, hc, c.runs_of_origin hlater.origin hruns⟩
      -- Two attempts of one task never run at once, so the request of the new one is another.
      intro hkey
      rw [hkey, h.pending] at hq
      cases hq
      obtain ⟨b₁, dispatch, hb₁, hdispatch, hof⟩ := hbase.requests.named key p i h.pending hid
      rw [hb₀] at hb₁
      cases hb₁
      obtain ⟨dispatch', hdispatch', htask⟩ := h.task
      rw [hdispatch] at hdispatch'
      cases hdispatch'
      have hw : a.workspace = p.workspace :=
        congrArg Prod.fst (h.key.symm.trans (hbase.requests.keyed key p h.pending))
      obtain ⟨r, hr⟩ := (h.inv.tasks.attempts id a h.stored).task
      have hfit := (h.inv.tasks.locals _ _ r hr).fit
      have hof' := AttemptRow.isOf_of_origin hlater.origin hof
      have h₁ := hfit.running id a h.stored ⟨rfl, rfl⟩ h.running
      have h₂ := hfit.running i b hb ⟨hof'.1.trans hw.symm, hof'.2.trans htask.symm⟩ hrun
      rw [h₁] at h₂
      exact hi (Option.some.inj h₂).symm
  stopped := by
    intro k q dispatch hq hd hdying hexempt i b hb hof
    obtain ⟨q₀, hq₀, heq, -⟩ := bind_pending hq
    rw [heq] at hd hdying hof
    by_cases hi : i = id
    · obtain rfl := h.same hb hi
      simp [AttemptRow.unconfirmed, h.running]
    · obtain ⟨b₀, hb₀, hlater, hun⟩ := h.others i b hb hi
      have hold := hl.stopped k q₀ dispatch hq₀ hd hdying hexempt i b₀ hb₀
        (AttemptRow.isOf_of_origin hlater.origin.symm hof)
      by_contra hb'
      rw [Bool.not_eq_false] at hb'
      rw [hun hb'] at hold
      cases hold
  busy := by
    intro hflight i c d hc hd hbusy
    refine (hl.busy hflight i c d hc hd hbusy).imp_right ?_
    rintro ⟨k, q, hq, hrecipient⟩
    by_cases hk : k = key
    · rw [hk] at hq
      exact ⟨key, _, bind_same hq, hrecipient⟩
    · exact ⟨k, q, bind_other hk hq, hrecipient⟩
  confirmed := by
    intro hflight k q hq hdying hexempt
    obtain ⟨q₀, hq₀, heq, -⟩ := bind_pending hq
    rw [heq] at hdying ⊢
    rintro ⟨i, b, hb, hagent, hun⟩
    by_cases hi : i = id
    · obtain rfl := h.same hb hi
      simp [AttemptRow.unconfirmed, h.running] at hun
    · obtain ⟨b₀, hb₀, hlater, hun'⟩ := h.others i b hb hi
      exact hl.confirmed hflight k q₀ hq₀ hdying hexempt
        ⟨i, b₀, hb₀, hlater.agentId.trans hagent, hun' hun⟩

/-- A new attempt keeps the invariant once its request carries it. -/
theorem Good.begun {g : Phase} (hg : Good g s) (h : Started s t es key p id a) :
    Good g (s.bind t key id) where
  base :=
    { store := hg.base.store.commit h.inv h.tick
      registry := by
        refine hg.base.registry.of_cards h.tick (fun _ => rfl) rfl rfl rfl rfl ?_
        intro w row hrow
        obtain ⟨row', hrow', -⟩ := h.grows.workspaces w row hrow
        exact ⟨row', hrow'⟩
      requests := h.requests hg.base.requests
      truthful := fun hflight => h.truthful hg.base (hg.base.truthful hflight) }
  live := hg.live.imp (fun hs => ⟨h.grows.exhausted hs.1, hs.2⟩) (h.live hg.base)

end begin

section queries

variable {id : Uuid} {generation : ℕ} {requestId : String} {workspace : WorkspaceName} {taskId : ℕ}

omit [World] in
theorem boundTaskList_error {tasks : List TaskSummary} {cursor : ℕ} {more : Bool} {e : ActorError}
    (h : boundTaskList requestId workspace tasks cursor more = .error e) :
    e.code ≠ .storageError := by
  unfold boundTaskList at h
  exact boundPage_error h

omit [World] in
theorem boundTaskHistory_error {events : List TaskHistoryEvent} {cursor : ℕ} {more : Bool}
    {e : ActorError}
    (h : boundTaskHistory requestId workspace taskId events cursor more = .error e) :
    e.code ≠ .storageError := by
  unfold boundTaskHistory at h
  exact boundPage_error h

theorem taskList_spec {states : Option (List TaskState)} {assigned : Option String}
    {after limit : Option ℕ} (h : Good (.rest F) s) :
    Handles F X (Router.taskList id generation requestId workspace states assigned
    after limit) s := by
  unfold Handles Router.taskList
  simp only [Actor.wp_bind, Actor.wp_pure]
  refine requireWorkspaceMatch_spec h fun _ => ?_
  refine guard_requireThat h (by simp) fun hstates => ?_
  refine guard_requireThat h (by simp) fun _ => ?_
  refine guard_orFail h (by simp) ?_
  rintro ⟨cursor, size⟩ -
  rw [Bool.and_eq_true, Bool.not_eq_true'] at hstates
  obtain ⟨page, hpage⟩ := listTasks_spec (w := workspace)
    h.base.store.db.tasks hstates.1
  rw [Router.wp_lift]
  refine Router.wp_query hpage ?_
  rw [Router.wp_ask]
  refine ⟨fun _ _ => ?_, fun e he => .of_good h (boundTaskList_error he)⟩
  exact Router.send_spec fun _ _ hq => h.quiet hq

theorem taskGet_spec (h : Good (.rest F) s) :
    Handles F X (Router.taskGet id generation requestId workspace taskId) s := by
  unfold Handles Router.taskGet
  simp only [Actor.wp_bind, Actor.wp_pure]
  refine requireWorkspaceMatch_spec h fun _ => ?_
  obtain ⟨found, hfound, -⟩ := getTaskDetail_spec h.base.store.db.tasks workspace taskId
  rw [Router.wp_lift]
  refine Router.wp_query hfound ?_
  refine guard_orFail h (by simp) fun task _ => ?_
  exact Router.send_spec fun _ _ hq => h.quiet hq

theorem taskHistory_spec {after limit : Option ℕ} (h : Good (.rest F) s) :
    Handles F X (Router.taskHistory id generation requestId workspace taskId after limit) s := by
  unfold Handles Router.taskHistory
  simp only [Actor.wp_bind, Actor.wp_pure]
  refine requireWorkspaceMatch_spec h fun _ => ?_
  obtain ⟨found, hfound, -⟩ := getTaskDetail_spec h.base.store.db.tasks workspace taskId
  rw [Router.wp_lift]
  refine Router.wp_query hfound ?_
  refine guard_requireThat h (by simp) fun _ => ?_
  refine guard_orFail h (by simp) ?_
  rintro ⟨cursor, size⟩ -
  rw [Actor.wp_read]
  refine guard_requireThat h (by simp) fun _ => ?_
  rw [Actor.wp_read]
  obtain ⟨events, hevents⟩ := mapM_ok (f := Router.historyEvent workspace taskId)
    (l := (storedTaskHistory s.db workspace taskId cursor size).1)
    fun stored hmem => historyEvent_spec h.base.store.db.tasks hmem
  rw [Router.wp_ask]
  refine ⟨fun kept hkept => ?_, fun e he => ?_⟩
  · rw [Router.wp_ask]
    refine ⟨fun _ _ => ?_, fun e he => .of_good h (boundTaskHistory_error he)⟩
    exact Router.send_spec fun _ _ hq => h.quiet hq
  · rw [hevents] at he
    cases he

end queries

section mutate

variable {id : Uuid} {workspace : WorkspaceName} {command : TaskCommand}

omit [World] in
theorem stopUnconfirmed_false {db : Db} {w : WorkspaceName} {taskId : ℕ}
    (h : ∀ id a, db.attempts.get? id = some a → a.isOf w taskId → a.unconfirmed = false) :
    stopUnconfirmed db w taskId = false := by
  unfold stopUnconfirmed
  rw [List.any_eq_false]
  rintro ⟨id, a⟩ hmem hall
  simp only [Bool.and_eq_true, decide_eq_true_eq] at hall
  have := h id a ((Table.mem_toList _ _ _).mp hmem) ⟨hall.1.1.1, hall.1.1.2⟩
  simp [AttemptRow.unconfirmed, hall.1.2, hall.2] at this

omit [World] in
/-- A reservation is a request for the task that was delivered to the caller. -/
theorem reservation_some {effective : Uuid} {r : ReservationFence}
    (h : Router.reservation s effective workspace command = some r) :
    ∃ p dispatch, s.pending.get? (workspace, r.workRequestId) = some p ∧
      p.recipient = effective ∧ p.task = some dispatch ∧ dispatch.id = r.taskId ∧
      command.workRequest? = some r.workRequestId := by
  unfold Router.reservation at h
  split at h
  · next taskId workRequestId _ _ _ =>
    obtain ⟨p, hp, rfl⟩ := Option.map_eq_some_iff.mp h
    obtain ⟨hp, hmatch⟩ := Option.filter_eq_some_iff.mp hp
    simp only [Bool.and_eq_true, decide_eq_true_eq, Option.any_eq_true] at hmatch
    obtain ⟨hrecipient, dispatch, hdispatch, hid⟩ := hmatch
    exact ⟨p, dispatch, hp, hrecipient, hdispatch, hid, rfl⟩
  · cases h

/-- The caller the router presents to the store for the connection `id`. -/
structure Presented (s : RouterState) (id : Uuid) (workspace : WorkspaceName)
    (command : TaskCommand) (caller : CallerContext) : Prop where
  sound : caller.Sound s.db
  actor : s.actorId id = .ok caller.actorId
  reservation : caller.reservation = Router.reservation s (s.effective id) workspace command
  agent : ∀ agentId sessionId, caller.agentId = some agentId → caller.sessionId = some sessionId →
    ∃ c claims d token, s.connections.get? (s.effective id) = some c ∧
      c.role = some (.agent claims d token) ∧ d.agentId = agentId ∧ d.sessionId = sessionId ∧
      caller.credentialId = claims.id ∧ caller.connectionGeneration = c.generation
  workspace : caller.workspace = workspace

omit [World] in
theorem callerOf_error {r : Option ReservationFence} {e : ActorError}
    (h : Router.callerOf s id workspace r = .error e) : e.code ≠ .storageError := by
  unfold Router.callerOf at h
  dsimp only at h
  split at h
  · cases h
    simp
  · split at h
    · cases h
      simp
    · cases hactor : s.actorId id with
      | ok actor =>
        rw [hactor] at h
        cases h
      | error e' =>
        rw [hactor] at h
        cases h
        exact actorId_error hactor

theorem callerOf_spec (h : Good (.rest F) s) (hrun : s.shuttingDown = false)
    (hw : s.currentWorkspace id = .ok workspace) {caller : CallerContext}
    (hcaller : Router.callerOf s id workspace
      (Router.reservation s (s.effective id) workspace command) = .ok caller) :
    Presented s id workspace command caller := by
  unfold Router.callerOf at hcaller
  dsimp only at hcaller
  split at hcaller
  · cases hcaller
  next c hc =>
  split at hcaller
  · cases hcaller
  next acting hacting =>
  cases hactor : s.actorId id with
  | error e =>
    rw [hactor] at hcaller
    cases hcaller
  | ok actorId =>
    rw [hactor] at hcaller
    cases hcaller
    refine ⟨⟨h.base.actor_valid hactor, h.base.workspace_exists hw, ?_⟩, hactor, rfl, ?_, rfl⟩
    · intro r hr
      obtain ⟨p, dispatch, hp, -, hdispatch, hid, -⟩ := reservation_some hr
      have hpw := congrArg Prod.fst (h.base.requests.keyed _ p hp)
      refine stopUnconfirmed_false fun i a ha hof => ?_
      refine (h.alive hrun).stopped _ p dispatch hp hdispatch (by simp [Phase.rest])
        (by simp [Phase.rest]) i a ha ⟨hof.1.trans hpw, hof.2.trans hid.symm⟩
    · intro agentId sessionId hagent hsession
      unfold ConnectionState.acting? at hacting
      split at hacting
      · next claims d token hrole =>
        cases hacting
        cases hagent
        cases hsession
        exact ⟨c, claims, d, token, hc, hrole, rfl, rfl, rfl, rfl⟩
      · cases hacting
        cases hagent
      · cases hacting

theorem callerContext_spec (h : Good (.rest F) s) (hrun : s.shuttingDown = false)
    (hw : s.currentWorkspace id = .ok workspace) {Q : CallerContext → RouterState → Prop}
    (hQ : ∀ caller, Presented s id workspace command caller → Q caller s) :
    Actor.wp (Router.callerContext id workspace command) Q (Refused F X) s := by
  unfold Router.callerContext
  simp only [Actor.wp_bind, Actor.wp_read]
  refine guard_requireThat h (by simp) fun _ => ?_
  have hlast : Actor.wp (Router.ask fun s' => Router.callerOf s' id workspace
      (Router.reservation s' (s.effective id) workspace command)) Q (Refused F X) s :=
    guard_ask h (fun _ he => callerOf_error he) fun caller hcaller =>
      hQ caller (callerOf_spec h hrun hw hcaller)
  rw [Actor.wp_ite]
  refine ⟨fun _ => ?_, fun _ => hlast⟩
  rw [Actor.wp_bind]
  exact requireUnblocked_spec h fun _ => hlast

/-- The request an interruption is going to end. -/
structure Interrupts (s : RouterState) (workspace : WorkspaceName) (command : TaskCommand)
    (interrupted : Option (WorkspaceName × String)) : Prop where
  found : ∀ key, interrupted = some key → ∃ p dispatch, s.pending.get? key = some p ∧
    key.1 = workspace ∧ p.task = some dispatch ∧ command.interrupts? = some dispatch.id
  absent : interrupted = none → ∀ key p dispatch, s.pending.get? key = some p → key.1 = workspace →
    p.task = some dispatch → command.interrupts? ≠ some dispatch.id

/-- Looking for the request takes at most a tick. -/
theorem interruptedRequest_spec {Q : Option (WorkspaceName × String) → RouterState → Prop}
    {E : ActorError → RouterState → Prop}
    (hQ : ∀ interrupted tick, s.tick ≤ tick → Interrupts s workspace command interrupted →
      Q interrupted { s with store := { s.store with tick } }) :
    Actor.wp (Router.interruptedRequest workspace command) Q E s := by
  cases command with
  | interrupt operationId taskId expectedVersion note =>
    have hperm := World.arrange_perm s.tick s.pending.toList
    refine hQ _ (s.tick + 1) (Nat.le_succ _) ⟨?_, ?_⟩
    · intro key hkey
      obtain ⟨⟨k, p⟩, hfind, rfl⟩ := Option.map_eq_some_iff.mp hkey
      have hmem := (Table.mem_toList _ _ _).mp (hperm.mem_iff.mp (List.mem_of_find?_eq_some hfind))
      have hmatch := List.find?_some hfind
      simp only [Bool.and_eq_true, decide_eq_true_eq, Option.any_eq_true] at hmatch
      obtain ⟨hw, dispatch, hdispatch, hid⟩ := hmatch
      exact ⟨p, dispatch, hmem, hw, hdispatch, by rw [hid]; rfl⟩
    · intro hnone key p dispatch hp hw hdispatch hid
      rw [Option.map_eq_none_iff, List.find?_eq_none] at hnone
      refine hnone (key, p) (hperm.mem_iff.mpr ((Table.mem_toList _ _ _).mpr hp)) ?_
      cases hid
      simp [hw, hdispatch]
  | _ =>
    unfold Router.interruptedRequest
    exact hQ _ s.tick le_rfl ⟨by simp, by simp [TaskCommand.interrupts?]⟩

/-- The attempts an interruption stops are of no request but the one that it ends. -/
theorem Interrupts.stopsOther {interrupted : Option (WorkspaceName × String)}
    (h : Interrupts s workspace command interrupted) (hbase : Base (.rest F) s)
    (hl : Live (.rest F) s) :
    StopsOther { Phase.rest F with exempt := interrupted } s fun _ a =>
      ∃ taskId, command.interrupts? = some taskId ∧ a.isOf workspace taskId := by
  rintro i a a' ha hrun hlater ⟨taskId, hinterrupts, hof⟩ key p hp - hexempt
  have hof := AttemptRow.isOf_of_origin hlater.origin.symm hof
  obtain ⟨q, c, hq, hid, hc, hruns⟩ := hl.running i a ha hrun
  obtain ⟨b, dispatch, hb, hdispatch, hqof⟩ := hbase.requests.named _ q i hq hid
  rw [ha] at hb
  cases hb
  have hsame : dispatch.id = taskId := hqof.2.symm.trans hof.2
  -- The request of the stopped attempt is the one that is ended.
  have hended : interrupted = some (a.workspace, a.workRequestId) := by
    cases hcase : interrupted with
    | none => exact absurd (hsame ▸ hinterrupts) (h.absent hcase _ q dispatch hq hof.1 hdispatch)
    | some k =>
      obtain ⟨q', dispatch', hq', hw', hdispatch', hinterrupts'⟩ := h.found k hcase
      rw [hinterrupts] at hinterrupts'
      have hk := hbase.requests.keyed k q' hq'
      rw [hbase.requests.tasks k _ q' q dispatch' dispatch hq' hq hdispatch' hdispatch
        ((congrArg Prod.fst hk).symm.trans (hw'.trans (hof.1.symm.trans hqof.1)))
        ((Option.some.inj hinterrupts').symm.trans hsame.symm)]
  have hne : key ≠ (a.workspace, a.workRequestId) := by
    rintro rfl
    exact hexempt hended.symm
  refine ⟨fun dispatch' hdispatch' hpof => hne ?_, fun hflight hagent => hne ?_⟩
  · exact hbase.requests.tasks _ _ p q dispatch' dispatch hp hq hdispatch' hdispatch
      (hpof.1.symm.trans hqof.1) (hpof.2.symm.trans hqof.2)
  · have hqid := (hbase.requests.target _ q c hq hc).2.2
    rw [hruns.agentId, Option.some.injEq] at hqid
    obtain ⟨c', hc'⟩ := (hl.recipient key p hp).resolve_left (by simp [Phase.rest])
    refine (hbase.truthful hflight).single _ _ p q hp hq ?_
    exact hbase.recipient_eq hp hq hc' hc (hagent.symm.trans hqid)

theorem announceMutation_spec {interrupted : Option (WorkspaceName × String)}
    {result : TaskApplyResult} (h : Good { Phase.rest F with exempt := interrupted } s) :
    Handles F X (Router.announceMutation workspace command interrupted result) s := by
  unfold Handles Router.announceMutation
  rw [Actor.wp_bind, Router.wp_lift]
  refine Actor.wp_mono (fanout_spec _ s _ h) ?_ fun _ _ hfalse => hfalse.elim
  rintro - s₁ ⟨h₁, -⟩
  cases interrupted with
  | some key =>
    rw [Router.wp_lift]
    refine Actor.wp_mono (finishPendingError_spec h₁) ?_ ?_
    · rintro - s₂ ⟨h₂, -, hnone⟩
      exact h₂.settled hnone
    · intro e s₂ he
      exact .of_failed (s := s₁) ⟨he.error, he.base.exempting none, he.exhausted, he.kept⟩
  | none =>
    dsimp only
    split
    · exact h₁
    · rw [Router.wp_lift]
      exact Router.notifyTaskAttemptChanged_spec h₁.base.store fun s₂ hq₂ => h₁.quiet hq₂

/-- When the actor that confirmed a stop confirms it once more in the workspace, the agent has no
request to work on. -/
def Calm (s : RouterState) (id : Uuid) (workspace : WorkspaceName) (command : TaskCommand) :
    Prop :=
  ∀ receipt attemptId a i, s.currentWorkspace id = .ok workspace →
    s.actorId id = .ok receipt.actorId →
    (∀ taskId, command.taskId? = some taskId → command.allowedWhileDispatched = false →
      s.taskDispatched workspace taskId = false) →
    s.db.mutations.get? (workspace, command.operationId) = some receipt →
    receipt.requestHash = command → command.confirms? = some attemptId →
    s.db.attempts.get? attemptId = some a → s.primaries.get? a.agentId = some i →
    ∀ key p, s.pending.get? key = some p → p.recipient ≠ i

/-- The command sets a title that begins with NUL, and nothing refuses it before the database. -/
def Titled (s : RouterState) (id : Uuid) (workspace : WorkspaceName) (command : TaskCommand) :
    Prop :=
  s.currentWorkspace id = .ok workspace ∧
  (∀ taskId, command.taskId? = some taskId → command.allowedWhileDispatched = false →
    s.taskDispatched workspace taskId = false) ∧
  ∃ caller : CallerContext, caller.workspace = workspace ∧ s.actorId id = .ok caller.actorId ∧
    command.HidesTitle s.db caller

theorem freeStopped_spec {g : Phase} {stopped : Option String} (h : Good g s)
    (hnone : g.flight → ∀ agentId i, stopped = some agentId → s.primaries.get? agentId = some i →
      ∀ key p, s.pending.get? key = some p → p.recipient ≠ i)
    {Q : Unit → RouterState → Prop} {E : ActorError → RouterState → Prop}
    (hQ : ∀ s', Good g s' → Q () s') : Actor.wp (Router.freeStopped stopped) Q E s := by
  unfold Router.freeStopped
  rw [Actor.wp_bind, Actor.wp_read]
  cases hid : stopped.bind s.primaries.get? with
  | none => exact hQ s h
  | some i =>
    obtain ⟨agentId, hagent, hprimary⟩ := Option.bind_eq_some_iff.mp hid
    rw [Router.wp_setBusy]
    exact hQ _ (h.freed fun hflight => hnone hflight agentId i hagent hprimary)

omit [World] in
theorem bindAttempt_other {attemptId : Option Uuid} (h : command.workRequest? = none) :
    Router.bindAttempt workspace command attemptId = pure () := by
  cases command <;> first | rfl | cases h

omit [World] in
/-- A command that names a request to run under only begins an attempt. -/
theorem begin_only {work : String} (h : command.workRequest? = some work) :
    command.isBegin = true ∧ command.interrupts? = none ∧
      ∀ db, Router.stoppedAgent db command = none := by
  cases command with
  | begin => exact ⟨rfl, rfl, fun _ => rfl⟩
  | _ => cases h

omit [World] in
theorem bindAttempt_begin {work : String} {attemptId : Option Uuid}
    (h : command.workRequest? = some work) :
    Router.bindAttempt workspace command attemptId = Actor.modify fun s => { s with
      pending := s.pending.adjust (workspace, work) fun p => { p with attemptId } } := by
  cases command with
  | begin =>
    cases h
    rfl
  | _ => cases h

omit [World] in
theorem stoppedAgent_some {db : Db} {agentId : String}
    (h : Router.stoppedAgent db command = some agentId) :
    ∃ attemptId a, command.confirms? = some attemptId ∧ db.attempts.get? attemptId = some a ∧
      a.agentId = agentId := by
  cases command <;> first
    | cases h
    | obtain ⟨a, ha, rfl⟩ := Option.map_eq_some_iff.mp h
      exact ⟨_, a, rfl, ha, rfl⟩

/-- An agent whose stop is unconfirmed works on no request. -/
theorem Good.unconfirmed_idle (h : Good (.rest F) s) (hrun : s.shuttingDown = false) (hflight : F)
    {agentId : String} {i : Uuid} (hun : Unconfirmed s.db agentId)
    (hprimary : s.primaries.get? agentId = some i) {key : WorkspaceName × String}
    {p : PendingRequest} (hp : s.pending.get? key = some p) : p.recipient ≠ i := by
  rintro rfl
  obtain ⟨c, hc, hagent⟩ := (h.base.registry.primaries agentId _ hprimary).resolve_left
    (by simp [Phase.rest])
  have hid := (h.base.requests.target key p c hp hc).2.2
  rw [hagent, Option.some.injEq] at hid
  exact (h.alive hrun).confirmed hflight key p hp (by simp [Phase.rest]) (by simp [Phase.rest])
    (hid ▸ hun)

/-- A `Begin` that is applied starts an attempt under the request it names. -/
theorem Applied.started {caller : CallerContext} {t : Tx} {result : TaskApplyResult} {work : String}
    (h : Applied caller command s.store.tx result t)
    (hcaller : Presented s id workspace command caller) (hwork : command.workRequest? = some work) :
    ∃ p attemptId a, Started s t [result.event] (workspace, work) p attemptId a ∧
      result.mutation.task.summary.currentAttemptId = some attemptId := by
  obtain ⟨attemptId, a, hfresh, hstored, hbegun⟩ := h.begun work hwork
  obtain ⟨r, hr, htask, hr'⟩ := hbegun.reservation
  rw [hcaller.reservation] at hr
  obtain ⟨p, dispatch, hp, hrecipient, hdispatch, hid, -⟩ := reservation_some hr
  have hworkId : a.workRequestId = work := Option.some.inj (hbegun.command.symm.trans hwork)
  obtain ⟨c, claims, d, token, hc, hrole, hagent, hsession, hcredential, hgeneration⟩ :=
    hcaller.agent a.agentId a.sessionId hbegun.agent hbegun.session
  refine ⟨p, attemptId, a, ?_, hbegun.current⟩
  exact
    { inv := h.inv
      tick := h.tick
      grows := h.grows
      kinds := by simp [h.kind]
      fresh := hfresh
      stored := hstored
      running := hbegun.running
      others := by
        intro i b hb hne
        rcases h.attempts i b hb with ⟨b₀, hb₀, hun⟩ | ⟨hfree, hnew⟩
        · obtain ⟨b', hb', hlater⟩ := h.grows.attempts i b₀ hb₀
          rw [hb] at hb'
          cases hb'
          refine ⟨b₀, hb₀, hlater, fun hu => (hun hu).resolve_right ?_⟩
          rintro ⟨taskId, hinterrupts, -⟩
          rw [(begin_only hwork).2.1] at hinterrupts
          cases hinterrupts
        · have := hnew.current
          rw [hbegun.current, Option.some.injEq] at this
          exact absurd this.symm hne
      pending := by rw [← hworkId, ← hr']; exact hp
      key := by rw [hbegun.workspace, hcaller.workspace, hworkId]
      task := ⟨dispatch, hdispatch, htask.symm.trans hid.symm⟩
      agent := by
        refine ⟨c.card, by rw [hrecipient]; exact RouterState.card_eq hc, ?_⟩
        rw [ConnectionState.card_runs]
        exact ⟨claims, d, token, hrole, hagent.symm, hbegun.credential.trans hcredential,
          hsession.symm, hbegun.generation.trans hgeneration⟩ }

/-- A `Begin` is answered from its receipt only while its attempt runs. -/
theorem Replayed.running {caller : CallerContext} {result : TaskApplyResult} {receipt : MutationRow}
    {work : String} {t : Tx} (h : Replayed caller command t result receipt)
    (htables : TaskTables t.db t.tick) (hwork : command.workRequest? = some work) :
    ∃ attemptId a, t.db.attempts.get? attemptId = some a ∧
      a.isOf caller.workspace receipt.taskId ∧ a.status = .running ∧ a.workRequestId = work ∧
      command.taskId? = some receipt.taskId := by
  obtain ⟨attemptId, a, hattempt, ha, hof, hworkId, htask⟩ :=
    (htables.receipts _ receipt h.stored).begun work (h.same ▸ hwork)
  obtain ⟨i, hi, hactive⟩ := h.active (begin_only hwork).1
  rw [hattempt, Option.some.injEq] at hi
  subst hi
  refine ⟨attemptId, a, ha, hof, ?_, hworkId, h.same ▸ htask⟩
  unfold exactActiveOwnerAttempt at hactive
  rw [ha] at hactive
  split at hactive
  · next heq =>
    cases heq
    simp only [Bool.and_eq_true, decide_eq_true_eq] at hactive
    exact hactive.2
  · cases hactive

/-- A `Begin` that is answered from its receipt finds its attempt at its request. -/
theorem Replayed.bound {caller : CallerContext} {result : TaskApplyResult} {receipt : MutationRow}
    {work : String} (h : Replayed caller command s.store.tx result receipt)
    (hgood : Good (.rest F) s) (hrun : s.shuttingDown = false)
    (hwork : command.workRequest? = some work) :
    ∃ p, s.pending.get? (caller.workspace, work) = some p ∧
      p.attemptId = result.mutation.task.summary.currentAttemptId := by
  have htables := hgood.base.store.db.tasks
  obtain ⟨attemptId, a, ha, hof, hrunning, hworkId, -⟩ := h.running htables hwork
  obtain ⟨r, hr, hsummary⟩ := h.task
  have hcurrent := (htables.locals _ _ r hr).fit.running attemptId a ha hof hrunning
  obtain ⟨p, c, hp, hid, -, -⟩ := (hgood.alive hrun).running attemptId a ha hrunning
  refine ⟨p, ?_, ?_⟩
  · rw [hof.1, hworkId] at hp
    exact hp
  · rw [hid, hsummary]
    exact hcurrent.symm

/-- Binding the request once more changes nothing. -/
theorem Replayed.rebinds {caller : CallerContext} {result : TaskApplyResult} {receipt : MutationRow}
    {work : String} (h : Replayed caller command s.store.tx result receipt)
    (hgood : Good (.rest F) s) (hrun : s.shuttingDown = false)
    (hwork : command.workRequest? = some work) (key : WorkspaceName × String) :
    (s.pending.adjust (caller.workspace, work) fun p =>
      { p with attemptId := result.mutation.task.summary.currentAttemptId }).get? key =
      s.pending.get? key := by
  obtain ⟨p, hp, hid⟩ := h.bound hgood hrun hwork
  rw [Table.get?_adjust]
  split
  · next heq =>
    rw [heq, hp, Option.map_some, ← hid]
  · rfl

/-- What a first application leaves behind once the request it begins under carries the attempt. -/
theorem applied_spec {caller : CallerContext} {t : Tx} {result : TaskApplyResult}
    {interrupted : Option (WorkspaceName × String)} (h : Good (.rest F) s)
    (hrun : s.shuttingDown = false) (hcaller : Presented s id workspace command caller)
    (hinterrupts : Interrupts s workspace command interrupted)
    (happlied : Applied caller command s.store.tx result t) {Q : Unit → RouterState → Prop}
    {E : ActorError → RouterState → Prop}
    (hQ : ∀ s', Good { Phase.rest F with exempt := interrupted } s' → Q () s') :
    Actor.wp (Router.bindAttempt workspace command result.mutation.task.summary.currentAttemptId)
      (fun _ s' => Actor.wp (Router.freeStopped (Router.stoppedAgent s.db command)) Q E s') E
      (s.commit t) := by
  cases hwork : command.workRequest? with
  | some work =>
    obtain ⟨p, attemptId, a, hstarted, hcurrent⟩ := happlied.started hcaller hwork
    rw [bindAttempt_begin hwork, Actor.wp_modify, (begin_only hwork).2.2]
    have hnone : interrupted = none := by
      cases hcase : interrupted with
      | none => rfl
      | some key =>
        obtain ⟨-, dispatch, -, -, -, hid⟩ := hinterrupts.found key hcase
        rw [(begin_only hwork).2.1] at hid
        cases hid
    subst hnone
    refine freeStopped_spec ?_ (by simp) hQ
    rw [hcurrent]
    exact h.begun hstarted
  | none =>
    rw [bindAttempt_other hwork, Actor.wp_pure]
    have hadv : Advance s.store.tx t [result.event] fun _ a =>
        ∃ taskId, command.interrupts? = some taskId ∧ a.isOf workspace taskId := by
      refine ⟨happlied.inv, happlied.tick, happlied.grows, fun i a' ha' => ?_⟩
      rcases happlied.attempts i a' ha' with hold | ⟨-, hnew⟩
      · rw [hcaller.workspace] at hold
        exact .inl hold
      · rw [hnew.command] at hwork
        cases hwork
    have hs := Stored.commit (s := s) h.base.store hadv
    have h₁ := (h.exempting rfl interrupted).stored hs
      (fun _ => hinterrupts.stopsOther h.base (h.alive hrun)) (by simp [happlied.kind])
    refine freeStopped_spec h₁ ?_ hQ
    intro hflight agentId i hagent hprimary key p hp
    obtain ⟨attemptId, a, hconfirms, ha, rfl⟩ := stoppedAgent_some hagent
    obtain ⟨b, hb, hun⟩ := happlied.confirmed attemptId hconfirms
    have hb : s.db.attempts.get? attemptId = some b := hb
    rw [ha] at hb
    cases hb
    exact h.unconfirmed_idle hrun hflight ⟨attemptId, a, ha, rfl, hun⟩ hprimary hp

/-- What an answer from a receipt leaves behind: nothing new, but a confirmed agent is freed. -/
theorem replayed_spec {caller : CallerContext} {result : TaskApplyResult} {receipt : MutationRow}
    {interrupted : Option (WorkspaceName × String)} (h : Good (.rest F) s)
    (hrun : s.shuttingDown = false) (hcaller : Presented s id workspace command caller)
    (hw : s.currentWorkspace id = .ok workspace)
    (hfree : ∀ taskId, command.taskId? = some taskId → command.allowedWhileDispatched = false →
      s.taskDispatched workspace taskId = false)
    (hcalm : F → Calm s id workspace command)
    (hreplayed : Replayed caller command s.store.tx result receipt) {Q : Unit → RouterState → Prop}
    {E : ActorError → RouterState → Prop}
    (hQ : ∀ s', Good { Phase.rest F with exempt := interrupted } s' → Q () s') :
    Actor.wp (Router.bindAttempt workspace command result.mutation.task.summary.currentAttemptId)
      (fun _ s' => Actor.wp (Router.freeStopped (Router.stoppedAgent s.db command)) Q E s') E
      (s.commit s.store.tx) := by
  have hadv : Advance s.store.tx s.store.tx [] noAttempt := .refl h.base.store.db
  have hs := Stored.commit h.base.store hadv
  have h₁ := h.stored hs (fun _ => .none _ s) (by simp)
  have hQ' : ∀ s', Good (.rest F) s' → Q () s' := fun s' hg => hQ s' (hg.exempting rfl interrupted)
  cases hwork : command.workRequest? with
  | some work =>
    rw [bindAttempt_begin hwork, Actor.wp_modify, (begin_only hwork).2.2]
    refine freeStopped_spec (h₁.same_pending fun key => ?_) (by simp) hQ'
    rw [← hcaller.workspace]
    exact hreplayed.rebinds h hrun hwork key
  | none =>
    rw [bindAttempt_other hwork, Actor.wp_pure]
    refine freeStopped_spec h₁ ?_ hQ'
    intro hflight agentId i hagent hprimary
    obtain ⟨attemptId, a, hconfirms, ha, rfl⟩ := stoppedAgent_some hagent
    have hstored := hreplayed.stored
    rw [hcaller.workspace] at hstored
    exact hcalm hflight receipt attemptId a i hw (hreplayed.actor ▸ hcaller.actor) hfree hstored
      hreplayed.same hconfirms ha hprimary

theorem taskMutate_spec {generation : ℕ} {requestId : String} (h : Good (.rest F) s)
    (hrun : s.shuttingDown = false) :
    Handles (F ∧ Calm s id workspace command) (Titled s id workspace command)
      (Router.taskMutate id generation requestId workspace command) s := by
  have h : Good (.rest (F ∧ Calm s id workspace command)) s := h.weaken And.left
  unfold Handles Router.taskMutate
  simp only [Actor.wp_bind]
  refine requireWorkspaceMatch_spec h fun hw => ?_
  rw [Actor.wp_read]
  refine guard_requireThat h (by simp) fun hguard => ?_
  refine interruptedRequest_spec fun interrupted tick htick hinterrupts => ?_
  have hq : Quiet s { s with store := { s.store with tick } } :=
    ⟨rfl, rfl, htick, rfl, rfl, rfl, rfl, rfl, fun hs => hs⟩
  have h₁ := h.quiet hq
  rw [Actor.wp_read]
  refine callerContext_spec h₁ hrun hw fun caller hcaller => ?_
  rw [Actor.wp_mapError, Router.wp_inStore]
  have hend : ∀ (result : TaskApplyResult) (s' : RouterState),
      Good { Phase.rest (F ∧ Calm s id workspace command) with exempt := interrupted } s' →
      Actor.wp (Router.send id generation (.taskMutated requestId workspace result.mutation))
        (fun _ s'' => Actor.wp (Router.announceMutation workspace command interrupted result)
          (fun _ s₃ => Good (.rest (F ∧ Calm s id workspace command)) s₃)
          (Refused (F ∧ Calm s id workspace command) (Titled s id workspace command)) s'')
        (Refused (F ∧ Calm s id workspace command) (Titled s id workspace command)) s' :=
    fun result s' hg => Router.send_spec fun _ s'' hq' => announceMutation_spec (hg.quiet hq')
  have hfree : ∀ taskId, command.taskId? = some taskId → command.allowedWhileDispatched = false →
      s.taskDispatched workspace taskId = false := by
    intro taskId htask hallowed
    simpa [htask, hallowed] using hguard
  refine Txn.wp_mono (applyTask_outcome h₁.base.store.db hcaller.sound) ?_ ?_
  · rintro result t (⟨-, happlied⟩ | ⟨receipt, rfl, hreplayed⟩)
    · exact applied_spec h₁ hrun hcaller ⟨hinterrupts.found, hinterrupts.absent⟩ happlied
        (hend result)
    · exact replayed_spec h₁ hrun hcaller hw hfree (fun hflight => hflight.2) hreplayed
        (hend result)
  · intro e he
    refine .of_exhausted h₁ fun hcode => (he hcode).imp_right fun hhides => ?_
    exact ⟨hw, hfree, caller, hcaller.workspace, hcaller.actor, hhides⟩

end mutate

end SessionRouter
