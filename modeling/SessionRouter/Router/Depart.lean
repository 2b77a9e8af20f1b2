import SessionRouter.Router.Close

/-!
A connection goes: it and its delegates leave the routing tables, its attempts are interrupted, and
the requests that name it are closed one after the other.
-/

namespace SessionRouter

variable {s s' : RouterState} {g : Phase} {family : List Uuid}

/-- The state without the connections of a family and their subscriptions. -/
def RouterState.without (s : RouterState) (family : List Uuid) (store : RouterStore)
    (delegates : Table String (List Uuid)) : RouterState :=
  { s with
    store
    delegates
    connections := family.foldl Table.remove s.connections
    subscribers := s.subscribers.mapValues fun ids => ids.filter fun id => id ∉ family }

variable {store : RouterStore} {delegates : Table String (List Uuid)}

theorem without_card {id : Uuid} {c : ConnectionState} :
    (s.without family store delegates).card id = some c ↔ id ∉ family ∧ s.card id = some c := by
  simp only [RouterState.without, RouterState.card, Table.get?_foldl_remove]
  split
  · next h => simp [h]
  · next h => simp [h]

theorem without_connection {id : Uuid} {c : ConnectionState}
    (h : (s.without family store delegates).connections.get? id = some c) :
    s.connections.get? id = some c := by
  simp only [RouterState.without, Table.get?_foldl_remove] at h
  split at h
  · cases h
  · exact h

theorem without_subscribers {w : WorkspaceName} {id : Uuid} :
    id ∈ (s.without family store delegates).subscribersOf w ↔
      id ∈ s.subscribersOf w ∧ id ∉ family := by
  simp only [RouterState.without, RouterState.subscribersOf, Table.get?_mapValues]
  cases s.subscribers.get? w with
  | none => simp
  | some ids => simp [List.mem_filter]

section

variable [World]

/-- What the departure of a family does to the store. -/
structure Departed (s : RouterState) (family : List Uuid) (store : RouterStore)
    (es : List WorkspaceEvent) (ids : List Uuid) : Prop where
  inv : StoreInv store
  advance : Advance s.store.tx store.tx es (fun i _ => i ∈ ids)
  kinds : ∀ e ∈ es, e.kind = .task
  agent : ∀ i ∈ ids, ∀ a, s.db.attempts.get? i = some a →
    ∃ id ∈ family, s.primaries.get? a.agentId = some id
  ended : ∀ i a, store.db.attempts.get? i = some a → a.status = .running →
    ∀ c, c.runs a → ∀ id ∈ family, s.card id ≠ some c

variable {es : List WorkspaceEvent} {ids : List Uuid}

theorem Departed.requests (hd : Departed s family store es ids) (h : Requests s) :
    Requests (s.without family store delegates) := by
  refine h.shrink (fun _ _ hp => hp) ?_ hd.advance.grows ?_
  · exact fun id c hc => (without_card.mp hc).2
  · intro e he hkind
    rw [hd.kinds e he] at hkind
    cases hkind

theorem Departed.truthful (hd : Departed s family store es ids) (h : Truthful s) :
    Truthful (s.without family store delegates) where
  single := h.single
  working := fun key p c d hp hc hdesc => h.working key p c d hp (without_connection hc) hdesc
  ready := by
    intro id c d hc hdesc hready
    obtain ⟨hidle, hcancel, hjoined, hbar⟩ := h.ready id c d (without_connection hc) hdesc hready
    exact ⟨hidle, hcancel, hjoined, fun hb => hbar (barrier_of_extends hd.advance hb)⟩
  canceling := fun id c hc => h.canceling id c (without_connection hc)

theorem Departed.live (hd : Departed s family store es ids) (hbase : Base g s) (h : Live g s) :
    Live { g with dying := family ++ g.dying } (s.without family store delegates) := by
  have hreq := hbase.requests
  have hadv := hd.advance
  constructor
  · intro key p hp
    by_cases hmem : p.requester ∈ family
    · exact .inl (List.mem_append_left _ hmem)
    · rcases h.requester key p hp with hdying | ⟨c, hc⟩
      · exact .inl (List.mem_append_right _ hdying)
      · exact .inr ⟨c, without_card.mpr ⟨hmem, hc⟩⟩
  · intro key p hp
    by_cases hmem : p.recipient ∈ family
    · exact .inl (List.mem_append_left _ hmem)
    · rcases h.recipient key p hp with hdying | ⟨c, hc⟩
      · exact .inl (List.mem_append_right _ hdying)
      · exact .inr ⟨c, without_card.mpr ⟨hmem, hc⟩⟩
  · intro w requestId hasked hopen
    have hevents : store.db.events = s.db.events ++ es := hadv.grows.events
    obtain ⟨e, he, hkind, hw, hid⟩ := hasked
    change e ∈ store.db.events at he
    rw [hevents, List.mem_append] at he
    have hold : e ∈ s.db.events := by
      rcases he with he | he
      · exact he
      · rw [hd.kinds e he] at hkind
        cases hkind
    refine h.waiting w requestId ⟨e, hold, hkind, hw, hid⟩ fun x hx => hopen x ?_
    change x ∈ store.db.events
    rw [hevents]
    exact List.mem_append_left _ hx
  · intro i a' ha' hrun
    obtain ⟨a, ha, hlater⟩ := hadv.back ha'
    obtain ⟨p, c, hp, hid, hc, hruns⟩ := h.running i a ha (hlater.running hrun)
    have hruns' := c.runs_of_origin hlater.origin hruns
    refine ⟨p, c, ?_, hid, without_card.mpr ⟨?_, hc⟩, hruns'⟩
    · rw [← hlater.workspace, ← hlater.workRequestId]
      exact hp
    · exact fun hmem => hd.ended i a' ha' hrun c hruns' _ hmem hc
  · intro key p dispatch hp htask hdying hexempt i a' ha' hof
    simp only [List.mem_append, not_or] at hdying
    by_contra hun
    rw [Bool.not_eq_false] at hun
    obtain ⟨a, ha, hlater, hcase⟩ := hadv.was_running ha' hun
    have hof' := AttemptRow.isOf_of_origin hlater.origin.symm hof
    rcases hcase with hold | ⟨hrun, hmem⟩
    · exact absurd (h.stopped key p dispatch hp htask hdying.2 hexempt i a ha hof') (by simp [hold])
    · -- The interrupted attempt runs at the connection that goes, so the request does too.
      obtain ⟨q, c, hq, hqid, hc, hruns⟩ := h.running i a ha hrun
      obtain ⟨b, dispatch', hb, htask', hof''⟩ := hreq.named _ q i hq hqid
      change s.db.attempts.get? i = some a at ha
      rw [ha] at hb
      cases hb
      have hkey := hreq.tasks key _ p q dispatch dispatch' hp hq htask htask'
        (hof'.1.symm.trans hof''.1) (hof'.2.symm.trans hof''.2)
      change s.pending.get? key = some p at hp
      rw [hkey, hq] at hp
      cases hp
      obtain ⟨id, hid, hprimary⟩ := hd.agent i hmem a ha
      have := hbase.registry.agents _ c _ hc hruns.agentId
      rw [hprimary, Option.some.injEq] at this
      exact hdying.1 (this ▸ hid)
  · exact fun hflight id c d hc => h.busy hflight id c d (without_connection hc)
  · intro hflight key p hp hdying hexempt
    simp only [List.mem_append, not_or] at hdying
    rintro ⟨i, a', ha', hagent, hun⟩
    obtain ⟨a, ha, hlater, hcase⟩ := hadv.was_running ha' hun
    have hagent' : a.agentId = p.recipientId := hlater.agentId.trans hagent
    rcases hcase with hold | ⟨hrun, hmem⟩
    · exact h.confirmed hflight key p hp hdying.2 hexempt ⟨i, a, ha, hagent', hold⟩
    · obtain ⟨c, hc⟩ := (h.recipient key p hp).resolve_left hdying.2
      have htarget := (hreq.target key p c hp hc).2.2
      have hprimary := hbase.registry.agents _ c _ hc htarget
      obtain ⟨id, hid, hprimary'⟩ := hd.agent i hmem a ha
      rw [hagent', hprimary, Option.some.injEq] at hprimary'
      exact hdying.1 (hprimary' ▸ hid)

theorem Departed.kept (hd : Departed s family store es ids) :
    Kept s (s.without family store delegates) where
  pending := fun _ _ hp => hp
  card := fun _ _ hc => (without_card.mp hc).2
  size := Table.size_foldl_remove_le _ _
  shutting := fun h => h
  grows := ⟨es, hd.advance.grows⟩

/-- A family may go together: with an agent go its delegates, and what the tables still say about
its members is about to be undone. -/
structure Severed (g : Phase) (s : RouterState) (family : List Uuid) (leaving : List String)
    (delegates : Table String (List Uuid)) : Prop where
  grows : ∀ agentId ∈ g.leaving, agentId ∈ leaving
  agents : ∀ agentId, agentId ∈ leaving ↔ agentId ∈ g.leaving ∨
    ∃ id ∈ family, ∃ c, s.card id = some c ∧ c.agentId? = some agentId
  owned : ∀ id c ownerId, s.card id = some c → c.role = some (.delegate ownerId) →
    ownerId ∈ leaving → id ∈ family
  kept : ∀ ownerId id, id ∉ family →
    (id ∈ (delegates.get? ownerId).getD [] ↔ id ∈ s.delegatesOf ownerId)
  listed : ∀ ownerId id, id ∈ family → id ∈ (delegates.get? ownerId).getD [] → ownerId ∈ leaving

theorem Registry.without (h : Registry g s) {leaving : List String}
    (hsev : Severed g s family leaving delegates) (hgrows : Extends s.db store.db es)
    (htick : s.tick ≤ store.tick) :
    Registry { g with dying := family ++ g.dying, leaving := leaving }
      (s.without family store delegates) where
  drawn := fun id c hc => (h.drawn id c (without_card.mp hc).2).mono htick
  size := (Table.size_foldl_remove_le _ _).trans h.size
  agents := fun id c agentId hc => h.agents id c agentId (without_card.mp hc).2
  primaries := by
    intro agentId id hid
    rcases h.primaries agentId id hid with hleaving | ⟨c, hc, hagent⟩
    · exact .inl (hsev.grows agentId hleaving)
    · by_cases hmem : id ∈ family
      · exact .inl ((hsev.agents agentId).mpr (.inr ⟨id, hmem, c, hc, hagent⟩))
      · exact .inr ⟨c, without_card.mpr ⟨hmem, hc⟩, hagent⟩
  left := by
    intro agentId hleaving id c hc hagent
    obtain ⟨hmem, hc⟩ := without_card.mp hc
    rcases (hsev.agents agentId).mp hleaving with hold | ⟨id', hid', c', hc', hagent'⟩
    · exact h.left agentId hold id c hc hagent
    · have h₁ := h.agents id c agentId hc hagent
      have h₂ := h.agents id' c' agentId hc' hagent'
      rw [h₁, Option.some.injEq] at h₂
      exact hmem (h₂ ▸ hid')
  delegates := by
    intro id c ownerId hc hrole
    obtain ⟨hmem, hc⟩ := without_card.mp hc
    obtain ⟨hlisted, owner, p, howner, hp, hagent, hw⟩ := h.delegates id c ownerId hc hrole
    refine ⟨(hsev.kept ownerId id hmem).mpr hlisted, owner, p, howner, without_card.mpr ⟨?_, hp⟩,
      hagent, hw⟩
    exact fun hgone => hmem (hsev.owned id c ownerId hc hrole
      ((hsev.agents ownerId).mpr (.inr ⟨owner, hgone, p, hp, hagent⟩)))
  listed := by
    intro ownerId id hid
    by_cases hmem : id ∈ family
    · exact .inl (hsev.listed ownerId id hmem hid)
    · rcases h.listed ownerId id ((hsev.kept ownerId id hmem).mp hid) with hleaving | ⟨c, hc, hrole⟩
      · exact .inl (hsev.grows ownerId hleaving)
      · exact .inr ⟨c, without_card.mpr ⟨hmem, hc⟩, hrole⟩
  subscribers := by
    intro w id hid
    obtain ⟨hid, hmem⟩ := without_subscribers.mp hid
    obtain ⟨c, hc, hrest⟩ := h.subscribers w id hid
    exact ⟨c, without_card.mpr ⟨hmem, hc⟩, hrest⟩
  joined := by
    intro id c w hc hw
    obtain ⟨hgranted, row, hrow⟩ := h.joined id c w (without_card.mp hc).2 hw
    obtain ⟨row', hrow', -⟩ := hgrows.workspaces w row hrow
    exact ⟨hgranted, row', hrow'⟩
  actors := fun id c hc => h.actors id c (without_card.mp hc).2

/-- An agent goes with its delegates. -/
theorem Registry.severed_agent (h : Registry g s) {id : Uuid} {c : ConnectionState}
    {agentId : String} (hc : s.card id = some c) (hagent : c.agentId? = some agentId) :
    Severed g s ((s.delegatesOf agentId).insert id) (agentId :: g.leaving) s.delegates where
  grows := fun _ hmem => List.mem_cons_of_mem _ hmem
  agents := by
    intro agentId'
    constructor
    · intro hmem
      rcases List.mem_cons.mp hmem with rfl | hmem
      · exact .inr ⟨id, by simp, c, hc, hagent⟩
      · exact .inl hmem
    · rintro (hmem | ⟨id', hid', c', hc', hagent'⟩)
      · exact List.mem_cons_of_mem _ hmem
      · rcases List.mem_insert_iff.mp hid' with rfl | hid'
        · rw [hc] at hc'
          cases hc'
          rw [hagent, Option.some.injEq] at hagent'
          simp [hagent']
        · rcases h.listed agentId id' hid' with hleaving | ⟨d, hd, hrole⟩
          · exact absurd hagent (h.left agentId hleaving id c hc)
          · rw [hc'] at hd
            cases hd
            simp [ConnectionState.agentId?, ConnectionState.descriptor?, hrole] at hagent'
  owned := by
    intro id' c' ownerId hc' hrole hmem
    obtain ⟨hlisted, owner, p, howner, hp, howneragent, -⟩ := h.delegates id' c' ownerId hc' hrole
    rcases List.mem_cons.mp hmem with rfl | hmem
    · exact List.mem_insert_of_mem hlisted
    · exact absurd howneragent (h.left ownerId hmem owner p hp)
  kept := fun _ _ _ => Iff.rfl
  listed := by
    intro ownerId id' hid' hlisted
    rcases h.listed ownerId id' hlisted with hleaving | ⟨d, hd, hrole⟩
    · exact List.mem_cons_of_mem _ hleaving
    · rcases List.mem_insert_iff.mp hid' with rfl | hid'
      · rw [hc] at hd
        cases hd
        simp [ConnectionState.agentId?, ConnectionState.descriptor?, hrole] at hagent
      · rcases h.listed agentId id' hid' with hleaving | ⟨d', hd', hrole'⟩
        · exact absurd hagent (h.left agentId hleaving id c hc)
        · rw [hd] at hd'
          cases hd'
          rw [hrole] at hrole'
          simp only [Option.some.injEq, ConnectionRole.delegate.injEq] at hrole'
          simp [hrole']

/-- A connection that is no agent goes alone, once no owner lists it. -/
theorem Registry.severed_single (h : Registry g s) (delegates : Table String (List Uuid))
    {id : Uuid} {c : ConnectionState} (hc : s.card id = some c) (hagent : c.agentId? = none)
    (hkept : ∀ ownerId id', id' ≠ id →
      (id' ∈ (delegates.get? ownerId).getD [] ↔ id' ∈ s.delegatesOf ownerId))
    (hlisted : ∀ ownerId, id ∈ (delegates.get? ownerId).getD [] → ownerId ∈ g.leaving) :
    Severed g s [id] g.leaving delegates where
  grows := fun _ hmem => hmem
  agents := by
    intro agentId
    refine ⟨.inl, ?_⟩
    rintro (hmem | ⟨id', hid', c', hc', hagent'⟩)
    · exact hmem
    · rw [List.mem_singleton] at hid'
      subst hid'
      rw [hc] at hc'
      cases hc'
      rw [hagent] at hagent'
      cases hagent'
  owned := by
    intro id' c' ownerId hc' hrole hmem
    obtain ⟨-, owner, p, -, hp, howneragent, -⟩ := h.delegates id' c' ownerId hc' hrole
    exact absurd howneragent (h.left ownerId hmem owner p hp)
  kept := fun ownerId id' hid' => hkept ownerId id' (by simpa using hid')
  listed := by
    intro ownerId id' hid'
    rw [List.mem_singleton] at hid'
    subst hid'
    exact hlisted ownerId

/-- The family is gone; the requests that name it are still to be closed. -/
theorem Good.without (h : Good g s) {leaving : List String}
    (hsev : Severed g s family leaving delegates) (hd : Departed s family store es ids) :
    Good { g with dying := family ++ g.dying, leaving := leaving }
      (s.without family store delegates) where
  base :=
    { store := hd.inv
      registry := h.base.registry.without hsev hd.advance.grows hd.advance.tick
      requests := hd.requests h.base.requests
      truthful := fun hflight => hd.truthful (h.base.truthful hflight) }
  live := h.live.imp hd.kept.stuck fun hl => { hd.live h.base hl with }

/-- The registration of an agent that left is undone. -/
theorem Good.unregister {agentId : String} (h : Good { g with leaving := agentId :: g.leaving } s) :
    Good g { s with
      primaries := s.primaries.remove agentId
      delegates := s.delegates.remove agentId } where
  base :=
    { store := h.base.store
      registry := by
        have hr := h.base.registry
        have hleft := hr.left agentId (by simp)
        have hlisted : ∀ ownerId id, id ∈ ((s.delegates.remove agentId).get? ownerId).getD [] ↔
            ownerId ≠ agentId ∧ id ∈ s.delegatesOf ownerId := by
          intro ownerId id
          rw [Table.get?_remove]
          split
          · next heq => simp [heq]
          · next hne => simp [hne, RouterState.delegatesOf]
        refine ⟨hr.drawn, hr.size, ?_, ?_, ?_, ?_, ?_, hr.subscribers, hr.joined, hr.actors⟩
        · intro id c agentId' hc hagent
          change (s.primaries.remove agentId).get? agentId' = some id
          rw [Table.get?_remove, if_neg]
          · exact hr.agents id c agentId' hc hagent
          · rintro rfl
            exact hleft id c hc hagent
        · intro agentId' id hid
          change (s.primaries.remove agentId).get? agentId' = some id at hid
          rw [Table.get?_remove] at hid
          split at hid
          · cases hid
          · next hne =>
            rcases hr.primaries agentId' id hid with hmem | hcard
            · exact .inl ((List.mem_cons.mp hmem).resolve_left hne)
            · exact .inr hcard
        · exact fun agentId' hmem => hr.left agentId' (List.mem_cons_of_mem _ hmem)
        · intro id c ownerId hc hrole
          obtain ⟨hmem, owner, p, howner, hp, hagent, hw⟩ := hr.delegates id c ownerId hc hrole
          have hne : ownerId ≠ agentId := by
            rintro rfl
            exact hleft owner p hp hagent
          refine ⟨(hlisted ownerId id).mpr ⟨hne, hmem⟩, owner, p, ?_, hp, hagent, hw⟩
          change (s.primaries.remove agentId).get? ownerId = some owner
          rw [Table.get?_remove, if_neg hne]
          exact howner
        · intro ownerId id hid
          obtain ⟨hne, hmem⟩ := (hlisted ownerId id).mp hid
          rcases hr.listed ownerId id hmem with hmem | hcard
          · exact .inl ((List.mem_cons.mp hmem).resolve_left hne)
          · exact .inr hcard
      requests := h.base.requests.of_same rfl rfl rfl
      truthful := fun hflight => (h.base.truthful hflight).of_same rfl rfl rfl }
  live := h.live.imp id fun hl => ({ hl with } : Live g s).of_same rfl rfl rfl

/-- Once no request names the family, nothing is left of it. -/
theorem Good.buried (h : Good { g with dying := family ++ g.dying } s)
    (hnone : ∀ key p, s.pending.get? key = some p → p.requester ∉ family ∧ p.recipient ∉ family) :
    Good g s where
  base :=
    { store := h.base.store
      registry := h.base.registry.of_leaving rfl
      requests := h.base.requests
      truthful := h.base.truthful }
  live := by
    refine h.live.imp id fun hl => ?_
    have hdying : ∀ key p, s.pending.get? key = some p → p.recipient ∉ g.dying →
        p.recipient ∉ family ++ g.dying := by
      intro key p hp hmem
      simp only [List.mem_append, not_or]
      exact ⟨(hnone key p hp).2, hmem⟩
    refine ⟨?_, ?_, hl.waiting, hl.running, ?_, hl.busy, ?_⟩
    · intro key p hp
      refine (hl.requester key p hp).imp_left fun hmem => ?_
      exact (List.mem_append.mp hmem).resolve_left (hnone key p hp).1
    · intro key p hp
      refine (hl.recipient key p hp).imp_left fun hmem => ?_
      exact (List.mem_append.mp hmem).resolve_left (hnone key p hp).2
    · exact fun key p dispatch hp htask hmem =>
        hl.stopped key p dispatch hp htask (hdying key p hp hmem)
    · exact fun hflight key p hp hmem => hl.confirmed hflight key p hp (hdying key p hp hmem)

/-- The request whose task was interrupted is gone. -/
theorem Good.settled {key : WorkspaceName × String} (h : Good { g with exempt := some key } s)
    (hnone : s.pending.get? key = none) : Good { g with exempt := none } s where
  base :=
    { store := h.base.store
      registry := h.base.registry.of_leaving rfl
      requests := h.base.requests
      truthful := h.base.truthful }
  live := by
    refine h.live.imp id fun hl => ?_
    have hother : ∀ k p, s.pending.get? k = some p → some k ≠ some key := by
      rintro k p hp heq
      rw [Option.some.injEq] at heq
      rw [heq, hnone] at hp
      cases hp
    exact ⟨hl.requester, hl.recipient, hl.waiting, hl.running,
      fun k p dispatch hp htask hmem _ => hl.stopped k p dispatch hp htask hmem (hother k p hp),
      hl.busy, fun hflight k p hp hmem _ => hl.confirmed hflight k p hp hmem (hother k p hp)⟩

end

end SessionRouter
