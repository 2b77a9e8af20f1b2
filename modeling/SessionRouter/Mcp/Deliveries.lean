import SessionRouter.Mcp.Backend

/-!
No delivery is lost: as long as no call leaves while a request waits for it, every request that
was accepted is on its way, has been returned once, or has ended otherwise.
-/

namespace SessionRouter.Mcp

/-- The delivery an activity is responsible for. -/
def Activity.held : Activity → Option InboundRequest
  | deliver _ request | delivered _ request _ | reject request => some request
  | _ => none

/-- The wait an activity can send to. -/
def Activity.target : Activity → Option ℕ
  | deliver wait _ | delivered wait _ _ => some wait
  | _ => none

def CallResult.request? : CallResult → Option InboundRequest
  | .request r => some r
  | _ => none

inductive Place where
  | activity (id : ℕ) | inbox (wait : ℕ) | outcome (wait : ℕ)
  deriving DecidableEq

namespace Backend

/-- What stands at a place. -/
def heldAt (s : Backend) : Place → Option InboundRequest
  | .activity id => (s.activities.get? id).bind Activity.held
  | .inbox wait => (s.inbox.get? wait).bind Except.toOption
  | .outcome wait => (s.outcomes.get? wait).bind CallResult.request?

/-- Every delivery is at one place, or has ended. -/
structure Placed (s : Backend) : Prop where
  known : ∀ p r, s.heldAt p = some r → r ∈ s.accepted
  unique : ∀ p q r, s.heldAt p = some r → s.heldAt q = some r → p = q
  located : ∀ r ∈ s.accepted, (∃ p, s.heldAt p = some r) ∨ ∃ f, (r, f) ∈ s.fates

namespace Placed

variable {s s' : Backend} {r : InboundRequest} {f : Fate}

theorem same (h : Placed s) (hat : ∀ p, s'.heldAt p = s.heldAt p)
    (haccepted : s'.accepted = s.accepted) (hfates : ∀ e ∈ s.fates, e ∈ s'.fates) : Placed s' where
  known := by grind [h.known]
  unique := by grind [h.unique]
  located := by grind [h.located]

theorem moved (h : Placed s) (src dst : Place) (hsrc : s.heldAt src = some r)
    (hdst : s.heldAt dst = none) (hsrc' : s'.heldAt src = none) (hdst' : s'.heldAt dst = some r)
    (hat : ∀ p, p = src ∨ p = dst ∨ s'.heldAt p = s.heldAt p)
    (haccepted : s'.accepted = s.accepted) (hfates : s'.fates = s.fates) : Placed s' where
  known := by grind [h.known]
  unique := by grind [h.unique]
  located := by grind [h.located]

theorem added (h : Placed s) (dst : Place) (hnew : r ∉ s.accepted) (hdst : s.heldAt dst = none)
    (hdst' : s'.heldAt dst = some r) (hat : ∀ p, p = dst ∨ s'.heldAt p = s.heldAt p)
    (haccepted : s'.accepted = s.accepted ++ [r]) (hfates : s'.fates = s.fates) : Placed s' where
  known := by grind [h.known]
  unique := by grind [h.unique, h.known]
  located := by grind [h.located]

/-- What has ended may be forgotten. -/
theorem forgotten (h : Placed s) (src : Place)
    (hsrc : ∀ r, s.heldAt src = some r → ∃ f, (r, f) ∈ s.fates) (hsrc' : s'.heldAt src = none)
    (hat : ∀ p, p = src ∨ s'.heldAt p = s.heldAt p) (haccepted : s'.accepted = s.accepted)
    (hfates : s'.fates = s.fates) : Placed s' where
  known := by grind [h.known]
  unique := by grind [h.unique]
  located := by grind [h.located]

theorem ended (h : Placed s) (src : Place) (hsrc : s.heldAt src = some r)
    (hsrc' : s'.heldAt src = none) (hat : ∀ p, p = src ∨ s'.heldAt p = s.heldAt p)
    (haccepted : s'.accepted = s.accepted) (hfates : s'.fates = s.fates ++ [(r, f)]) :
    Placed s' where
  known := by grind [h.known]
  unique := by grind [h.unique]
  located := by grind [h.located]

end Placed

/-- Who can send to whom. -/
structure Wired (s : Backend) : Prop where
  fresh : ∀ id, s.next ≤ id →
    s.activities.get? id = none ∧ s.inbox.get? id = none ∧ s.outcomes.get? id = none
  slot : ∀ w, s.waiter = some w → ∃ a, s.activities.get? w = some a ∧ a.listens = true
  slotEmpty : ∀ w, s.waiter = some w → s.inbox.get? w = none
  slotOnly : ∀ w id a, s.waiter = some w → s.activities.get? id = some a → a.target ≠ some w
  target : ∀ id a w, s.activities.get? id = some a → a.target = some w →
    w < s.next ∧ s.inbox.get? w = none
  targetOnly : ∀ id a id' a' w, s.activities.get? id = some a → a.target = some w →
    s.activities.get? id' = some a' → a'.target = some w → id = id'
  mail : ∀ w v, s.inbox.get? w = some v → ∃ a, s.activities.get? w = some a ∧ a.listens = true
  returned : ∀ w v, s.outcomes.get? w = some v → s.activities.get? w = none

/-- The pending request is one of the accepted ones, and has not ended. -/
structure Pends (s : Backend) : Prop where
  numbered : ∀ r ∈ s.accepted, r.number < s.accepted.length
  accepted : ∀ r, s.pending = some r → r ∈ s.accepted
  unended : ∀ r f, s.pending = some r → (r, f) ∉ s.fates
  rejecting : ∀ id r, s.activities.get? id = some (.reject r) → s.pending ≠ some r
  ended : ∀ r f, (r, f) ∈ s.fates → r ∈ s.accepted

structure Inv (s : Backend) : Prop where
  placed : Placed s
  wired : Wired s
  pends : Pends s

theorem start_inv : Inv {} where
  placed := by
    have hnone : ∀ p, heldAt {} p = none := by
      intro p
      cases p <;> rfl
    exact ⟨by simp [hnone], by simp [hnone], by simp⟩
  wired := by constructor <;> simp
  pends := by constructor <;> simp

@[grind =]
theorem heldAt_activity (s : Backend) (id : ℕ) :
    s.heldAt (.activity id) = (s.activities.get? id).bind Activity.held := rfl

@[grind =]
theorem heldAt_inbox (s : Backend) (id : ℕ) :
    s.heldAt (.inbox id) = (s.inbox.get? id).bind Except.toOption := rfl

@[grind =]
theorem heldAt_outcome (s : Backend) (id : ℕ) :
    s.heldAt (.outcome id) = (s.outcomes.get? id).bind CallResult.request? := rfl

theorem heldAt_inbox_some {s : Backend} {id : ℕ} {r : InboundRequest} :
    s.heldAt (.inbox id) = some r ↔ s.inbox.get? id = some (.ok r) := by
  rw [heldAt_inbox]
  cases s.inbox.get? id with
  | none => simp
  | some v => cases v <;> simp [Except.toOption]

variable {s s' : Backend} {id wait : ℕ} {a b : Activity} {result : CallResult}
  {r : InboundRequest}

namespace Wired

theorem frame (h : Wired s) (hwaiter : s'.waiter = s.waiter)
    (hactivities : s'.activities = s.activities) (hinbox : s'.inbox = s.inbox)
    (hnext : s.next ≤ s'.next) (houtcomes : s'.outcomes = s.outcomes) : Wired s' := by
  obtain ⟨h1, h2, h3, h4, h5, h6, h7, h8⟩ := h
  constructor <;> grind

theorem put (h : Wired s) (ha : s.activities.get? id = some a)
    (htarget : b.target = a.target ∨ b.target = none)
    (hlistens : a.listens = true → b.listens = true) : Wired (s.put id b) := by
  obtain ⟨h1, h2, h3, h4, h5, h6, h7, h8⟩ := h
  constructor <;> simp only [Backend.put] <;> grind

end Wired

/-- The invariant does not look at the membership, the queue and the event loop. -/
theorem Inv.frame (h : Inv s) (hwaiter : s'.waiter = s.waiter) (hpending : s'.pending = s.pending)
    (hactivities : s'.activities = s.activities) (hinbox : s'.inbox = s.inbox)
    (hnext : s.next ≤ s'.next) (houtcomes : s'.outcomes = s.outcomes)
    (haccepted : s'.accepted = s.accepted) (hfates : s'.fates = s.fates) : Inv s' where
  placed := by
    refine h.placed.same (fun p => ?_) haccepted (fun e he => hfates ▸ he)
    cases p with
    | activity id => rw [heldAt_activity, heldAt_activity, hactivities]
    | inbox id => rw [heldAt_inbox, heldAt_inbox, hinbox]
    | outcome id => rw [heldAt_outcome, heldAt_outcome, houtcomes]
  wired := h.wired.frame hwaiter hactivities hinbox hnext houtcomes
  pends := by
    obtain ⟨h1, h2, h3, h4, h5⟩ := h.pends
    constructor <;> grind

/-- A call that does not own the slot returns what has been sent to it. -/
theorem finish_inv (h : Inv s) (hid : id < s.next) (hslot : s.waiter ≠ some id)
    (hheld : ∀ a, s.activities.get? id = some a → a.held = none)
    (hreturned : s.outcomes.get? id = none)
    (hresult : result.request? = (s.inbox.get? id).bind Except.toOption) :
    Inv (s.finish id result) where
  placed := by
    have hnone : s.heldAt (.activity id) = none := by
      cases ha : s.activities.get? id with
      | none => simp [heldAt_activity, ha]
      | some a => simp [heldAt_activity, ha, hheld a ha]
    have hactivity : ∀ i, (s.finish id result).heldAt (.activity i) = s.heldAt (.activity i) := by
      grind [finish]
    cases hrequest : result.request? with
    | none =>
      refine h.placed.same (fun p => ?_) rfl (fun _ he => he)
      cases p with
      | activity i => exact hactivity i
      | inbox i => grind [finish]
      | outcome i => grind [finish]
    | some r =>
      refine h.placed.moved (.inbox id) (.outcome id) (hresult ▸ hrequest) ?_ ?_ ?_ ?_ rfl rfl
      · grind
      · grind [finish]
      · grind [finish]
      · intro p
        cases p with
        | activity i => exact .inr (.inr (hactivity i))
        | inbox i => grind [finish]
        | outcome i => grind [finish]
  wired := by
    obtain ⟨h1, h2, h3, h4, h5, h6, h7, h8⟩ := h.wired
    constructor <;> simp only [finish] <;> grind
  pends := by
    obtain ⟨h1, h2, h3, h4, h5⟩ := h.pends
    constructor <;> simp only [finish] <;> grind

/-- An activity goes on with the same duties. -/
theorem put_inv (h : Inv s) (ha : s.activities.get? id = some a) (hheld : b.held = a.held)
    (htarget : b.target = a.target) (hlistens : a.listens = true → b.listens = true)
    (hreject : ∀ r, b ≠ .reject r) : Inv (s.put id b) where
  placed := by
    refine h.placed.same (fun p => ?_) rfl (fun _ he => he)
    cases p with
    | activity i => grind [put]
    | inbox i => rfl
    | outcome i => rfl
  wired := h.wired.put ha (.inl htarget) hlistens
  pends := by
    obtain ⟨h1, h2, h3, h4, h5⟩ := h.pends
    constructor <;> simp only [put] <;> grind

theorem spawn_inv (h : Inv s) (hheld : b.held = none) (htarget : b.target = none) :
    Inv (s.spawn b) where
  placed := by
    have hfresh := h.wired.fresh s.next (Nat.le_refl _)
    refine h.placed.same (fun p => ?_) rfl (fun _ he => he)
    cases p with
    | activity i => grind [spawn, put]
    | inbox i => rfl
    | outcome i => rfl
  wired := by
    obtain ⟨h1, h2, h3, h4, h5, h6, h7, h8⟩ := h.wired
    constructor <;> simp only [spawn, put] <;> grind
  pends := by
    obtain ⟨h1, h2, h3, h4, h5⟩ := h.pends
    have hreject : ∀ r, b ≠ .reject r := by
      rintro r rfl
      cases hheld
    constructor <;> simp only [spawn, put] <;> grind

/-- An activity that is no wait of its own ends. -/
theorem stop_inv (h : Inv s) (ha : s.activities.get? id = some a) (hheld : a.held = none)
    (hlistens : a.listens = false) : Inv (s.stop id) where
  placed := by
    refine h.placed.same (fun p => ?_) rfl (fun _ he => he)
    cases p with
    | activity i => grind [stop]
    | inbox i => rfl
    | outcome i => rfl
  wired := by
    obtain ⟨h1, h2, h3, h4, h5, h6, h7, h8⟩ := h.wired
    constructor <;> simp only [stop] <;> grind
  pends := by
    obtain ⟨h1, h2, h3, h4, h5⟩ := h.pends
    constructor <;> simp only [stop] <;> grind

theorem clearPending_inv (h : Inv s) : Inv { s with pending := none } where
  placed := ⟨h.placed.known, h.placed.unique, h.placed.located⟩
  wired := h.wired.frame rfl rfl rfl (Nat.le_refl _) rfl
  pends := ⟨h.pends.numbered, nofun, nofun, fun _ _ _ => nofun, h.pends.ended⟩

theorem clearWaiter_inv (h : Inv s) : Inv { s with waiter := none } where
  placed := ⟨h.placed.known, h.placed.unique, h.placed.located⟩
  wired := ⟨h.wired.fresh, nofun, nofun, nofun, h.wired.target, h.wired.targetOnly, h.wired.mail,
    h.wired.returned⟩
  pends := ⟨h.pends.numbered, h.pends.accepted, h.pends.unended, h.pends.rejecting, h.pends.ended⟩

theorem endPending_inv (h : Inv s) (hr : s.pending = some r) (f : Fate) :
    Inv { s with pending := none, fates := s.fates ++ [(r, f)] } where
  placed := h.placed.same (fun _ => rfl) rfl (fun _ he => List.mem_append_left _ he)
  wired := h.wired.frame rfl rfl rfl (Nat.le_refl _) rfl
  pends := by
    refine ⟨h.pends.numbered, nofun, nofun, fun _ _ _ => nofun, fun r' f' hmem => ?_⟩
    rcases List.mem_append.mp hmem with hold | hnew
    · exact h.pends.ended r' f' hold
    · obtain ⟨rfl, -⟩ := Prod.mk.inj (List.mem_singleton.mp hnew)
      exact h.pends.accepted r' hr

theorem dropPending_inv (h : Inv s) : Inv s.dropPending := by
  unfold dropPending
  cases hr : s.pending with
  | none => exact (clearPending_inv h).frame rfl rfl rfl rfl (Nat.le_refl _) rfl rfl (by simp)
  | some r => exact endPending_inv h hr .dropped

/-- The slot is emptied, and who stood in it hears of an error. -/
theorem sendError_inv (h : Inv s) (e : BackendError)
    (hslot : s.waiter ≠ some wait) (hempty : s.inbox.get? wait = none)
    (htarget : ∀ id a, s.activities.get? id = some a → a.target ≠ some wait) :
    Inv (s.send wait (.error e)) := by
  unfold send
  cases ha : s.activities.get? wait with
  | none => exact h
  | some a =>
    simp only [Option.any_some]
    split
    · next hlistens =>
      constructor
      · refine h.placed.same (fun p => ?_) rfl (fun _ he => he)
        cases p with
        | activity i => rfl
        | inbox i => grind [Except.toOption]
        | outcome i => rfl
      · obtain ⟨h1, h2, h3, h4, h5, h6, h7, h8⟩ := h.wired
        constructor <;> dsimp only <;> grind
      · exact ⟨h.pends.numbered, h.pends.accepted, h.pends.unended, h.pends.rejecting,
          h.pends.ended⟩
    · exact h

theorem expel_inv (h : Inv s) (membership : Option WorkspaceName) (e : BackendError) :
    Inv (({ s with membership, waiter := none }.dropPending).sendOption s.waiter e) := by
  have hcleared : Inv ({ s with membership, waiter := none }.dropPending) :=
    dropPending_inv ((clearWaiter_inv h).frame rfl rfl rfl rfl (Nat.le_refl _) rfl rfl rfl)
  cases hw : s.waiter with
  | none => exact hcleared
  | some w =>
    exact sendError_inv hcleared e nofun (h.wired.slotEmpty w hw)
      fun id a ha => h.wired.slotOnly w id a hw ha

theorem changeMembership_inv (h : Inv s) (workspace : Option WorkspaceName) :
    Inv (s.changeMembership workspace) := by
  unfold changeMembership
  split
  · exact expel_inv h workspace _
  · exact h

/-- A call leaves without what was sent to it, and its guard acts. -/
theorem leave_inv (h : Inv s) (ha : s.activities.get? id = some a) (hheld : a.held = none)
    (hmail : ∀ r, s.inbox.get? id = some (.ok r) → ∃ f, (r, f) ∈ s.fates)
    {outcomes : Table ℕ CallResult}
    (hothers : ∀ i, i ≠ id → outcomes.get? i = s.outcomes.get? i)
    (hown : (outcomes.get? id).bind CallResult.request? = none) :
    Inv (({ s with
      activities := s.activities.remove id
      inbox := s.inbox.remove id
      outcomes } : Backend).releaseWait id) := by
  have hid : id < s.next := by
    by_contra hle
    have hnone := (h.wired.fresh id (Nat.le_of_not_lt hle)).1
    exact absurd (ha.symm.trans hnone) (by simp)
  have hgone : s.outcomes.get? id = none := by
    cases hv : s.outcomes.get? id with
    | none => rfl
    | some v => exact absurd (ha.symm.trans (h.wired.returned id v hv)) (by simp)
  have hleft : Inv ({ s with
      waiter := if s.waiter = some id then none else s.waiter
      activities := s.activities.remove id
      inbox := s.inbox.remove id
      outcomes } : Backend) := by
    constructor
    · refine h.placed.forgotten (.inbox id) (fun r hr => hmail r (heldAt_inbox_some.mp hr)) ?_
        (fun p => ?_) rfl rfl
      · grind
      · cases p with
        | activity i => exact .inr (by grind)
        | inbox i => grind
        | outcome i => exact .inr (by grind)
    · obtain ⟨h1, h2, h3, h4, h5, h6, h7, h8⟩ := h.wired
      constructor <;> dsimp only <;> grind
    · obtain ⟨h1, h2, h3, h4, h5⟩ := h.pends
      constructor <;> dsimp only <;> grind
  unfold releaseWait
  by_cases hslot : s.waiter = some id
  · rw [if_pos hslot] at hleft ⊢
    exact spawn_inv hleft rfl rfl
  · rw [if_neg hslot] at hleft ⊢
    exact hleft

theorem register_inv (h : Inv s) :
    Inv ({ s with next := s.next + 1, waiter := some s.next }.put s.next .announce) where
  placed := by
    have hfresh := h.wired.fresh s.next (Nat.le_refl _)
    refine h.placed.same (fun p => ?_) rfl (fun _ he => he)
    cases p with
    | activity i => grind [put, Activity.held]
    | inbox i => rfl
    | outcome i => rfl
  wired := by
    have hlistens : Activity.listens .announce = true := rfl
    have htarget : Activity.target .announce = none := rfl
    obtain ⟨h1, h2, h3, h4, h5, h6, h7, h8⟩ := h.wired
    constructor <;> simp only [put] <;> grind
  pends := by
    obtain ⟨h1, h2, h3, h4, h5⟩ := h.pends
    constructor <;> simp only [put] <;> grind

/-- A wait that still owns the slot takes it back. -/
theorem retire_inv (h : Inv s) (ha : s.activities.get? id = some .waiting)
    (hslot : s.waiter = some id) : Inv ({ s with waiter := none }.put id .retire) where
  placed := by
    refine h.placed.same (fun p => ?_) rfl (fun _ he => he)
    cases p with
    | activity i => grind [put, Activity.held]
    | inbox i => rfl
    | outcome i => rfl
  wired := by
    have htarget : Activity.target .retire = none := rfl
    obtain ⟨h1, h2, h3, h4, h5, h6, h7, h8⟩ := h.wired
    constructor <;> simp only [put] <;> grind
  pends := by
    obtain ⟨h1, h2, h3, h4, h5⟩ := h.pends
    constructor <;> simp only [put] <;> grind

/-- The waiter is taken for a new request. -/
theorem deliver_inv (h : Inv s) (hslot : s.waiter = some wait)
    (hnumber : r.number = s.accepted.length) :
    Inv (({ s with
      waiter := none
      pending := some r
      accepted := s.accepted ++ [r] } : Backend).spawn (.deliver wait r)) where
  placed := by
    have hfresh := h.wired.fresh s.next (Nat.le_refl _)
    have hnew : r ∉ s.accepted := by
      intro hmem
      have hlt := h.pends.numbered r hmem
      omega
    refine h.placed.added (.activity s.next) hnew ?_ ?_ (fun p => ?_) rfl rfl
    · rw [heldAt_activity, hfresh.1]
      rfl
    · simp only [heldAt_activity, spawn, put, Table.get?_put_self]
      rfl
    · cases p with
      | activity i => grind [spawn, put]
      | inbox i => exact .inr rfl
      | outcome i => exact .inr rfl
  wired := by
    have htarget : Activity.target (.deliver wait r) = some wait := rfl
    obtain ⟨h1, h2, h3, h4, h5, h6, h7, h8⟩ := h.wired
    constructor <;> simp only [spawn, put] <;> grind
  pends := by
    have hnew : ∀ f, (r, f) ∉ s.fates := by
      intro f hmem
      have hlt := h.pends.numbered r (h.pends.ended r f hmem)
      omega
    have hheld : ∀ id r', s.activities.get? id = some (.reject r') → r' ∈ s.accepted := by
      intro id r' ha
      apply h.placed.known (.activity id)
      rw [heldAt_activity, ha]
      rfl
    obtain ⟨h1, h2, h3, h4, h5⟩ := h.pends
    constructor <;> simp only [spawn, put] <;> grind

theorem isPending_self (h : s.pending = some r) : s.isPending r = true := by
  simp [isPending, h]

theorem handOver_inv (h : Inv s) (ha : s.activities.get? id = some a) (hheld : a.held = some r)
    (htarget : a.target = some wait) : Inv (s.handOver id wait r) := by
  have hempty := (h.wired.target id a wait ha htarget).2
  have hmute : a.listens = false := by
    cases a <;> first | rfl | cases hheld
  unfold handOver
  split
  · next hlistens =>
    unfold send
    rw [if_pos hlistens]
    cases hw : s.activities.get? wait with
    | none => simp [hw] at hlistens
    | some b =>
      have hb : b.listens = true := by simpa [hw] using hlistens
      have hneq : wait ≠ id := by
        rintro rfl
        obtain rfl : a = b := Option.some.inj (ha.symm.trans hw)
        exact absurd (hb.symm.trans hmute) (by simp)
      constructor
      · refine h.placed.moved (r := r) (.activity id) (.inbox wait) ?_ ?_ ?_ ?_
          (fun p => ?_) rfl rfl
        · rw [heldAt_activity, ha]
          exact hheld
        · rw [heldAt_inbox, hempty]
          rfl
        · simp [heldAt_activity, stop]
        · simp [heldAt_inbox, stop, Except.toOption]
        · cases p with
          | activity i => grind [stop]
          | inbox i => grind [stop]
          | outcome i => exact .inr (.inr rfl)
      · have hback : ∀ i c, (s.activities.remove id).get? i = some c →
            s.activities.get? i = some c := by grind
        obtain ⟨h1, h2, h3, h4, h5, h6, h7, h8⟩ := h.wired
        constructor
        case targetOnly =>
          exact fun i c i' c' w hc hcw hc' hcw' =>
            h6 i c i' c' w (hback i c hc) hcw (hback i' c' hc') hcw'
        all_goals
          simp only [stop]
          grind
      · obtain ⟨h1, h2, h3, h4, h5⟩ := h.pends
        constructor <;> simp only [stop] <;> grind
  · next hdeaf =>
    constructor
    · refine h.placed.same (fun p => ?_) rfl (fun _ he => he)
      cases p with
      | activity i => grind [put, Activity.held]
      | inbox i => rfl
      | outcome i => rfl
    · have hput : Wired (s.put id (.reject r)) :=
        h.wired.put ha (.inr rfl) fun hl => absurd (hl.symm.trans hmute) (by simp)
      exact hput.frame rfl rfl rfl (Nat.le_refl _) rfl
    · obtain ⟨h1, h2, h3, h4, h5⟩ := h.pends
      have hself := isPending_self (s := s) (r := r)
      constructor <;> simp only [put] <;> grind

theorem reject_inv (h : Inv s) (ha : s.activities.get? id = some (.reject r)) (ticket : ℕ)
    (write : Write) :
    Inv (({ s with fates := s.fates ++ [(r, Fate.rejected)] }.hand write).put id
      (.refused ticket true)) where
  placed := by
    refine h.placed.ended (.activity id) (r := r) ?_ ?_ (fun p => ?_) rfl rfl
    · rw [heldAt_activity, ha]
      rfl
    · simp only [heldAt_activity, put, Table.get?_put_self]
      rfl
    · cases p with
      | activity i => grind [put, hand]
      | inbox i => exact .inr rfl
      | outcome i => exact .inr rfl
  wired := by
    have hput : Wired (s.put id (.refused ticket true)) := h.wired.put ha (.inr rfl) nofun
    exact hput.frame rfl rfl rfl (Nat.le_refl _) rfl
  pends := by
    have hknown : r ∈ s.accepted := by
      apply h.placed.known (.activity id)
      rw [heldAt_activity, ha]
      rfl
    obtain ⟨h1, h2, h3, h4, h5⟩ := h.pends
    constructor <;> simp only [put, hand] <;> grind

/-- A reply to a request that has ended is not sent. -/
theorem mute_inv (h : Inv s) (ha : s.activities.get? id = some (.reject r))
    (hended : ∃ f, (r, f) ∈ s.fates) : Inv (s.put id (.unready none)) where
  placed := by
    have hheld : s.heldAt (.activity id) = some r := by
      rw [heldAt_activity, ha]
      rfl
    refine h.placed.forgotten (.activity id) (fun r' hr' => ?_) ?_ (fun p => ?_) rfl rfl
    · obtain rfl := Option.some.inj (hheld.symm.trans hr')
      exact hended
    · simp only [heldAt_activity, put, Table.get?_put_self]
      rfl
    · cases p with
      | activity i => grind [put]
      | inbox i => exact .inr rfl
      | outcome i => exact .inr rfl
  wired := h.wired.put ha (.inr rfl) nofun
  pends := by
    obtain ⟨h1, h2, h3, h4, h5⟩ := h.pends
    constructor <;> simp only [put] <;> grind

/-- The request was cancelled, dropped or rejected. -/
def hasEnded (s : Backend) (r : InboundRequest) : Bool := s.fates.any fun fate => fate.1 = r

/-- A request has been sent to the call, has not been taken and has not ended. -/
def hasRequest (s : Backend) (id : ℕ) : Bool := (s.heldAt (.inbox id)).any fun r => !s.hasEnded r

/-- The call returns in this step without looking at what was sent to it. -/
def leaves (s : Backend) (id : ℕ) (chance : Chance) : Bool :=
  match s.activities.get? id with
  | some .announce => chance.queueFull
  | some (.announced ticket) => ticket < s.taken && chance.failed
  | some .waiting => chance.cancelled || chance.elapsed
  | _ => false

/-- The client does not take the error reply to a request nobody waits for. -/
def mutes (s : Backend) (id : ℕ) (chance : Chance) : Bool :=
  match s.activities.get? id with
  | some (.reject r) => chance.queueFull && !s.hasEnded r
  | _ => false

/-- No call leaves while a request waits for it, and no error reply is refused. -/
def careful (s : Backend) : Input → Bool
  | .advance id chance => !(s.leaves id chance && s.hasRequest id) && !s.mutes id chance
  | .abort id => !s.hasRequest id
  | _ => true

def Careful (s : Backend) (input : Input) : Prop := s.careful input = true

theorem fate_of_hasEnded (h : s.hasEnded r = true) : ∃ f, (r, f) ∈ s.fates := by
  obtain ⟨⟨r', f⟩, hmem, hr⟩ := List.any_eq_true.mp h
  obtain rfl : r' = r := of_decide_eq_true hr
  exact ⟨f, hmem⟩

theorem fate_of_hasRequest (h : s.hasRequest id = false) (r : InboundRequest)
    (hr : s.inbox.get? id = some (.ok r)) : ∃ f, (r, f) ∈ s.fates := by
  rw [hasRequest, heldAt_inbox_some.mpr hr, Option.any_some, Bool.not_eq_false'] at h
  exact fate_of_hasEnded h

theorem Inv.bump (h : Inv s) : Inv { s with next := s.next + 1 } :=
  h.frame rfl rfl rfl rfl (Nat.le_succ _) rfl rfl rfl

theorem Inv.hand (h : Inv s) (write : Write) : Inv (s.hand write) :=
  h.frame rfl rfl rfl rfl (Nat.le_refl _) rfl rfl rfl

theorem Inv.returned (h : Inv s) (ha : s.activities.get? id = some a) :
    s.outcomes.get? id = none := by
  cases hv : s.outcomes.get? id with
  | none => rfl
  | some v => exact absurd (ha.symm.trans (h.wired.returned id v hv)) (by simp)

theorem Inv.known (h : Inv s) (ha : s.activities.get? id = some a) : id < s.next := by
  by_contra hle
  exact absurd (ha.symm.trans (h.wired.fresh id (Nat.le_of_not_lt hle)).1) (by simp)

/-- A call that is not waiting any more has nothing in its box. -/
theorem Inv.noMail (h : Inv s) (ha : s.activities.get? id = some a) (hmute : a.listens = false) :
    s.inbox.get? id = none ∧ s.waiter ≠ some id := by
  constructor
  · cases hv : s.inbox.get? id with
    | none => rfl
    | some v =>
      obtain ⟨b, hb, hlistens⟩ := h.wired.mail id v hv
      obtain rfl : a = b := Option.some.inj (ha.symm.trans hb)
      exact absurd (hlistens.symm.trans hmute) (by simp)
  · intro hslot
    obtain ⟨b, hb, hlistens⟩ := h.wired.slot id hslot
    obtain rfl : a = b := Option.some.inj (ha.symm.trans hb)
    exact absurd (hlistens.symm.trans hmute) (by simp)

/-- A call refused at its entry. -/
theorem refuseCall_inv (h : Inv s) (e : BackendError) :
    Inv ({ s with next := s.next + 1 }.finish s.next (.error e)) := by
  have hfresh := h.wired.fresh s.next (Nat.le_refl _)
  apply finish_inv h.bump (Nat.lt_succ_self _)
  · intro hslot
    obtain ⟨a, ha, -⟩ := h.wired.slot _ hslot
    exact absurd (hfresh.1.symm.trans ha) (by simp)
  · intro a ha
    exact absurd (hfresh.1.symm.trans ha) (by simp)
  · exact hfresh.2.2
  · show none = (s.inbox.get? s.next).bind Except.toOption
    rw [hfresh.2.1]
    rfl

/-- A call that no longer listens returns something else than a request. -/
theorem return_inv (h : Inv s) (ha : s.activities.get? id = some a) (hmute : a.listens = false)
    (hheld : a.held = none) (hresult : result.request? = none) : Inv (s.finish id result) := by
  obtain ⟨hempty, hslot⟩ := h.noMail ha hmute
  apply finish_inv h (h.known ha) hslot _ (h.returned ha)
  · rw [hresult, hempty]
    rfl
  · intro b hb
    obtain rfl : a = b := Option.some.inj (ha.symm.trans hb)
    exact hheld

theorem quit_inv (h : Inv s) (ha : s.activities.get? id = some a) (hheld : a.held = none)
    (hmail : s.hasRequest id = false) (hresult : result.request? = none) :
    Inv ((s.finish id result).releaseWait id) := by
  apply leave_inv h ha hheld (fate_of_hasRequest hmail)
  · exact fun i hi => Table.get?_put_ne _ _ hi
  · rw [Table.get?_put_self]
    exact hresult

theorem pollWait_inv (h : Inv s) (ha : s.activities.get? id = some .waiting) {chance : Chance}
    (hcareful : (chance.cancelled || chance.elapsed) = true → s.hasRequest id = false) :
    Inv (s.pollWait id chance) := by
  have hheld : ∀ b, s.activities.get? id = some b → b.held = none := by
    intro b hb
    obtain rfl := Option.some.inj (ha.symm.trans hb)
    rfl
  have hslot : ∀ v, s.inbox.get? id = some v → s.waiter ≠ some id := by
    intro v hv hslot
    exact absurd ((h.wired.slotEmpty id hslot).symm.trans hv) (by simp)
  unfold pollWait
  split
  · next hcancelled => exact quit_inv h ha rfl (hcareful (by simp [hcancelled])) rfl
  split
  · next helapsed =>
    have hmail := hcareful (by simp [helapsed])
    split
    · next hown => exact retire_inv h ha hown
    · next hown =>
      have hleft : Inv ((s.finish id .waitTimeout).releaseWait id) := quit_inv h ha rfl hmail rfl
      rw [releaseWait, if_neg (show (s.finish id .waitTimeout).waiter ≠ some id from hown)] at hleft
      exact hleft
  split
  · next r hr =>
    apply finish_inv h (h.known ha) (hslot _ hr) hheld (h.returned ha)
    rw [hr]
    rfl
  · next e he =>
    apply finish_inv h (h.known ha) (hslot _ he) hheld (h.returned ha)
    rw [he]
    rfl
  · exact h

theorem endUnready_inv (h : Inv s) (ha : s.activities.get? id = some a) (hmute : a.listens = false)
    (hheld : a.held = none) (replying : Option String) (failed : Bool) :
    Inv (s.endUnready id replying failed) := by
  unfold endUnready
  split
  · apply return_inv h ha hmute hheld
    split <;> rfl
  · exact stop_inv h ha hheld hmute

theorem advance_inv (h : Inv s) {chance : Chance} (hcareful : Careful s (.advance id chance)) :
    Inv (s.advance id chance) := by
  simp only [Careful, careful, Bool.and_eq_true, Bool.not_eq_true', Bool.and_eq_false_imp]
    at hcareful
  obtain ⟨hleaves, hmutes⟩ := hcareful
  unfold advance
  unfold leaves at hleaves
  unfold mutes at hmutes
  cases ha : s.activities.get? id with
  | none => exact h
  | some a =>
    rw [ha] at hleaves hmutes
    cases a with
    | announce =>
      dsimp only at hleaves ⊢
      split
      · next hfull => exact quit_inv h ha rfl (hleaves hfull) rfl
      · exact put_inv (h.hand _) ha rfl rfl (fun _ => rfl) nofun
    | announced ticket =>
      dsimp only at hleaves ⊢
      split
      · exact h
      next htaken =>
      split
      · next hfailed => exact quit_inv h ha rfl (hleaves (by simp_all)) rfl
      · exact put_inv h ha rfl rfl (fun _ => rfl) nofun
    | waiting => exact pollWait_inv h ha hleaves
    | retire =>
      dsimp only
      split
      · exact return_inv h ha rfl rfl rfl
      · exact put_inv (h.hand _) ha rfl rfl nofun nofun
    | retired ticket =>
      dsimp only
      split
      · exact h
      · apply return_inv h ha rfl rfl
        split <;> rfl
    | deliver wait request =>
      dsimp only
      split
      · exact handOver_inv h ha rfl rfl
      · exact put_inv (h.hand _) ha rfl rfl nofun nofun
    | delivered wait request ticket =>
      dsimp only
      split
      · exact h
      · exact handOver_inv h ha rfl rfl
    | reject request =>
      dsimp only at hmutes ⊢
      split
      · next hfull =>
        rw [hfull, Bool.true_and, Bool.not_eq_false'] at hmutes
        exact mute_inv h ha (fate_of_hasEnded hmutes)
      · exact reject_inv h ha _ _
    | refuse requestId code thenUnready =>
      dsimp only
      split
      · split
        · exact put_inv h ha rfl rfl nofun nofun
        · exact stop_inv h ha rfl rfl
      · exact put_inv (h.hand _) ha rfl rfl nofun nofun
    | refused ticket thenUnready =>
      dsimp only
      split
      · exact h
      split
      · exact put_inv h ha rfl rfl nofun nofun
      · exact stop_inv h ha rfl rfl
    | reply request text =>
      dsimp only
      split
      · exact return_inv h ha rfl rfl rfl
      · exact put_inv (h.hand _) ha rfl rfl nofun nofun
    | replied request ticket =>
      dsimp only
      split
      · exact h
      split
      · exact return_inv h ha rfl rfl rfl
      split
      · exact put_inv (clearPending_inv h) ha rfl rfl nofun nofun
      · exact return_inv h ha rfl rfl rfl
    | unready replying =>
      dsimp only
      split
      · exact endUnready_inv h ha rfl rfl _ _
      · exact put_inv (h.hand _) ha rfl rfl nofun nofun
    | unreadied replying ticket =>
      dsimp only
      split
      · exact h
      · exact endUnready_inv h ha rfl rfl _ _

theorem event_inv (h : Inv s) (event : ClientEvent) : Inv (s.event event) := by
  have hloop : ∀ {t : Backend} (b : Activity), Inv t → b.held = none → b.target = none →
      Inv (t.spawnInLoop b) := by
    intro t b ht hheld htarget
    exact (spawn_inv ht hheld htarget).frame rfl rfl rfl rfl (Nat.le_refl _) rfl rfl rfl
  cases event with
  | delivery workspace requestId sender content timeoutMs task now =>
    show Inv (s.delivery _)
    unfold delivery
    split
    · exact hloop _ h rfl rfl
    split
    · exact hloop _ h rfl rfl
    split
    · next wait hslot =>
      exact (deliver_inv h hslot rfl).frame rfl rfl rfl rfl (Nat.le_refl _) rfl rfl rfl
    · exact hloop _ h rfl rfl
  | workCancelled workspace requestId task =>
    show Inv (s.workCancelled _ _ _)
    unfold workCancelled
    split
    · exact h
    · next pending hpending =>
      split
      · exact hloop _ (endPending_inv h hpending .cancelled) rfl rfl
      · exact h
  | membershipChanged workspace =>
    have hchanged := changeMembership_inv h workspace
    simp only [event]
    split
    · next b hb =>
      unfold membershipWrites at hb
      split at hb
      · cases hb
        exact hloop _ hchanged rfl rfl
      · split at hb
        · cases hb
          exact hloop _ hchanged rfl rfl
        · cases hb
    · exact hchanged
  | closed => exact expel_inv h none _

theorem step_inv (h : Inv s) {input : Input} (hcareful : Careful s input) :
    Inv (s.step input) := by
  cases input with
  | agentWait =>
    show Inv s.agentWait
    unfold agentWait
    dsimp only
    split
    · exact refuseCall_inv h _
    split
    · exact refuseCall_inv h _
    split
    · exact refuseCall_inv h _
    · exact register_inv h
  | agentReply requestId text now =>
    show Inv (s.agentReply requestId text now)
    unfold agentReply
    dsimp only
    split
    · exact refuseCall_inv h _
    split
    · exact refuseCall_inv h _
    split
    · exact refuseCall_inv h _
    · exact spawn_inv h rfl rfl
  | workspaceJoined workspace => exact h.frame rfl rfl rfl rfl (Nat.le_refl _) rfl rfl rfl
  | workspaceLeft =>
    have hchanged := changeMembership_inv h none
    show Inv s.workspaceLeft
    unfold workspaceLeft membershipWrites
    cases s.changePending none with
    | none => exact spawn_inv hchanged rfl rfl
    | some pending => exact spawn_inv hchanged rfl rfl
  | event event =>
    simp only [step]
    split
    · exact h
    · exact event_inv h event
  | advance id chance => exact advance_inv h hcareful
  | abort id =>
    show Inv (s.abort id)
    unfold abort
    cases ha : s.activities.get? id with
    | none => exact h
    | some a =>
      simp only [Option.any_some]
      split
      · next hcall =>
        have hheld : a.held = none := by
          cases a <;> first | rfl | cases hcall
        have hmail : s.hasRequest id = false := by simpa [Careful, careful] using hcareful
        apply leave_inv h ha hheld (fate_of_hasRequest hmail) (fun _ _ => rfl)
        rw [h.returned ha]
        rfl
      · exact h
  | write connected =>
    show Inv (s.write connected)
    unfold write
    split
    · exact h
    · exact h.frame rfl rfl rfl rfl (Nat.le_refl _) rfl rfl rfl

theorem run_inv (h : Run Careful s) : Inv s := by
  induction h with
  | start => exact start_inv
  | step _ hstep ih => exact step_inv ih hstep

/-- A handler has the request, or it waits for a call that runs. -/
def OnItsWay (s : Backend) (r : InboundRequest) : Prop :=
  (∃ id a, s.activities.get? id = some a ∧ a.held = some r) ∨
    ∃ wait a, s.inbox.get? wait = some (.ok r) ∧ s.activities.get? wait = some a ∧
      a.listens = true

/-- The pending request has reached no call, and none will get it. -/
def Swallows (s : Backend) : Prop :=
  ∃ r, s.pending = some r ∧
    (∀ id a, s.activities.get? id = some a → a.listens = false ∧ a.held = none) ∧
    ∀ wait, s.outcomes.get? wait ≠ some (.request r)

theorem located (h : Inv s) (hr : r ∈ s.accepted) :
    s.OnItsWay r ∨ (∃ wait, s.outcomes.get? wait = some (.request r)) ∨
      ∃ f, (r, f) ∈ s.fates := by
  rcases h.placed.located r hr with ⟨p, hp⟩ | hfate
  · cases p with
    | activity id =>
      rw [heldAt_activity, Option.bind_eq_some_iff] at hp
      obtain ⟨a, ha, hheld⟩ := hp
      exact .inl (.inl ⟨id, a, ha, hheld⟩)
    | inbox wait =>
      rw [heldAt_inbox, Option.bind_eq_some_iff] at hp
      obtain ⟨v, hv, hok⟩ := hp
      obtain ⟨a, ha, hlistens⟩ := h.wired.mail wait v hv
      cases v with
      | error e => cases hok
      | ok r' =>
        cases hok
        exact .inl (.inr ⟨wait, a, hv, ha, hlistens⟩)
    | outcome wait =>
      rw [heldAt_outcome, Option.bind_eq_some_iff] at hp
      obtain ⟨v, hv, hrequest⟩ := hp
      cases v with
      | request r' =>
        cases hrequest
        exact .inr (.inl ⟨wait, hv⟩)
      | waitTimeout | replied | error => cases hrequest
  · exact .inr (.inr hfate)

/-- In a run in which no call leaves while a request waits for it, no delivery is swallowed. -/
theorem deliveries_answered (h : Run Careful s) :
    (∀ r ∈ s.accepted, s.OnItsWay r ∨ (∃! wait, s.outcomes.get? wait = some (.request r)) ∨
      ∃ f, (r, f) ∈ s.fates) ∧
    ¬ s.Swallows := by
  have hinv := run_inv h
  constructor
  · intro r hr
    rcases located hinv hr with hway | ⟨wait, hwait⟩ | hfate
    · exact .inl hway
    · refine .inr (.inl ⟨wait, hwait, fun other hother => ?_⟩)
      have hplace : ∀ w, s.outcomes.get? w = some (.request r) →
          s.heldAt (.outcome w) = some r := by
        intro w hw
        rw [heldAt_outcome, hw]
        rfl
      have hsame := hinv.placed.unique _ _ r (hplace other hother) (hplace wait hwait)
      exact Place.outcome.inj hsame
    · exact .inr (.inr hfate)
  · rintro ⟨r, hpending, hquiet, hnever⟩
    rcases located hinv (hinv.pends.accepted r hpending) with hway | ⟨wait, hwait⟩ | ⟨f, hf⟩
    · rcases hway with ⟨id, a, ha, hheld⟩ | ⟨wait, a, -, ha, hlistens⟩
      · exact absurd ((hquiet id a ha).2.symm.trans hheld) (by simp)
      · exact absurd ((hquiet wait a ha).1.symm.trans hlistens) (by simp)
    · exact hnever wait hwait
    · exact hinv.pends.unended r f hpending hf

def sampleDelivery : ClientEvent := .delivery sampleWorkspace "r" "peer" "review" 1000 none 0

/-- One call waits, is announced and is sent the request. -/
def delivering : List Input :=
  [.workspaceJoined sampleWorkspace, .agentWait, .advance 1 {}, .write true, .advance 1 {},
    .event sampleDelivery, .advance 2 {}, .write true, .advance 2 {}]

/-- The call that looks at its box returns the request. -/
theorem deliveries_answered_sample :
    let s := (delivering ++ [Input.advance 1 {}]).foldl step {}
    ¬ s.Swallows ∧ s.pending.isSome = true :=
  ⟨(deliveries_answered (run_allowed .start (by decide +kernel))).2, by decide +kernel⟩

/-- The timer of the call runs out after the request was sent to it and before it looks. -/
def timingOut : List Input := delivering ++ [.advance 1 { elapsed := true }]

theorem delivery_swallowed : ∃ s, Run (fun _ _ => True) s ∧ s.Swallows := by
  refine ⟨timingOut.foldl step {}, run_unrestricted _ .start,
    ⟨sampleWorkspace, "r", "peer", "review", 1000, none, 0⟩, by decide +kernel, ?_, ?_⟩
  · have hquiet : (timingOut.foldl step {}).activities.toList = [] := by decide +kernel
    intro id a ha
    have hmem := (Table.mem_toList _ id a).mpr ha
    rw [hquiet] at hmem
    cases hmem
  · have hreturned : (timingOut.foldl step {}).outcomes.toList = [(1, .waitTimeout)] := by
      decide +kernel
    intro wait hwait
    have hmem := (Table.mem_toList _ wait _).mpr hwait
    rw [hreturned] at hmem
    simp at hmem

end Backend

end SessionRouter.Mcp
