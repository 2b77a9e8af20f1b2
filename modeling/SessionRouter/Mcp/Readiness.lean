import SessionRouter.Mcp.Deliveries

/-!
The readiness the router has been told and the wait that is registered. They agree as long as no
withdrawal of an older wait is written once the next one has announced itself.
-/

namespace SessionRouter.Mcp

def Write.ready? : Write → Option Bool
  | readiness ready => some ready
  | reply .. => none

/-- What the router believes after the writes. -/
def lastReady (writes : List Write) : Bool := (writes.filterMap Write.ready?).getLast?.getD false

@[simp]
theorem lastReady_readiness (writes : List Write) (ready : Bool) :
    lastReady (writes ++ [.readiness ready]) = ready := by
  simp [lastReady, List.filterMap_append, Write.ready?]

theorem lastReady_append {writes others : List Write}
    (h : ∀ write ∈ others, write.ready? = none) :
    lastReady (writes ++ others) = lastReady writes := by
  have hnil : others.filterMap Write.ready? = [] := List.filterMap_eq_nil_iff.mpr h
  simp [lastReady, List.filterMap_append, hnil]

namespace Activity

/-- The next thing the activity does is to write `false`. -/
def withdraws : Activity → Bool
  | retire | deliver .. | unready _ => true
  | _ => false

end Activity

namespace Backend

/-- The readiness once the queue is written. -/
def last (s : Backend) : Bool := lastReady (s.sent ++ s.queue)

/-- No readiness is on its way. -/
def Settled (s : Backend) : Prop :=
  (∀ write ∈ s.queue, write.ready? = none) ∧
    ∀ id a, s.activities.get? id = some a → a ≠ .announce ∧ a.withdraws = false

/-- The call in the slot, if there is one, has announced itself. -/
def announcedSlot (s : Backend) : Bool :=
  s.waiter.all fun wait => s.activities.get? wait ≠ some .announce

/-- A wait is registered, and has announced itself. -/
def announces (s : Backend) : Bool := s.waiter.isSome && s.announcedSlot

/-- A withdrawal is neither refused by the queue nor handed to the client while a wait is announced,
and a waiter is taken only after it has announced itself and with a withdrawal. -/
def orderly (s : Backend) : Input → Bool
  | .workspaceLeft | .event (.membershipChanged none) => s.announcedSlot
  | .event (.delivery workspace ..) => s.membership ≠ some workspace || s.announcedSlot
  | .event (.membershipChanged (some workspace)) =>
    s.membership = some workspace || s.waiter.isNone
  | .event .closed => s.waiter.isNone
  | .advance id chance =>
    !((s.activities.get? id).any Activity.withdraws && (chance.queueFull || s.announces))
  | .write connected => connected
  | _ => true

def Orderly (s : Backend) (input : Input) : Prop := s.orderly input = true

/-- The invariant of orderly runs. -/
structure Agrees (s : Backend) : Prop where
  fresh : ∀ id, s.next ≤ id → s.activities.get? id = none
  registered : ∀ w, s.waiter = some w → ∃ a, s.activities.get? w = some a ∧ a.listens = true ∧
    (a = .announce ∨ s.last = true)
  withdrawn : s.waiter = none → s.last = true →
    ∃ id a, s.activities.get? id = some a ∧ a.withdraws = true
  announcing : ∀ id, s.activities.get? id = some .announce → s.waiter = some id
  exclusive : ∀ r, s.pending = some r → s.waiter = none
  seated : s.membership = none → s.waiter = none
  boxes : ∀ id, s.next ≤ id → s.inbox.get? id = none
  unsent : ∀ w, s.waiter = some w → s.inbox.get? w = none
  apart : ∀ id a w, s.activities.get? id = some a → a.target = some w →
    w < s.next ∧ s.waiter ≠ some w

variable {s s' : Backend} {id wait : ℕ} {a b : Activity}

namespace Agrees

theorem frame (h : Agrees s) (hwaiter : s'.waiter = s.waiter)
    (hpending : ∀ r, s'.pending = some r → s.waiter = none)
    (hactivities : s'.activities = s.activities) (hnext : s.next ≤ s'.next)
    (hlast : s'.last = s.last) (hmembership : s'.membership = none → s.waiter = none)
    (hinbox : ∀ w, s'.inbox.get? w = none ∨ s.inbox.get? w ≠ none ∨
      w < s.next ∧ s.waiter ≠ some w) : Agrees s' := by
  obtain ⟨h1, h2, h3, h4, h5, h6, h7, h8, h9⟩ := h
  constructor <;> grind

/-- Nothing new was sent. -/
theorem frame' (h : Agrees s) (hwaiter : s'.waiter = s.waiter)
    (hpending : ∀ r, s'.pending = some r → s.waiter = none)
    (hactivities : s'.activities = s.activities) (hnext : s.next ≤ s'.next)
    (hlast : s'.last = s.last) (hmembership : s'.membership = none → s.waiter = none)
    (hinbox : s'.inbox = s.inbox) : Agrees s' := by
  apply h.frame hwaiter hpending hactivities hnext hlast hmembership
  intro w
  rw [hinbox]
  exact (Classical.em _).imp_right .inl

theorem put (h : Agrees s) (ha : s.activities.get? id = some a)
    (hlistens : a.listens = true → b.listens = true) (hannounce : b ≠ .announce)
    (hannounced : a ≠ .announce) (htarget : b.target = a.target ∨ b.target = none)
    (hwithdraws : a.withdraws = true → b.withdraws = true) : Agrees (s.put id b) := by
  have hlast : (s.put id b).last = s.last := rfl
  have hwithdrawn : ∀ i c, s.activities.get? i = some c → c.withdraws = true →
      ∃ d, (s.activities.put id b).get? i = some d ∧ d.withdraws = true := by
    intro i c hc hcw
    by_cases hi : i = id
    · exact ⟨b, by simp [hi], hwithdraws (by grind)⟩
    · exact ⟨c, by rwa [Table.get?_put_ne _ _ hi], hcw⟩
  obtain ⟨h1, h2, h3, h4, h5, h6, h7, h8, h9⟩ := h
  constructor <;> simp only [Backend.put] at hlast ⊢ <;> grind

theorem beginWithdraw (h : Agrees s) (ha : s.activities.get? id = some a)
    (hslot : s.waiter = none) (hb : b.withdraws = true) (htarget : b.target = none) :
    Agrees (s.put id b) := by
  have hlast : (s.put id b).last = s.last := rfl
  have hnew : (s.activities.put id b).get? id = some b := Table.get?_put_self _ _ _
  have hannounce : b ≠ .announce := by
    rintro rfl
    cases hb
  obtain ⟨h1, h2, h3, h4, h5, h6, h7, h8, h9⟩ := h
  constructor <;> simp only [Backend.put] at hlast ⊢ <;> grind

/-- The withdrawal is written. -/
theorem withdraw (h : Agrees s) (ha : s.activities.get? id = some a)
    (hwithdraws : a.withdraws = true) (hslot : s.announces = false) (hannounce : b ≠ .announce)
    (htarget : b.target = a.target) :
    Agrees ((s.hand (.readiness false)).put id b) := by
  have hannouncing : ∀ w, s.waiter = some w → s.activities.get? w = some .announce := by
    intro w hw
    simpa [announces, announcedSlot, hw] using hslot
  have hother : a ≠ .announce := by
    rintro rfl
    cases hwithdraws
  have hlast : ((s.hand (.readiness false)).put id b).last = false := by
    show lastReady (s.sent ++ (s.queue ++ [.readiness false])) = false
    rw [← List.append_assoc, lastReady_readiness]
  obtain ⟨h1, h2, h3, h4, h5, h6, h7, h8, h9⟩ := h
  constructor <;> simp only [Backend.put, Backend.hand] at hlast ⊢ <;> grind

theorem announce (h : Agrees s) (ha : s.activities.get? id = some .announce) (ticket : ℕ) :
    Agrees ((s.hand (.readiness true)).put id (.announced ticket)) := by
  have hslot := h.announcing id ha
  have hlast : ((s.hand (.readiness true)).put id (.announced ticket)).last = true := by
    show lastReady (s.sent ++ (s.queue ++ [.readiness true])) = true
    rw [← List.append_assoc, lastReady_readiness]
  have hlistens : Activity.listens (.announced ticket) = true := rfl
  have htarget : Activity.target (.announced ticket) = none := rfl
  obtain ⟨h1, h2, h3, h4, h5, h6, h7, h8, h9⟩ := h
  constructor <;> simp only [Backend.put, Backend.hand] at hlast ⊢ <;> grind

theorem handReply (h : Agrees s) {write : Write} (hreply : write.ready? = none) :
    Agrees (s.hand write) := by
  refine h.frame' rfl h.exclusive rfl (Nat.le_refl _) ?_ h.seated rfl
  show lastReady (s.sent ++ (s.queue ++ [write])) = lastReady (s.sent ++ s.queue)
  rw [← List.append_assoc]
  exact lastReady_append (by simpa using hreply)

theorem spawn (h : Agrees s) (hannounce : b ≠ .announce) (htarget : b.target = none) :
    Agrees (s.spawn b) := by
  have hlast : (s.spawn b).last = s.last := rfl
  have hold : ∀ i c, s.activities.get? i = some c →
      (s.activities.put s.next b).get? i = some c := by
    intro i c hc
    have hfresh := h.fresh s.next (Nat.le_refl _)
    grind
  obtain ⟨h1, h2, h3, h4, h5, h6, h7, h8, h9⟩ := h
  constructor <;> simp only [Backend.spawn, Backend.put] at hlast ⊢ <;> grind

/-- An activity that neither waits nor has anything to write ends. -/
theorem remove (h : Agrees s) (ha : s.activities.get? id = some a)
    (hwithdraws : a.withdraws = false) (hslot : s.waiter ≠ some id) : Agrees (s.stop id) := by
  have hlast : (s.stop id).last = s.last := rfl
  have hold : ∀ i c, s.activities.get? i = some c → c.withdraws = true →
      (s.activities.remove id).get? i = some c := by grind
  obtain ⟨h1, h2, h3, h4, h5, h6, h7, h8, h9⟩ := h
  constructor <;> simp only [Backend.stop] at hlast ⊢ <;> grind

/-- The slot is emptied, and a withdrawal is begun. -/
theorem release (h : Agrees s) (hslot : s.waiter = some id) (hb : b.withdraws = true)
    (htarget : b.target = none) :
    Agrees ({ s with waiter := none, activities := s.activities.remove id }.spawn b) := by
  have hfresh := h.fresh s.next (Nat.le_refl _)
  have hannounce : b ≠ .announce := by
    rintro rfl
    cases hb
  have hnew : ((s.activities.remove id).put s.next b).get? s.next = some b :=
    Table.get?_put_self _ _ _
  obtain ⟨h1, h2, h3, h4, h5, h6, h7, h8, h9⟩ := h
  constructor <;> simp only [Backend.spawn, Backend.put] <;> grind

/-- The slot is emptied for an activity that withdraws the announcement. -/
theorem take (h : Agrees s) (hslot : s.announcedSlot = true) (hb : b.withdraws = true)
    (htarget : ∀ w, b.target = some w → s.waiter = some w)
    (pending : Option InboundRequest) (membership : Option WorkspaceName) :
    Agrees ({ s with waiter := none, pending, membership }.spawn b) := by
  have hannounced : ∀ w, s.waiter = some w → s.activities.get? w ≠ some .announce := by
    intro w hw
    simpa [announcedSlot, hw] using hslot
  have hannounce : b ≠ .announce := by
    rintro rfl
    cases hb
  have hnew : (s.activities.put s.next b).get? s.next = some b := Table.get?_put_self _ _ _
  obtain ⟨h1, h2, h3, h4, h5, h6, h7, h8, h9⟩ := h
  constructor <;> simp only [Backend.spawn, Backend.put] <;> grind

theorem retire (h : Agrees s) (ha : s.activities.get? id = some .waiting)
    (hslot : s.waiter = some id) : Agrees ({ s with waiter := none }.put id .retire) := by
  have hnew : (s.activities.put id .retire).get? id = some .retire := Table.get?_put_self _ _ _
  have hwithdraws : Activity.withdraws .retire = true := rfl
  have htarget : Activity.target .retire = none := rfl
  obtain ⟨h1, h2, h3, h4, h5, h6, h7, h8, h9⟩ := h
  constructor <;> simp only [Backend.put] <;> grind

theorem register (h : Agrees s) (hslot : s.waiter = none) (hpending : s.pending = none)
    (hmembership : s.membership ≠ none) :
    Agrees ({ s with next := s.next + 1, waiter := some s.next }.put s.next .announce) := by
  have hnew : (s.activities.put s.next .announce).get? s.next = some .announce :=
    Table.get?_put_self _ _ _
  have hlistens : Activity.listens .announce = true := rfl
  have htarget : Activity.target .announce = none := rfl
  obtain ⟨h1, h2, h3, h4, h5, h6, h7, h8, h9⟩ := h
  constructor <;> simp only [Backend.put] <;> grind

/-- A call refused at its entry. -/
theorem refuseCall (h : Agrees s) (result : CallResult) :
    Agrees ({ s with next := s.next + 1 }.finish s.next result) := by
  have hlast : ({ s with next := s.next + 1 }.finish s.next result).last = s.last := rfl
  have hold : ∀ i c, s.activities.get? i = some c →
      (s.activities.remove s.next).get? i = some c := by
    intro i c hc
    have hfresh := h.fresh s.next (Nat.le_refl _)
    grind
  obtain ⟨h1, h2, h3, h4, h5, h6, h7, h8, h9⟩ := h
  constructor <;> simp only [Backend.finish] at hlast ⊢ <;> grind

end Agrees

theorem sendOption_frame (s : Backend) (wait : Option ℕ) (e : BackendError) :
    ∃ inbox, s.sendOption wait e = { s with inbox } ∧ ∀ w, inbox.get? w = none ∨
      s.inbox.get? w ≠ none ∨ s.activities.get? w ≠ none := by
  have hsame : ∀ w, s.inbox.get? w = none ∨ s.inbox.get? w ≠ none ∨ s.activities.get? w ≠ none :=
    fun w => (Classical.em _).imp_right .inl
  unfold sendOption send
  cases wait with
  | none => exact ⟨s.inbox, rfl, hsame⟩
  | some w =>
    dsimp only
    split
    · next hlistens =>
      refine ⟨_, rfl, fun w' => ?_⟩
      cases hw : s.activities.get? w with
      | none => simp [hw] at hlistens
      | some a => grind
    · exact ⟨s.inbox, rfl, hsame⟩

theorem membershipWrites_none (pending : Option InboundRequest) :
    ∃ b, membershipWrites pending none = some b ∧ b ≠ .announce ∧ b.target = none ∧
      (pending = none → b.withdraws = true) := by
  cases pending with
  | none => exact ⟨.unready none, rfl, nofun, rfl, fun _ => rfl⟩
  | some r => exact ⟨.refuse r.requestId .providerDisconnected true, rfl, nofun, rfl, nofun⟩

namespace Agrees

/-- Everyone is put out of an empty slot. -/
theorem expel (h : Agrees s) (hslot : s.waiter = none) (membership : Option WorkspaceName)
    (e : BackendError) :
    Agrees (({ s with membership, waiter := none }.dropPending).sendOption s.waiter e) := by
  rw [hslot]
  exact h.frame' hslot.symm (fun _ _ => hslot) rfl (Nat.le_refl _) rfl (fun _ => hslot) rfl

theorem spawnInLoop (h : Agrees (s.spawn b)) : Agrees (s.spawnInLoop b) :=
  h.frame' rfl h.exclusive rfl (Nat.le_refl _) rfl h.seated rfl

/-- Leaving the workspace empties the slot and withdraws the announcement. -/
theorem leave (h : Agrees s) (hslot : s.announcedSlot = true) (hannounce : b ≠ .announce)
    (htarget : b.target = none) (hb : s.changePending none = none → b.withdraws = true) :
    Agrees ((s.changeMembership none).spawn b) := by
  unfold changePending at hb
  unfold changeMembership
  split
  · next hseated =>
    rw [if_pos hseated] at hb
    cases hw : s.waiter with
    | none =>
      have hexpelled := h.expel hw none (.router .workspaceMismatch)
      rw [hw] at hexpelled
      exact hexpelled.spawn hannounce htarget
    | some w =>
      have hpending : s.pending = none := by
        cases hp : s.pending with
        | none => rfl
        | some r => exact absurd (hw.symm.trans (h.exclusive r hp)) (by simp)
      obtain ⟨inbox, hinbox, hsent⟩ := sendOption_frame
        ({ s with membership := none, waiter := none }.dropPending) (some w)
        (.router .workspaceMismatch)
      rw [hinbox]
      have htaken := h.take hslot (hb hpending) (fun w hw => absurd (htarget.symm.trans hw) nofun)
        none none
      refine htaken.frame rfl nofun rfl (Nat.le_refl _) rfl (fun _ => rfl) fun w' => ?_
      rcases hsent w' with hempty | hold | hrunning
      · exact .inl hempty
      · exact .inr (.inl hold)
      · refine .inr (.inr ⟨?_, nofun⟩)
        by_contra hle
        exact hrunning (h.fresh w' (by simp only [Backend.spawn] at hle; omega))
  · exact h.spawn hannounce htarget

/-- The call is out of the slot. -/
theorem not_slot (h : Agrees s) (ha : s.activities.get? id = some a) (hmute : a.listens = false) :
    s.waiter ≠ some id := by
  intro hslot
  obtain ⟨c, hc, hlistens, -⟩ := h.registered id hslot
  obtain rfl : a = c := Option.some.inj (ha.symm.trans hc)
  exact absurd (hlistens.symm.trans hmute) (by simp)

theorem finish (h : Agrees s) (ha : s.activities.get? id = some a)
    (hwithdraws : a.withdraws = false) (hslot : s.waiter ≠ some id) (result : CallResult) :
    Agrees (s.finish id result) := by
  have hstopped := h.remove ha hwithdraws hslot
  refine hstopped.frame rfl hstopped.exclusive rfl (Nat.le_refl _) rfl hstopped.seated fun w => ?_
  simp only [Backend.finish, stop, Table.get?_remove]
  split
  · exact .inl rfl
  · exact (Classical.em _).imp_right .inl

/-- A call leaves and its guard acts. -/
theorem quit (h : Agrees s) (ha : s.activities.get? id = some a)
    (hwithdraws : a.withdraws = false) {outcomes : Table ℕ CallResult} :
    Agrees (({ s with
      activities := s.activities.remove id
      inbox := s.inbox.remove id
      outcomes } : Backend).releaseWait id) := by
  have hinbox : ∀ w, (s.inbox.remove id).get? w = none ∨ s.inbox.get? w ≠ none := by
    intro w
    rw [Table.get?_remove]
    split
    · exact .inl rfl
    · exact Classical.em _
  unfold releaseWait
  split
  · next hslot =>
    have hreleased := h.release hslot (b := .unready none) rfl rfl
    exact hreleased.frame rfl hreleased.exclusive rfl (Nat.le_refl _) rfl hreleased.seated
      fun w => (hinbox w).imp_right .inl
  · next hslot =>
    have hremoved := h.remove ha hwithdraws hslot
    exact hremoved.frame rfl hremoved.exclusive rfl (Nat.le_refl _) rfl hremoved.seated
      fun w => (hinbox w).imp_right .inl

theorem handOver (h : Agrees s) {r : InboundRequest} {ticket : ℕ}
    (ha : s.activities.get? id = some (.delivered wait r ticket)) :
    Agrees (s.handOver id wait r) := by
  obtain ⟨hknown, hslot⟩ := h.apart id _ wait ha rfl
  have hput : Agrees (s.put id (.reject r)) := h.put ha nofun nofun nofun (.inr rfl) nofun
  unfold Backend.handOver
  split
  · next hlistens =>
    have hstopped := h.remove ha rfl (h.not_slot ha rfl)
    unfold send
    rw [if_pos hlistens]
    refine hstopped.frame rfl hstopped.exclusive rfl (Nat.le_refl _) rfl hstopped.seated
      fun w => ?_
    simp only [stop, Table.get?_put]
    split
    · next hw =>
      subst hw
      exact .inr (.inr ⟨hknown, hslot⟩)
    · exact (Classical.em _).imp_right .inl
  · refine hput.frame' rfl (fun r' hr' => ?_) rfl (Nat.le_refl _) rfl hput.seated rfl
    refine h.exclusive r' ?_
    simp only [Backend.put] at hr'
    split at hr'
    · cases hr'
    · exact hr'

theorem pollWait (h : Agrees s) (ha : s.activities.get? id = some .waiting) (chance : Chance) :
    Agrees (s.pollWait id chance) := by
  have hslot : ∀ v, s.inbox.get? id = some v → s.waiter ≠ some id := by
    intro v hv hslot
    exact absurd ((h.unsent id hslot).symm.trans hv) (by simp)
  unfold Backend.pollWait
  split
  · exact h.quit ha rfl
  split
  · split
    · next hown => exact h.retire ha hown
    · next hown => exact h.finish ha rfl hown _
  split
  · next r hr => exact h.finish ha rfl (hslot _ hr) _
  · next e he => exact h.finish ha rfl (hslot _ he) _
  · exact h

theorem slot_of_isPending (h : Agrees s) {r : InboundRequest}
    (hpending : s.isPending r = true) : s.waiter = none := by
  cases hp : s.pending with
  | none => simp [isPending, hp] at hpending
  | some r => exact h.exclusive r hp

theorem endUnready (h : Agrees s) {replying : Option String} {ticket : ℕ}
    (ha : s.activities.get? id = some (.unreadied replying ticket)) (failed : Bool) :
    Agrees (s.endUnready id replying failed) := by
  unfold Backend.endUnready
  split
  · exact h.finish ha rfl (h.not_slot ha rfl) _
  · exact h.remove ha rfl (h.not_slot ha rfl)

end Agrees

theorem advance_agrees (h : Agrees s) {chance : Chance}
    (horderly : s.orderly (.advance id chance) = true) : Agrees (s.advance id chance) := by
  unfold advance
  simp only [orderly] at horderly
  cases ha : s.activities.get? id with
  | none => exact h
  | some a =>
    rw [ha] at horderly
    simp only [Option.any_some] at horderly
    cases a with
    | announce =>
      dsimp only
      split
      · exact h.quit ha rfl
      · exact h.announce ha _
    | announced ticket =>
      dsimp only
      split
      · exact h
      split
      · exact h.quit ha rfl
      · exact h.put ha (fun _ => rfl) nofun nofun (.inr rfl) nofun
    | waiting => exact h.pollWait ha chance
    | retire =>
      obtain ⟨hfull, hslot⟩ : chance.queueFull = false ∧ s.announces = false := by
        simpa [Activity.withdraws] using horderly
      simp only [hfull]
      exact h.withdraw ha rfl hslot nofun rfl
    | retired ticket =>
      dsimp only
      split
      · exact h
      · exact h.finish ha rfl (h.not_slot ha rfl) _
    | deliver wait request =>
      obtain ⟨hfull, hslot⟩ : chance.queueFull = false ∧ s.announces = false := by
        simpa [Activity.withdraws] using horderly
      simp only [hfull]
      exact h.withdraw ha rfl hslot nofun rfl
    | delivered wait request ticket =>
      dsimp only
      split
      · exact h
      · exact h.handOver ha
    | reject request =>
      dsimp only
      split
      · exact h.put ha nofun nofun nofun (.inr rfl) nofun
      · have hfated : Agrees { s with fates := s.fates ++ [(request, Fate.rejected)] } :=
          h.frame' rfl h.exclusive rfl (Nat.le_refl _) rfl h.seated rfl
        exact (hfated.handReply rfl).put ha nofun nofun nofun (.inr rfl) nofun
    | refuse requestId code thenUnready =>
      dsimp only
      split
      · split
        · exact h.put ha nofun nofun nofun (.inr rfl) nofun
        · exact h.remove ha rfl (h.not_slot ha rfl)
      · exact (h.handReply rfl).put ha nofun nofun nofun (.inr rfl) nofun
    | refused ticket thenUnready =>
      dsimp only
      split
      · exact h
      split
      · exact h.put ha nofun nofun nofun (.inr rfl) nofun
      · exact h.remove ha rfl (h.not_slot ha rfl)
    | reply request text =>
      dsimp only
      split
      · exact h.finish ha rfl (h.not_slot ha rfl) _
      · exact (h.handReply rfl).put ha nofun nofun nofun (.inr rfl) nofun
    | replied request ticket =>
      dsimp only
      split
      · exact h
      split
      · exact h.finish ha rfl (h.not_slot ha rfl) _
      split
      · next hpending =>
        have hslot : s.waiter = none := h.slot_of_isPending hpending
        have hcleared : Agrees { s with pending := none } :=
          h.frame' rfl nofun rfl (Nat.le_refl _) rfl h.seated rfl
        exact hcleared.beginWithdraw ha hslot rfl rfl
      · exact h.finish ha rfl (h.not_slot ha rfl) _
    | unready replying =>
      obtain ⟨hfull, hslot⟩ : chance.queueFull = false ∧ s.announces = false := by
        simpa [Activity.withdraws] using horderly
      simp only [hfull]
      exact h.withdraw ha rfl hslot nofun rfl
    | unreadied replying ticket =>
      dsimp only
      split
      · exact h
      · exact h.endUnready ha _

theorem event_agrees (h : Agrees s) {event : ClientEvent}
    (horderly : s.orderly (.event event) = true) : Agrees (s.event event) := by
  cases event with
  | delivery workspace requestId sender content timeoutMs task now =>
    have hrefuse : ∀ code, Agrees (s.spawnInLoop (.refuse requestId code false)) := by
      intro code
      apply Agrees.spawnInLoop
      exact h.spawn nofun rfl
    show Agrees (s.delivery _)
    unfold delivery
    split
    · exact hrefuse _
    next hmembership =>
    split
    · exact hrefuse _
    split
    · next wait hslot =>
      have horderly : s.announcedSlot = true := by
        simpa [orderly, not_not.mp hmembership] using horderly
      generalize hrequest : InboundRequest.mk workspace requestId sender content _ task _ = request
      have htaken := h.take horderly (b := .deliver wait request) rfl
        (fun w hw => hslot.trans hw) (some request) s.membership
      exact htaken.frame' rfl (fun _ _ => rfl) rfl (Nat.le_refl _) rfl (fun _ => rfl) rfl
    · exact hrefuse _
  | workCancelled workspace requestId task =>
    show Agrees (s.workCancelled _ _ _)
    unfold workCancelled
    split
    · exact h
    · next pending hpending =>
      split
      · have hcleared : Agrees { s with
            pending := none
            fates := s.fates ++ [(pending, Fate.cancelled)] } :=
          h.frame' rfl nofun rfl (Nat.le_refl _) rfl h.seated rfl
        apply Agrees.spawnInLoop
        exact hcleared.spawn nofun rfl
      · exact h
  | membershipChanged workspace =>
    have hended : ∀ {t : Backend} {requestId : String} {code : RouterErrorCode} {unready : Bool},
        Agrees t → Agrees (t.spawn (.refuse requestId code unready)) :=
      fun ht => ht.spawn nofun rfl
    cases workspace with
    | none =>
      obtain ⟨b, hb, hannounce, htarget, hwithdraws⟩ :=
        membershipWrites_none (s.changePending none)
      simp only [event, hb]
      exact (h.leave horderly hannounce htarget hwithdraws).spawnInLoop
    | some workspace =>
      have hchanged : Agrees (s.changeMembership (some workspace)) := by
        unfold changeMembership
        split
        · next hother =>
          have hslot : s.waiter = none := by simpa [orderly, hother] using horderly
          exact h.expel hslot _ _
        · exact h
      simp only [event, membershipWrites]
      split
      · next b hb =>
        split at hb
        · cases hb
          apply Agrees.spawnInLoop
          exact hended hchanged
        · cases hb
      · exact hchanged
  | closed => exact h.expel (Option.isNone_iff_eq_none.mp horderly) none _

theorem step_agrees (h : Agrees s) {input : Input} (horderly : Orderly s input) :
    Agrees (s.step input) := by
  cases input with
  | agentWait =>
    show Agrees s.agentWait
    unfold agentWait
    dsimp only
    split
    · exact h.refuseCall _
    next hmembership =>
    split
    · exact h.refuseCall _
    next hpending =>
    split
    · exact h.refuseCall _
    next hslot =>
    have hslot : s.waiter = none := by simpa using hslot
    have hpending : s.pending = none := by simpa using hpending
    have hmembership : s.membership ≠ none := by simpa using hmembership
    exact h.register hslot hpending hmembership
  | agentReply requestId text now =>
    show Agrees (s.agentReply requestId text now)
    unfold agentReply
    dsimp only
    split
    · exact h.refuseCall _
    split
    · exact h.refuseCall _
    split
    · exact h.refuseCall _
    · exact h.spawn nofun rfl
  | workspaceJoined workspace => exact h.frame' rfl h.exclusive rfl (Nat.le_refl _) rfl nofun rfl
  | workspaceLeft =>
    obtain ⟨b, hb, hannounce, htarget, hwithdraws⟩ := membershipWrites_none (s.changePending none)
    simp only [step, workspaceLeft, hb]
    exact h.leave horderly hannounce htarget hwithdraws
  | event event =>
    simp only [step]
    split
    · exact h
    · exact event_agrees h horderly
  | advance id chance => exact advance_agrees h horderly
  | abort id =>
    show Agrees (s.abort id)
    unfold abort
    cases ha : s.activities.get? id with
    | none => exact h
    | some a =>
      simp only [Option.any_some]
      split
      · next hcall =>
        apply h.quit ha
        cases a <;> first | rfl | cases hcall
      · exact h
  | write connected =>
    obtain rfl : connected = true := horderly
    show Agrees (s.write true)
    unfold write
    split
    · exact h
    · next write queue hqueue =>
      refine h.frame' rfl h.exclusive rfl (Nat.le_refl _) ?_ h.seated rfl
      show lastReady ((s.sent ++ [write]) ++ queue) = lastReady (s.sent ++ s.queue)
      rw [hqueue, List.append_assoc]
      rfl

theorem run_agrees (h : Run Orderly s) : Agrees s := by
  induction h with
  | start => constructor <;> simp [last, lastReady]
  | step _ hstep ih => exact step_agrees ih hstep

/-- In an orderly run the router knows whether a wait is registered. -/
theorem readiness_of_orderly (h : Run Orderly s) (hsettled : s.Settled) :
    lastReady s.sent = true ↔ s.waiter.isSome = true := by
  have hagrees := run_agrees h
  have hlast : s.last = lastReady s.sent := lastReady_append hsettled.1
  rw [← hlast]
  constructor
  · intro hready
    cases hw : s.waiter with
    | some w => rfl
    | none =>
      obtain ⟨id, a, ha, hwithdraws⟩ := hagrees.withdrawn hw hready
      exact absurd ((hsettled.2 id a ha).2.symm.trans hwithdraws) (by simp)
  · intro hsome
    obtain ⟨w, hw⟩ := Option.isSome_iff_exists.mp hsome
    obtain ⟨a, ha, -, hannounced⟩ := hagrees.registered w hw
    exact hannounced.resolve_left (hsettled.2 w a ha).1

/-- A wait is announced and cancelled, the next one registers, and announces itself once the
withdrawal of the first is written. -/
def rewaiting : List Input :=
  [.workspaceJoined sampleWorkspace, .agentWait, .advance 1 {}, .write true, .advance 1 {},
    .advance 1 { cancelled := true }, .agentWait, .advance 2 {}, .write true, .advance 2 {},
    .advance 3 {}, .write true]

theorem settled_of_lists (hqueue : s.queue = [])
    (hall : (s.activities.toList.all fun entry =>
      entry.2 ≠ .announce && !entry.2.withdraws) = true) : s.Settled := by
  constructor
  · rw [hqueue]
    exact nofun
  · intro id a ha
    have hmem := (Table.mem_toList _ id a).mpr ha
    have hentry := List.all_eq_true.mp hall _ hmem
    simpa using hentry

theorem readiness_of_orderly_sample :
    lastReady (rewaiting.foldl step {}).sent = true ∧
      (rewaiting.foldl step {}).waiter = some 3 := by
  have hrun : Run Orderly (rewaiting.foldl step {}) := run_allowed .start (by decide +kernel)
  have hsettled : (rewaiting.foldl step {}).Settled :=
    settled_of_lists (by decide +kernel) (by decide +kernel)
  exact ⟨(readiness_of_orderly hrun hsettled).mpr (by decide +kernel), by decide +kernel⟩

/-- The withdrawal of the cancelled wait is written after the next one has announced itself. -/
def overtaking : List Input :=
  [.workspaceJoined sampleWorkspace, .agentWait, .advance 1 {}, .write true, .advance 1 {},
    .advance 1 { cancelled := true }, .agentWait, .advance 3 {}, .write true, .advance 3 {},
    .advance 2 {}, .write true, .advance 2 {}]

theorem readiness_lost : ∃ s, Run (fun _ _ => True) s ∧ s.Settled ∧
    ¬ (lastReady s.sent = true ↔ s.waiter.isSome = true) := by
  refine ⟨overtaking.foldl step {}, run_unrestricted _ .start, ?_, by decide +kernel⟩
  exact settled_of_lists (by decide +kernel) (by decide +kernel)

end Backend

end SessionRouter.Mcp
