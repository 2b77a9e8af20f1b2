import SessionRouter.Console.Controller

/-!
The live stream of one workspace generation: which events are applied, what is acknowledged, and
when the console counts as synchronized.
-/

namespace SessionRouter

/-- What the events of the stream change beside the chat. -/
structure Work where
  tasks : TaskPage
  composer : Composer
  pendingRequests : Table String TrackedRequest

namespace UiState

def work (s : UiState) : Work :=
  { tasks := s.tasks, composer := s.composer, pendingRequests := s.pendingRequests }

/-- The effect of an event that is applied. -/
def absorb (stamp : WorkspaceStamp) (w : Work) (event : WorkspaceEvent) : Work :=
  let s : UiState :=
    { tasks := w.tasks, composer := w.composer, pendingRequests := w.pendingRequests }
  let s := if event.kind = .task then
      match taskEventOf stamp event with
      | some taskEvent => (s.observeTaskEvent taskEvent).2
      | none => s
    else s
  (s.settleRequest event).2.work

/-- The identity of the console, which events do not change. -/
structure SameSeat (s s' : UiState) : Prop where
  connection : s'.connection = s.connection
  workspace : s'.workspace = s.workspace
  generation : s'.generation = s.generation

theorem SameSeat.refl (s : UiState) : SameSeat s s := ⟨rfl, rfl, rfl⟩

theorem SameSeat.trans {s s' s'' : UiState} (h : SameSeat s s') (h' : SameSeat s' s'') :
    SameSeat s s'' :=
  ⟨h'.connection.trans h.connection, h'.workspace.trans h.workspace,
    h'.generation.trans h.generation⟩

theorem SameSeat.accepts {s s' : UiState} (h : SameSeat s s') (stamp : WorkspaceStamp) :
    s'.accepts stamp = s.accepts stamp := by
  simp [UiState.accepts, h.workspace, h.generation]

theorem SameSeat.stamp {s s' : UiState} (h : SameSeat s s') : s'.stamp = s.stamp := by
  simp [UiState.stamp, h.workspace, h.generation]

section

variable [EventSize]

theorem showEvent_cursor (c : ChatState) (event : WorkspaceEvent) :
    (showEvent c event).appliedCursor = c.appliedCursor ∧
      (showEvent c event).synchronized = c.synchronized := by
  unfold showEvent
  split
  · dsimp only
    split
    · split <;> exact ⟨rfl, rfl⟩
    · split <;> exact ⟨rfl, rfl⟩
  · exact ⟨rfl, rfl⟩

omit [EventSize] in
theorem settleRequest_frame (s : UiState) (event : WorkspaceEvent) :
    SameSeat s (s.settleRequest event).2 ∧ (s.settleRequest event).2.chat = s.chat := by
  unfold settleRequest
  split
  · exact ⟨.refl s, rfl⟩
  · split
    · exact ⟨⟨rfl, rfl, rfl⟩, rfl⟩
    · split
      · exact ⟨⟨rfl, rfl, rfl⟩, rfl⟩
      · exact ⟨.refl s, rfl⟩

omit [EventSize] in
theorem observeTaskEvent_frame (s : UiState) (taskEvent : TaskEvent) :
    SameSeat s (s.observeTaskEvent taskEvent).2 ∧
      (s.observeTaskEvent taskEvent).2.chat = s.chat := by
  unfold observeTaskEvent observeBegun
  dsimp only
  split
  · exact ⟨⟨rfl, rfl, rfl⟩, rfl⟩
  · exact ⟨⟨rfl, rfl, rfl⟩, rfl⟩

omit [EventSize] in
/-- The effects read nothing of the state but the work. -/
theorem settleRequest_work {s s' : UiState} (h : s.work = s'.work) (event : WorkspaceEvent) :
    (s.settleRequest event).2.work = (s'.settleRequest event).2.work := by
  simp only [work, Work.mk.injEq] at h
  obtain ⟨htasks, hcomposer, hpending⟩ := h
  unfold settleRequest
  cases event.requestId with
  | none => simp [work, htasks, hcomposer, hpending]
  | some requestId =>
    dsimp only
    rw [hcomposer, hpending]
    split
    · simp [work, htasks]
    · split
      · simp [work, htasks]
      · simp [work, htasks, hcomposer, hpending]

omit [EventSize] in
theorem observeTaskEvent_work {s s' : UiState} (h : s.work = s'.work) (taskEvent : TaskEvent) :
    (s.observeTaskEvent taskEvent).2.work = (s'.observeTaskEvent taskEvent).2.work := by
  simp only [work, Work.mk.injEq] at h
  obtain ⟨htasks, hcomposer, hpending⟩ := h
  unfold observeTaskEvent observeBegun
  dsimp only
  split
  · simp [work, htasks, hcomposer, hpending]
  · simp [work, htasks, hcomposer, hpending]

/-- The last part of an application moves the cursor to the event. -/
theorem finishEvent_spec (s : UiState) (event : WorkspaceEvent) (refresh : Bool) :
    SameSeat s (s.finishEvent event refresh).2 ∧
      (s.finishEvent event refresh).2.chat.appliedCursor = some event.seq ∧
      (s.finishEvent event refresh).2.chat.synchronized = s.chat.synchronized ∧
      (s.finishEvent event refresh).2.work = (s.settleRequest event).2.work ∧
      (s.finishEvent event refresh).1.disposition = .applied ∧
      (s.finishEvent event refresh).1.ack = some event.seq := by
  have hframe := settleRequest_frame s event
  have hshow := showEvent_cursor
    { (s.settleRequest event).2.chat with appliedCursor := some event.seq } event
  have hsync : (s.settleRequest event).2.chat.synchronized = s.chat.synchronized :=
    congrArg ChatState.synchronized hframe.2
  exact ⟨⟨hframe.1.connection, hframe.1.workspace, hframe.1.generation⟩, hshow.1,
    hshow.2.trans hsync, rfl, rfl, rfl⟩

/-- What an event that is not applied can do: at most end the synchronization. -/
structure Passed (s s' : UiState) (effect : EventApplied) : Prop where
  disposition : effect.disposition ≠ .applied
  seat : SameSeat s s'
  cursor : s'.chat.appliedCursor = s.chat.appliedCursor
  work : s'.work = s.work
  falls : s'.chat.synchronized = true → s.chat.synchronized = true
  gap : effect.disposition.isGap = true → s.chat.appliedCursor.isSome = true →
    s'.chat.synchronized = false
  ack : ∀ seq, effect.ack = some seq → ∃ k, s.chat.appliedCursor = some k ∧ seq ≤ k

/-- What an event that is applied does. -/
structure Advanced (s s' : UiState) (stamp : WorkspaceStamp) (event : WorkspaceEvent)
    (effect : EventApplied) : Prop where
  disposition : effect.disposition = .applied
  accepted : s.accepts stamp = true
  seat : SameSeat s s'
  next : ∃ k, s.chat.appliedCursor = some k ∧ event.seq = k + 1
  cursor : s'.chat.appliedCursor = some event.seq
  synchronized : s'.chat.synchronized = s.chat.synchronized
  work : s'.work = absorb stamp s.work event
  ack : effect.ack = some event.seq

theorem applyEvent_cases (s : UiState) (stamp : WorkspaceStamp) {event : WorkspaceEvent}
    (hseq : event.seq ≠ 0) :
    Passed s (s.applyEvent stamp event).2 (s.applyEvent stamp event).1 ∨
      Advanced s (s.applyEvent stamp event).2 stamp event (s.applyEvent stamp event).1 := by
  have hstill : ∀ effect : EventApplied, effect.disposition ≠ .applied →
      effect.disposition.isGap = false →
      (∀ seq, effect.ack = some seq → ∃ k, s.chat.appliedCursor = some k ∧ seq ≤ k) →
      Passed s s effect := by
    intro effect hne hgap hack
    exact ⟨hne, .refl s, rfl, rfl, fun h => h, fun h => absurd (h.symm.trans hgap) (by simp), hack⟩
  have hfall : ∀ effect : EventApplied, effect.disposition ≠ .applied → effect.ack = none →
      Passed s s.unsynchronized effect := by
    intro effect hne hack
    exact ⟨hne, ⟨rfl, rfl, rfl⟩, rfl, rfl, nofun, fun _ _ => rfl,
      fun seq h => absurd (h.symm.trans hack) (by simp)⟩
  unfold applyEvent
  split
  · exact .inl (hstill _ (by simp) rfl (by simp))
  next haccepts =>
  simp only [Bool.or_eq_true, Bool.not_eq_true', decide_eq_true_eq, not_or, Bool.not_eq_false,
    not_not] at haccepts
  cases hcursor : s.chat.appliedCursor with
  | none =>
    refine .inl ⟨by simp, .refl s, rfl, rfl, fun h => h, fun _ h => ?_, by simp⟩
    rw [hcursor] at h
    cases h
  | some k =>
    dsimp only
    split
    · next hle =>
      refine .inl (hstill _ (by simp) rfl fun seq hack => ⟨k, hcursor, ?_⟩)
      exact Option.some.inj hack ▸ hle
    · split
      · exact .inl (hfall _ (by simp) rfl)
      · next hnext =>
        have hnext := not_not.mp hnext
        split
        · next hkind =>
          cases htask : taskEventOf stamp event with
          | none => exact .inl (hfall _ (by simp) rfl)
          | some taskEvent =>
            dsimp only
            have hframe := observeTaskEvent_frame s taskEvent
            obtain ⟨hseat, hat, hsync, hwork, hdisp, hack⟩ := finishEvent_spec
              (s.observeTaskEvent taskEvent).2 event (s.observeTaskEvent taskEvent).1
            refine .inr ⟨hdisp, haccepts.1, hframe.1.trans hseat, ⟨k, hcursor, hnext⟩, hat,
              hsync.trans (congrArg ChatState.synchronized hframe.2), ?_, hack⟩
            rw [hwork]
            simp only [absorb, hkind, ↓reduceIte, htask]
            apply settleRequest_work
            apply observeTaskEvent_work
            rfl
        · next hkind =>
          obtain ⟨hseat, hat, hsync, hwork, hdisp, hack⟩ := finishEvent_spec s event false
          refine .inr ⟨hdisp, haccepts.1, hseat, ⟨k, hcursor, hnext⟩, hat, hsync, ?_, hack⟩
          rw [hwork]
          simp only [absorb, hkind, ↓reduceIte]
          apply settleRequest_work
          rfl

end

/-- Which of the events offered were applied. -/
def appliedOf (events : List WorkspaceEvent) (effects : List EventApplied) :
    List WorkspaceEvent :=
  ((events.zip effects).filter fun offer => offer.2.disposition = .applied).map Prod.fst

@[simp]
theorem appliedOf_cons (event : WorkspaceEvent) (events : List WorkspaceEvent)
    (effect : EventApplied) (effects : List EventApplied) :
    appliedOf (event :: events) (effect :: effects) =
      (if effect.disposition = .applied then [event] else []) ++ appliedOf events effects := by
  unfold appliedOf
  rw [List.zip_cons_cons, List.filter_cons]
  split <;> simp_all

@[simp]
theorem appliedOf_nil (events : List WorkspaceEvent) : appliedOf events [] = [] := by
  simp [appliedOf]

/-- The stored events the cursor moved over, one by one, with their effects. -/
structure Walks (log : ℕ → WorkspaceEvent) (stamp : WorkspaceStamp) (s s' : UiState)
    (done : List WorkspaceEvent) : Prop where
  seat : SameSeat s s'
  unseeded : s.chat.appliedCursor = none → s'.chat.appliedCursor = none ∧ done = []
  seeded : ∀ k, s.chat.appliedCursor = some k → ∃ n,
    s'.chat.appliedCursor = some (k + n) ∧ done = (List.range' (k + 1) n).map log
  work : s'.work = done.foldl (absorb stamp) s.work
  falls : s'.chat.synchronized = true → s.chat.synchronized = true

/-- The cursor covers the number. -/
def Covers (s : UiState) (seq : ℕ) : Prop :=
  ∃ k, s.chat.appliedCursor = some k ∧ seq ≤ k

namespace Walks

variable {log : ℕ → WorkspaceEvent} {stamp : WorkspaceStamp} {s s' s'' : UiState}
  {done done' : List WorkspaceEvent}

theorem refl (s : UiState) : Walks log stamp s s [] where
  seat := .refl s
  unseeded := fun h => ⟨h, rfl⟩
  seeded := fun _ h => ⟨0, h, rfl⟩
  work := rfl
  falls := fun h => h

theorem trans (h : Walks log stamp s s' done) (h' : Walks log stamp s' s'' done') :
    Walks log stamp s s'' (done ++ done') where
  seat := h.seat.trans h'.seat
  unseeded := by
    intro hnone
    obtain ⟨hnone', hdone⟩ := h.unseeded hnone
    obtain ⟨hnone'', hdone'⟩ := h'.unseeded hnone'
    exact ⟨hnone'', by simp [hdone, hdone']⟩
  seeded := by
    intro k hk
    obtain ⟨n, hn, hdone⟩ := h.seeded k hk
    obtain ⟨m, hm, hdone'⟩ := h'.seeded (k + n) hn
    refine ⟨n + m, by rw [hm, Nat.add_assoc], ?_⟩
    rw [hdone, hdone', ← List.map_append, Nat.add_right_comm k n 1, List.range'_append_1]
  work := by
    rw [h'.work, h.work, List.foldl_append]
  falls := fun hsync => h.falls (h'.falls hsync)

theorem covers (h : Walks log stamp s s' done) {seq : ℕ} (hseq : s.Covers seq) :
    s'.Covers seq := by
  obtain ⟨k, hk, hle⟩ := hseq
  obtain ⟨n, hn, -⟩ := h.seeded k hk
  exact ⟨k + n, hn, by omega⟩

end Walks

/-- The event is the one stored under its number. -/
def Stored (log : ℕ → WorkspaceEvent) (event : WorkspaceEvent) : Prop :=
  event.seq ≠ 0 ∧ log event.seq = event

section

variable [EventSize] {log : ℕ → WorkspaceEvent}

theorem applyEvent_walks (s : UiState) (stamp : WorkspaceStamp) {event : WorkspaceEvent}
    (hstored : Stored log event) :
    Walks log stamp s (s.applyEvent stamp event).2
      (appliedOf [event] [(s.applyEvent stamp event).1]) := by
  cases applyEvent_cases s stamp hstored.1 with
  | inl h =>
    have hnone : appliedOf [event] [(s.applyEvent stamp event).1] = [] := by
      simp [h.disposition]
    rw [hnone]
    exact ⟨h.seat, fun hk => ⟨h.cursor.trans hk, rfl⟩, fun k hk => ⟨0, h.cursor.trans hk, rfl⟩,
      h.work, h.falls⟩
  | inr h =>
    have hone : appliedOf [event] [(s.applyEvent stamp event).1] = [event] := by
      simp [h.disposition]
    rw [hone]
    obtain ⟨k, hk, hnext⟩ := h.next
    refine ⟨h.seat, fun hnone => absurd (hk.symm.trans hnone) (by simp), ?_, h.work,
      fun hsync => h.synchronized ▸ hsync⟩
    intro k' hk'
    obtain rfl : k = k' := Option.some.inj (hk.symm.trans hk')
    refine ⟨1, hnext ▸ h.cursor, ?_⟩
    rw [List.range'_one, List.map_singleton, ← hnext, hstored.2]

theorem applyEvents_walks (stamp : WorkspaceStamp) {events : List WorkspaceEvent}
    (hstored : ∀ event ∈ events, Stored log event) (s : UiState) :
    Walks log stamp s (s.applyEvents stamp events).2
      (appliedOf events (s.applyEvents stamp events).1) := by
  induction events generalizing s with
  | nil => exact .refl s
  | cons event events ih =>
    have hhead := applyEvent_walks s stamp (hstored event (by simp))
    have htail := ih (fun e he => hstored e (by simp [he])) (s.applyEvent stamp event).2
    have hboth := hhead.trans htail
    simpa [applyEvents] using hboth

/-- A gap ends the synchronization, and what is acknowledged was applied. -/
theorem applyEvents_reports (stamp : WorkspaceStamp) {events : List WorkspaceEvent}
    (hstored : ∀ event ∈ events, Stored log event) (s : UiState) :
    ∀ effect ∈ (s.applyEvents stamp events).1,
      (effect.disposition.isGap = true → s.chat.appliedCursor.isSome = true →
        (s.applyEvents stamp events).2.chat.synchronized = false) ∧
      ∀ seq, effect.ack = some seq → (s.applyEvents stamp events).2.Covers seq := by
  induction events generalizing s with
  | nil => simp [applyEvents]
  | cons event events ih =>
    have hevent := hstored event (by simp)
    have hrest : ∀ e ∈ events, Stored log e := fun e he => hstored e (by simp [he])
    have hwalk := applyEvent_walks s stamp hevent
    have htail := applyEvents_walks stamp hrest (s.applyEvent stamp event).2
    intro effect heffect
    simp only [applyEvents, List.mem_cons] at heffect
    cases heffect with
    | inr hmem =>
      obtain ⟨hgap, hack⟩ := ih hrest _ effect hmem
      refine ⟨fun h hsome => hgap h ?_, hack⟩
      obtain ⟨k, hk⟩ := Option.isSome_iff_exists.mp hsome
      obtain ⟨n, hn, -⟩ := hwalk.seeded k hk
      rw [hn]
      rfl
    | inl heq =>
      subst heq
      cases applyEvent_cases s stamp hevent.1 with
      | inl h =>
        refine ⟨fun hgap hsome => ?_, fun seq hack => htail.covers (hwalk.covers (h.ack seq hack))⟩
        have hfell := h.gap hgap hsome
        apply Bool.eq_false_iff.mpr
        intro hsync
        exact absurd (htail.falls hsync) (by simp [hfell])
      | inr h =>
        refine ⟨fun hgap => absurd hgap (by simp [h.disposition, EventDisposition.isGap]), ?_⟩
        intro seq hack
        obtain rfl : event.seq = seq := Option.some.inj (h.ack.symm.trans hack)
        exact htail.covers ⟨event.seq, h.cursor, Nat.le_refl _⟩

end

end UiState

end SessionRouter
