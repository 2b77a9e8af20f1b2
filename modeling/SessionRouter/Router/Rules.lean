import SessionRouter.Router.Frame

/-!
How the operations of the router act on an assertion: the store, the queries, the clocks and the
sends.
-/

namespace SessionRouter

namespace Router

variable {ε α : Type} {s : RouterState}

theorem wp_inSession {x : Session ε α} {Q : α → RouterState → Prop} {E : ε → RouterState → Prop} :
    Actor.wp (inSession x) Q E s ↔ Actor.wp x (fun a store => Q a { s with store })
      (fun e store => E e { s with store }) s.store := by
  unfold Actor.wp inSession
  rcases x s.store with ⟨r, store⟩
  cases r with
  | error e => rfl
  | ok a => rfl

theorem wp_inStore {x : Store ε α} {Q : α → RouterState → Prop} {E : ε → RouterState → Prop} :
    Actor.wp (inStore x) Q E s ↔
      Txn.wp x (fun a t => Q a (s.commit t)) (fun e => E e s) s.store.tx := by
  unfold inStore
  rw [wp_inSession, wp_transaction]
  rfl

theorem wp_query {f : Db → Except StoreError α} {Q : α → RouterState → Prop}
    {E : StoreError → RouterState → Prop} {a : α} (h : f s.db = .ok a) (hQ : Q a s) :
    Actor.wp (query f) Q E s := by
  unfold Actor.wp query
  rw [h]
  exact hQ

theorem wp_ask {f : RouterState → Except ε α} {Q : α → RouterState → Prop}
    {E : ε → RouterState → Prop} :
    Actor.wp (ask f) Q E s ↔ (∀ a, f s = .ok a → Q a s) ∧ ∀ e, f s = .error e → E e s := by
  unfold Actor.wp ask
  cases f s with
  | error e => simp
  | ok a => simp

@[simp] theorem wp_lift {x : Router StoreError α} {Q : α → RouterState → Prop}
    {E : ActorError → RouterState → Prop} :
    Actor.wp (lift x) Q E s ↔ Actor.wp x Q (fun e s' => E (.ofStore e) s') s := by
  unfold lift
  rw [Actor.wp_mapError]

@[simp] theorem wp_updateConnection {id : Uuid} {f : ConnectionState → ConnectionState}
    {Q : Unit → RouterState → Prop} {E : ε → RouterState → Prop} :
    Actor.wp (updateConnection id f) Q E s ↔
      Q () { s with connections := s.connections.adjust id f } := Iff.rfl

@[simp] theorem wp_setBusy {id : Uuid} {busy : Bool} {Q : Unit → RouterState → Prop}
    {E : ε → RouterState → Prop} :
    Actor.wp (setBusy id busy) Q E s ↔
      Q () { s with connections := s.connections.adjust id (ConnectionState.setBusy s.db busy) } :=
  Iff.rfl

@[simp] theorem wp_failWith {code : RouterErrorCode} {Q : α → RouterState → Prop}
    {E : ActorError → RouterState → Prop} :
    Actor.wp (failWith code) Q E s ↔ E { code } s := Iff.rfl

theorem wp_requireThat {b : Bool} {code : RouterErrorCode} {Q : Unit → RouterState → Prop}
    {E : ActorError → RouterState → Prop} :
    Actor.wp (requireThat b code) Q E s ↔ (b = true → Q () s) ∧ (b = false → E { code } s) :=
  Actor.wp_require _ _

section

variable [World]

omit [World] in
theorem quiet_tick (s : RouterState) :
    Quiet s { s with store := { s.store with tick := s.tick + 1 } } :=
  ⟨rfl, rfl, Nat.le_succ _, rfl, rfl, rfl, rfl, rfl, id⟩

omit [World] in
theorem drawTick_spec {Q : ℕ → RouterState → Prop} {E : ε → RouterState → Prop}
    (h : ∀ t s', Quiet s s' → t < s'.tick → s.tick ≤ t → Q t s') : Actor.wp drawTick Q E s :=
  h _ _ (quiet_tick s) (Nat.lt_succ_self _) le_rfl

theorem newUuid_spec {Q : Uuid → RouterState → Prop} {E : ε → RouterState → Prop}
    (h : ∀ t s', Quiet s s' → t < s'.tick → s.tick ≤ t → Q (World.uuid t) s') :
    Actor.wp newUuid Q E s :=
  h _ _ (quiet_tick s) (Nat.lt_succ_self _) le_rfl

theorem nowInstant_spec {Q : ℕ → RouterState → Prop} {E : ε → RouterState → Prop}
    (h : ∀ now s', Quiet s s' → Q now s') : Actor.wp nowInstant Q E s :=
  h _ _ (quiet_tick s)

theorem nowMillis_spec {Q : ℕ → RouterState → Prop} {E : ε → RouterState → Prop}
    (h : ∀ now s', Quiet s s' → now ≤ maxSafeInteger → Q now s') : Actor.wp nowMillis Q E s :=
  h _ _ (quiet_tick s) (World.now_le _)

theorem traverse_spec {l : List α} {Q : List α → RouterState → Prop} {E : ε → RouterState → Prop}
    (h : ∀ l' s', Quiet s s' → l'.Perm l → Q l' s') : Actor.wp (traverse l) Q E s :=
  h _ _ (quiet_tick s) (World.arrange_perm _ l)

/-- A send changes no table. -/
theorem send_spec {id : Uuid} {generation : ℕ} {message : ServerMessage}
    {Q : Bool → RouterState → Prop} {E : ε → RouterState → Prop}
    (h : ∀ sent s', Quiet s s' → Q sent s') : Actor.wp (send id generation message) Q E s := by
  unfold Actor.wp send
  cases hc : s.connections.get? id with
  | none => exact h false s (.refl s)
  | some c =>
    by_cases hg : c.generation = generation
    · simp only [hg, if_true]
      exact h _ _ ⟨rfl, rfl, Nat.le_succ _, rfl, rfl, rfl, rfl, rfl, fun hs => hs⟩
    · simp only [hg, if_false]
      exact h false s (.refl s)

theorem sendError_spec {id : Uuid} {generation : ℕ} {requestId : Option String}
    {error : ActorError} {Q : Unit → RouterState → Prop} {E : ε → RouterState → Prop}
    (h : ∀ s', Quiet s s' → Q () s') :
    Actor.wp (sendError id generation requestId error) Q E s := by
  unfold sendError
  simp only [Actor.wp_bind, Actor.wp_pure]
  exact send_spec fun _ s' hq => h s' hq

theorem notifyTaskAttemptChanged_spec {workspace : WorkspaceName} {taskId : ℕ}
    {attempt : Option TaskAttempt} {closed : Option Uuid} {agentId : String}
    {Q : Unit → RouterState → Prop} {E : StoreError → RouterState → Prop} (hinv : StoreInv s.store)
    (h : ∀ s', Quiet s s' → Q () s') :
    Actor.wp (notifyTaskAttemptChanged workspace taskId attempt closed agentId) Q E s := by
  obtain ⟨fences, hfences, -⟩ := agentExecutionFences_spec hinv.db.tasks agentId
  unfold notifyTaskAttemptChanged
  simp only [Actor.wp_bind]
  refine wp_query hfences ?_
  rw [Actor.wp_get]
  split
  · exact h s (.refl s)
  · split
    · exact h s (.refl s)
    · simp only [Actor.wp_bind, Actor.wp_pure]
      exact send_spec fun _ s' hq => h s' hq

end

end Router

end SessionRouter
