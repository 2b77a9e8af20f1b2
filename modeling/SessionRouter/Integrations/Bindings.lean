import SessionRouter.Integrations.CatalogSpec
import SessionRouter.Integrations.Effects

/-!
What a configuration makes of the bindings: the configured ones are enabled with their target, the
others are disabled and keep theirs.
-/

namespace SessionRouter

/-- The stored binding of an active integration agrees with it. -/
def Bound (db : Db) (active : ActiveIntegration) : Prop :=
  ∃ r, db.bindings.get? active.connection.key = some r ∧ r.enabled = true ∧
    r.target = active.connection.ns ∧ r.revision = active.revision ∧
    r.configHash = active.connection.configHash

/-- A configuration was applied. -/
structure Catalogued (db db' : Db) (connections : List IntegrationConnection) : Prop where
  check : checkCatalog db connections = none
  trackers : ∃ bindings, db'.trackers = { db.trackers with bindings }
  configured : ∀ c ∈ connections, ∃ r, db'.bindings.get? c.key = some r ∧ r.enabled = true ∧
    r.target = c.ns ∧ r.configHash = c.configHash
  removed : ∃ now, ∀ key, key ∉ connections.map IntegrationConnection.key →
    db'.bindings.get? key = (db.bindings.get? key).map fun r =>
      { r with enabled := false, updatedAt := now }

theorem Bound.of_bindings {db db' : Db} {active : ActiveIntegration} (h : Bound db active)
    (hsame : db'.bindings = db.bindings) : Bound db' active := by
  unfold Bound
  rwa [hsame]

section

variable [World] {t : Tx}

/-- One configured connection is stored; the bindings of the others stay. -/
theorem applyConnection_effect {stored : List StoredBinding} {now : ℕ}
    {connection : IntegrationConnection} :
    Txn.wp (applyConnection stored now connection)
      (fun x t' => x.1.connection = connection ∧ Bound t'.db x.1 ∧
        ∃ r, t'.db.trackers = { t.db.trackers with
          bindings := t.db.bindings.put connection.key r })
      (fun _ => True) t := by
  unfold applyConnection
  simp only [Txn.wp_bind, liftCode, Txn.wp_mapError, upsertBinding]
  rw [Store.wp_execute]
  refine ⟨fun _ => ?_, fun _ => trivial⟩
  have hdone : ∀ {t₁ : Tx} {r : BindingRow}, t₁.db.trackers = { t.db.trackers with
      bindings := t.db.bindings.put connection.key r } → t₁.db.bindings.get? connection.key =
      some r := by
    intro t₁ r h
    have hbindings : t₁.db.bindings = t.db.bindings.put connection.key r :=
      congrArg Trackers.bindings h
    rw [hbindings]
    exact Table.get?_put_self _ _ _
  rw [Txn.wp_ite]
  refine ⟨fun _ => ?_, fun _ => ?_⟩
  · simp only [Txn.wp_bind]
    refine wp_trackers (appendIntegrationEvent_moves trackers_tasks.toBlindJournal _ _ _ _)
      fun _ t₁ h₁ => ?_
    exact ⟨rfl, ⟨_, hdone h₁, rfl, rfl, rfl, rfl⟩, _, h₁⟩
  · exact ⟨rfl, ⟨_, hdone rfl, rfl, rfl, rfl, rfl⟩, _, rfl⟩

omit [World] in
/-- Whatever is active was applied. -/
theorem active_applied {applied : List (ActiveIntegration × List WorkspaceEvent)}
    {m : Table (WorkspaceName × ExternalProvider) ActiveIntegration}
    {key : WorkspaceName × ExternalProvider} {active : ActiveIntegration}
    (h : (applied.foldl (fun m (a : ActiveIntegration × List WorkspaceEvent) =>
      m.put (a.1.connection.workspace, a.1.connection.provider) a.1) m).get? key = some active) :
    m.get? key = some active ∨ active.connection.key = key ∧ active ∈ applied.map Prod.fst := by
  induction applied generalizing m with
  | nil => exact .inl h
  | cons a rest ih =>
    rcases ih h with hput | ⟨hkey, hmem⟩
    · rw [Table.get?_put] at hput
      split at hput
      · next hk =>
        obtain rfl := Option.some.inj hput
        exact .inr ⟨hk.symm, by simp⟩
      · exact .inl hput
    · exact .inr ⟨hkey, by simp [hmem]⟩

/-- What is configured is active and bound. -/
theorem applyCatalog_effect {connections : List IntegrationConnection}
    (hnodup : (connections.map IntegrationConnection.key).Nodup) :
    Txn.wp (applyCatalog connections)
      (fun x t' => Catalogued t.db t'.db connections ∧
        ∀ key active, x.1.get? key = some active →
          active.connection.key = key ∧ Bound t'.db active)
      (fun _ => True) t := by
  unfold applyCatalog
  rw [Txn.wp_bind, Store.wp_read, Txn.wp_bind, Store.wp_read]
  split
  · trivial
  next hcheck =>
  simp only [Txn.wp_bind, Store.wp_nowMillis, liftCode, Txn.wp_mapError, disableBindings,
    Store.wp_write, Txn.wp_pure]
  -- Connections whose turn has come are bound; the other bindings are disabled.
  refine Txn.wp_mono (Txn.wp_each
    (I := fun done (results : List (ActiveIntegration × List WorkspaceEvent)) t' =>
      (∃ bindings, t'.db.trackers = { t.db.trackers with bindings }) ∧
      results.map (fun a => a.1.connection) = done ∧
      (∀ a ∈ results.map Prod.fst, Bound t'.db a) ∧
      ∀ key, key ∉ done.map IntegrationConnection.key →
        t'.db.bindings.get? key = (t.db.bindings.get? key).map fun r =>
          { r with enabled := false, updatedAt := World.now t.tick })
    ⟨⟨_, rfl⟩, rfl, by simp, fun key _ => Table.get?_mapValues _ _ _⟩ ?_) ?_ fun _ h => h
  · rintro done results c rest t' hsplit ⟨⟨bindings, htrackers⟩, hresults, hbound, hothers⟩
    refine Txn.wp_mono applyConnection_effect ?_ fun _ h => h
    rintro x t'' ⟨hconnection, hx, r, htrackers'⟩
    have hbindings : t''.db.bindings = t'.db.bindings.put c.key r :=
      congrArg Trackers.bindings htrackers'
    have hnew : c.key ∉ done.map IntegrationConnection.key := by
      intro hin
      rw [hsplit, List.map_append, List.map_cons] at hnodup
      exact (List.nodup_append.mp hnodup).2.2 _ hin _ (by simp) rfl
    refine ⟨⟨_, htrackers'.trans (by rw [htrackers])⟩, by simp [hresults, hconnection], ?_, ?_⟩
    · intro a ha
      simp only [List.map_append, List.map_cons, List.map_nil, List.mem_append,
        List.mem_singleton] at ha
      rcases ha with ha | rfl
      · obtain ⟨r', hr', hrow⟩ := hbound a ha
        refine ⟨r', ?_, hrow⟩
        rw [hbindings, Table.get?_put_ne _ _ ?_, hr']
        rintro heq
        refine hnew ?_
        rw [← hresults, ← heq]
        obtain ⟨b, hb, rfl⟩ := List.mem_map.mp ha
        exact List.mem_map.mpr ⟨b.1.connection, List.mem_map.mpr ⟨b, hb, rfl⟩, rfl⟩
      · exact hx
    · intro key hkey
      simp only [List.map_append, List.map_cons, List.map_nil, List.mem_append,
        List.mem_singleton, not_or] at hkey
      rw [hbindings, Table.get?_put_ne _ _ hkey.2]
      exact hothers key hkey.1
  · rintro applied t₁ ⟨⟨bindings, htrackers⟩, happlied, hbound, hothers⟩
    refine wp_trackers (.each (fun b => appendIntegrationEvent_moves
      trackers_tasks.toBlindJournal _ _ _ _) _) fun _ t₂ h₂ => ?_
    refine wp_trackers commit_moves fun _ t₃ h₃ => ?_
    have hlast := h₃.trans h₂
    have hbindings : t₃.db.bindings = t₁.db.bindings := congrArg Trackers.bindings hlast
    refine ⟨⟨hcheck, ⟨_, hlast.trans htrackers⟩, fun c hc => ?_, World.now t.tick,
      fun key hkey => ?_⟩, ?_⟩
    · rw [← happlied] at hc
      obtain ⟨a, ha, rfl⟩ := List.mem_map.mp hc
      obtain ⟨r, hr, henabled, htarget, -, hhash⟩ := hbound a.1 (List.mem_map.mpr ⟨a, ha, rfl⟩)
      exact ⟨r, by rw [hbindings]; exact hr, henabled, htarget, hhash⟩
    · rw [hbindings]
      exact hothers key hkey
    · intro key active hactive
      rcases active_applied hactive with hnone | ⟨hkey, hmem⟩
      · cases hnone
      · exact ⟨hkey, (hbound active hmem).of_bindings hbindings⟩

end

end SessionRouter
