import SessionRouter.Integrations.PrepareSpec

/-!
Applying a configuration. It announces at most one change for each binding, and a workspace has
one binding for each of two providers, so at most two sequence numbers are taken in a workspace.
-/

namespace SessionRouter

/-- The workspace and provider a stored binding is for. -/
def StoredBinding.key (b : StoredBinding) : WorkspaceName × ExternalProvider :=
  (b.workspace, b.provider)

def IntegrationConnection.key (c : IntegrationConnection) : WorkspaceName × ExternalProvider :=
  (c.workspace, c.provider)

/-- Each workspace took at most one sequence number for each of its keys in `keys`. -/
def SeqBudget (db db' : Db) (keys : List (WorkspaceName × ExternalProvider)) : Prop :=
  ∀ w row', db'.workspaces.get? w = some row' → ∃ row, db.workspaces.get? w = some row ∧
    row'.nextSeq ≤ row.nextSeq + (keys.filter fun k => k.1 = w).length

namespace SeqBudget

variable {db db' : Db} {keys : List (WorkspaceName × ExternalProvider)}

theorem refl (db : Db) : SeqBudget db db [] := fun _ row h => ⟨row, h, by simp⟩

theorem keep (h : SeqBudget db db' keys) (key : WorkspaceName × ExternalProvider) :
    SeqBudget db db' (keys ++ [key]) := by
  intro w row' hrow'
  obtain ⟨row, hrow, hle⟩ := h w row' hrow'
  refine ⟨row, hrow, hle.trans ?_⟩
  rw [List.filter_append, List.length_append]
  omega

theorem append (h : SeqBudget db db' keys) {e : WorkspaceEvent}
    {key : WorkspaceName × ExternalProvider} (he : e.workspace = key.1) :
    SeqBudget db (db'.append e) (keys ++ [key]) := by
  intro w row'' hrow''
  rw [Db.append_workspace] at hrow''
  split at hrow''
  · next hw =>
    obtain ⟨row', hrow', rfl⟩ := Option.map_eq_some_iff.mp hrow''
    obtain ⟨row, hrow, hle⟩ := h w row' hrow'
    refine ⟨row, hrow, ?_⟩
    have hkey : key.1 = w := by rw [hw, he]
    simp only [WorkspaceRow.bumped, List.filter_append, List.length_append, List.filter_cons, hkey,
      decide_true, if_true, List.filter_nil, List.length_singleton]
    omega
  · exact h.keep key w row'' hrow''

theorem of_eq {db'' : Db} (h : SeqBudget db db' keys) (heq : db''.workspaces = db'.workspaces) :
    SeqBudget db db'' keys := by
  intro w row' hrow'
  rw [heq] at hrow'
  exact h w row' hrow'

/-- There are two providers. -/
theorem filter_length_le (hkeys : keys.Nodup) (w : WorkspaceName) :
    (keys.filter fun k => k.1 = w).length ≤ 2 := by
  have hsub : (keys.filter fun k => k.1 = w) ⊆ [(w, .github), (w, .linear)] := by
    rintro ⟨w', provider⟩ hk
    obtain ⟨-, hw⟩ := List.mem_filter.mp hk
    have hw' : w' = w := by simpa using hw
    subst hw'
    cases provider <;> simp
  exact (List.subperm_of_subset (hkeys.filter _) hsub).length_le

/-- A journal that is full before the number for `key` is taken was about to run out at the
beginning. -/
theorem exhausted (h : SeqBudget db db' keys) {key : WorkspaceName × ExternalProvider}
    (hkeys : (keys ++ [key]).Nodup) (hfull : JournalFull db' key.1) : Exhausted db := by
  obtain ⟨row', hrow', hmax⟩ := hfull
  obtain ⟨row, hrow, hle⟩ := h _ row' hrow'
  have htwo := filter_length_le hkeys key.1
  simp only [List.filter_append, List.length_append, List.filter_cons, decide_true, if_true,
    List.filter_nil, List.length_singleton] at htwo
  exact .inl ⟨_, row, hrow, .inl (by omega)⟩

end SeqBudget

section

variable [World] {t : Tx}

/-- What holds while a configuration is applied: the bindings in `keys` are done and announced by
`es`. -/
structure CatalogStep (t t' : Tx) (keys : List (WorkspaceName × ExternalProvider))
    (es : List WorkspaceEvent) : Prop where
  advance : Advance t t' es noAttempt
  kinds : ∀ e ∈ es, e.kind = .integration
  budget : SeqBudget t.db t'.db keys

theorem CatalogStep.bindings {t' : Tx} {keys : List (WorkspaceName × ExternalProvider)}
    {es : List WorkspaceEvent} (h : CatalogStep t t' keys es)
    (bindings : Table (WorkspaceName × ExternalProvider) BindingRow)
    (hbindings : ∀ key r, bindings.get? key = some r →
      1 ≤ r.revision ∧ ∃ row, t'.db.workspaces.get? key.1 = some row) :
    CatalogStep t { t' with db := setBindings bindings t'.db } keys es := by
  have hext : ExternalTables (setBindings bindings t'.db) := by
    have hx := h.advance.inv.external
    refine ⟨?_, hx.resolutions, hbindings⟩
    intro key r hr
    have hi := hx.operations key r hr
    exact ⟨hi.check, hi.phase, hi.marker, hi.task, hi.workspace⟩
  have hadv := Advance.of_external (setBindings bindings t'.db) h.advance.inv
    ⟨rfl, rfl, rfl, rfl, rfl, rfl, rfl, rfl, rfl⟩ hext
  refine ⟨?_, h.kinds, h.budget.of_eq rfl⟩
  simpa using h.advance.then hadv

theorem CatalogStep.put {t' : Tx} {keys : List (WorkspaceName × ExternalProvider)}
    {es : List WorkspaceEvent} {key : WorkspaceName × ExternalProvider} {r : BindingRow}
    (h : CatalogStep t t' keys es) (hworkspace : ∃ row, t'.db.workspaces.get? key.1 = some row)
    (hrevision : 1 ≤ r.revision) :
    CatalogStep t { t' with db := setBindings (t'.db.bindings.put key r) t'.db } keys es := by
  refine h.bindings _ ?_
  intro key' r' hr'
  rw [Table.get?_put] at hr'
  split at hr'
  · next hk =>
    subst hk
    cases hr'
    exact ⟨hrevision, hworkspace⟩
  · exact h.advance.inv.external.bindings key' r' hr'

/-- A binding that did not change is not announced. -/
theorem CatalogStep.keep {t' : Tx} {keys : List (WorkspaceName × ExternalProvider)}
    {es : List WorkspaceEvent} (h : CatalogStep t t' keys es)
    (key : WorkspaceName × ExternalProvider) : CatalogStep t t' (keys ++ [key]) (es ++ []) := by
  rw [List.append_nil]
  exact ⟨h.advance, h.kinds, h.budget.keep key⟩

theorem CatalogStep.workspace {t' : Tx} {keys : List (WorkspaceName × ExternalProvider)}
    {es : List WorkspaceEvent} (h : CatalogStep t t' keys es) {w : WorkspaceName}
    (hw : ∃ row, t.db.workspaces.get? w = some row) :
    ∃ row, t'.db.workspaces.get? w = some row := by
  obtain ⟨row, hrow⟩ := hw
  obtain ⟨row', hrow', -⟩ := h.advance.grows.workspaces w row hrow
  exact ⟨row', hrow'⟩

theorem CatalogStep.announce {t' : Tx} {keys : List (WorkspaceName × ExternalProvider)}
    {es : List WorkspaceEvent} {event : IntegrationEvent} {Q : WorkspaceEvent → Tx → Prop}
    (h : CatalogStep t t' keys es) (key : WorkspaceName × ExternalProvider)
    (hkeys : (keys ++ [key]).Nodup)
    (hworkspace : ∃ row, t'.db.workspaces.get? key.1 = some row)
    (hQ : ∀ e t'', CatalogStep t t'' (keys ++ [key]) (es ++ [e]) → Q e t'') :
    Txn.wp (appendIntegrationEvent key.1 "system:router" none event) Q (CodeExcused t.db) t' := by
  obtain ⟨row, hrow⟩ := hworkspace
  refine appendIntegrationEvent_spec h.advance.inv validActor_router hrow (by simp) ?_ ?_
  · intro e t'' hadv hkind hw hdb
    refine hQ e t'' ⟨h.advance.then hadv, ?_, ?_⟩
    · intro x hx
      rcases List.mem_append.mp hx with hx | hx
      · exact h.kinds x hx
      · rw [List.mem_singleton.mp hx]
        exact hkind
    · rw [hdb]
      exact h.budget.append hw
  · exact fun hfull _ => h.budget.exhausted hkeys hfull

omit [World] in
/-- The bindings that are stored are numbered from one. -/
theorem revision_pos {stored : List StoredBinding} (connection : IntegrationConnection)
    (changed : Bool) (hstored : ∀ b ∈ stored, 1 ≤ b.row.revision) :
    1 ≤ (match stored.find? fun b =>
        b.workspace = connection.workspace && b.provider = connection.provider with
      | none => 1
      | some b => if changed then b.row.revision + 1 else b.row.revision) := by
  split
  · exact le_rfl
  · next b hb =>
    have := hstored b (List.mem_of_find?_eq_some hb)
    cases changed <;> simp [this]

theorem applyConnection_spec {t' : Tx} {keys : List (WorkspaceName × ExternalProvider)}
    {es : List WorkspaceEvent} {stored : List StoredBinding} {now : ℕ}
    {connection : IntegrationConnection} (h : CatalogStep t t' keys es)
    (hkeys : (keys ++ [connection.key]).Nodup)
    (hworkspace : ∃ row, t'.db.workspaces.get? connection.workspace = some row)
    (hstored : ∀ b ∈ stored, 1 ≤ b.row.revision) (hnow : now ≤ maxSafeInteger) :
    Txn.wp (applyConnection stored now connection)
      (fun r t'' => CatalogStep t t'' (keys ++ [connection.key]) (es ++ r.2) ∧
        r.1.connection = connection) (CodeExcused t.db) t' := by
  have hrevision := fun changed => revision_pos connection changed hstored
  unfold applyConnection
  simp only [Txn.wp_bind, liftCode, Txn.wp_mapError, upsertBinding]
  rw [Store.wp_execute]
  refine ⟨fun _ => ?_, fun hfalse => ?_⟩
  · split
    · simp only [Txn.wp_bind, Txn.wp_pure]
      exact (h.put hworkspace (hrevision true)).announce connection.key hkeys hworkspace
        fun e t'' hstep => ⟨hstep, trivial⟩
    · simp only [Txn.wp_bind, Txn.wp_pure]
      exact ⟨(h.put hworkspace (hrevision false)).keep _, trivial⟩
  · refine absurd hfalse ?_
    obtain ⟨row, hrow⟩ := hworkspace
    have hcontains : t'.db.workspaces.contains connection.workspace = true := by
      simpa using ⟨row, hrow⟩
    simp only [bindingOk, BindingRow.check, hcontains, safeTime, Bool.and_true,
      Bool.and_eq_false_iff, decide_eq_false_iff_not, not_or, not_not]
    exact ⟨hrevision _, hnow⟩

omit [World] in
theorem mem_loadStoredBindings {db : Db} {b : StoredBinding} (h : b ∈ loadStoredBindings db) :
    db.bindings.get? b.key = some b.row := by
  unfold loadStoredBindings at h
  rw [List.mem_insertionSort, List.mem_map] at h
  obtain ⟨⟨key, r⟩, hmem, rfl⟩ := h
  exact (Table.mem_toList _ _ _).mp hmem

omit [World] in
theorem nodup_loadStoredBindings (db : Db) :
    ((loadStoredBindings db).map StoredBinding.key).Nodup := by
  unfold loadStoredBindings
  refine ((List.perm_insertionSort _ _).map _).nodup_iff.mpr ?_
  rw [List.map_map]
  exact db.bindings.nodup_toList_keys

omit [World] in
/-- The active integrations are those of the configuration. -/
theorem contains_active {applied : List (ActiveIntegration × List WorkspaceEvent)}
    {key : WorkspaceName × ExternalProvider}
    {m : Table (WorkspaceName × ExternalProvider) ActiveIntegration}
    (h : m.contains key = true ∨ key ∈ applied.map fun a => a.1.connection.key) :
    (applied.foldl (fun m (a : ActiveIntegration × List WorkspaceEvent) =>
      m.put (a.1.connection.workspace, a.1.connection.provider) a.1) m).contains key = true := by
  induction applied generalizing m with
  | nil => simpa using h
  | cons a rest ih =>
    refine ih ?_
    simp only [List.map_cons, List.mem_cons, Table.contains_iff, Table.get?_put] at h ⊢
    by_cases hk : key = (a.1.connection.workspace, a.1.connection.provider)
    · exact .inl ⟨a.1, by simp [hk]⟩
    · rcases h with h | h | h
      · exact .inl (by simpa [hk] using h)
      · exact absurd h hk
      · exact .inr h

theorem applyCatalog_spec {connections : List IntegrationConnection} (h : DbInv t.db t.tick)
    (hnodup : (connections.map IntegrationConnection.key).Nodup) :
    Txn.wp (applyCatalog connections)
      (fun r t' => Advance t t' r.2 noAttempt ∧ ∀ e ∈ r.2, e.kind = .integration)
      (CodeExcused t.db) t := by
  unfold applyCatalog
  simp only [Txn.wp_bind, Store.wp_read]
  have hstored : ∀ b ∈ loadStoredBindings t.db, 1 ≤ b.row.revision ∧
      ∃ row, t.db.workspaces.get? b.workspace = some row :=
    fun b hb => h.external.bindings _ _ (mem_loadStoredBindings hb)
  cases hcheck : checkCatalog t.db connections with
  | some code =>
    refine CodeExcused.of_ne ?_
    rintro rfl
    unfold checkCatalog at hcheck
    split at hcheck
    · cases hcheck
    · obtain ⟨b, -, hb⟩ := List.exists_of_findSome?_eq_some hcheck
      unfold checkBinding at hb
      grind
  | none =>
    have hknown : ∀ c ∈ connections, ∃ row, t.db.workspaces.get? c.workspace = some row := by
      intro c hc
      unfold checkCatalog at hcheck
      split at hcheck
      · cases hcheck
      · next hall =>
        simp only [List.any_eq_true, Bool.not_eq_true', not_exists, not_and,
          Bool.not_eq_false] at hall
        exact (Table.contains_iff _ _).mp (hall c hc)
    simp only [Txn.wp_bind, Store.wp_nowMillis, liftCode, Txn.wp_mapError, disableBindings,
      Store.wp_write]
    have hstart : CatalogStep t { t with tick := t.tick + 1 } [] [] :=
      ⟨(Advance.refl h).draw (Nat.le_succ _), by simp, .refl _⟩
    have hdisabled := hstart.bindings (t.db.bindings.mapValues fun r =>
        { r with enabled := false, updatedAt := World.now t.tick }) (by
      intro key r hr
      rw [Table.get?_mapValues] at hr
      obtain ⟨r', hr', rfl⟩ := Option.map_eq_some_iff.mp hr
      exact h.external.bindings key r' hr')
    refine Txn.wp_mono (Txn.wp_each (s := { db := setBindings _ t.db, tick := t.tick + 1 })
      (I := fun done (results : List (ActiveIntegration × List WorkspaceEvent)) t' =>
        CatalogStep t t' (done.map IntegrationConnection.key) (results.map Prod.snd).flatten ∧
        results.map (fun a => a.1.connection) = done) ⟨hdisabled, rfl⟩ ?_) ?_ fun _ h => h
    · rintro done results c rest t' hsplit ⟨hstep, hresults⟩
      have hmem : c ∈ connections := by simp [hsplit]
      have hkeys : (done.map IntegrationConnection.key ++ [c.key]).Nodup := by
        refine hnodup.sublist ?_
        rw [hsplit, List.map_append, List.map_cons]
        exact (List.Sublist.refl _).append (by simp)
      refine Txn.wp_mono (applyConnection_spec hstep hkeys (hstep.workspace (hknown c hmem))
        (fun b hb => (hstored b hb).1) (World.now_le _)) ?_ fun _ h => h
      rintro r t'' ⟨hnext, hconnection⟩
      exact ⟨by simpa using hnext, by simp [hresults, hconnection]⟩
    rintro applied t₁ ⟨hstep, happlied⟩
    have hkeys : (connections.map IntegrationConnection.key ++ List.map StoredBinding.key
        (((loadStoredBindings t.db).filter fun b => b.row.enabled).filter fun b =>
          !(applied.foldl (fun m (a : ActiveIntegration × List WorkspaceEvent) =>
            m.put (a.1.connection.workspace, a.1.connection.provider) a.1)
              (∅ : Table (WorkspaceName × ExternalProvider) ActiveIntegration)).contains
            (b.workspace, b.provider))).Nodup := by
      refine List.nodup_append.mpr ⟨hnodup, ?_, ?_⟩
      · exact (nodup_loadStoredBindings t.db).sublist
          ((List.filter_sublist.trans List.filter_sublist).map _)
      · rintro key hkey key' hkey' rfl
        obtain ⟨b, hb, rfl⟩ := List.mem_map.mp hkey'
        obtain ⟨-, hb⟩ := List.mem_filter.mp hb
        rw [← happlied, List.map_map] at hkey
        have hactive := contains_active (m := ∅) (.inr hkey)
        simp only [StoredBinding.key] at hactive
        simp [hactive] at hb
    refine Txn.wp_mono (Txn.wp_each
      (I := fun done results t' => CatalogStep t t'
        (connections.map IntegrationConnection.key ++ done.map StoredBinding.key)
        ((applied.map Prod.snd).flatten ++ results)) (by simpa using hstep) ?_) ?_ fun _ h => h
    · intro done results b rest t' hsplit hnext
      have hmem : b ∈ loadStoredBindings t.db := by
        have : b ∈ done ++ b :: rest := by simp
        rw [← hsplit] at this
        exact (List.mem_filter.mp (List.mem_filter.mp this).1).1
      refine hnext.announce b.key ?_ (hnext.workspace (hstored b hmem).2) ?_
      · refine hkeys.sublist ?_
        rw [hsplit, List.map_append, List.map_cons, List.append_assoc]
        exact (List.Sublist.refl _).append ((List.Sublist.refl _).append (by simp))
      · intro e t'' hlast
        simpa using hlast
    · intro disabled t₂ hdone
      simp only [Txn.wp_pure]
      exact commit_spec hdone.advance.inv.tasks ⟨hdone.advance, hdone.kinds⟩

theorem disableBindings_spec {f : BindingRow → BindingRow} (h : DbInv t.db t.tick)
    (hf : ∀ r, (f r).revision = r.revision) :
    Txn.wp (disableBindings f) (fun _ t' => Advance t t' [] noAttempt) (fun _ => True) t := by
  have hstart : CatalogStep t t [] [] := ⟨.refl h, by simp, .refl _⟩
  refine (hstart.bindings (t.db.bindings.mapValues f) ?_).advance
  intro key r hr
  rw [Table.get?_mapValues] at hr
  obtain ⟨r', hr', rfl⟩ := Option.map_eq_some_iff.mp hr
  rw [hf]
  exact h.external.bindings key r' hr'

/-- A catalog that was read names each binding once. -/
theorem catalog_keys {tick : ℕ} {connections : List IntegrationConnection}
    (h : World.catalog tick = some connections) :
    (connections.map IntegrationConnection.key).Nodup :=
  (World.catalog_nodup tick connections h).1

theorem reloadCatalog_spec {s : RouterStore} (h : StoreInv s) :
    Actor.wp reloadCatalog
      (fun r s' => StoreInv s' ∧ Advance s.tx s'.tx r.2 noAttempt ∧
        ∀ e ∈ r.2, e.kind = .integration)
      (fun code s' => StoreInv s' ∧ s'.db = s.db ∧ s.tick ≤ s'.tick ∧ CodeExcused s.db code) s := by
  have hdrawn : StoreInv { s with tick := s.tick + 1 } := h.draw (Nat.le_succ _)
  unfold reloadCatalog
  rw [Actor.wp_bind]
  change Actor.wp _ _ _ { s with tick := s.tick + 1 }
  rw [Actor.wp_bind, Actor.wp_orFail]
  refine ⟨fun connections hread => ?_, fun _ => ?_⟩
  · rw [wp_transaction]
    refine Txn.wp_mono (applyCatalog_spec (t := { db := s.db, tick := s.tick + 1 }) hdrawn.db
      (catalog_keys hread)) ?_ ?_
    · rintro r t' ⟨hadv, hkinds⟩
      refine ⟨hdrawn.commit hadv.inv hadv.tick, ?_, hkinds⟩
      exact ⟨hadv.inv, (Nat.le_succ _).trans hadv.tick, hadv.grows, hadv.attempts⟩
    · exact fun code hcode => ⟨hdrawn, rfl, Nat.le_succ _, hcode⟩
  · exact ⟨hdrawn, rfl, Nat.le_succ _, .of_ne (by decide)⟩

theorem registryLoad_spec {s : RouterStore} {ε : Type} (h : StoreInv s) :
    Actor.wp (IntegrationRegistry.load (ε := ε))
      (fun _ s' => StoreInv s' ∧ ∃ es, Advance s.tx s'.tx es noAttempt ∧
        ∀ e ∈ es, e.kind = .integration)
      (fun _ _ => False) s := by
  have hdrawn : StoreInv { s with tick := s.tick + 1 } := h.draw (Nat.le_succ _)
  unfold IntegrationRegistry.load
  rw [Actor.wp_bind, Actor.wp_outcome, Actor.wp_bind]
  change Actor.wp _ _ _ { s with tick := s.tick + 1 }
  have hfailed : Actor.wp (do
      let _ ← Actor.outcome (transaction (disableBindings fun r => { r with enabled := false }))
      pure { configurationInvalid := true, active := ∅ } : Session ε IntegrationRegistry)
      (fun _ s' => StoreInv s' ∧ ∃ es, Advance s.tx s'.tx es noAttempt ∧
        ∀ e ∈ es, e.kind = .integration)
      (fun _ _ => False) { s with tick := s.tick + 1 } := by
    rw [Actor.wp_bind, Actor.wp_outcome, wp_transaction]
    refine Txn.wp_mono (disableBindings_spec (t := { db := s.db, tick := s.tick + 1 }) hdrawn.db
      fun _ => rfl) ?_ ?_
    · intro _ t' hadv
      refine ⟨hdrawn.commit hadv.inv hadv.tick, [], ?_, by simp⟩
      exact ⟨hadv.inv, (Nat.le_succ _).trans hadv.tick, hadv.grows, hadv.attempts⟩
    · intro _ _
      exact ⟨hdrawn, [], ⟨hdrawn.db, Nat.le_succ _, .refl _, .of_eq rfl⟩, by simp⟩
  rw [Actor.wp_bind, Actor.wp_orFail]
  refine ⟨fun connections hread => ?_, fun _ => hfailed⟩
  rw [Actor.wp_mapError, wp_transaction]
  refine Txn.wp_mono (applyCatalog_spec (t := { db := s.db, tick := s.tick + 1 }) hdrawn.db
    (catalog_keys hread)) ?_ ?_
  · rintro r t' ⟨hadv, hkinds⟩
    refine ⟨hdrawn.commit hadv.inv hadv.tick, r.2, ?_, hkinds⟩
    exact ⟨hadv.inv, (Nat.le_succ _).trans hadv.tick, hadv.grows, hadv.attempts⟩
  · exact fun _ _ => hfailed

end

end SessionRouter
