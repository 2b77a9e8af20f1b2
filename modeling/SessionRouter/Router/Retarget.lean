import SessionRouter.Integrations.Bindings
import SessionRouter.Router.Commits
import SessionRouter.Router.Executions

/-!
A binding that is enabled keeps its target while a link or an open operation refers to it. The
guard looks at enabled bindings alone; one that a failed load has disabled is retargeted unasked.
-/

namespace SessionRouter

/-- A link or an open operation of the workspace and the provider refers to the target. -/
def Referenced (db : Db) (key : WorkspaceName × ExternalProvider) (ns : String) : Prop :=
  (∃ k l, db.links.get? k = some l ∧ k.1 = key.1 ∧ k.2.2 = key.2 ∧ l.ns = ns) ∨
  ∃ k o, db.operations.get? k = some o ∧ k.1 = key.1 ∧ o.provider = key.2 ∧ o.ns = ns ∧
    o.isOpen = true

/-- The target of a stored binding is the one its digest covers. -/
def TargetsCovered (db : Db) : Prop :=
  ∀ key r, db.bindings.get? key = some r → r.target = r.configHash.ns

theorem Referenced.of_trackers {db db' : Db} {key : WorkspaceName × ExternalProvider} {ns : String}
    {bindings : Table (WorkspaceName × ExternalProvider) BindingRow}
    (h : db'.trackers = { db.trackers with bindings }) :
    Referenced db' key ns ↔ Referenced db key ns := by
  have hlinks : db'.links = db.links := congrArg Trackers.links h
  have hoperations : db'.operations = db.operations := congrArg Trackers.operations h
  unfold Referenced
  rw [hlinks, hoperations]

theorem mem_storedBindings {db : Db} {key : WorkspaceName × ExternalProvider} {r : BindingRow}
    (h : db.bindings.get? key = some r) : ⟨key.1, key.2, r⟩ ∈ loadStoredBindings db := by
  unfold loadStoredBindings
  rw [List.mem_insertionSort, List.mem_map]
  exact ⟨(key, r), (Table.mem_toList _ _ _).mpr h, rfl⟩

/-- What the configuration check says about an enabled binding whose target changes. -/
theorem checkCatalog_unreferenced {db : Db} {connections : List IntegrationConnection}
    {key : WorkspaceName × ExternalProvider} {r : BindingRow}
    (h : checkCatalog db connections = none) (hcovered : TargetsCovered db)
    (hr : db.bindings.get? key = some r) (henabled : r.enabled = true)
    (hchanged : ∀ c, findConnection connections key.1 key.2 = some c → c.ns ≠ r.target) :
    ¬ Referenced db key r.target := by
  have hcheck : checkBinding db connections ⟨key.1, key.2, r⟩ = none := by
    unfold checkCatalog at h
    split at h
    · cases h
    · refine List.findSome?_eq_none_iff.mp h _ (List.mem_filter.mpr ⟨mem_storedBindings hr, ?_⟩)
      exact henabled
  have htarget :
      (findConnection connections key.1 key.2).all (fun c => c.ns ≠ r.target) = true := by
    cases hfound : findConnection connections key.1 key.2 with
    | none => rfl
    | some c => simpa using hchanged c hfound
  have hconfiguration : (findConnection connections key.1 key.2).all
      (fun c => c.configHash ≠ r.configHash) = true := by
    cases hfound : findConnection connections key.1 key.2 with
    | none => rfl
    | some c =>
      have hne : c ≠ r.configHash := by
        rintro rfl
        exact hchanged _ hfound (hcovered key r hr).symm
      exact decide_eq_true hne
  unfold checkBinding at hcheck
  dsimp only at hcheck
  rw [htarget, hconfiguration, Bool.true_and, Bool.true_and] at hcheck
  split at hcheck
  · cases hcheck
  next hblocking =>
  split at hcheck
  · cases hcheck
  next hlinks =>
  rw [Bool.not_eq_true] at hblocking hlinks
  rintro (⟨k, l, hl, hw, hprovider, hns⟩ | ⟨k, o, ho, hw, hprovider, hns, hopen⟩)
  · unfold bindingHasLinks at hlinks
    rw [List.any_eq_false] at hlinks
    exact hlinks (k, l) ((Table.mem_toList _ _ _).mpr hl) (by simp [hw, hprovider, hns])
  · unfold bindingHasBlockingOperation at hblocking
    rw [List.any_eq_false] at hblocking
    refine hblocking (k, o) ((Table.mem_toList _ _ _).mpr ho) ?_
    simpa [hw, hprovider, hns, OperationRow.isOpen] using hopen

/-- A configuration that is applied retargets only bindings nothing refers to, or disabled ones. -/
theorem Catalogued.unreferenced {db db' : Db} {connections : List IntegrationConnection}
    {key : WorkspaceName × ExternalProvider} {r r' : BindingRow}
    (h : Catalogued db db' connections) (hcovered : TargetsCovered db)
    (hr : db.bindings.get? key = some r) (hr' : db'.bindings.get? key = some r')
    (htarget : r.target ≠ r'.target) (henabled : r.enabled = true) :
    ¬ Referenced db key r.target := by
  refine checkCatalog_unreferenced h.check hcovered hr henabled fun c hfound => ?_
  have hmem := List.mem_of_find?_eq_some hfound
  have hkey : c.key = key := by
    have hprops := List.find?_some hfound
    simp only [Bool.and_eq_true, decide_eq_true_eq] at hprops
    exact Prod.ext hprops.1 hprops.2
  obtain ⟨r'', hr'', -, hns, -⟩ := h.configured c hmem
  rw [hkey, hr', Option.some.injEq] at hr''
  subst hr''
  rw [← hns]
  exact htarget.symm

theorem Catalogued.covered {db db' : Db} {connections : List IntegrationConnection}
    (h : Catalogued db db' connections) (hcovered : TargetsCovered db) : TargetsCovered db' := by
  intro key r hr
  by_cases hmem : key ∈ connections.map IntegrationConnection.key
  · obtain ⟨c, hc, rfl⟩ := List.mem_map.mp hmem
    obtain ⟨r', hr', -, htarget, hhash⟩ := h.configured c hc
    rw [hr, Option.some.injEq] at hr'
    subst hr'
    rw [htarget, hhash]
    rfl
  · obtain ⟨now, hremoved⟩ := h.removed
    rw [hremoved key hmem] at hr
    obtain ⟨r₀, hr₀, rfl⟩ := Option.map_eq_some_iff.mp hr
    exact hcovered key r₀ hr₀

theorem keepsBindings_external : ExternalWrites (Keeps Db.bindings) where
  events _ _ := rfl
  workspaces _ _ := rfl
  tasks _ _ := rfl
  attempts _ _ := rfl
  reports _ _ := rfl
  mutations _ _ := rfl
  insertOperation _ _ _ _ := rfl
  updateOperation _ _ _ _ _ _ := rfl
  resolution _ _ _ _ _ := rfl
  link _ _ _ _ := rfl

theorem keepsBindings_admin : BlindAdmin (Keeps Db.bindings) where
  events _ _ := rfl
  workspaces _ _ := rfl
  credentials _ _ := rfl
  invites _ _ := rfl

section

variable [World]

/-- The bindings change only by a configuration that is applied or by a load that fails. -/
theorem StoreStep.bindings {a b : RouterStore} (h : StoreStep a b) :
    b.db.bindings = a.db.bindings ∨
    (∃ connections tick, World.catalog tick = some connections ∧
      Catalogued a.db b.db connections) ∨
    b.db.trackers = { a.db.trackers with
      bindings := a.db.bindings.mapValues fun r => { r with enabled := false } } := by
  cases h with
  | draw _ => exact .inl rfl
  | dispatch _ hok =>
    exact .inl (markExternalDispatched_moves keepsBindings_external _ _ _ _ hok).db
  | call hcall hok =>
    cases hcall with
    | plain hplain =>
      exact .inl (hplain.moves keepsBindings_external keepsBindings_admin.writes _ _ _ hok).db
    | redeem => exact .inl (redeemOnboarding_moves keepsBindings_admin _ _ _ _ _ hok).db
    | applyCatalog connections tick hread =>
      have hnodup : (connections.map IntegrationConnection.key).Nodup :=
        (World.catalog_nodup tick connections hread).1
      have heffect := Txn.wp_ok (applyCatalog_effect hnodup) hok
      exact .inr (.inl ⟨connections, tick, hread, heffect.1⟩)
    | disableBindings =>
      cases hok
      exact .inr (.inr rfl)

theorem StoreStep.covered {a b : RouterStore} (h : StoreStep a b)
    (hcovered : TargetsCovered a.db) : TargetsCovered b.db := by
  rcases h.bindings with hsame | ⟨connections, tick, -, hcatalog⟩ | hdisabled
  · unfold TargetsCovered
    rw [hsame]
    exact hcovered
  · exact hcatalog.covered hcovered
  · intro key r hr
    have hbindings : b.db.bindings = a.db.bindings.mapValues fun r => { r with enabled := false } :=
      congrArg Trackers.bindings hdisabled
    rw [hbindings, Table.get?_mapValues] at hr
    obtain ⟨r₀, hr₀, rfl⟩ := Option.map_eq_some_iff.mp hr
    exact hcovered key r₀ hr₀

/-- A property of databases that every transaction keeps holds before and after each transition. -/
theorem Transition.invariant {P : Db → Prop} (hinit : P initialDb)
    (hstep : ∀ a b : RouterStore, StoreStep a b → P a.db → P b.db) {db db' : Db}
    (h : Transition db db') : P db ∧ P db' := by
  have hone : ∀ db db', Transition db db' → P db → P db' := by
    intro db db' h hdb
    obtain ⟨a, b, hab, rfl, rfl⟩ := h.storeStep
    exact hstep a b hab hdb
  have hruns : ∀ db, Relation.ReflTransGen Transition initialDb db → P db := by
    intro db hrun
    induction hrun with
    | refl => exact hinit
    | tail _ hlast ih => exact hone _ _ hlast ih
  have hdb : P db := by
    refine hruns db ?_
    cases h with
    | boot hdown hpair =>
      exact hdown.transitions.trans
        (since_reaches (fun _ _ hp => .boot hdown hp) (mem_of_pair hpair).1)
    | @step s input hup hpair =>
      exact hup.transitions.trans
        (since_reaches (s := s.store) (fun _ _ hp => .step hup hp) (mem_of_pair hpair).1)
    | @stop s s' input hup hlast hpair =>
      exact hup.transitions.trans
        (since_reaches (s := s.store) (fun _ _ hp => .stop hup hlast hp) (mem_of_pair hpair).1)
  exact ⟨hdb, hone db db' h hdb⟩

/-- A step that commits once is a transition. -/
theorem transition_of_step {s : RouterState} {input : Input} (h : Reachable (.up s))
    (hone : (step s input).2.store.journal.length = 1) :
    Transition s.db (step s input).2.db := by
  refine @Transition.step _ _ _ s input h ?_
  obtain ⟨db', hjournal⟩ := List.length_eq_one_iff.mp hone
  have hsince : s.resume.store.since (step s input).2.store = [db', s.db] := by
    unfold RouterStore.since
    rw [hjournal]
    rfl
  have hhead := (StoreSteps.pairs (step_commits s input) rfl).1
  rw [hsince, List.head?_cons, Option.some.injEq] at hhead
  subst hhead
  exact hsince ▸ List.infix_rfl

/-- A binding that is enabled when its target changes is one that nothing refers to. -/
theorem retarget_unreferenced {db db' : Db} (h : Transition db db')
    {key : WorkspaceName × ExternalProvider} {r r' : BindingRow}
    (hr : db.bindings.get? key = some r) (hr' : db'.bindings.get? key = some r')
    (htarget : r.target ≠ r'.target) (henabled : r.enabled = true) :
    ¬ Referenced db key r.target ∧ ¬ Referenced db' key r.target := by
  have hcovered : TargetsCovered db :=
    (h.invariant (P := TargetsCovered) (fun _ _ hr => by cases hr)
      fun _ _ hab hcov => hab.covered hcov).1
  obtain ⟨a, b, hab, rfl, rfl⟩ := h.storeStep
  rcases hab.bindings with hsame | ⟨connections, tick, -, hcatalog⟩ | hdisabled
  · rw [hsame, hr, Option.some.injEq] at hr'
    exact absurd (congrArg BindingRow.target hr') htarget
  · have hnot := hcatalog.unreferenced hcovered hr hr' htarget henabled
    obtain ⟨bindings, htrackers⟩ := hcatalog.trackers
    exact ⟨hnot, fun hreferenced => hnot ((Referenced.of_trackers htrackers).mp hreferenced)⟩
  · have hbindings : b.db.bindings = a.db.bindings.mapValues fun r => { r with enabled := false } :=
      congrArg Trackers.bindings hdisabled
    rw [hbindings, Table.get?_mapValues, hr, Option.map_some, Option.some.injEq] at hr'
    exact absurd (congrArg BindingRow.target hr') htarget

end

namespace Moved

def connection (name : String) : IntegrationConnection :=
  { workspace := Sample.workspace, access := .write, target := .github name, token := "t" }

/-- The configuration names one repository, cannot be read for a while and then names another. -/
def catalog (tick : ℕ) : Option (List IntegrationConnection) :=
  if tick < 40 then some [connection "o/r"] else if tick < 43 then none else some [connection "o/s"]

scoped instance world : World := { Sample.world with
  catalog
  catalog_nodup := by
    intro t connections h
    unfold catalog at h
    split at h
    · cases h
      decide
    · split at h
      · cases h
      · cases h
        decide }

/-- The router that is started on a database. -/
def launch (db : Db) (tick : ℕ) : RouterState :=
  match boot (openStore db tick) with
  | (.ok (integrations, client), store) => { store, integrations, integrationClient := client }
  | (.error _, store) => {
      store, integrations := { configurationInvalid := true, active := ∅ },
      integrationClient := false }

theorem launch_reachable {db : Db} {tick : ℕ} (h : Reachable (.down db tick))
    (hok : (boot (openStore db tick)).1.isOk = true) : Reachable (.up (launch db tick)) := by
  unfold launch
  rcases hboot : boot (openStore db tick) with ⟨result, store⟩
  rw [hboot] at hok
  cases result with
  | error e => cases hok
  | ok r => exact .start h hboot

/-- The administrator joins a workspace and loads the configuration. -/
def configuring : List Input :=
  [.opened 1, Sample.fromAdmin (.registerOperator 2 (Sample.token 3)),
    Sample.fromAdmin (.workspaceCreate "r1" Sample.workspace),
    Sample.fromAdmin (.workspaceJoin "r2" Sample.workspace),
    Sample.fromAdmin (.integrationReload "r3")]

/-- Tasks are created until the configuration has changed. -/
def waiting : List Input :=
  [Sample.fromAdmin (.taskCreate "r4" Sample.workspace ⟨100⟩ "t" ""),
    Sample.fromAdmin (.taskCreate "r5" Sample.workspace ⟨101⟩ "t" ""),
    Sample.fromAdmin (.taskCreate "r6" Sample.workspace ⟨102⟩ "t" ""),
    Sample.fromAdmin (.taskCreate "r7" Sample.workspace ⟨103⟩ "t" "")]

def after (inputs : List Input) : RouterState :=
  (runInputs (launch initialDb 1) inputs).getD (launch initialDb 1)

theorem after_reachable (inputs : List Input)
    (hok : (boot (openStore initialDb 1)).1.isOk = true)
    (hsome : (runInputs (launch initialDb 1) inputs).isSome = true) :
    Reachable (.up (after inputs)) := by
  have hstarted : Reachable (.up (launch initialDb 1)) := launch_reachable .create hok
  obtain ⟨s', hs'⟩ := Option.isSome_iff_exists.mp hsome
  unfold after
  rw [hs']
  exact Runs.inputs hstarted (fun _ _ _ => trivial) hs'

end Moved

open Moved in
theorem retarget_unreferenced_renewed :
    ∃ db db' r r', Transition db db' ∧
      db.bindings.get? (Sample.workspace, .github) = some r ∧ r.enabled = true ∧
      db'.bindings.get? (Sample.workspace, .github) = some r' ∧ r.target ≠ r'.target ∧
      ¬ Referenced db (Sample.workspace, .github) r.target := by
  have hreach : Reachable (.up (after (configuring ++ waiting))) :=
    after_reachable (configuring ++ waiting) (by decide +kernel) (by decide +kernel)
  have hone : (step (after (configuring ++ waiting))
      (Sample.fromAdmin (.integrationReload "r8"))).2.store.journal.length = 1 := by decide +kernel
  have hbefore : ((after (configuring ++ waiting)).db.bindings.get?
      (Sample.workspace, .github)).any (fun r => r.enabled && r.target = "o/r") = true := by
    decide +kernel
  have hafter : ((step (after (configuring ++ waiting))
      (Sample.fromAdmin (.integrationReload "r8"))).2.db.bindings.get?
      (Sample.workspace, .github)).any (fun r => r.target = "o/s") = true := by decide +kernel
  generalize after (configuring ++ waiting) = s at hreach hone hbefore hafter
  have htransition := transition_of_step hreach hone
  obtain ⟨r, hr, hprops⟩ := (Option.any_eq_true _ _).mp hbefore
  obtain ⟨r', hr', htarget'⟩ := (Option.any_eq_true _ _).mp hafter
  simp only [Bool.and_eq_true, decide_eq_true_eq] at hprops
  have htarget : r.target ≠ r'.target := by
    rw [hprops.2, of_decide_eq_true htarget']
    decide
  exact ⟨_, _, r, r', htransition, hr, hprops.1, hr', htarget,
    (retarget_unreferenced htransition hr hr' htarget hprops.1).1⟩

end SessionRouter
