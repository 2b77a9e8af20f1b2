import SessionRouter.Tasks.Apply

/-!
The integration registry: how a configuration is matched against the stored bindings and applied
to them.
-/

namespace SessionRouter

structure IntegrationRegistry where
  configurationInvalid : Bool
  active : Table (WorkspaceName × ExternalProvider) ActiveIntegration

/-- Run a store operation inside an integration operation. -/
def liftCode {α : Type} (x : Store StoreError α) : Store RouterErrorCode α :=
  Txn.mapError StoreError.code x

namespace IntegrationRegistry

def binding (registry : IntegrationRegistry) (workspace : WorkspaceName)
    (provider : ExternalProvider) : Except RouterErrorCode ActiveIntegration :=
  if registry.configurationInvalid then .error .integrationConfigurationInvalid
  else match registry.active.get? (workspace, provider) with
    | some active => .ok active
    | none => .error .integrationNotConfigured

def hasActive (registry : IntegrationRegistry) : Bool := !registry.active.toList.isEmpty

/-- Sort public descriptions by workspace and then by provider. -/
def publicOrder (a b : IntegrationPublic) : Bool :=
  decide (a.workspace.asStr < b.workspace.asStr) ||
  (a.workspace.asStr = b.workspace.asStr && decide (a.provider.asStr ≤ b.provider.asStr))

def list (registry : IntegrationRegistry) (workspace : WorkspaceName) :
    Except RouterErrorCode (List IntegrationPublic) :=
  if registry.configurationInvalid then .error .integrationConfigurationInvalid
  else .ok (((registry.active.ofFilter fun key _ => key.1 = workspace).map
    fun e => e.2.connection.public).insertionSort fun a b => a.provider.asStr ≤ b.provider.asStr)

def publicAll (registry : IntegrationRegistry) : List IntegrationPublic :=
  (registry.active.toList.map fun e => e.2.connection.public).insertionSort
    fun a b => publicOrder a b

end IntegrationRegistry

structure StoredBinding where
  workspace : WorkspaceName
  provider : ExternalProvider
  row : BindingRow

def loadStoredBindings (db : Db) : List StoredBinding :=
  (db.bindings.toList.map fun e => ⟨e.1.1, e.1.2, e.2⟩).insertionSort fun a b =>
    a.workspace.asStr < b.workspace.asStr ∨
    (a.workspace.asStr = b.workspace.asStr ∧ a.provider.asStr ≤ b.provider.asStr)

def bindingHasBlockingOperation (db : Db) (binding : StoredBinding) : Bool :=
  db.operations.toList.any fun e =>
    e.1.1 = binding.workspace && e.2.provider = binding.provider &&
    e.2.ns = binding.row.target && (e.2.status = .running || e.2.status = .unconfirmed)

def bindingHasLinks (db : Db) (binding : StoredBinding) : Bool :=
  db.links.toList.any fun e =>
    e.1.1 = binding.workspace && e.1.2.2 = binding.provider && e.2.ns = binding.row.target

def findConnection (connections : List IntegrationConnection) (workspace : WorkspaceName)
    (provider : ExternalProvider) : Option IntegrationConnection :=
  connections.find? fun c => c.workspace = workspace && c.provider = provider

/-- An enabled binding may only change when no operation is open and no link points at its
target. -/
def checkBinding (db : Db) (connections : List IntegrationConnection) (existing : StoredBinding) :
    Option RouterErrorCode :=
  let replacement := findConnection connections existing.workspace existing.provider
  let configurationChanged := replacement.all fun c => c.configHash ≠ existing.row.configHash
  let targetChanged := replacement.all fun c => c.ns ≠ existing.row.target
  if configurationChanged && bindingHasBlockingOperation db existing then some .integrationBusy
  else if targetChanged && bindingHasLinks db existing then some .externalConflict
  else none

/-- The first reason not to apply the configuration. -/
def checkCatalog (db : Db) (connections : List IntegrationConnection) : Option RouterErrorCode :=
  if connections.any fun c => !db.workspaces.contains c.workspace then
    some .integrationConfigurationInvalid
  else
    ((loadStoredBindings db).filter fun b => b.row.enabled).findSome? (checkBinding db connections)

section

variable [World]

def appendIntegrationEvent (workspace : WorkspaceName) (actorId : String) (taskId : Option ℕ)
    (event : IntegrationEvent) : Store RouterErrorCode WorkspaceEvent :=
  liftCode (appendEventInTransaction
    { workspace, kind := .integration, actorId, taskId, content := some (.integration event) })

/-- Store one configured connection and report it when it changed. -/
def applyConnection (stored : List StoredBinding) (now : ℕ) (connection : IntegrationConnection) :
    Store RouterErrorCode (ActiveIntegration × List WorkspaceEvent) := do
  let previous := stored.find? fun b =>
    b.workspace = connection.workspace && b.provider = connection.provider
  let changed := previous.all fun b => !b.row.enabled || b.row.configHash ≠ connection.configHash
  let revision := match previous with
    | none => 1
    | some b => if changed then b.row.revision + 1 else b.row.revision
  liftCode (upsertBinding (connection.workspace, connection.provider)
    { target := connection.ns, access := connection.access, enabled := true,
      configHash := connection.configHash, revision, updatedAt := now })
  let events ← if changed then do
      let event ← appendIntegrationEvent connection.workspace "system:router" none
        { change := .configured, integration := some connection.public, operation := none,
          resolution := none }
      pure [event]
    else pure []
  pure ({ connection, revision }, events)

def disabledEvent (existing : StoredBinding) : Store RouterErrorCode WorkspaceEvent :=
  appendIntegrationEvent existing.workspace "system:router" none
    { change := .disabled,
      integration := some
        { provider := existing.provider, workspace := existing.workspace,
          target := existing.row.target, access := existing.row.access, available := false,
          error := none },
      operation := none, resolution := none }

def disableBindings (f : BindingRow → BindingRow) : Store StoreError Unit :=
  Store.write fun db => { db with bindings := db.bindings.mapValues f }

def applyCatalog (connections : List IntegrationConnection) :
    Store RouterErrorCode
      (Table (WorkspaceName × ExternalProvider) ActiveIntegration × List WorkspaceEvent) := do
  let stored ← Store.read loadStoredBindings
  match ← Store.read fun db => checkCatalog db connections with
  | some code => Txn.fail code
  | none =>
    let now ← Store.nowMillis
    liftCode (disableBindings fun r => { r with enabled := false, updatedAt := now })
    let applied ← Txn.each (applyConnection stored now) connections
    let active := applied.foldl
      (fun m (a : ActiveIntegration × List WorkspaceEvent) =>
        m.put (a.1.connection.workspace, a.1.connection.provider) a.1) ∅
    let disabled ← Txn.each disabledEvent ((stored.filter fun b => b.row.enabled).filter
      fun b => !active.contains (b.workspace, b.provider))
    liftCode commit
    pure (active, (applied.map Prod.snd).flatten ++ disabled)

/-- Read the configuration file. -/
def loadCatalog {ε : Type} : Session ε (Option (List IntegrationConnection)) := fun s =>
  (.ok (World.catalog s.tick), { s with tick := s.tick + 1 })

/-- `IntegrationRegistry::load`: a configuration that cannot be applied disables every binding. -/
def IntegrationRegistry.load {ε : Type} : Session ε IntegrationRegistry := do
  let applied ← Actor.outcome (ε := Unit) (do
    let connections ← loadCatalog
    let connections ← Actor.orFail () connections
    Actor.mapError (fun _ => ()) (transaction (applyCatalog connections)))
  match applied with
  | .ok (active, _) => pure { configurationInvalid := false, active }
  | .error _ =>
    let _ ← Actor.outcome (transaction (disableBindings fun r => { r with enabled := false }))
    pure { configurationInvalid := true, active := ∅ }

/-- `IntegrationRegistry::reload` without the change of the registry itself. -/
def reloadCatalog : Session RouterErrorCode
    (Table (WorkspaceName × ExternalProvider) ActiveIntegration × List WorkspaceEvent) := do
  let connections ← loadCatalog
  let connections ← Actor.orFail .integrationConfigurationInvalid connections
  transaction (applyCatalog connections)

end

end SessionRouter
