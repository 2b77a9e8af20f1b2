import SessionRouter.Router.Dispatch

/-!
The loop of the router actor and the life of the process around it: starting on a database,
handling inputs in any order, crashing between any two commits and starting again.
-/

namespace SessionRouter

/-- The number of sockets the listener keeps open. -/
def connectionLimit : ℕ := 256

/-- What the loop receives: control commands, deadlines and client messages. The reports of
workers name a worker by its position. -/
inductive Input where
  | opened (generation : ℕ)
  | closed (id : Uuid) (generation : ℕ)
  | direct (id : Uuid) (generation : ℕ) (requestId : Option String) (code : RouterErrorCode)
  | revokeCredential (credentialId : Uuid)
  | enroll (request : EnrollmentRequest) (expired : Bool)
  | checkFinished (worker : ℕ) (result : Except IntegrationClientError Unit)
  | externalGate (worker : ℕ)
  | externalFinished (worker : ℕ) (result : ExternalWorkerResult)
  | resolutionFinished (worker : ℕ) (result : Except IntegrationClientError ExternalMutation)
  | shutdown
  | deadline
  | message (id : Uuid) (generation : ℕ) (message : ClientMessage)

/-- The payloads that change something at the provider. -/
def OperationPayload.isMutation : OperationPayload → Bool
  | publishIssue .. | publishReport .. => true
  | importTask .. | link .. => false

/-- The reports `run_external_worker` can send for an operation. -/
def ExternalWorkerResult.possible (prepared : PreparedExternalOperation) (gated : Bool) :
    ExternalWorkerResult → Bool
  | .read _ => prepared.payload.any fun p => !p.isMutation
  | .mutation _ => gated && prepared.payload.any OperationPayload.isMutation
  | .gateDenied _ => prepared.payload.any OperationPayload.isMutation
  | .clientError _ => true

namespace Router

variable [World]

/-- A new connection; the listener opens no more than it has sockets for. -/
def openConnection (generation : ℕ) : Router StoreError Unit := do
  let s ← Actor.get
  if s.connections.size < connectionLimit then
    let id ← newUuid
    if s.shuttingDown then pure ()
    else Actor.modify fun s => { s with
      connections := s.connections.put id (ConnectionState.opened generation) }
  else pure ()

def enroll (request : EnrollmentRequest) (expired : Bool) : Router StoreError Unit := do
  let stopping ← Actor.read RouterState.shuttingDown
  if stopping || expired then pure ()
  else
    let now ← nowMillis
    let _ ← Actor.outcome (inStore (redeemOnboarding request now))

/-- The report of a worker, which ends with it. -/
def finishWorker (index : ℕ) (handle : Worker → Option (Router StoreError Unit)) :
    Router StoreError Unit := do
  match (← Actor.read fun s => s.workers[index]?).bind handle with
  | none => pure ()
  | some report =>
    Actor.modify fun s => { s with workers := s.workers.eraseIdx index }
    report

/-- The router's answer to a worker that asks to publish. -/
def answerGate (index : ℕ) : Router StoreError Unit := do
  match ← Actor.read fun s => s.workers[index]? with
  | some (.operation prepared false) =>
    if prepared.payload.any OperationPayload.isMutation then
      let passed ← externalGate prepared
      Actor.modify fun s => { s with workers := s.workers.set index (.operation prepared passed) }
    else pure ()
  | _ => pure ()

/-- `handle_control`, and the deadlines; true when the loop ends. -/
def handleControl : Input → Router StoreError Bool
  | .opened generation => do openConnection generation; pure false
  | .closed id generation => do disconnect id generation; pure false
  | .direct id generation requestId code => do
    sendError id generation requestId { code }
    pure false
  | .revokeCredential credentialId => do let _ ← revokeCredential credentialId; pure false
  | .enroll request expired => do enroll request expired; pure false
  | .checkFinished index result => do
    finishWorker index fun
      | .check id generation requestId workspace provider =>
        some (integrationCheckFinished id generation requestId workspace provider result)
      | _ => none
    pure false
  | .externalGate index => do answerGate index; pure false
  | .externalFinished index result => do
    finishWorker index fun
      | .operation prepared gated =>
        if result.possible prepared gated then some (Router.externalFinished prepared result)
        else none
      | _ => none
    pure false
  | .resolutionFinished index result => do
    finishWorker index fun
      | .resolution id generation requestId prepared =>
        some (Router.resolutionFinished id generation requestId prepared result)
      | _ => none
    pure false
  | .shutdown => do
    Actor.modify fun s => { s with shuttingDown := true }
    shutdownPending
    closeAll
    pure true
  | .deadline => do expireDeadlines; pure false
  | .message .. => pure false

/-- `fail_closed`, after an error that ends the loop. -/
def failClosed : Router StoreError Unit := do
  markUnhealthy
  let _ ← Actor.outcome (δ := StoreError) shutdownPending
  closeAll

/-- One round of the loop for a client message. Messages the parser does not accept do not get
here, and a router that shuts down ignores the others. -/
def messageRound (id : Uuid) (generation : ℕ) (message : ClientMessage) :
    Router StoreError Bool := do
  let stopping ← Actor.read RouterState.shuttingDown
  if stopping || !message.accepted then pure false
  else
    handleMessage id generation message
    if ← Actor.read RouterState.shuttingDown then
      let _ ← Actor.outcome (δ := StoreError) shutdownPending
      closeAll
      pure true
    else pure false

/-- One round of the loop for a control command or a deadline. -/
def controlRound (input : Input) : Router StoreError Bool := do
  match ← Actor.outcome (δ := StoreError) (handleControl input) with
  | .ok stop => pure stop
  | .error _ =>
    failClosed
    pure true

def round : Input → Router StoreError Bool
  | .message id generation message => messageRound id generation message
  | input => controlRound input

/-- What happens after the loop: open external operations become terminal. -/
def epilogue : Router StoreError Unit := do
  let _ ← Actor.outcome (δ := StoreError) (inStore recoverExternalInflight)
  closeAll

end Router

section

variable [World]

/-- The state in which the router handles the next input. -/
def RouterState.resume (s : RouterState) : RouterState :=
  { s with store := { s.store with journal := [] } }

/-- One round of the loop; the flag tells whether the loop goes on. -/
def step (s : RouterState) (input : Input) : Bool × RouterState :=
  match Router.round input s.resume with
  | (.ok stop, s') => (!stop, s')
  | (.error _, s') => (false, s')

def initialDb : Db := { serverId := World.uuid 0 }

/-- `bootstrap_admin`: a store without credentials gets the admin's. -/
def bootstrapAdmin : Store StoreError Unit := do
  let fresh ← Store.read fun db => db.credentials.toList.isEmpty
  if fresh then
    let credential ← Txn.mapError (fun _ => .invalidData)
      (generateCredential .operator "admin" none none [])
    insertCredential credential
  else pure ()

/-- Open the database and build the state of the router. -/
def boot : Session StoreError (IntegrationRegistry × Bool) := do
  transaction recover
  transaction bootstrapAdmin
  let _ ← transaction serverIdConnection
  let integrations ← IntegrationRegistry.load
  let t ← Actor.read RouterStore.tick
  Actor.modify fun store => { store with tick := store.tick + 1 }
  pure (integrations, integrations.hasActive && World.clientReady t)

def openStore (db : Db) (tick : ℕ) : RouterStore := { db, tick, journal := [] }

/-- The process: down with a database on disk, or up. -/
inductive Process where
  | down (db : Db) (tick : ℕ)
  | up (state : RouterState)

/-- The database of a process, on disk or open. -/
def Process.db : Process → Db
  | .down db _ => db
  | .up s => s.db

/-- The tick at which a process continues. -/
def Process.tick : Process → ℕ
  | .down _ tick => tick
  | .up s => s.tick

/-- The commits that are on disk at some moment while a command runs, the last one first. -/
def commits (after : RouterStore) : List Db := after.db :: after.journal

/-- The processes that inputs, crashes and restarts lead to, when every input that is handled is
`allowed` in the state it meets. -/
inductive Runs (allowed : RouterState → Input → Prop) : Process → Prop
  | create : Runs allowed (.down initialDb 1)
  | start {db : Db} {tick : ℕ} {integrations : IntegrationRegistry} {client : Bool}
      {store : RouterStore} (h : Runs allowed (.down db tick))
      (hboot : boot (openStore db tick) = (.ok (integrations, client), store)) :
      Runs allowed (.up { store, integrations, integrationClient := client })
  | startCrash {db db' : Db} {tick : ℕ} (h : Runs allowed (.down db tick))
      (hdb : db' ∈ commits (boot (openStore db tick)).2) :
      Runs allowed (.down db' (boot (openStore db tick)).2.tick)
  | step {s s' : RouterState} {input : Input} (h : Runs allowed (.up s))
      (hinput : allowed s input) (hstep : step s input = (true, s')) : Runs allowed (.up s')
  | halt {s : RouterState} (h : Runs allowed (.up s)) : Runs allowed (.down s.db s.tick)
  | crash {s : RouterState} {input : Input} {db : Db} (h : Runs allowed (.up s))
      (hinput : allowed s input) (hdb : db ∈ commits (step s input).2.store) :
      Runs allowed (.down db (step s input).2.tick)
  | stop {s s' : RouterState} {input : Input} {db : Db} (h : Runs allowed (.up s))
      (hinput : allowed s input) (hstep : step s input = (false, s'))
      (hdb : db ∈ commits (Router.epilogue s').2.store) :
      Runs allowed (.down db (Router.epilogue s').2.tick)

/-- The processes that any inputs, crashes and restarts lead to. -/
def Reachable : Process → Prop := Runs fun _ _ => True

theorem Runs.mono {allowed allowed' : RouterState → Input → Prop} {p : Process}
    (h : Runs allowed p) (hle : ∀ s input, allowed s input → allowed' s input) :
    Runs allowed' p := by
  induction h with
  | create => exact .create
  | start _ hboot ih => exact .start ih hboot
  | startCrash _ hdb ih => exact .startCrash ih hdb
  | step _ hinput hstep ih => exact .step ih (hle _ _ hinput) hstep
  | halt _ ih => exact .halt ih
  | crash _ hinput hdb ih => exact .crash ih (hle _ _ hinput) hdb
  | stop _ hinput hstep hdb ih => exact .stop ih (hle _ _ hinput) hstep hdb

theorem Runs.reachable {allowed : RouterState → Input → Prop} {p : Process}
    (h : Runs allowed p) : Reachable p := h.mono fun _ _ _ => trivial

end

end SessionRouter
