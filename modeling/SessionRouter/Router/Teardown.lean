import SessionRouter.Router.Delivery
import SessionRouter.Lib.Recorded

/-!
The teardown of connections and requests with a record of what leaves the tables. The three
functions call each other; each call below a disconnect finds fewer connections, so the depth of
the calls is bounded, and what has left never leaves again.
-/

namespace SessionRouter

/-- What a teardown ends. -/
inductive Ending where
  | connection (id : Uuid)
  | request (key : WorkspaceName × String)
  deriving DecidableEq

/-- It is still in the tables. -/
def Ending.Present (s : RouterState) : Ending → Prop
  | .connection id => (s.connections.get? id).isSome
  | .request key => (s.pending.get? key).isSome

/-- The connections of a family that are in the tables. -/
def RouterState.members (s : RouterState) (family : List Uuid) : List Uuid :=
  (s.connections.ofFilter fun id _ => decide (id ∈ family)).map Prod.fst

def RouterState.connectionCount (s : RouterState) : ℕ := s.connections.size

abbrev Teardown (α : Type) := Recorded RouterState Ending StoreError α

namespace Teardown

open Router

variable [World]

/-- `removeFamily`, with the connections that leave. -/
def removeFamily (family : List Uuid) : Teardown Unit :=
  Recorded.take
    (fun s => { s with
      connections := family.foldl Table.remove s.connections
      subscribers := s.subscribers.mapValues fun ids => ids.filter fun id => id ∉ family })
    fun s => (s.members family).map .connection

/-- The request leaves the table, when it is there. -/
def removePending (key : WorkspaceName × String) : Teardown Unit :=
  Recorded.take (fun s => { s with pending := s.pending.remove key }) fun s =>
    if s.pending.contains key then [.request key] else []

def dropFailed (disconnect : Uuid → ℕ → Teardown Unit) : List (Uuid × ℕ) → Teardown Unit
  | [] => pure ()
  | (id, generation) :: failed => do
    match ← Actor.outcome (disconnect id generation) with
    | .ok () => pure ()
    | .error _ => Recorded.quiet markUnhealthy
    dropFailed disconnect failed

def fanoutWith (disconnect : Uuid → ℕ → Teardown Unit) (event : WorkspaceEvent) :
    Teardown Unit := do
  let recipients ← Recorded.quiet (Actor.read fun s => s.subscribersOf event.workspace)
  let recipients ← Recorded.quiet (traverse recipients)
  let failed ← Recorded.quiet (publish event recipients)
  dropFailed disconnect failed

def finishPendingErrorWith (fanout : WorkspaceEvent → Teardown Unit)
    (workspace : WorkspaceName) (requestId : String) (code : RouterErrorCode) :
    Teardown Unit := do
  match ← Recorded.quiet (Actor.read fun s => s.pending.get? (workspace, requestId)) with
  | none => pure ()
  | some p =>
    removePending (workspace, requestId)
    let (taskEvent, attemptChange) ← Recorded.quiet
      (closeAttempt p.attemptId (terminalPauseReason code))
    let event ← Recorded.quiet (inStore (appendEvent
      { workspace, kind := .result, actorId := "system:router", requestId := some requestId,
        targetId := some p.requesterId, taskId := p.task.map TaskDispatch.id, ok := some false,
        error := some code }))
    Recorded.quiet (cancelRecipient p { workspace, requestId, task := pendingFence p } code)
    Recorded.quiet (notifyClosed p workspace (fun _ => true) attemptChange)
    let _ ← Recorded.quiet (send p.requester p.requesterGeneration
      (.result workspace requestId "system:router" false none (some code)
        (p.task.map TaskDispatch.id)))
    Actor.forEach fanout taskEvent.toList
    fanout event

def announceLeft (fanout : WorkspaceEvent → Teardown Unit) (workspace : Option WorkspaceName)
    (actor : Option String) : Teardown Unit :=
  match workspace, actor with
  | some workspace, some actorId => do
    match ← Recorded.quiet (Actor.outcome (ε := StoreError)
        (inStore (appendEvent { workspace, kind := .memberLeft, actorId }))) with
    | .ok event => fanout event
    | .error _ => pure ()
  | _, _ => pure ()

def unregister (fanout : WorkspaceEvent → Teardown Unit) (id : Uuid) (c : ConnectionState)
    (actor : Option String) : Teardown Unit :=
  match c.role with
  | some (.agent _ descriptor _) => do
    Recorded.quiet (Actor.modify fun s => { s with
      primaries := s.primaries.remove descriptor.agentId
      delegates := s.delegates.remove descriptor.agentId })
    announceLeft fanout c.workspace actor
  | some (.delegate ownerId) =>
    Recorded.quiet (Actor.modify fun s => { s with
      delegates := s.delegates.adjust ownerId fun ids => ids.filter fun d => d ≠ id })
  | _ => pure ()

def depart (fanout : WorkspaceEvent → Teardown Unit) (id : Uuid) (c : ConnectionState)
    (family : List Uuid) (credentialId : Option Uuid) (actor : Option String)
    (reason : PauseReason) : Teardown Unit := do
  let interrupted ← Recorded.quiet (interruptConnection c reason)
  removeFamily family
  Recorded.quiet (dropBucket credentialId)
  Actor.forEach fanout interrupted
  unregister fanout id c actor

def closeFamily (fanout : WorkspaceEvent → Teardown Unit) (family : List Uuid) :
    Teardown Unit := do
  let affected ← Recorded.quiet (Actor.read fun s => affectedRequests s family)
  let affected ← Recorded.quiet (traverse affected)
  Actor.forEach (fun (request : WorkspaceName × String × RouterErrorCode) =>
    finishPendingErrorWith fanout request.1 request.2.1 request.2.2) affected

def disconnectWith (fanout : WorkspaceEvent → Teardown Unit) (id : Uuid) (generation : ℕ)
    (reason : PauseReason) : Teardown Unit := do
  let s ← Recorded.quiet Actor.get
  match s.connections.get? id with
  | none => pure ()
  | some c =>
    if c.generation ≠ generation then pure ()
    else
      let family := s.connectionFamily id
      depart fanout id c family (s.connectionCredentialId id) (s.actorId id).toOption reason
      closeFamily fanout family

/-- `fanout` down to a depth of nested calls, with what a call below that depth would do. -/
def fanoutDepth (beyond : WorkspaceEvent → Teardown Unit) : ℕ → WorkspaceEvent → Teardown Unit
  | 0, event => beyond event
  | depth + 1, event =>
    fanoutWith (fun id generation =>
      disconnectWith (fanoutDepth beyond depth) id generation .transportLost) event

end Teardown

/-- A call of one of the three functions. -/
inductive TeardownCall where
  | fanout (event : WorkspaceEvent)
  | disconnect (id : Uuid) (generation : ℕ) (reason : PauseReason)
  | finishPendingError (workspace : WorkspaceName) (requestId : String) (code : RouterErrorCode)

namespace TeardownCall

variable [World]

def run : TeardownCall → Router StoreError Unit
  | fanout event => Router.fanout event
  | disconnect id generation reason => Router.disconnectWithReason id generation reason
  | finishPendingError workspace requestId code =>
    Router.finishPendingError workspace requestId code

/-- The call with its record, where calls nested deeper than the depth do something else. -/
def recorded (beyond : WorkspaceEvent → Teardown Unit) (depth : ℕ) : TeardownCall → Teardown Unit
  | fanout event => Teardown.fanoutDepth beyond depth event
  | disconnect id generation reason =>
    Teardown.disconnectWith (Teardown.fanoutDepth beyond depth) id generation reason
  | finishPendingError workspace requestId code =>
    Teardown.finishPendingErrorWith (Teardown.fanoutDepth beyond depth) workspace requestId code

end TeardownCall

section

variable {ε : Type}

/-- The relation of the states around a step that ends nothing. -/
abbrev Lasts : RouterState → RouterState → Prop :=
  Recorded.Stays (fun s e => Ending.Present s e) RouterState.connectionCount

theorem lasts_of_eq {s s' : RouterState} (hconnections : s'.connections = s.connections)
    (hpending : s'.pending = s.pending) : Lasts s s' where
  same e := by
    cases e with
    | connection id => simp only [Ending.Present, hconnections]
    | request key => simp only [Ending.Present, hpending]
  size_le := by
    unfold RouterState.connectionCount
    rw [hconnections]

namespace Router

theorem modify_lasts {f : RouterState → RouterState}
    (hconnections : ∀ s, (f s).connections = s.connections)
    (hpending : ∀ s, (f s).pending = s.pending) : (Actor.modify f : Router ε Unit).Moves Lasts :=
  fun s => lasts_of_eq (hconnections s) (hpending s)

theorem markUnhealthy_lasts : (markUnhealthy : Router ε Unit).Moves Lasts :=
  modify_lasts (fun _ => rfl) fun _ => rfl

theorem inSession_lasts {α : Type} (x : Session ε α) : (inSession x).Moves Lasts :=
  fun _ => lasts_of_eq rfl rfl

theorem query_lasts {α : Type} (f : Db → Except StoreError α) : (query f).Moves Lasts := by
  intro s
  unfold query
  split <;> exact lasts_of_eq rfl rfl

theorem updateConnection_lasts (id : Uuid) (f : ConnectionState → ConnectionState) :
    (updateConnection id f : Router ε Unit).Moves Lasts := by
  intro s
  refine ⟨fun e => ?_, (Table.size_adjust _ _ _).le⟩
  cases e with
  | connection id' =>
    change ((s.connections.adjust id f).get? id').isSome = true ↔ _
    rw [Table.get?_adjust]
    split_ifs with h
    · rw [h, Option.isSome_map]
      rfl
    · rfl
  | request key => rfl

theorem dropBucket_lasts (credentialId : Option Uuid) : (dropBucket credentialId).Moves Lasts := by
  intro s
  unfold dropBucket
  cases credentialId with
  | none => exact lasts_of_eq rfl rfl
  | some id =>
    change Lasts s (if _ then s else _)
    split_ifs <;> exact lasts_of_eq rfl rfl

variable [World]

theorem traverse_lasts {α : Type} (l : List α) : (traverse l : Router ε (List α)).Moves Lasts :=
  fun _ => lasts_of_eq rfl rfl

theorem send_lasts (id : Uuid) (generation : ℕ) (message : ServerMessage) :
    (send id generation message : Router ε Bool).Moves Lasts := by
  intro s
  unfold send
  split
  · exact lasts_of_eq rfl rfl
  · split <;> exact lasts_of_eq rfl rfl

theorem publish_lasts (event : WorkspaceEvent) (ids : List Uuid) :
    (publish event ids : Router ε _).Moves Lasts := by
  induction ids with
  | nil => exact .pure _
  | cons id ids ih =>
    refine .bind (.read _) fun found => ?_
    cases found with
    | none => exact ih
    | some c => exact .bind (send_lasts _ _ _) fun _ => .bind ih fun _ => .pure _

theorem closeAttempt_lasts (attemptId : Option Uuid) (reason : PauseReason) :
    (closeAttempt attemptId reason).Moves Lasts := by
  cases attemptId with
  | none => exact .pure _
  | some id =>
    exact .bind (inSession_lasts _) fun _ => .bind (query_lasts _) fun _ => .pure _

theorem cancelRecipient_lasts (p : PendingRequest) (canceling : CancelingWork)
    (code : RouterErrorCode) : (cancelRecipient p canceling code).Moves Lasts := by
  refine .bind .get fun s => ?_
  split
  · exact .pure _
  · exact .ite (.bind (updateConnection_lasts _ _) fun _ => .bind (send_lasts _ _ _) fun _ =>
      .pure _) (.pure _)

theorem notifyClosed_lasts (p : PendingRequest) (workspace : WorkspaceName)
    (expected : TaskAttempt → Bool) (change : Option (WorkspaceName × TaskAttempt)) :
    (notifyClosed p workspace expected change).Moves Lasts := by
  cases change with
  | none => exact .pure _
  | some change =>
    refine .bind (.require _ _) fun _ => .bind (query_lasts _) fun _ => .bind .get fun s => ?_
    split
    · exact .pure _
    · split
      · exact .pure _
      · exact .bind (send_lasts _ _ _) fun _ => .pure _

theorem interruptConnection_lasts (c : ConnectionState) (reason : PauseReason) :
    (interruptConnection c reason).Moves Lasts := by
  unfold interruptConnection
  split
  · exact inSession_lasts _
  · exact .pure _

end Router

end

end SessionRouter
