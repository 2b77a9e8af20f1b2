import SessionRouter.Router.Run
import SessionRouter.Router.QuerySpec
import SessionRouter.Store.AdminSpec
import SessionRouter.Store.RecoverSpec

/-!
The invariant of the router. One part survives every failure of the store; the other, which ties
the requests in memory to the journal and to the running attempts, is given up only when a counter
has run out and the router shuts down. A `Phase` says what is still to be repaired in the middle of
a command.
-/

namespace SessionRouter

/-- What is unfinished in the middle of a command: connections that are gone while requests still
name them, agents whose registration is being undone and a request whose task was interrupted.
`flight` tells whether each agent works on one request at a time. -/
structure Phase where
  dying : List Uuid := []
  leaving : List String := []
  exempt : Option (WorkspaceName × String) := none
  flight : Prop

/-- The phase between two commands. -/
def Phase.rest (flight : Prop) : Phase := { flight }

namespace ConnectionState

/-- The part of a connection that only registration, joining and leaving change. -/
def card (c : ConnectionState) : ConnectionState :=
  { c.mapDescriptor fun d => { d with status := .idle, ready := false } with
    subscribed := false
    storedReady := false
    canceling := none }

/-- The credential behind a connection grants the workspace; delegates act under their owner's. -/
def granted (c : ConnectionState) (w : WorkspaceName) : Prop :=
  match c.role with
  | some (.agent claims _ _) => w ∈ claims.workspaces
  | some (.operator claims admin) => admin = true ∨ w ∈ claims.workspaces
  | some (.delegate _) => True
  | none => False

/-- The attempt was started by the agent of this connection. -/
def runs (c : ConnectionState) (a : AttemptRow) : Prop :=
  ∃ claims d token, c.role = some (.agent claims d token) ∧ a.agentId = d.agentId ∧
    a.credentialId = claims.id ∧ a.sessionId = d.sessionId ∧ a.connectionGeneration = c.generation

/-- The identities a connection acts under are actor ids the journal takes. -/
def actorsValid (c : ConnectionState) : Prop :=
  match c.role with
  | some (.agent _ d _) => ValidActor d.agentId
  | some (.operator claims _) => ValidActor ("operator:" ++ claims.subject)
  | _ => True

theorem role_of_agentId {c : ConnectionState} {agentId : String}
    (h : c.agentId? = some agentId) :
    ∃ claims d token, c.role = some (.agent claims d token) ∧ d.agentId = agentId := by
  unfold agentId? descriptor? at h
  split at h
  · next claims d token hrole => exact ⟨claims, d, token, hrole, by simpa using h⟩
  · cases h

variable (c : ConnectionState)

@[simp] theorem mapDescriptor_descriptor (f : AgentDescriptor → AgentDescriptor) :
    (c.mapDescriptor f).descriptor? = c.descriptor?.map f := by
  unfold mapDescriptor descriptor?
  cases hr : c.role with
  | none => simp [hr]
  | some role => cases role <;> simp [hr]

@[simp] theorem mapDescriptor_workspace (f : AgentDescriptor → AgentDescriptor) :
    (c.mapDescriptor f).workspace = c.workspace := by
  unfold mapDescriptor
  split <;> rfl

@[simp] theorem mapDescriptor_canceling (f : AgentDescriptor → AgentDescriptor) :
    (c.mapDescriptor f).canceling = c.canceling := by
  unfold mapDescriptor
  split <;> rfl

@[simp] theorem card_generation : c.card.generation = c.generation := by
  unfold card mapDescriptor
  split <;> rfl

@[simp] theorem card_workspace : c.card.workspace = c.workspace := by
  unfold card mapDescriptor
  split <;> rfl

@[simp] theorem card_agentId : c.card.agentId? = c.agentId? := by
  cases hr : c.role with
  | none => simp [card, mapDescriptor, agentId?, descriptor?, hr]
  | some role => cases role <;> simp [card, mapDescriptor, agentId?, descriptor?, hr]

@[simp] theorem card_isDelegate : c.card.isDelegate = c.isDelegate := by
  cases hr : c.role with
  | none => simp [card, mapDescriptor, isDelegate, hr]
  | some role => cases role <;> simp [card, mapDescriptor, isDelegate, hr]

@[simp] theorem card_delegate (ownerId : String) :
    c.card.role = some (.delegate ownerId) ↔ c.role = some (.delegate ownerId) := by
  cases hr : c.role with
  | none => simp [card, mapDescriptor, hr]
  | some role => cases role <;> simp [card, mapDescriptor, hr]

@[simp] theorem card_role_isSome : c.card.role.isSome = c.role.isSome := by
  cases hr : c.role with
  | none => simp [card, mapDescriptor, hr]
  | some role => cases role <;> simp [card, mapDescriptor, hr]

@[simp] theorem card_granted (w : WorkspaceName) : c.card.granted w ↔ c.granted w := by
  cases hr : c.role with
  | none => simp [card, mapDescriptor, granted, hr]
  | some role => cases role <;> simp [card, mapDescriptor, granted, hr]

@[simp] theorem card_actorsValid : c.card.actorsValid ↔ c.actorsValid := by
  cases hr : c.role with
  | none => simp [card, mapDescriptor, actorsValid, hr]
  | some role => cases role <;> simp [card, mapDescriptor, actorsValid, hr]

@[simp] theorem card_runs (a : AttemptRow) : c.card.runs a ↔ c.runs a := by
  cases hr : c.role with
  | none => simp [card, mapDescriptor, runs, hr]
  | some role => cases role <;> simp [card, mapDescriptor, runs, hr]

theorem runs_of_origin {a a' : AttemptRow} (h : a.origin = a'.origin) (hruns : c.runs a) :
    c.runs a' := by
  obtain ⟨claims, d, token, hrole, hagent, hcredential, hsession, hgeneration⟩ := hruns
  simp only [AttemptRow.origin, AttemptOrigin.mk.injEq] at h
  obtain ⟨-, -, h3, h4, h5, h6, -⟩ := h
  exact ⟨claims, d, token, hrole, h3 ▸ hagent, h4 ▸ hcredential, h5 ▸ hsession, h6 ▸ hgeneration⟩

end ConnectionState

/-- The cards of the connections. -/
def RouterState.card (s : RouterState) (id : Uuid) : Option ConnectionState :=
  (s.connections.get? id).map ConnectionState.card

theorem RouterState.card_eq {s : RouterState} {id : Uuid} {c : ConnectionState}
    (h : s.connections.get? id = some c) : s.card id = some c.card := by
  simp [RouterState.card, h]

theorem RouterState.of_card {s : RouterState} {id : Uuid} {k : ConnectionState}
    (h : s.card id = some k) : ∃ c, s.connections.get? id = some c ∧ c.card = k :=
  Option.map_eq_some_iff.mp h

section

variable [World]

/-- The routing tables agree with the connections. -/
structure Registry (g : Phase) (s : RouterState) : Prop where
  drawn : ∀ id c, s.card id = some c → Drawn s.tick id
  size : s.connections.size ≤ connectionLimit
  agents : ∀ id c agentId, s.card id = some c → c.agentId? = some agentId →
    s.primaries.get? agentId = some id
  primaries : ∀ agentId id, s.primaries.get? agentId = some id →
    agentId ∈ g.leaving ∨ ∃ c, s.card id = some c ∧ c.agentId? = some agentId
  left : ∀ agentId ∈ g.leaving, ∀ id c, s.card id = some c → c.agentId? ≠ some agentId
  delegates : ∀ id c ownerId, s.card id = some c → c.role = some (.delegate ownerId) →
    id ∈ s.delegatesOf ownerId ∧ ∃ owner p, s.primaries.get? ownerId = some owner ∧
      s.card owner = some p ∧ p.agentId? = some ownerId ∧ c.workspace = p.workspace
  listed : ∀ ownerId id, id ∈ s.delegatesOf ownerId →
    ownerId ∈ g.leaving ∨ ∃ c, s.card id = some c ∧ c.role = some (.delegate ownerId)
  subscribers : ∀ w id, id ∈ s.subscribersOf w →
    ∃ c, s.card id = some c ∧ c.isDelegate = false ∧ c.workspace = some w
  joined : ∀ id c w, s.card id = some c → c.workspace = some w →
    c.granted w ∧ ∃ row, s.db.workspaces.get? w = some row
  actors : ∀ id c, s.card id = some c → c.actorsValid

end

/-- The pending requests agree with the journal and with the connections that are still there. -/
structure Requests (s : RouterState) : Prop where
  keyed : ∀ key p, s.pending.get? key = some p → key = (p.workspace, p.requestId)
  asked : ∀ key p, s.pending.get? key = some p → Asked s.db key.1 (some key.2)
  unanswered : ∀ key p, s.pending.get? key = some p → ∀ e ∈ s.db.events, e.kind = .result →
    e.workspace = key.1 → e.requestId ≠ some key.2
  source : ∀ key p c, s.pending.get? key = some p → s.card p.requester = some c →
    c.generation = p.requesterGeneration ∧ c.workspace = some p.workspace
  target : ∀ key p c, s.pending.get? key = some p → s.card p.recipient = some c →
    c.generation = p.recipientGeneration ∧ c.workspace = some p.workspace ∧
    c.agentId? = some p.recipientId
  named : ∀ key p id, s.pending.get? key = some p → p.attemptId = some id →
    ∃ a dispatch, s.db.attempts.get? id = some a ∧ p.task = some dispatch ∧
      a.isOf p.workspace dispatch.id
  dispatched : ∀ key p dispatch, s.pending.get? key = some p → p.task = some dispatch →
    ∃ r, s.db.tasks.get? (p.workspace, dispatch.id) = some r
  tasks : ∀ key key' p p' dispatch dispatch', s.pending.get? key = some p →
    s.pending.get? key' = some p' → p.task = some dispatch → p'.task = some dispatch' →
    p.workspace = p'.workspace → dispatch.id = dispatch'.id → key = key'

/-- Agents work on one request at a time and say truthfully whether they are ready. -/
structure Truthful (s : RouterState) : Prop where
  single : ∀ key key' p p', s.pending.get? key = some p → s.pending.get? key' = some p' →
    p.recipient = p'.recipient → key = key'
  working : ∀ key p c d, s.pending.get? key = some p → s.connections.get? p.recipient = some c →
    c.descriptor? = some d → d.status = .busy ∧ c.canceling = none
  ready : ∀ id c d, s.connections.get? id = some c → c.descriptor? = some d → d.ready = true →
    d.status = .idle ∧ c.canceling = none ∧ c.workspace.isSome = true ∧ ¬ Barrier s.db d.agentId
  canceling : ∀ id c, s.connections.get? id = some c → c.canceling.isSome = true →
    ∃ d, c.descriptor? = some d ∧ d.status = .busy ∧ c.workspace.isSome = true

section

variable [World]

/-- What holds whatever the store does. -/
structure Base (g : Phase) (s : RouterState) : Prop where
  store : StoreInv s.store
  registry : Registry g s
  requests : Requests s
  truthful : g.flight → Truthful s

end

/-- A store call failed because a counter has run out, and the router shuts down. -/
def Stuck (s : RouterState) : Prop := Exhausted s.db ∧ s.shuttingDown = true

/-- What holds while the store works: the parties of each request are connected, the requests
without a result are the pending ones, and the running attempts are those of pending requests. -/
structure Live (g : Phase) (s : RouterState) : Prop where
  requester : ∀ key p, s.pending.get? key = some p →
    p.requester ∈ g.dying ∨ ∃ c, s.card p.requester = some c
  recipient : ∀ key p, s.pending.get? key = some p →
    p.recipient ∈ g.dying ∨ ∃ c, s.card p.recipient = some c
  waiting : ∀ w requestId, Asked s.db w (some requestId) →
    (∀ e ∈ s.db.events, e.kind = .result → e.workspace = w → e.requestId ≠ some requestId) →
    ∃ p, s.pending.get? (w, requestId) = some p
  running : ∀ id a, s.db.attempts.get? id = some a → a.status = .running →
    ∃ p c, s.pending.get? (a.workspace, a.workRequestId) = some p ∧ p.attemptId = some id ∧
      s.card p.recipient = some c ∧ c.runs a
  stopped : ∀ key p dispatch, s.pending.get? key = some p → p.task = some dispatch →
    p.recipient ∉ g.dying → some key ≠ g.exempt → ∀ id a, s.db.attempts.get? id = some a →
    a.isOf p.workspace dispatch.id → a.unconfirmed = false
  busy : g.flight → ∀ id c d, s.connections.get? id = some c → c.descriptor? = some d →
    d.status = .busy → c.canceling.isSome = true ∨
      ∃ key p, s.pending.get? key = some p ∧ p.recipient = id
  confirmed : g.flight → ∀ key p, s.pending.get? key = some p → p.recipient ∉ g.dying →
    some key ≠ g.exempt → ¬ Unconfirmed s.db p.recipientId

section

variable [World]

/-- The invariant of the router in a phase. -/
structure Good (g : Phase) (s : RouterState) : Prop where
  base : Base g s
  live : Stuck s ∨ Live g s

end

end SessionRouter
