import SessionRouter.Lib.Table
import SessionRouter.Protocol.Messages

/-!
The MCP backend of a Codex session. Calls of the agent, events of the router and the writes of the
client run side by side over one shared state; each activity is cut where it waits for another
one or gives the lock back.
-/

namespace SessionRouter.Mcp

inductive BackendError where
  | notFound | unavailable | cancelled | waitBusy | replyPending
  | router (code : RouterErrorCode)
  deriving DecidableEq

/-- A request the router has delivered. The number says which delivery of the run it is; no
function reads it. -/
structure InboundRequest where
  workspace : WorkspaceName
  requestId : String
  sender : String
  content : String
  deadline : ℕ
  task : Option TaskDispatch
  number : ℕ
  deriving DecidableEq

/-- What a call of the agent returns. -/
inductive CallResult where
  | request (request : InboundRequest)
  | waitTimeout
  | replied (requestId : String)
  | error (error : BackendError)
  deriving DecidableEq

inductive Write where
  | readiness (ready : Bool)
  | reply (requestId : String) (ok : Bool) (content : Option String)
      (error : Option RouterErrorCode)
  deriving DecidableEq

/-- Where an activity stands. A ticket is the place of a write in the order of the client, which
the activity waits for. -/
inductive Activity where
  /-- `agent_wait`: it has registered and is about to announce itself. -/
  | announce
  | announced (ticket : ℕ)
  | waiting
  /-- The wait has timed out and takes its announcement back. -/
  | retire
  | retired (ticket : ℕ)
  /-- `handle_delivery`: the waiter has been taken for the request. -/
  | deliver (wait : ℕ) (request : InboundRequest)
  | delivered (wait : ℕ) (request : InboundRequest) (ticket : ℕ)
  /-- The waiter was gone. -/
  | reject (request : InboundRequest)
  /-- An error reply, after which the readiness may be taken back too. -/
  | refuse (requestId : String) (code : RouterErrorCode) (thenUnready : Bool)
  | refused (ticket : ℕ) (thenUnready : Bool)
  /-- `agent_reply` -/
  | reply (request : InboundRequest) (text : String)
  | replied (request : InboundRequest) (ticket : ℕ)
  /-- `set_ready(false)`, also as a task of its own. -/
  | unready (replying : Option String)
  | unreadied (replying : Option String) (ticket : ℕ)
  deriving DecidableEq

/-- How a delivery ended without being returned. -/
inductive Fate where
  | rejected | cancelled | dropped
  deriving DecidableEq

structure Backend where
  membership : Option WorkspaceName := none
  waiter : Option ℕ := none
  pending : Option InboundRequest := none
  activities : Table ℕ Activity := ∅
  /-- What has been sent to a wait and not been taken yet. -/
  inbox : Table ℕ (Except BackendError InboundRequest) := ∅
  /-- The activity the event loop is in; there is none before the first one. -/
  eventLoop : ℕ := 0
  next : ℕ := 1
  /-- The writes the client has not taken yet, how many it has taken, and what it sent. -/
  queue : List Write := []
  taken : ℕ := 0
  sent : List Write := []
  outcomes : Table ℕ CallResult := ∅
  accepted : List InboundRequest := []
  fates : List (InboundRequest × Fate) := []

/-- What an activity cannot decide itself. -/
structure Chance where
  /-- The queue of the client is full or closed. -/
  queueFull : Bool := false
  /-- The write ended with an error. -/
  failed : Bool := false
  cancelled : Bool := false
  elapsed : Bool := false

inductive ClientEvent where
  | delivery (workspace : WorkspaceName) (requestId sender content : String) (timeoutMs : ℕ)
      (task : Option TaskDispatch) (now : ℕ)
  | workCancelled (workspace : WorkspaceName) (requestId : String) (task : Option TaskFence)
  | membershipChanged (workspace : Option WorkspaceName)
  | closed

inductive Input where
  | agentWait
  | agentReply (requestId text : String) (now : ℕ)
  | workspaceJoined (workspace : WorkspaceName)
  | workspaceLeft
  | event (event : ClientEvent)
  | advance (id : ℕ) (chance : Chance)
  /-- The future of a call is dropped. -/
  | abort (id : ℕ)
  /-- The client takes a write out of its queue; without a connection it is lost. -/
  | write (connected : Bool)

/-- The wait can still be sent a request. -/
def Activity.listens : Activity → Bool
  | announce | announced _ | waiting => true
  | _ => false

/-- A call that waits for another activity, and whose future can be dropped there. -/
def Activity.suspendedCall : Activity → Bool
  | announced _ | waiting | retired _ | replied .. | unreadied (some _) _ => true
  | _ => false

def matchingCancelTask : Option TaskDispatch → Option TaskFence → Bool
  | some dispatch, some fence => dispatch.id = fence.taskId
  | none, none => true
  | _, _ => false

namespace Backend

/-- The same request, as far as the backend looks. -/
def isPending (s : Backend) (request : InboundRequest) : Bool :=
  s.pending.any fun pending =>
    pending.workspace = request.workspace && pending.requestId = request.requestId

def put (s : Backend) (id : ℕ) (activity : Activity) : Backend :=
  { s with activities := s.activities.put id activity }

def spawn (s : Backend) (activity : Activity) : Backend :=
  { s.put s.next activity with next := s.next + 1 }

/-- The event loop waits for what it has begun. -/
def spawnInLoop (s : Backend) (activity : Activity) : Backend :=
  { s.spawn activity with eventLoop := s.next }

def stop (s : Backend) (id : ℕ) : Backend := { s with activities := s.activities.remove id }

/-- A call returns; what was sent to it and not taken is gone. -/
def finish (s : Backend) (id : ℕ) (result : CallResult) : Backend :=
  { s with
    activities := s.activities.remove id
    inbox := s.inbox.remove id
    outcomes := s.outcomes.put id result }

/-- The guard of a wait: if the waiter is still its own, the announcement is taken back by a task
of its own. -/
def releaseWait (s : Backend) (id : ℕ) : Backend :=
  if s.waiter = some id then { s with waiter := none }.spawn (.unready none) else s

def ticket (s : Backend) : ℕ := s.taken + s.queue.length

def hand (s : Backend) (write : Write) : Backend := { s with queue := s.queue ++ [write] }

def agentWait (s : Backend) : Backend :=
  let id := s.next
  let s := { s with next := s.next + 1 }
  if s.membership.isNone then s.finish id (.error (.router .workspaceRequired))
  else if s.pending.isSome then s.finish id (.error .replyPending)
  else if s.waiter.isSome then s.finish id (.error .waitBusy)
  else { s with waiter := some id }.put id .announce

def agentReply (s : Backend) (requestId text : String) (now : ℕ) : Backend :=
  let id := s.next
  let s := { s with next := s.next + 1 }
  if text.isEmpty then s.finish id (.error (.router .invalidMessage))
  else match s.pending with
  | none => s.finish id (.error .notFound)
  | some pending =>
    if pending.requestId ≠ requestId || s.membership ≠ some pending.workspace ||
        pending.deadline ≤ now then s.finish id (.error .notFound)
    else s.put id (.reply pending text)

/-- The send half of a wait is used up. -/
def send (s : Backend) (wait : ℕ) (value : Except BackendError InboundRequest) : Backend :=
  if (s.activities.get? wait).any Activity.listens then
    { s with inbox := s.inbox.put wait value }
  else s

def sendOption (s : Backend) (wait : Option ℕ) (error : BackendError) : Backend :=
  match wait with
  | some wait => s.send wait (.error error)
  | none => s

def dropPending (s : Backend) : Backend :=
  { s with pending := none, fates := s.fates ++ (s.pending.map (·, Fate.dropped)).toList }

/-- What `handle_membership_changed` has still to write. -/
def membershipWrites (pending : Option InboundRequest) (workspace : Option WorkspaceName) :
    Option Activity :=
  match pending with
  | some pending => some (.refuse pending.requestId .providerDisconnected workspace.isNone)
  | none => if workspace.isNone then some (.unready none) else none

/-- The locked part of `handle_membership_changed`, with the error for the waiter. -/
def changeMembership (s : Backend) (workspace : Option WorkspaceName) : Backend :=
  if s.membership ≠ workspace then
    ({ s with membership := workspace, waiter := none }.dropPending).sendOption s.waiter
      (.router .workspaceMismatch)
  else s

def changePending (s : Backend) (workspace : Option WorkspaceName) : Option InboundRequest :=
  if s.membership ≠ workspace then s.pending else none

def delivery (s : Backend) (request : InboundRequest) : Backend :=
  if s.membership ≠ some request.workspace then
    s.spawnInLoop (.refuse request.requestId .workspaceMismatch false)
  else if s.pending.isSome then s.spawnInLoop (.refuse request.requestId .sessionBusy false)
  else match s.waiter with
  | some wait =>
    ({ s with
      waiter := none
      pending := some request
      accepted := s.accepted ++ [request] } : Backend).spawnInLoop (.deliver wait request)
  | none => s.spawnInLoop (.refuse request.requestId .providerNotReady false)

def workCancelled (s : Backend) (workspace : WorkspaceName) (requestId : String)
    (task : Option TaskFence) : Backend :=
  match s.pending with
  | none => s
  | some pending =>
    if pending.workspace = workspace && pending.requestId = requestId &&
        matchingCancelTask pending.task task then
      ({ s with pending := none, fates := s.fates ++ [(pending, Fate.cancelled)] } :
        Backend).spawnInLoop (.unready none)
    else s

def streamClosed (s : Backend) : Backend :=
  ({ s with membership := none, waiter := none }.dropPending).sendOption s.waiter .unavailable

def event (s : Backend) : ClientEvent → Backend
  | .delivery workspace requestId sender content timeoutMs task now =>
    let deadline := now + timeoutMs
    let number := s.accepted.length
    s.delivery { workspace, requestId, sender, content, deadline, task, number }
  | .workCancelled workspace requestId task => s.workCancelled workspace requestId task
  | .membershipChanged workspace =>
    match membershipWrites (s.changePending workspace) workspace with
    | some activity => (s.changeMembership workspace).spawnInLoop activity
    | none => s.changeMembership workspace
  | .closed => s.streamClosed

/-- The tool call that leaves the workspace, once the router has confirmed it. -/
def workspaceLeft (s : Backend) : Backend :=
  match membershipWrites (s.changePending none) none with
  | some activity => (s.changeMembership none).spawn activity
  | none => s.changeMembership none

/-- The request goes to its waiter; if nobody listens any more it is rejected. -/
def handOver (s : Backend) (id wait : ℕ) (request : InboundRequest) : Backend :=
  if (s.activities.get? wait).any Activity.listens then
    (s.send wait (.ok request)).stop id
  else
    { s with pending := if s.isPending request then none else s.pending }.put id (.reject request)

/-- One more step of the branch of `agent_wait` that waits. The cancellation is looked at first,
then the timer and only then the request. -/
def pollWait (s : Backend) (id : ℕ) (chance : Chance) : Backend :=
  if chance.cancelled then (s.finish id (.error .cancelled)).releaseWait id
  else if chance.elapsed then
    if s.waiter = some id then { s with waiter := none }.put id .retire
    else s.finish id .waitTimeout
  else match s.inbox.get? id with
  | some (.ok request) => s.finish id (.request request)
  | some (.error error) => s.finish id (.error error)
  | none => s

/-- After `set_ready(false)`. -/
def endUnready (s : Backend) (id : ℕ) (replying : Option String) (failed : Bool) : Backend :=
  match replying with
  | some requestId => s.finish id (if failed then .error .unavailable else .replied requestId)
  | none => s.stop id

def advance (s : Backend) (id : ℕ) (chance : Chance) : Backend :=
  match s.activities.get? id with
  | none => s
  | some .announce =>
    if chance.queueFull then (s.finish id (.error .unavailable)).releaseWait id
    else (s.hand (.readiness true)).put id (.announced s.ticket)
  | some (.announced ticket) =>
    if s.taken ≤ ticket then s
    else if chance.failed then (s.finish id (.error .unavailable)).releaseWait id
    else s.put id .waiting
  | some .waiting => s.pollWait id chance
  | some .retire =>
    if chance.queueFull then s.finish id (.error .unavailable)
    else (s.hand (.readiness false)).put id (.retired s.ticket)
  | some (.retired ticket) =>
    if s.taken ≤ ticket then s
    else s.finish id (if chance.failed then .error .unavailable else .waitTimeout)
  | some (.deliver wait request) =>
    if chance.queueFull then s.handOver id wait request
    else (s.hand (.readiness false)).put id (.delivered wait request s.ticket)
  | some (.delivered wait request ticket) =>
    if s.taken ≤ ticket then s else s.handOver id wait request
  | some (.reject request) =>
    if chance.queueFull then s.put id (.unready none)
    else
      ({ s with fates := s.fates ++ [(request, Fate.rejected)] }.hand
        (.reply request.requestId false none (some .requestCancelled))).put id
        (.refused s.ticket true)
  | some (.refuse requestId code thenUnready) =>
    if chance.queueFull then if thenUnready then s.put id (.unready none) else s.stop id
    else (s.hand (.reply requestId false none (some code))).put id (.refused s.ticket thenUnready)
  | some (.refused ticket thenUnready) =>
    if s.taken ≤ ticket then s
    else if thenUnready then s.put id (.unready none) else s.stop id
  | some (.reply request text) =>
    if chance.queueFull then s.finish id (.error .unavailable)
    else (s.hand (.reply request.requestId true (some text) none)).put id
      (.replied request s.ticket)
  | some (.replied request ticket) =>
    if s.taken ≤ ticket then s
    else if chance.failed then s.finish id (.error .unavailable)
    else if s.isPending request then
      { s with pending := none }.put id (.unready (some request.requestId))
    else s.finish id (.error .notFound)
  | some (.unready replying) =>
    if chance.queueFull then s.endUnready id replying true
    else (s.hand (.readiness false)).put id (.unreadied replying s.ticket)
  | some (.unreadied replying ticket) =>
    if s.taken ≤ ticket then s else s.endUnready id replying chance.failed

/-- A dropped call returns nothing, but its guard still acts. -/
def abort (s : Backend) (id : ℕ) : Backend :=
  if (s.activities.get? id).any Activity.suspendedCall then
    ({ s with
      activities := s.activities.remove id
      inbox := s.inbox.remove id } : Backend).releaseWait id
  else s

def write (s : Backend) (connected : Bool) : Backend :=
  match s.queue with
  | [] => s
  | write :: queue =>
    { s with
      queue
      taken := s.taken + 1
      sent := if connected then s.sent ++ [write] else s.sent }

def step (s : Backend) : Input → Backend
  | .agentWait => s.agentWait
  | .agentReply requestId text now => s.agentReply requestId text now
  | .workspaceJoined workspace => { s with membership := some workspace }
  | .workspaceLeft => s.workspaceLeft
  -- The loop takes the next event when it is done with the last one.
  | .event event => if (s.activities.get? s.eventLoop).isSome then s else s.event event
  | .advance id chance => s.advance id chance
  | .abort id => s.abort id
  | .write connected => s.write connected

/-- The runs whose every step meets the condition. -/
inductive Run (condition : Backend → Input → Prop) : Backend → Prop
  | start : Run condition {}
  | step {s : Backend} {input : Input} (h : Run condition s) (hstep : condition s input) :
      Run condition (s.step input)

variable {s : Backend}

/-- Every step of a list of inputs meets the condition. -/
def allowed (condition : Backend → Input → Bool) (s : Backend) : List Input → Bool
  | [] => true
  | input :: inputs => condition s input && allowed condition (s.step input) inputs

theorem run_allowed {condition : Backend → Input → Bool} {inputs : List Input}
    (hrun : Run (fun s input => condition s input = true) s)
    (hallowed : allowed condition s inputs = true) :
    Run (fun s input => condition s input = true) (inputs.foldl step s) := by
  induction inputs generalizing s with
  | nil => exact hrun
  | cons input inputs ih =>
    simp only [allowed, Bool.and_eq_true] at hallowed
    exact ih (.step hrun hallowed.1) hallowed.2

theorem run_unrestricted (inputs : List Input) (h : Run (fun _ _ => True) s) :
    Run (fun _ _ => True) (inputs.foldl step s) := by
  induction inputs generalizing s with
  | nil => exact h
  | cons input inputs ih => exact ih (.step h trivial)

theorem sampleWorkspace_valid : isWorkspaceName "team" = true := by decide

def sampleWorkspace : WorkspaceName := ⟨"team", sampleWorkspace_valid⟩

end Backend

end SessionRouter.Mcp
