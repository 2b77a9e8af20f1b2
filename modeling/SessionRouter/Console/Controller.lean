import SessionRouter.Console.State

/-!
The owner of the console's connection: reads are fenced by the client, the connection epoch and
the workspace they were begun under, and live events and replies come in through it one by one.
-/

namespace SessionRouter

/-- The reads that concern the chat. -/
inductive ReadKind where
  | recent | previous | next | sync
  deriving DecidableEq

structure Fence where
  client : ℕ
  epoch : ℕ
  stamp : Option WorkspaceStamp
  deriving DecidableEq

/-- A read that has been begun. A subscription remembers the revision of the gaps until then. -/
structure Reader where
  generation : ℕ
  fence : Fence
  kind : ReadKind
  ticket : Option ReadTicket
  revision : ℕ

inductive ReadValue where
  | failed
  | history (page : HistoryPage)
  | past (page : HistoryPage)
  | previous (load : PreviousHistoryLoad)
  | subscription (events : List WorkspaceEvent) (next : ℕ) (live : Bool)

structure Controller where
  state : UiState := {}
  clientGeneration : ℕ := 0
  epoch : ℕ := 0
  readGeneration : ℕ := 0
  readers : List Reader := []
  resetSubscription : Bool := false
  gapRevision : ℕ := 0
  pendingAck : Option (WorkspaceStamp × ℕ) := none

def EventDisposition.isGap : EventDisposition → Bool
  | gap .. | invalid => true
  | applied | duplicate | staleWorkspace => false

namespace Controller

def fence (c : Controller) : Fence :=
  { client := c.clientGeneration, epoch := c.epoch, stamp := c.state.stamp }

def accepts (c : Controller) (fence : Fence) : Bool :=
  fence.client = c.clientGeneration && fence.epoch = c.epoch &&
    c.state.connection = .connected c.epoch && fence.stamp.all c.state.accepts

/-- A change of the connection. -/
def connection (c : Controller) (connection : Connection) : Controller :=
  { c with
    epoch := match connection with
      | .connected epoch => epoch
      | _ => c.epoch
    state := (c.state.connectionChanged connection).2 }

/-- The acknowledgement that waits to be sent, as one cursor for each stamp. -/
def rememberAck (pending : Option (WorkspaceStamp × ℕ)) (stamp : WorkspaceStamp) (seq : ℕ) :
    WorkspaceStamp × ℕ :=
  match pending with
  | some (pendingStamp, cursor) =>
    if pendingStamp = stamp then (pendingStamp, max cursor seq) else (stamp, seq)
  | none => (stamp, seq)

def effect (c : Controller) (stamp : WorkspaceStamp) (effect : EventApplied) : Controller :=
  let c := match effect.ack with
    | some seq => { c with pendingAck := some (rememberAck c.pendingAck stamp seq) }
    | none => c
  if effect.disposition.isGap then
    { c with gapRevision := wrappingSucc c.gapRevision, resetSubscription := true }
  else c

def effects (c : Controller) (stamp : WorkspaceStamp) (effects : List EventApplied) : Controller :=
  effects.foldl (fun c e => c.effect stamp e) c

/-- Hand the acknowledgement to the client; a full queue keeps it. -/
def flushAck (c : Controller) (sent : Bool) : Option ℕ × Controller :=
  match c.pendingAck with
  | none => (none, c)
  | some (stamp, seq) =>
    if !c.state.accepts stamp then (none, { c with pendingAck := none })
    else (some seq, if sent then { c with pendingAck := none } else c)

/-- Begin a read of the chat. -/
def beginRead (c : Controller) (kind : ReadKind) : Controller :=
  match c.state.stamp with
  | none => c
  | some stamp =>
    let reader : Reader :=
      { generation := c.readGeneration, fence := c.fence, kind, ticket := none, revision := 0 }
    let display (chat : ChatState) : Controller :=
      let (ticket, chat) := chat.beginHistoryLoad stamp
      { c with
        state := { c.state with chat }
        readers := c.readers ++ [{ reader with ticket := some ticket }] }
    match kind with
    | .recent => display c.state.chat
    | .previous =>
      match c.state.chat.buffer.events.head? with
      | some oldest => if oldest.seq ≤ 1 then c else display c.state.chat.enterPast
      | none => c
    | .next => if c.state.chat.buffer.events.isEmpty then c else display c.state.chat.enterPast
    | .sync =>
      if c.state.chat.appliedCursor.isNone then c
      else { c with
        readers := c.readers ++ [{ reader with revision := c.gapRevision }]
        resetSubscription := false }

/-- An aborted reader may have ended before: its reply still comes, under a former generation. -/
def cancelReads (c : Controller) : Controller :=
  { c with
    readGeneration := wrappingSucc c.readGeneration
    gapRevision := wrappingSucc c.gapRevision
    state := c.state.invalidateReads }

/-- The console begins to leave its workspace. -/
def beginSwitch (c : Controller) : Controller :=
  cancelReads { c with state := c.state.unsynchronized }

/-- The switch was refused and the former workspace is kept. -/
def switchRestored (c : Controller) : Controller := { c with resetSubscription := true }

/-- The leave was not confirmed: everything of the old client is void. -/
def replaceClient (c : Controller) : Controller :=
  let c := cancelReads { c with
    pendingAck := none
    clientGeneration := wrappingSucc c.clientGeneration }
  { c with state := (c.state.connectionChanged .connecting).2 }

/-- The switch was confirmed. -/
def switchJoined (c : Controller) (workspace : WorkspaceName) : Controller :=
  { c with state := c.state.commitWorkspace workspace, resetSubscription := false }

variable [EventSize]

/-- A live event. -/
def event (c : Controller) (event : WorkspaceEvent) : List EventApplied × Controller :=
  match c.state.stamp with
  | none => ([], c)
  | some stamp =>
    let (effect, state) := c.state.applyEvent stamp event
    ([effect], ({ c with state } : Controller).effect stamp effect)

/-- A page of a subscription: it is live if nothing is missing now and nothing was since it was
asked for. -/
def subscriptionDone (c : Controller) (stamp : WorkspaceStamp) (revision : ℕ)
    (events : List WorkspaceEvent) (next : ℕ) (live : Bool) : List EventApplied × Controller :=
  let (effects, state) := c.state.applyEvents stamp events
  let valid := effects.all fun effect =>
    !effect.disposition.isGap && effect.disposition ≠ .staleWorkspace
  let state :=
    if live && valid && revision = c.gapRevision then (state.subscriptionLive stamp next).2
    else state
  (effects, ({ c with state } : Controller).effects stamp effects)

/-- The reply to a read that is still wanted. -/
def readDone (c : Controller) (reader : Reader) (value : ReadValue) :
    List EventApplied × Controller :=
  if reader.generation ≠ c.readGeneration || !c.accepts reader.fence then ([], c)
  else match reader.kind, reader.ticket, value with
  | .recent, some ticket, .history page =>
    match c.state.applyRecentPage ticket page, reader.fence.stamp with
    | (.ok effects, state), some stamp =>
      (effects, ({ c with state } : Controller).effects stamp effects)
    | (_, state), _ => ([], { c with state })
  | .next, some ticket, .past page =>
    ([], { c with state := (c.state.applyPastPage ticket page).2 })
  | .previous, some ticket, .previous load =>
    ([], { c with state := (c.state.applyPreviousPage ticket load).2 })
  | .sync, _, .subscription events next live =>
    match reader.fence.stamp with
    | some stamp => c.subscriptionDone stamp reader.revision events next live
    | none => ([], c)
  | _, _, _ => ([], c)

end Controller

end SessionRouter
