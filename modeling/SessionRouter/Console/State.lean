import SessionRouter.Console.Chat

/-!
The state of the console and the ways replies and events change it.
-/

namespace SessionRouter

def maxPendingRequests : ℕ := 32

inductive Connection where
  | connecting
  | connected (epoch : ℕ)
  | reconnecting
  | closed (reason : Option RouterErrorCode)
  deriving DecidableEq

def Connection.isConnected : Connection → Bool
  | connected _ => true
  | _ => false

inductive StateError where
  | noWorkspace | busy | notConnected | synchronizing | terminalTooSmall | permissionDenied
  | invalidPage | invalidInput | inputTooLarge | singleLine | missingTask
  | reconfirmationRequired | mustObserveStopped | stopUnconfirmed | requestNotRetryable
  | notUncertain | wrongReceipt
  deriving DecidableEq

inductive EventDisposition where
  | applied
  | duplicate
  | staleWorkspace
  | gap (expected received : ℕ)
  | invalid
  deriving DecidableEq

/-- What an event did to the state, and the cursor it acknowledges. -/
structure EventApplied where
  disposition : EventDisposition
  ack : Option ℕ := none
  refreshTaskDetail : Bool := false
  requestResolved : Bool := false
  deriving DecidableEq

inductive RequestStage where
  | sending | accepted | executionObserved | uncertain
  deriving DecidableEq

/-- A request for the execution of a task that waits for its result. -/
structure TrackedRequest where
  requestId : String
  taskId : ℕ
  expectedVersion : ℕ
  stage : RequestStage
  deriving DecidableEq

structure PendingPost where
  requestId : String
  content : String
  uncertain : Bool
  deriving DecidableEq

/-- The text of the composer and the post that waits for its event. -/
structure Composer where
  text : String := ""
  pending : Option PendingPost := none

def Composer.markUncertain (c : Composer) : Composer :=
  { c with pending := c.pending.map fun post => { post with uncertain := true } }

def Composer.acknowledge (c : Composer) (requestId : String) : Composer :=
  match c.pending with
  | some post =>
    if post.requestId = requestId then
      { text := if c.text = post.content then "" else c.text, pending := none }
    else c
  | none => c

inductive FormKind where
  | workspaceCreate | taskCreate | taskEdit | taskAssign | taskRequest | taskInterrupt
  | taskConfirmStopped | taskNote | taskCancel | taskReopen | taskFilter | invite
  deriving DecidableEq

structure TaskBaseline where
  workspace : WorkspaceName
  taskId : ℕ
  version : ℕ
  attemptId : Option Uuid
  assignedAgentId : Option String
  deriving DecidableEq

inductive MutationStage where
  | prepared | inFlight | uncertain | conflict | applied | rejected
  deriving DecidableEq

structure PreparedMutation where
  stamp : WorkspaceStamp
  kind : FormKind
  requestId : String
  operationId : Option Uuid
  message : ClientMessage
  baseline : Option TaskBaseline
  stage : MutationStage
  currentVersion : Option ℕ

namespace PreparedMutation

def markUncertain (m : PreparedMutation) : PreparedMutation :=
  if m.stage = .inFlight then { m with stage := .uncertain } else m

def receipt (m : PreparedMutation) (receipt : TaskMutationResult) :
    Except StateError PreparedMutation :=
  if m.operationId ≠ some receipt.operationId ||
      receipt.task.summary.workspace ≠ m.stamp.workspace ||
      m.baseline.any fun baseline => baseline.taskId ≠ receipt.task.summary.id then
    .error .wrongReceipt
  else .ok { m with stage := .applied }

end PreparedMutation

inductive Tab where
  | chat | tasks | members
  deriving DecidableEq

structure UiState where
  connection : Connection := .connecting
  workspace : Option WorkspaceName := none
  generation : ℕ := 0
  chat : ChatState := {}
  tasks : TaskPage := {}
  tab : Tab := .chat
  composer : Composer := {}
  mutation : Option PreparedMutation := none
  pendingRequests : Table String TrackedRequest := ∅

namespace UiState

def stamp (s : UiState) : Option WorkspaceStamp :=
  s.workspace.map fun workspace => { generation := s.generation, workspace }

def accepts (s : UiState) (stamp : WorkspaceStamp) : Bool :=
  s.generation = stamp.generation && s.workspace = some stamp.workspace

def acceptsHistory (s : UiState) (ticket : ReadTicket) : Bool :=
  s.accepts ticket.stamp && ticket.revision = s.chat.historyRevision

def invalidateReads (s : UiState) : UiState :=
  { s with
    tasks := s.tasks.invalidateReads
    chat := { s.chat with historyRevision := wrappingSucc s.chat.historyRevision } }

/-- A change of the connection; the flag asks for a refresh. -/
def connectionChanged (s : UiState) (connection : Connection) : Bool × UiState :=
  let refresh := connection.isConnected && s.connection ≠ connection
  let changed := { s with connection }
  let fenced :=
    if !connection.isConnected then
      { changed with
        chat := { changed.chat with synchronized := false }
        mutation := changed.mutation.map PreparedMutation.markUncertain
        composer := changed.composer.markUncertain
        pendingRequests := changed.pendingRequests.mapValues fun r =>
          { r with stage := .uncertain } }
    else if refresh then { changed with chat := { changed.chat with synchronized := false } }
    else changed
  (refresh, if refresh || !connection.isConnected then fenced.invalidateReads else fenced)

/-- Only after the leave and the new join are confirmed. -/
def commitWorkspace (s : UiState) (workspace : WorkspaceName) : UiState :=
  { s with
    generation := wrappingSucc s.generation
    mutation := none
    composer := {}
    pendingRequests := ∅
    chat := {}
    tasks := {}
    workspace := some workspace }

/-- The record of a task event, if it belongs to the event and the workspace. -/
def taskEventOf (stamp : WorkspaceStamp) (event : WorkspaceEvent) : Option TaskEvent :=
  match event.content with
  | some (.task taskEvent) =>
    if taskEvent.task.workspace = stamp.workspace && some taskEvent.task.id = event.taskId then
      some taskEvent
    else none
  | _ => none

/-- A begun task is observed by the requests that wait for its execution. -/
def observeBegun (s : UiState) (taskEvent : TaskEvent) : UiState :=
  if taskEvent.change = .begun then
    { s with pendingRequests := s.pendingRequests.mapValues fun r =>
        if r.taskId = taskEvent.task.id && r.expectedVersion < taskEvent.task.version then
          { r with stage := .executionObserved }
        else r }
  else s

def observeTaskEvent (s : UiState) (taskEvent : TaskEvent) : Bool × UiState :=
  let s := s.observeBegun taskEvent
  let (refresh, tasks) := s.tasks.observe taskEvent.task
  (refresh, { s with tasks })

/-- A result ends its request, a chat event acknowledges the post it repeats. -/
def settleRequest (s : UiState) (event : WorkspaceEvent) : Bool × UiState :=
  match event.requestId with
  | none => (false, s)
  | some requestId =>
    if event.kind = .result then
      (s.pendingRequests.contains requestId,
        { s with pendingRequests := s.pendingRequests.remove requestId })
    else if event.kind = .chat && s.composer.pending.any fun post =>
        post.requestId = requestId && event.content = some (.text post.content) then
      (false, { s with composer := s.composer.acknowledge requestId })
    else (false, s)

variable [EventSize]

/-- The event becomes part of the chat. -/
def showEvent (c : ChatState) (event : WorkspaceEvent) : ChatState :=
  match c.mode with
  | .live =>
    let c := if c.follow then { c with selectedSeq := some event.seq }
      else { c with newEvents := c.newEvents + 1 }
    if c.buffer.events.any fun old => old.seq = event.seq then c
    else { c with buffer := c.buffer.push event }
  | .past =>
    { c with
      newEvents := c.newEvents + 1
      display := { c.display with
        hasMore := c.display.hasMore || c.display.nextCursor < event.seq } }

/-- The last part of an application: the cursor moves to the event. -/
def finishEvent (s : UiState) (event : WorkspaceEvent) (refreshTaskDetail : Bool) :
    EventApplied × UiState :=
  let (requestResolved, s) := s.settleRequest event
  ({ disposition := .applied, ack := some event.seq, refreshTaskDetail, requestResolved },
    { s with chat := showEvent { s.chat with appliedCursor := some event.seq } event })

def unsynchronized (s : UiState) : UiState :=
  { s with chat := { s.chat with synchronized := false } }

def applyEvent (s : UiState) (stamp : WorkspaceStamp) (event : WorkspaceEvent) :
    EventApplied × UiState :=
  if !s.accepts stamp || event.workspace ≠ stamp.workspace then
    ({ disposition := .staleWorkspace }, s)
  else if event.seq = 0 then ({ disposition := .invalid }, s)
  else match s.chat.appliedCursor with
  | none => ({ disposition := .gap 0 event.seq }, s)
  | some cursor =>
    if event.seq ≤ cursor then ({ disposition := .duplicate, ack := some event.seq }, s)
    else if event.seq ≠ cursor + 1 then
      ({ disposition := .gap (cursor + 1) event.seq }, s.unsynchronized)
    else if event.kind = .task then
      match taskEventOf stamp event with
      | some taskEvent =>
        let (refresh, s) := s.observeTaskEvent taskEvent
        s.finishEvent event refresh
      | none => ({ disposition := .invalid }, s.unsynchronized)
    else s.finishEvent event false

/-- Apply events one after the other. -/
def applyEvents (s : UiState) (stamp : WorkspaceStamp) :
    List WorkspaceEvent → List EventApplied × UiState
  | [] => ([], s)
  | event :: events =>
    let (effect, s) := s.applyEvent stamp event
    let (effects, s) := s.applyEvents stamp events
    (effect :: effects, s)

def pushAll (b : EventBuffer) (events : List WorkspaceEvent) : EventBuffer :=
  events.foldl EventBuffer.push b

/-- The first recent page seeds the cursor; a later one changes the display only. -/
def applyRecentPage (s : UiState) (ticket : ReadTicket) (page : HistoryPage) :
    Except StateError (List EventApplied) × UiState :=
  if !s.acceptsHistory ticket then (.ok [], s)
  else if !validHistoryPage page ticket.stamp.workspace then (.error .invalidPage, s)
  else
    let previous := s.chat.buffer
    let chat := { s.chat with
      mode := .live
      buffer := .new maxLiveEvents
      display := { nextCursor := page.nextCursor, hasMore := page.hasMore }
      newEvents := 0
      follow := true }
    match s.chat.appliedCursor with
    | none =>
      let seed := (page.events.head?.map fun event => event.seq - 1).getD page.nextCursor
      let (applied, s) := applyEvents { s with chat := { chat with appliedCursor := some seed } }
        ticket.stamp page.events
      (.ok applied, s)
    | some _ =>
      let buffer := pushAll (pushAll chat.buffer (page.events.take maxPageLimit))
        (previous.events.filter fun event => page.nextCursor < event.seq)
      (.ok [], { s with chat := { chat with
        buffer
        selectedSeq := buffer.events.getLast?.map WorkspaceEvent.seq } })

def applyPastPage (s : UiState) (ticket : ReadTicket) (page : HistoryPage) :
    Except StateError Bool × UiState :=
  if !s.acceptsHistory ticket then (.ok false, s)
  else if !validHistoryPage page ticket.stamp.workspace then (.error .invalidPage, s)
  else
    let chat := s.chat.enterPast
    let buffer := pushAll chat.buffer (page.events.take maxHistoryEvents)
    (.ok true, { s with chat := { chat with
      display :=
        { nextCursor := page.nextCursor
          hasMore := page.hasMore || chat.appliedCursor.any fun cursor => page.nextCursor < cursor }
      buffer
      selectedSeq := buffer.events.head?.map WorkspaceEvent.seq } })

/-- A page before the boundary, without touching the progress of the live events. -/
def applyPreviousPage (s : UiState) (ticket : ReadTicket) (load : PreviousHistoryLoad) :
    Except StateError Bool × UiState :=
  if !s.acceptsHistory ticket || s.chat.mode ≠ .past then (.ok false, s)
  else if !load.done || load.boundary = 0 ||
      load.buffer.events.any (fun event => event.workspace ≠ ticket.stamp.workspace ||
        event.seq = 0 || load.boundary ≤ event.seq) ||
      !contiguous (load.buffer.events.map WorkspaceEvent.seq) then (.error .invalidPage, s)
  else
    let nextCursor := (load.buffer.events.getLast?.map WorkspaceEvent.seq).getD 0
    (.ok true, { s with chat := { s.chat with
      display :=
        { nextCursor, hasMore := s.chat.appliedCursor.any fun cursor => nextCursor < cursor }
      buffer := load.buffer
      selectedSeq := (load.buffer.events.reverse.find? s.chat.visible).map WorkspaceEvent.seq
      follow := false } })

omit [EventSize]

def subscriptionLive (s : UiState) (stamp : WorkspaceStamp) (nextCursor : ℕ) : Bool × UiState :=
  if !s.accepts stamp || s.chat.appliedCursor ≠ some nextCursor then (false, s)
  else (true, { s with chat := { s.chat with synchronized := true } })

def applyTaskPage (s : UiState) (ticket : ReadTicket) (tasks : List TaskSummary)
    (nextCursor : ℕ) (hasMore : Bool) : Bool × UiState :=
  if !s.accepts ticket.stamp || tasks.any fun task => task.workspace ≠ ticket.stamp.workspace then
    (false, s)
  else
    let (applied, tasks) := s.tasks.applyPage ticket.revision tasks nextCursor hasMore
    (applied, { s with tasks })

def applyTaskDetail (s : UiState) (ticket : ReadTicket) (task : TaskDetail) : Bool × UiState :=
  if !s.accepts ticket.stamp || task.summary.workspace ≠ ticket.stamp.workspace then (false, s)
  else
    let (applied, tasks) := s.tasks.applyDetail ticket.revision task
    (applied, { s with tasks })

/-- The task list after a receipt: a created task is selected, and the detail of the selected one
is replaced. -/
def receiveTask (tasks : TaskPage) (created : Bool) (task : TaskDetail) : TaskPage :=
  let tasks := if created then tasks.select (some task.summary.id) else tasks
  let tasks := (tasks.observe task.summary).2
  if tasks.selectedId = some task.summary.id then
    (tasks.applyDetail tasks.detailRevision task).2
  else tasks

def applyReceipt (s : UiState) (stamp : WorkspaceStamp) (receipt : TaskMutationResult) :
    Except StateError Bool × UiState :=
  if !s.accepts stamp then (.ok false, s)
  else match s.mutation with
  | none => (.error .wrongReceipt, s)
  | some mutation =>
    match mutation.receipt receipt with
    | .error error => (.error error, s)
    | .ok mutation =>
      let created := mutation.kind = .taskCreate
      (.ok true, { s with
        mutation := some mutation
        tab := if created then .tasks else s.tab
        tasks := receiveTask s.tasks created receipt.task })

end UiState

end SessionRouter
