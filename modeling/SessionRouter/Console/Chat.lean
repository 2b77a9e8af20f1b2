import SessionRouter.Console.Tasks

/-!
The chat of the console: one bounded buffer of events, the cursor up to which live events were
applied, and the history pages shown beside it.
-/

namespace SessionRouter

def maxLiveEvents : ℕ := 2000
def maxHistoryEvents : ℕ := 100
def maxEventBytes : ℕ := 8 * 1024 * 1024

/-- The memory an event takes. -/
class EventSize where
  eventBytes : WorkspaceEvent → ℕ

export EventSize (eventBytes)

structure HistoryPage where
  workspace : WorkspaceName
  events : List WorkspaceEvent
  nextCursor : ℕ
  hasMore : Bool

structure EventBuffer where
  events : List WorkspaceEvent
  bytes : ℕ
  limit : ℕ
  truncated : Bool

namespace EventBuffer

def new (limit : ℕ) : EventBuffer :=
  { events := [], bytes := 0, limit := min limit maxLiveEvents, truncated := false }

variable [EventSize]

/-- Drop the oldest events until another one of the given size fits. -/
def shed (limit size : ℕ) : List WorkspaceEvent → ℕ → Bool → List WorkspaceEvent × ℕ × Bool
  | [], bytes, truncated => ([], bytes, truncated)
  | event :: events, bytes, truncated =>
    if limit ≤ (event :: events).length || maxEventBytes < bytes + size then
      shed limit size events (bytes - eventBytes event) true
    else (event :: events, bytes, truncated)

def push (b : EventBuffer) (event : WorkspaceEvent) : EventBuffer :=
  let size := eventBytes event
  if maxEventBytes < size || b.limit = 0 then { b with truncated := true }
  else
    let (events, bytes, truncated) := shed b.limit size b.events b.bytes b.truncated
    { b with events := events ++ [event], bytes := bytes + size, truncated }

end EventBuffer

inductive HistoryMode where
  | live | past
  deriving DecidableEq

structure DisplayCursor where
  nextCursor : ℕ := 0
  hasMore : Bool := false
  deriving DecidableEq

structure ChatState where
  buffer : EventBuffer := .new maxLiveEvents
  mode : HistoryMode := .live
  follow : Bool := true
  selectedSeq : Option ℕ := none
  newEvents : ℕ := 0
  allEvents : Bool := false
  appliedCursor : Option ℕ := none
  display : DisplayCursor := {}
  synchronized : Bool := false
  historyRevision : ℕ := 0

namespace ChatState

def beginHistoryLoad (c : ChatState) (stamp : WorkspaceStamp) : ReadTicket × ChatState :=
  let revision := wrappingSucc c.historyRevision
  ({ stamp, revision }, { c with historyRevision := revision })

def enterPast (c : ChatState) : ChatState :=
  { c with mode := .past, follow := false, buffer := .new maxHistoryEvents, selectedSeq := none }

def beginReturnToLive (c : ChatState) : ChatState :=
  { c with
    historyRevision := wrappingSucc c.historyRevision
    mode := .live
    follow := true
    buffer := .new maxLiveEvents
    selectedSeq := none
    newEvents := 0 }

def visible (c : ChatState) (event : WorkspaceEvent) : Bool :=
  c.allEvents || match event.kind with
    | .chat | .request | .result | .task => true
    | .memberJoined | .memberLeft | .integration => false

end ChatState

/-- Each number is followed by its successor. -/
def contiguous : List ℕ → Bool
  | a :: b :: rest => a + 1 = b && contiguous (b :: rest)
  | _ => true

def validHistoryPage (page : HistoryPage) (workspace : WorkspaceName) : Bool :=
  page.workspace = workspace && page.events.length ≤ maxHistoryEvents &&
    page.events.all (fun event => event.workspace = workspace && 0 < event.seq) &&
    contiguous (page.events.map WorkspaceEvent.seq) &&
    page.events.getLast?.all fun event => event.seq = page.nextCursor

/-- A page before a boundary, collected through the forward-only history. -/
structure PreviousHistoryLoad where
  boundary : ℕ
  after : ℕ
  buffer : EventBuffer
  done : Bool

end SessionRouter
