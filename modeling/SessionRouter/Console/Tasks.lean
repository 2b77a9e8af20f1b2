import SessionRouter.Lib.Ordered
import SessionRouter.Protocol.Messages

/-!
The task list of the console: one page of rows under a filter, the selected task with its detail,
and the summaries that arrive while a page is on its way.
-/

namespace SessionRouter

def maxPageBacktrack : ℕ := 128
def maxTaskOverlays : ℕ := 1000

/-- `wrapping_add(1)` on a 64-bit counter. -/
def wrappingSucc (n : ℕ) : ℕ := (n + 1) % 2 ^ 64

structure WorkspaceStamp where
  generation : ℕ
  workspace : WorkspaceName
  deriving DecidableEq

structure ReadTicket where
  stamp : WorkspaceStamp
  revision : ℕ
  deriving DecidableEq

structure TaskHistoryPage where
  workspace : WorkspaceName
  taskId : ℕ
  events : List TaskHistoryEvent
  nextCursor : ℕ
  hasMore : Bool
  deriving DecidableEq

/-- Bounded cursor navigation. -/
structure Pagination (C : Type) where
  after : Option C := none
  nextCursor : Option C := none
  hasMore : Bool := false
  pageNumber : ℕ := 1
  previous : List (Option C) := []

namespace Pagination

variable {C : Type}

def nextPage (p : Pagination C) : Pagination C :=
  if !p.hasMore || p.nextCursor.isNone then p
  else
    let previous := if p.previous.length = maxPageBacktrack then p.previous.tail else p.previous
    { after := p.nextCursor
      nextCursor := none
      hasMore := false
      pageNumber := min (p.pageNumber + 1) (2 ^ 64 - 1)
      previous := previous ++ [p.after] }

def previousPage (p : Pagination C) : Pagination C :=
  match p.previous.getLast? with
  | none => p
  | some after =>
    { after
      nextCursor := none
      hasMore := false
      pageNumber := max (p.pageNumber - 1) 1
      previous := p.previous.dropLast }

end Pagination

structure TaskFilter where
  states : List TaskState := [.todo, .inProgress, .blocked, .paused, .done, .cancelled]
  assignedAgentId : Option String := none
  deriving DecidableEq

def TaskFilter.accepts (f : TaskFilter) (task : TaskSummary) : Bool :=
  f.states.contains task.state &&
    f.assignedAgentId.all fun agent => task.assignedAgentId = some agent

structure TaskPage where
  rows : Table ℕ TaskSummary := ∅
  selectedId : Option ℕ := none
  selectedSummary : Option TaskSummary := none
  detail : Option TaskDetail := none
  detailStale : Bool := false
  filter : TaskFilter := {}
  pagination : Pagination ℕ := {}
  history : Option TaskHistoryPage := none
  historyPagination : Pagination ℕ := {}
  refreshRequired : Bool := false
  listRevision : ℕ := 0
  listInFlight : Bool := false
  detailRevision : ℕ := 0
  historyRevision : ℕ := 0
  overlays : Table ℕ TaskSummary := ∅

/-- A held summary is newer than the one that arrives. -/
def newerThan (held : Option TaskSummary) (task : TaskSummary) : Bool :=
  held.any fun old => task.version < old.version

/-- The newest of a summary and what is held of its task; an earlier one wins a tie. -/
def newestOf (task : TaskSummary) (held : List (Option TaskSummary)) : TaskSummary :=
  held.foldl (fun task newer => if newerThan newer task then newer.getD task else task) task

namespace TaskPage

/-- The selected summary, when it is the one of this task. -/
def selectedOf (p : TaskPage) (id : ℕ) : Option TaskSummary :=
  p.selectedSummary.filter fun selected => selected.id = id

def select (p : TaskPage) (id : Option ℕ) : TaskPage :=
  if p.selectedId = id then p
  else { p with
    selectedId := id
    selectedSummary := id.bind p.rows.get?
    detail := none
    detailStale := id.isSome
    history := none
    historyPagination := {}
    detailRevision := wrappingSucc p.detailRevision
    historyRevision := wrappingSucc p.historyRevision }

def invalidateReads (p : TaskPage) : TaskPage :=
  { p with
    listRevision := wrappingSucc p.listRevision
    detailRevision := wrappingSucc p.detailRevision
    historyRevision := wrappingSucc p.historyRevision
    listInFlight := false
    overlays := ∅
    detailStale := p.selectedId.isSome }

def setFilter (p : TaskPage) (filter : TaskFilter) : TaskPage :=
  let cleared := { p with filter, pagination := {}, rows := ∅ }
  { (cleared.select none).invalidateReads with refreshRequired := true }

/-- Move the selection in the order of the rows. -/
def selectRelative (p : TaskPage) (delta : ℤ) : TaskPage :=
  let keys := p.rows.sortedKeys
  if keys.isEmpty then p.select none
  else
    let current := (keys.findIdx? fun id => some id = p.selectedId).getD 0
    let index := min ((current : ℤ) + delta).toNat (keys.length - 1)
    p.select keys[index]?

def beginLoad (p : TaskPage) (stamp : WorkspaceStamp) : ReadTicket × TaskPage :=
  let revision := wrappingSucc p.listRevision
  ({ stamp, revision },
    { p with listRevision := revision, listInFlight := true, overlays := ∅ })

def failLoad (p : TaskPage) (revision : ℕ) : TaskPage :=
  if revision = p.listRevision then { p with listInFlight := false, overlays := ∅ } else p

def observeSelected (p : TaskPage) (task : TaskSummary) : TaskPage :=
  if newerThan (p.selectedOf task.id) task then p
  else { p with
    detailStale := p.detail.all fun detail =>
      detail.summary.id ≠ task.id || detail.summary.version < task.version
    selectedSummary := some task }

/-- The page still knows a newer summary of the task. -/
def stale (p : TaskPage) (task : TaskSummary) : Bool :=
  newerThan (p.rows.get? task.id) task || newerThan (p.selectedOf task.id) task ||
    newerThan (p.overlays.get? task.id) task

/-- Keep a summary for the page that is on its way. Without room for it the load is given up. -/
def keepOverlay (p : TaskPage) (task : TaskSummary) : TaskPage :=
  if p.listInFlight then
    if maxTaskOverlays ≤ p.overlays.size && !p.overlays.contains task.id then
      { p with
        listInFlight := false
        listRevision := wrappingSucc p.listRevision
        overlays := ∅
        refreshRequired := true }
    else { p with overlays := p.overlays.put task.id task }
  else p

def keepSelected (p : TaskPage) (task : TaskSummary) : TaskPage :=
  if p.selectedId = some task.id then p.observeSelected task else p

def keepRow (p : TaskPage) (task : TaskSummary) : TaskPage :=
  if p.rows.contains task.id then
    if p.filter.accepts task then { p with rows := p.rows.put task.id task }
    else { p with rows := p.rows.remove task.id }
  else { p with refreshRequired := true }

/-- Take in a summary; the flag asks for a new detail. -/
def observe (p : TaskPage) (task : TaskSummary) : Bool × TaskPage :=
  if p.stale task then (false, p)
  else
    let p := ((p.keepOverlay task).keepSelected task).keepRow task
    (p.selectedId = some task.id && p.detailStale, p)

/-- The row of a listed task: the newest summary known, if the filter accepts it. -/
def addListed (p : TaskPage) (rows : Table ℕ TaskSummary) (task : TaskSummary) :
    Table ℕ TaskSummary :=
  let newest := newestOf task
    [p.rows.get? task.id, p.overlays.get? task.id, p.selectedOf task.id]
  if p.filter.accepts newest then rows.put newest.id newest else rows

/-- An overlay joins the page it belongs to. -/
def addOverlay (p : TaskPage) (nextCursor : ℕ) (hasMore : Bool) (rows : Table ℕ TaskSummary)
    (task : TaskSummary) : Table ℕ TaskSummary :=
  if p.pagination.after.getD 0 < task.id && (task.id ≤ nextCursor || !hasMore) &&
      p.filter.accepts task && (rows.get? task.id).all fun old => old.version < task.version
  then rows.put task.id task
  else rows

/-- The rows of a page before they are cut to the limit. -/
def mergedRows (p : TaskPage) (tasks : List TaskSummary) (nextCursor : ℕ) (hasMore : Bool) :
    Table ℕ TaskSummary :=
  (p.overlays.toList.map Prod.snd).foldl (p.addOverlay nextCursor hasMore)
    ((tasks.take maxPageLimit).foldl p.addListed ∅)

/-- The page with its new rows, before the selection follows them. -/
def withRows (p : TaskPage) (tasks : List TaskSummary) (nextCursor : ℕ) (hasMore : Bool) :
    TaskPage :=
  let merged := p.mergedRows tasks nextCursor hasMore
  let overflow := maxPageLimit < merged.size
  let rows := merged.trim maxPageLimit merged.size
  { p with
    rows
    pagination := { p.pagination with
      nextCursor := some (if overflow then rows.lastKey?.getD nextCursor else nextCursor)
      hasMore := hasMore || overflow }
    listInFlight := false
    overlays := ∅
    refreshRequired := false }

def followSelection (p : TaskPage) : TaskPage :=
  match p.selectedId with
  | none => p.select p.rows.firstKey?
  | some id =>
    match p.rows.get? id with
    | some task => p.observeSelected task
    | none => p

def applyPage (p : TaskPage) (revision : ℕ) (tasks : List TaskSummary) (nextCursor : ℕ)
    (hasMore : Bool) : Bool × TaskPage :=
  if revision ≠ p.listRevision || !p.listInFlight then (false, p)
  else (true, (p.withRows tasks nextCursor hasMore).followSelection)

def beginDetailLoad (p : TaskPage) (stamp : WorkspaceStamp) : ReadTicket × TaskPage :=
  let revision := wrappingSucc p.detailRevision
  ({ stamp, revision }, { p with detailRevision := revision })

def applyDetail (p : TaskPage) (revision : ℕ) (detail : TaskDetail) : Bool × TaskPage :=
  if revision ≠ p.detailRevision || p.selectedId ≠ some detail.summary.id then (false, p)
  else if newerThan p.selectedSummary detail.summary ||
      newerThan (p.rows.get? detail.summary.id) detail.summary then
    (false, { p with detailStale := true })
  else (true, { (p.observe detail.summary).2 with detail := some detail, detailStale := false })

def beginHistoryLoad (p : TaskPage) (stamp : WorkspaceStamp) : ReadTicket × TaskPage :=
  let revision := wrappingSucc p.historyRevision
  ({ stamp, revision }, { p with historyRevision := revision })

def applyHistory (p : TaskPage) (revision : ℕ) (page : TaskHistoryPage) : Bool × TaskPage :=
  if revision ≠ p.historyRevision || some page.taskId ≠ p.selectedId then (false, p)
  else (true, { p with
    historyPagination := { p.historyPagination with
      nextCursor := some page.nextCursor
      hasMore := page.hasMore }
    history := some { page with events := page.events.take maxPageLimit } })

end TaskPage

/-- A task that may be handed to its assignee. -/
def requestableTask (detail : TaskDetail) : Bool :=
  detail.summary.state.isBeginable && detail.summary.assignedAgentId.isSome &&
    detail.summary.currentAttemptId.isNone && detail.currentAttempt.isNone &&
    detail.summary.stopEvidence ≠ some .unknown

/-- The attempt an operator may confirm as stopped. -/
def confirmableAttempt (detail : TaskDetail) : Option Uuid :=
  if detail.currentAttempt.isSome || detail.summary.currentAttemptId.isSome ||
      detail.summary.stopEvidence ≠ some .unknown then none
  else (detail.lastAttempt.filter fun attempt =>
    attempt.status = .interrupted && attempt.stopEvidence = .unknown).map TaskAttempt.id

namespace TaskPage

def canRequest (p : TaskPage) : Bool := !p.detailStale && p.detail.any requestableTask

def confirmable (p : TaskPage) : Option Uuid :=
  if p.detailStale then none else p.detail.bind confirmableAttempt

end TaskPage

end SessionRouter
