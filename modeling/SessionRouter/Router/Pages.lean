import SessionRouter.Router.State

/-!
The pages of a response: the longest prefix of the rows whose encoded message stays within the
response limit.
-/

namespace SessionRouter

open JsonValue (opt optField)

def optUuid : Option Uuid → JsonValue := opt fun id => .str id.toText

def optNat : Option ℕ → JsonValue := opt .num

def optStr : Option String → JsonValue := opt .str

def TaskSummary.toJson (t : TaskSummary) : JsonValue :=
  .obj [("id", .num t.id), ("workspace", .str t.workspace.asStr), ("title", .str t.title),
    ("state", .str t.state.asStr), ("version", .num t.version),
    ("assignedAgentId", optStr t.assignedAgentId), ("currentAttemptId", optUuid t.currentAttemptId),
    ("lastExecutorId", optStr t.lastExecutorId),
    ("executionSessionId", optUuid t.executionSessionId),
    ("lastCheckpointAt", optNat t.lastCheckpointAt),
    ("pauseReason", optStr (t.pauseReason.map PauseReason.asStr)),
    ("stopEvidence", optStr (t.stopEvidence.map StopEvidence.asStr)),
    ("createdAt", .num t.createdAt), ("updatedAt", .num t.updatedAt)]

def TaskEvent.fields (e : TaskEvent) : List (String × JsonValue) :=
  [("change", .str e.change.asStr), ("task", e.task.toJson), ("attemptId", optUuid e.attemptId),
    ("reportId", optUuid e.reportId), ("externalOperationId", optUuid e.externalOperationId)]

def TaskAttempt.toJson (a : TaskAttempt) : JsonValue :=
  .obj [("id", .str a.id.toText), ("taskId", .num a.taskId), ("agentId", .str a.agentId),
    ("sessionId", .str a.sessionId.toText), ("workRequestId", .str a.workRequestId),
    ("resumedFromCheckpointId", optUuid a.resumedFromCheckpointId),
    ("status", .str a.status.asStr), ("stopEvidence", .str a.stopEvidence.asStr),
    ("reason", optStr (a.reason.map PauseReason.asStr)), ("startedAt", .num a.startedAt),
    ("endedAt", optNat a.endedAt), ("stoppedAt", optNat a.stoppedAt)]

def TaskReportRecord.toJson (r : TaskReportRecord) : JsonValue :=
  .obj [("id", .str r.id.toText), ("taskId", .num r.taskId), ("attemptId", optUuid r.attemptId),
    ("actorId", .str r.actorId), ("kind", .str r.kind.asStr), ("body", r.body.toJson),
    ("createdAt", .num r.createdAt)]

def ExternalOperationSummary.toJson (o : ExternalOperationSummary) : JsonValue :=
  .obj [("id", .str o.id.toText), ("taskId", optNat o.taskId), ("provider", .str o.provider.asStr),
    ("kind", .str o.kind.asStr), ("status", .str o.status.asStr),
    ("sourceVersion", optNat o.sourceVersion), ("externalId", optStr o.externalId),
    ("url", optStr o.url), ("error", optStr o.error), ("createdAt", .num o.createdAt),
    ("updatedAt", .num o.updatedAt)]

def ExternalResolution.toJson (r : ExternalResolution) : JsonValue :=
  .obj [("id", .str r.id.toText), ("operationId", .str r.operationId.toText),
    ("actorId", .str r.actorId), ("outcome", .str r.outcome.asStr),
    ("externalId", optStr r.externalId), ("note", .str r.note), ("createdAt", .num r.createdAt)]

def IntegrationPublic.toJson (i : IntegrationPublic) : JsonValue :=
  .obj [("provider", .str i.provider.asStr), ("workspace", .str i.workspace.asStr),
    ("target", .str i.target), ("access", .str i.access.asStr), ("available", .bool i.available),
    ("error", optStr i.error)]

def IntegrationEvent.toJson (e : IntegrationEvent) : JsonValue :=
  .obj ([("change", .str e.change.asStr)] ++
    optField "integration" IntegrationPublic.toJson e.integration ++
    optField "operation" ExternalOperationSummary.toJson e.operation ++
    optField "resolution" ExternalResolution.toJson e.resolution)

/-- The text column of an event. -/
def EventContent.encoded : EventContent → String
  | text value => value
  | task value => String.ofList (JsonValue.obj value.fields).encode
  | integration value => String.ofList value.toJson.encode

def WorkspaceEvent.toJson (e : WorkspaceEvent) : JsonValue :=
  .obj ([("workspace", .str e.workspace.asStr), ("seq", .num e.seq), ("kind", .str e.kind.asStr),
      ("actorId", .str e.actorId), ("createdAt", .num e.createdAt)] ++
    optField "requestId" .str e.requestId ++ optField "targetId" .str e.targetId ++
    optField "taskId" .num e.taskId ++
    optField "content" (fun c => .str c.encoded) e.content ++
    optField "ok" .bool e.ok ++ optField "error" (fun c => .str c.asStr) e.error)

def WorkspaceSummary.toJson (w : WorkspaceSummary) : JsonValue :=
  .obj [("name", .str w.name.asStr), ("createdAt", .num w.createdAt),
    ("connectedAgents", .num w.connectedAgents)]

def TaskHistoryEvent.toJson (e : TaskHistoryEvent) : JsonValue :=
  .obj ([("seq", .num e.seq), ("actorId", .str e.actorId), ("createdAt", .num e.createdAt)] ++
    e.event.fields ++ optField "attempt" TaskAttempt.toJson e.attempt ++
    optField "report" TaskReportRecord.toJson e.report)

/-- The binary search of `largest_response_prefix` between `low` and `high`. -/
def prefixSearch (fits : ℕ → Bool) : ℕ → ℕ → ℕ → ℕ
  | 0, low, _ => low
  | fuel + 1, low, high =>
    if low < high then
      let middle := low + (high - low + 1) / 2
      if fits middle then prefixSearch fits fuel middle high
      else prefixSearch fits fuel low (middle - 1)
    else low

/-- Each round of the search shrinks the interval, so `itemCount` rounds are enough. -/
def largestResponsePrefix (itemCount : ℕ) (encodedSize : ℕ → ℕ) : Except ActorError ℕ :=
  let fits (count : ℕ) : Bool := encodedSize count ≤ maxResponseBytes
  if !fits 0 then .error { code := .messageTooLarge }
  else
    let low := prefixSearch fits itemCount 0 itemCount
    if 0 < itemCount ∧ low = 0 then .error { code := .messageTooLarge } else .ok low

/-- Cut `items` to the longest prefix that fits and report the cursor of the last one kept and
whether more follow. `budget` is the encoded message for a prefix, its cursor and that flag. -/
def boundPage {α κ : Type} (items : List α) (cursor : α → κ) (inputCursor : κ)
    (sourceHasMore : Bool) (budget : List α → κ → Bool → JsonValue) :
    Except ActorError (List α × κ × Bool) :=
  let itemCount := items.length
  let page (count : ℕ) : List α × κ × Bool :=
    (items.take count, ((items.take count).getLast?.map cursor).getD inputCursor,
      sourceHasMore || count < itemCount)
  (largestResponsePrefix itemCount fun count =>
    (budget (page count).1 (page count).2.1 (page count).2.2).encodedLen).map page

def boundHistoryPage (messageType requestId : String) (workspace : WorkspaceName)
    (events : List WorkspaceEvent) (inputCursor : ℕ) (sourceHasMore : Bool) :
    Except ActorError (List WorkspaceEvent × ℕ × Bool) :=
  boundPage events WorkspaceEvent.seq inputCursor sourceHasMore fun kept cursor hasMore =>
    .obj [("type", .str messageType), ("requestId", .str requestId),
      ("workspace", .str workspace.asStr), ("events", .arr (kept.map WorkspaceEvent.toJson)),
      ("nextCursor", .num cursor),
      if messageType = "workspace_subscription" then ("live", .bool !hasMore)
      else ("hasMore", .bool hasMore)]

def boundTaskHistory (requestId : String) (workspace : WorkspaceName) (taskId : ℕ)
    (events : List TaskHistoryEvent) (inputCursor : ℕ) (sourceHasMore : Bool) :
    Except ActorError (List TaskHistoryEvent × ℕ × Bool) :=
  boundPage events TaskHistoryEvent.seq inputCursor sourceHasMore fun kept cursor hasMore =>
    .obj [("type", .str "task_history"), ("requestId", .str requestId),
      ("workspace", .str workspace.asStr), ("taskId", .num taskId),
      ("events", .arr (kept.map TaskHistoryEvent.toJson)), ("nextCursor", .num cursor),
      ("hasMore", .bool hasMore)]

def boundWorkspaceList (requestId : String) (workspaces : List WorkspaceSummary)
    (inputCursor : Option String) (sourceHasMore : Bool) :
    Except ActorError (List WorkspaceSummary × Option String × Bool) :=
  boundPage workspaces (fun w => some w.name.asStr) inputCursor sourceHasMore
    fun kept cursor hasMore =>
      .obj [("type", .str "workspaces"), ("requestId", .str requestId),
        ("workspaces", .arr (kept.map WorkspaceSummary.toJson)), ("nextCursor", optStr cursor),
        ("hasMore", .bool hasMore)]

def boundTaskList (requestId : String) (workspace : WorkspaceName) (tasks : List TaskSummary)
    (inputCursor : ℕ) (sourceHasMore : Bool) : Except ActorError (List TaskSummary × ℕ × Bool) :=
  boundPage tasks TaskSummary.id inputCursor sourceHasMore fun kept cursor hasMore =>
    .obj [("type", .str "tasks"), ("requestId", .str requestId),
      ("workspace", .str workspace.asStr), ("tasks", .arr (kept.map TaskSummary.toJson)),
      ("nextCursor", .num cursor), ("hasMore", .bool hasMore)]

end SessionRouter
