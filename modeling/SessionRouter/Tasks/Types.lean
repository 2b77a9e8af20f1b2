import SessionRouter.Protocol.Names

/-!
The records and validators of the task domain. Integers that every peer rejects when negative
are natural numbers.
-/

namespace SessionRouter

def maxTitleBytes : ℕ := 1024
def maxTitleScalars : ℕ := 256
def maxDescriptionBytes : ℕ := 64 * 1024
def maxNoteBytes : ℕ := 16 * 1024
def maxHandoffNoteBytes : ℕ := 4 * 1024
def maxCheckpointTextBytes : ℕ := 8 * 1024
def maxCheckpointBytes : ℕ := 32 * 1024
def maxArtifacts : ℕ := 32
def maxArtifactBytes : ℕ := 512

inductive TaskState where
  | todo | inProgress | blocked | paused | done | cancelled
  deriving DecidableEq, Repr

namespace TaskState

def isTerminal : TaskState → Bool
  | done | cancelled => true
  | _ => false

def isBeginable : TaskState → Bool
  | todo | paused | blocked => true
  | _ => false

def asStr : TaskState → String
  | todo => "todo"
  | inProgress => "in_progress"
  | blocked => "blocked"
  | paused => "paused"
  | done => "done"
  | cancelled => "cancelled"

end TaskState

inductive AttemptStatus where
  | running | released | completed | interrupted
  deriving DecidableEq, Repr

inductive StopEvidence where
  | released | confirmed | unknown
  deriving DecidableEq, Repr

inductive PauseReason where
  | paused | blocked | transportLost | credentialRevoked | sessionEnded | routerRestarted
  | requestTimeout | requestCancelled | turnEnded | hostError | operatorInterrupt
  | replyWithoutRelease
  deriving DecidableEq, Repr

inductive ReportKind where
  | note | checkpoint | result
  deriving DecidableEq, Repr

inductive ExternalProvider where
  | github | linear
  deriving DecidableEq, Repr

inductive ExternalOperationKind where
  | importTask | link | publishIssue | publishReport
  deriving DecidableEq, Repr

inductive ExternalOperationStatus where
  | running | succeeded | failed | unconfirmed
  deriving DecidableEq, Repr

inductive ExternalPublishKind where
  | issue | report
  deriving DecidableEq, Repr

inductive ExternalResolutionOutcome where
  | applied | notApplied
  deriving DecidableEq, Repr

inductive IntegrationChange where
  | configured | disabled | operation | resolved
  deriving DecidableEq, Repr

inductive IntegrationAccess where
  | read | write
  deriving DecidableEq, Repr

inductive TaskChange where
  | created | edited | assigned | begun | checkpoint | noted | paused | completed | interrupted
  | stopped | cancelled | reopened | external
  deriving DecidableEq, Repr

def AttemptStatus.asStr : AttemptStatus → String
  | running => "running"
  | released => "released"
  | completed => "completed"
  | interrupted => "interrupted"

def StopEvidence.asStr : StopEvidence → String
  | released => "released"
  | confirmed => "confirmed"
  | unknown => "unknown"

def PauseReason.asStr : PauseReason → String
  | paused => "paused"
  | blocked => "blocked"
  | transportLost => "transport_lost"
  | credentialRevoked => "credential_revoked"
  | sessionEnded => "session_ended"
  | routerRestarted => "router_restarted"
  | requestTimeout => "request_timeout"
  | requestCancelled => "request_cancelled"
  | turnEnded => "turn_ended"
  | hostError => "host_error"
  | operatorInterrupt => "operator_interrupt"
  | replyWithoutRelease => "reply_without_release"

def ReportKind.asStr : ReportKind → String
  | note => "note"
  | checkpoint => "checkpoint"
  | result => "result"

def ExternalProvider.asStr : ExternalProvider → String
  | github => "github"
  | linear => "linear"

def ExternalOperationKind.asStr : ExternalOperationKind → String
  | importTask => "import"
  | link => "link"
  | publishIssue => "publish_issue"
  | publishReport => "publish_report"

def ExternalOperationStatus.asStr : ExternalOperationStatus → String
  | running => "running"
  | succeeded => "succeeded"
  | failed => "failed"
  | unconfirmed => "unconfirmed"

def ExternalResolutionOutcome.asStr : ExternalResolutionOutcome → String
  | applied => "applied"
  | notApplied => "not_applied"

def IntegrationChange.asStr : IntegrationChange → String
  | configured => "configured"
  | disabled => "disabled"
  | operation => "operation"
  | resolved => "resolved"

def IntegrationAccess.asStr : IntegrationAccess → String
  | read => "read"
  | write => "write"

def TaskChange.asStr : TaskChange → String
  | created => "created"
  | edited => "edited"
  | assigned => "assigned"
  | begun => "begun"
  | checkpoint => "checkpoint"
  | noted => "noted"
  | paused => "paused"
  | completed => "completed"
  | interrupted => "interrupted"
  | stopped => "stopped"
  | cancelled => "cancelled"
  | reopened => "reopened"
  | external => "external"

structure TaskCheckpoint where
  summary : String
  nextSteps : String
  artifacts : List String
  risks : String
  deriving DecidableEq

def TaskCheckpoint.toJson (c : TaskCheckpoint) : JsonValue :=
  .obj [("summary", .str c.summary), ("nextSteps", .str c.nextSteps),
    ("artifacts", .arr (c.artifacts.map .str)), ("risks", .str c.risks)]

structure TaskSummary where
  id : ℕ
  workspace : WorkspaceName
  title : String
  state : TaskState
  version : ℕ
  assignedAgentId : Option String
  currentAttemptId : Option Uuid
  lastExecutorId : Option String
  executionSessionId : Option Uuid
  lastCheckpointAt : Option ℕ
  pauseReason : Option PauseReason
  stopEvidence : Option StopEvidence
  createdAt : ℕ
  updatedAt : ℕ
  deriving DecidableEq

structure TaskAttempt where
  id : Uuid
  taskId : ℕ
  agentId : String
  sessionId : Uuid
  workRequestId : String
  resumedFromCheckpointId : Option Uuid
  status : AttemptStatus
  stopEvidence : StopEvidence
  reason : Option PauseReason
  startedAt : ℕ
  endedAt : Option ℕ
  stoppedAt : Option ℕ
  deriving DecidableEq

inductive ReportBody where
  | checkpoint (value : TaskCheckpoint)
  | text (value : String)
  deriving DecidableEq

def ReportBody.toJson : ReportBody → JsonValue
  | checkpoint value => value.toJson
  | text value => .str value

structure TaskReportRecord where
  id : Uuid
  taskId : ℕ
  attemptId : Option Uuid
  actorId : String
  kind : ReportKind
  body : ReportBody
  createdAt : ℕ
  deriving DecidableEq

structure ExternalLink where
  provider : ExternalProvider
  ns : String
  externalId : String
  url : String
  linkedAt : ℕ
  deriving DecidableEq

structure ExternalOperationSummary where
  id : Uuid
  taskId : Option ℕ
  provider : ExternalProvider
  kind : ExternalOperationKind
  status : ExternalOperationStatus
  sourceVersion : Option ℕ
  externalId : Option String
  url : Option String
  error : Option String
  createdAt : ℕ
  updatedAt : ℕ
  deriving DecidableEq

structure ExternalResolution where
  id : Uuid
  operationId : Uuid
  actorId : String
  outcome : ExternalResolutionOutcome
  externalId : Option String
  note : String
  createdAt : ℕ
  deriving DecidableEq

structure IntegrationPublic where
  provider : ExternalProvider
  workspace : WorkspaceName
  target : String
  access : IntegrationAccess
  available : Bool
  error : Option String
  deriving DecidableEq

structure IntegrationEvent where
  change : IntegrationChange
  integration : Option IntegrationPublic
  operation : Option ExternalOperationSummary
  resolution : Option ExternalResolution
  deriving DecidableEq

structure TaskDetail where
  summary : TaskSummary
  description : String
  createdBy : String
  updatedBy : String
  currentAttempt : Option TaskAttempt
  lastAttempt : Option TaskAttempt
  checkpoint : Option TaskReportRecord
  result : Option TaskReportRecord
  links : List ExternalLink
  externalOperations : List ExternalOperationSummary
  deriving DecidableEq

structure TaskMutationResult where
  operationId : Uuid
  appliedVersion : ℕ
  reportId : Option Uuid
  task : TaskDetail
  deriving DecidableEq

structure TaskEvent where
  change : TaskChange
  task : TaskSummary
  attemptId : Option Uuid
  reportId : Option Uuid
  externalOperationId : Option Uuid
  deriving DecidableEq

def validateText (value : String) (maxBytes : ℕ) : Bool := value.utf8ByteSize ≤ maxBytes

def validateNonemptyText (value : String) (maxBytes : ℕ) : Bool :=
  value ≠ "" && validateText value maxBytes

def validateTitle (title : String) : Bool :=
  validateNonemptyText title maxTitleBytes && title.length ≤ maxTitleScalars

def validateDescription (description : String) : Bool :=
  validateText description maxDescriptionBytes

def validateNote (note : String) : Bool := validateNonemptyText note maxNoteBytes

def validateHandoffNote (note : String) : Bool := validateNonemptyText note maxHandoffNoteBytes

def validatePositiveSafeInteger (value : ℕ) : Bool := 1 ≤ value && value ≤ maxSafeInteger

def TaskCheckpoint.validate (c : TaskCheckpoint) : Bool :=
  validateNonemptyText c.summary maxCheckpointTextBytes &&
  validateText c.nextSteps maxCheckpointTextBytes &&
  validateText c.risks maxCheckpointTextBytes &&
  c.artifacts.length ≤ maxArtifacts &&
  (c.artifacts.all fun artifact => validateNonemptyText artifact maxArtifactBytes) &&
  c.toJson.encodedLen ≤ maxCheckpointBytes

inductive TaskCommand where
  | create (operationId : Uuid) (title description : String)
  | edit (operationId : Uuid) (taskId expectedVersion : ℕ) (title description : Option String)
  | assign (operationId : Uuid) (taskId expectedVersion : ℕ) (agentId : Option String)
  | note (operationId : Uuid) (taskId : ℕ) (text : String)
  | begin (operationId : Uuid) (taskId : ℕ) (workRequestId : String) (expectedVersion : ℕ)
      (lastCheckpointId : Option Uuid) (resumeNote : String)
  | checkpoint (operationId : Uuid) (taskId : ℕ) (attemptId : Uuid) (expectedVersion : ℕ)
      (checkpoint : TaskCheckpoint)
  | pause (operationId : Uuid) (taskId : ℕ) (attemptId : Uuid) (expectedVersion : ℕ)
      (checkpoint : TaskCheckpoint) (blocked : Bool)
  | complete (operationId : Uuid) (taskId : ℕ) (attemptId : Uuid) (expectedVersion : ℕ)
      (result : TaskCheckpoint)
  | cancel (operationId : Uuid) (taskId expectedVersion : ℕ) (note : String)
  | reopen (operationId : Uuid) (taskId expectedVersion : ℕ) (note : String)
  | interrupt (operationId : Uuid) (taskId expectedVersion : ℕ) (note : String)
  | confirmStopped (operationId : Uuid) (taskId : ℕ) (attemptId : Uuid) (expectedVersion : ℕ)
      (note : String)
  deriving DecidableEq

/-- `task_command_id`: the task of a command, absent for a creation. -/
def TaskCommand.taskId? : TaskCommand → Option ℕ
  | create .. => none
  | edit _ taskId .. | assign _ taskId .. | note _ taskId .. | begin _ taskId ..
  | checkpoint _ taskId .. | pause _ taskId .. | complete _ taskId .. | cancel _ taskId ..
  | reopen _ taskId .. | interrupt _ taskId .. | confirmStopped _ taskId .. => some taskId

def TaskCommand.operationId : TaskCommand → Uuid
  | create operationId .. | edit operationId .. | assign operationId .. | note operationId ..
  | begin operationId .. | checkpoint operationId .. | pause operationId ..
  | complete operationId .. | cancel operationId .. | reopen operationId ..
  | interrupt operationId .. | confirmStopped operationId .. => operationId

inductive CallerRole where
  | agent | delegate | operator | admin
  deriving DecidableEq, Repr

structure ReservationFence where
  workRequestId : String
  taskId : ℕ
  deriving DecidableEq

structure CallerContext where
  actorId : String
  role : CallerRole
  workspace : WorkspaceName
  agentId : Option String
  credentialId : Uuid
  sessionId : Option Uuid
  connectionGeneration : ℕ
  reservation : Option ReservationFence
  deriving DecidableEq

end SessionRouter
