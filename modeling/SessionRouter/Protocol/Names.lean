import SessionRouter.Lib.Json
import Mathlib.Data.Nat.Digits.Defs

/-!
Identifiers, names and error codes of the wire protocol.
-/

namespace SessionRouter

/-- The largest integer every JSON peer represents exactly. -/
def maxSafeInteger : ℕ := 9007199254740991
def maxRequestTimeoutMs : ℕ := 600000
def defaultRequestTimeoutMs : ℕ := 60000
def maxSharedContentBytes : ℕ := 64 * 1024
def maxJsonStringBytes : ℕ := 128 * 1024
def maxResponseBytes : ℕ := 256 * 1024
def maxErrorBytes : ℕ := 256
def maxWorkspaceNameBytes : ℕ := 64
def maxAgentIdBytes : ℕ := 128
def defaultPageLimit : ℕ := 50
def maxPageLimit : ℕ := 100
def maxGrants : ℕ := 64

/-- A UUID by its numeric value. Text order is numeric order, and the nil UUID is zero. -/
structure Uuid where
  val : ℕ
  deriving DecidableEq, Repr

namespace Uuid

def nil : Uuid := ⟨0⟩

def isNil (u : Uuid) : Bool := u = nil

/-- The 32 hexadecimal digits without hyphens. -/
def simple (u : Uuid) : String :=
  let digits := (Nat.digits 16 u.val).map JsonValue.hexDigit
  String.ofList ((digits ++ List.replicate (32 - digits.length) '0').reverse)

/-- The hyphenated text form. -/
def toText (u : Uuid) : String :=
  let cs := u.simple.toList
  String.ofList (cs.take 8 ++ '-' :: (cs.drop 8).take 4 ++ '-' :: (cs.drop 12).take 4 ++
    '-' :: (cs.drop 16).take 4 ++ '-' :: cs.drop 20)

end Uuid

inductive RouterErrorCode where
  | invalidMessage | protocolMismatch | unauthorized | notRegistered | agentConflict
  | targetOffline | targetNotReady | requestConflict | requestNotFound | replyForbidden
  | targetDisconnected | requesterDisconnected | requestTimeout | requestCancelled
  | workspaceRequired | workspaceNotFound | workspaceConflict | workspaceAlreadyJoined
  | workspaceBusy | workspaceMismatch | permissionDenied | messageTooLarge | rateLimited
  | storageError | storeInUse | configurationRequired | routerRestarted | sessionBusy
  | providerError | providerNotReady | providerDisconnected | replyMissing | taskNotFound
  | taskConflict | taskNotAssigned | taskActive | taskStaleAttempt | taskStopUnconfirmed
  | taskInvalidTransition | taskInterrupted | integrationNotConfigured | integrationBusy
  | integrationError | externalUnconfirmed | externalConflict
  | integrationConfigurationInvalid | sessionAdapterFailed | claudeProtocolError
  | claudeNoResult | claudeSdkError | claudeMaxTurns | claudeMaxBudget
  | claudeStructuredOutputError | claudeExecutionError | codexProtocolError
  | codexNoFinalResponse | codexTurnInterrupted | codexTurnFailed | leaveUnconfirmed
  deriving DecidableEq, Repr

namespace RouterErrorCode

def asStr : RouterErrorCode → String
  | invalidMessage => "invalid_message"
  | protocolMismatch => "protocol_mismatch"
  | unauthorized => "unauthorized"
  | notRegistered => "not_registered"
  | agentConflict => "agent_conflict"
  | targetOffline => "target_offline"
  | targetNotReady => "target_not_ready"
  | requestConflict => "request_conflict"
  | requestNotFound => "request_not_found"
  | replyForbidden => "reply_forbidden"
  | targetDisconnected => "target_disconnected"
  | requesterDisconnected => "requester_disconnected"
  | requestTimeout => "request_timeout"
  | requestCancelled => "request_cancelled"
  | workspaceRequired => "workspace_required"
  | workspaceNotFound => "workspace_not_found"
  | workspaceConflict => "workspace_conflict"
  | workspaceAlreadyJoined => "workspace_already_joined"
  | workspaceBusy => "workspace_busy"
  | workspaceMismatch => "workspace_mismatch"
  | permissionDenied => "permission_denied"
  | messageTooLarge => "message_too_large"
  | rateLimited => "rate_limited"
  | storageError => "storage_error"
  | storeInUse => "store_in_use"
  | configurationRequired => "configuration_required"
  | routerRestarted => "router_restarted"
  | sessionBusy => "session_busy"
  | providerError => "provider_error"
  | providerNotReady => "provider_not_ready"
  | providerDisconnected => "provider_disconnected"
  | replyMissing => "reply_missing"
  | taskNotFound => "task_not_found"
  | taskConflict => "task_conflict"
  | taskNotAssigned => "task_not_assigned"
  | taskActive => "task_active"
  | taskStaleAttempt => "task_stale_attempt"
  | taskStopUnconfirmed => "task_stop_unconfirmed"
  | taskInvalidTransition => "task_invalid_transition"
  | taskInterrupted => "task_interrupted"
  | integrationNotConfigured => "integration_not_configured"
  | integrationBusy => "integration_busy"
  | integrationError => "integration_error"
  | externalUnconfirmed => "external_unconfirmed"
  | externalConflict => "external_conflict"
  | integrationConfigurationInvalid => "integration_configuration_invalid"
  | sessionAdapterFailed => "session_adapter_failed"
  | claudeProtocolError => "claude_protocol_error"
  | claudeNoResult => "claude_no_result"
  | claudeSdkError => "claude_sdk_error"
  | claudeMaxTurns => "claude_max_turns"
  | claudeMaxBudget => "claude_max_budget"
  | claudeStructuredOutputError => "claude_structured_output_error"
  | claudeExecutionError => "claude_execution_error"
  | codexProtocolError => "codex_protocol_error"
  | codexNoFinalResponse => "codex_no_final_response"
  | codexTurnInterrupted => "codex_turn_interrupted"
  | codexTurnFailed => "codex_turn_failed"
  | leaveUnconfirmed => "leave_unconfirmed"

end RouterErrorCode

def isAscii (s : String) : Bool := s.toList.all fun c => c.toNat < 128

def isAsciiAlphanumeric (c : Char) : Bool := c.isAlphanum

/-- The first character is alphanumeric, each later one is alphanumeric or one of `extra`. -/
def isIdentifier (extra : List Char) : List Char → Bool
  | [] => false
  | c :: cs => isAsciiAlphanumeric c && cs.all fun d => isAsciiAlphanumeric d || d ∈ extra

def isWorkspaceName (value : String) : Bool :=
  value.utf8ByteSize ≤ maxWorkspaceNameBytes && isIdentifier ['.', '_', '-'] value.toList

def isRequestId (value : String) : Bool :=
  value.utf8ByteSize ≤ maxAgentIdBytes && isIdentifier ['.', '_', '-', ':'] value.toList

def startsWith (head value : String) : Bool := head.toList.isPrefixOf value.toList

def isAgentId (value : String) : Bool :=
  isRequestId value && !startsWith "operator:" value && !startsWith "system:" value

/-- A workspace name that passed `isWorkspaceName`. -/
structure WorkspaceName where
  asStr : String
  valid : isWorkspaceName asStr = true
  deriving DecidableEq

/-- `char::is_control`: the C0 and C1 controls and DEL. -/
def isControl (c : Char) : Bool := c.toNat < 32 || (127 ≤ c.toNat && c.toNat < 160)

inductive AgentSide where
  | claude | codex | generic
  deriving DecidableEq, Repr

inductive AgentClient where
  | omp | claudeCode | claudeSdk | codexCli | codexAppServer | generic
  deriving DecidableEq, Repr

inductive AgentStatus where
  | idle | busy
  deriving DecidableEq, Repr

inductive DeliveryMode where
  | push | pull
  deriving DecidableEq, Repr

def AgentSide.asStr : AgentSide → String
  | claude => "claude"
  | codex => "codex"
  | generic => "generic"

def AgentClient.asStr : AgentClient → String
  | omp => "omp"
  | claudeCode => "claude-code"
  | claudeSdk => "claude-sdk"
  | codexCli => "codex-cli"
  | codexAppServer => "codex-app-server"
  | generic => "generic"

def AgentStatus.asStr : AgentStatus → String
  | idle => "idle"
  | busy => "busy"

def DeliveryMode.asStr : DeliveryMode → String
  | push => "push"
  | pull => "pull"

def validAgentClient : AgentSide → AgentClient → Bool
  | .generic, .omp | .generic, .generic => true
  | .claude, .claudeCode | .claude, .claudeSdk => true
  | .codex, .codexCli | .codex, .codexAppServer => true
  | _, _ => false

structure AgentRegistration where
  agentId : String
  side : AgentSide
  client : AgentClient
  activity : Option String
  deliveryMode : DeliveryMode
  deriving DecidableEq

structure AgentDescriptor where
  agentId : String
  side : AgentSide
  client : AgentClient
  activity : Option String
  status : AgentStatus
  deliveryMode : DeliveryMode
  ready : Bool
  sessionId : Uuid
  deriving DecidableEq

structure TaskDispatch where
  id : ℕ
  expectedVersion : ℕ
  deriving DecidableEq

structure TaskFence where
  taskId : ℕ
  attemptId : Uuid
  deriving DecidableEq

inductive CredentialRole where
  | agent | operator
  deriving DecidableEq, Repr

inductive OnboardingProvider where
  | claudeCode | codexCli | omp
  deriving DecidableEq, Repr

def OnboardingProvider.identity : OnboardingProvider → AgentSide × AgentClient
  | claudeCode => (.claude, .claudeCode)
  | codexCli => (.codex, .codexCli)
  | omp => (.generic, .omp)

/-- The base64url characters whose two low bits are zero: the only ones that may end the
canonical encoding of 32 bytes. -/
def tokenLastChars : List Char := "AEIMQUYcgkosw048".toList

def isBearerChar (c : Char) : Bool := isAsciiAlphanumeric c || c = '-' || c = '_'

def validBearer (value : String) : Bool :=
  value.utf8ByteSize = 43 && value.toList.all isBearerChar

/-- The canonical unpadded base64url text of 32 bytes. -/
def canonicalToken (value : String) : Bool :=
  validBearer value && (value.toList.getLast?.any fun c => c ∈ tokenLastChars)

structure PublicCredentialClaims where
  version : ℕ
  id : Uuid
  role : CredentialRole
  subject : String
  agentSide : Option AgentSide
  agentClient : Option AgentClient
  workspaces : List WorkspaceName
  deriving DecidableEq

structure CredentialFile where
  version : ℕ
  id : Uuid
  token : String
  role : CredentialRole
  subject : String
  agentSide : Option AgentSide
  agentClient : Option AgentClient
  workspaces : List WorkspaceName
  deriving DecidableEq

namespace CredentialFile

def credentialVersion : ℕ := 1

def validAgentClaims : Option AgentSide → Option AgentClient → Bool
  | some side, some client => validAgentClient side client
  | _, _ => false

/-- `CredentialFile::validate`; the workspaces must be distinct. -/
def validate (c : CredentialFile) : Bool :=
  c.version = credentialVersion && canonicalToken c.token && c.workspaces.length ≤ maxGrants &&
  decide c.workspaces.Nodup &&
  match c.role with
  | .agent => isAgentId c.subject && validAgentClaims c.agentSide c.agentClient
  | .operator =>
    c.subject ≠ "" && c.subject.utf8ByteSize ≤ 119 && isAscii c.subject &&
    (c.subject.toList.all fun x => !isControl x) && !startsWith "system:" c.subject &&
    c.agentSide.isNone && c.agentClient.isNone

def publicClaims (c : CredentialFile) : PublicCredentialClaims :=
  { version := c.version, id := c.id, role := c.role, subject := c.subject,
    agentSide := c.agentSide, agentClient := c.agentClient, workspaces := c.workspaces }

end CredentialFile

end SessionRouter
