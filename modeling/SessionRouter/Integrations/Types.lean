import SessionRouter.Protocol.Messages

/-!
Issue-tracker connections, the commands that use them and what a provider answers.
-/

namespace SessionRouter

/-- A configured repository or team with its public name. -/
inductive IntegrationTarget where
  | github (publicName : String)
  | linear (publicName : String)
  deriving DecidableEq

structure IntegrationConnection where
  workspace : WorkspaceName
  access : IntegrationAccess
  target : IntegrationTarget
  token : String
  deriving DecidableEq

namespace IntegrationConnection

def provider (c : IntegrationConnection) : ExternalProvider :=
  match c.target with
  | .github _ => .github
  | .linear _ => .linear

def ns (c : IntegrationConnection) : String :=
  match c.target with
  | .github name => name
  | .linear name => name

/-- The digest of a connection covers all its fields, so the connection itself stands for it. -/
def configHash (c : IntegrationConnection) : IntegrationConnection := c

def «public» (c : IntegrationConnection) : IntegrationPublic :=
  { provider := c.provider, workspace := c.workspace, target := c.ns, access := c.access,
    available := true, error := none }

end IntegrationConnection

structure ActiveIntegration where
  connection : IntegrationConnection
  revision : ℕ
  deriving DecidableEq

inductive ExternalErrorCode where
  | authRequired | permissionDenied | notFound | rateLimited | invalidRequest | scopeMismatch
  | rebindRequired | responseTooLarge | apiError | timeout | configurationInvalid
  | notDispatched | notApplied | operatorConfirmedNotApplied
  deriving DecidableEq, Repr

def ExternalErrorCode.asStr : ExternalErrorCode → String
  | authRequired => "auth_required"
  | permissionDenied => "permission_denied"
  | notFound => "not_found"
  | rateLimited => "rate_limited"
  | invalidRequest => "invalid_request"
  | scopeMismatch => "scope_mismatch"
  | rebindRequired => "rebind_required"
  | responseTooLarge => "response_too_large"
  | apiError => "api_error"
  | timeout => "timeout"
  | configurationInvalid => "configuration_invalid"
  | notDispatched => "not_dispatched"
  | notApplied => "not_applied"
  | operatorConfirmedNotApplied => "operator_confirmed_not_applied"

inductive IntegrationClientError where
  | busy
  | failed (code : ExternalErrorCode)
  | unconfirmed (code : ExternalErrorCode)
  deriving DecidableEq

structure ExternalIssue where
  externalId : String
  url : String
  title : String
  description : String
  state : String
  deriving DecidableEq

structure ExternalMutation where
  externalId : String
  url : String
  deriving DecidableEq

inductive ExternalCommand where
  | importTask (operationId : Uuid) (provider : ExternalProvider) (externalId : String)
  | link (operationId : Uuid) (taskId expectedVersion : ℕ) (provider : ExternalProvider)
      (externalId : String) (replace : Bool)
  | publish (operationId : Uuid) (taskId expectedVersion : ℕ) (provider : ExternalProvider)
      (kind : ExternalPublishKind) (reportId : Option Uuid)
  deriving DecidableEq

namespace ExternalCommand

def operationId : ExternalCommand → Uuid
  | importTask id .. | link id .. | publish id .. => id

def provider : ExternalCommand → ExternalProvider
  | importTask _ p _ | link _ _ _ p .. | publish _ _ _ p .. => p

def taskId : ExternalCommand → Option ℕ
  | importTask .. => none
  | link _ id .. | publish _ id .. => some id

end ExternalCommand

inductive OperationPayload where
  | importTask (externalId : String)
  | link (externalId : String) (expectedVersion : ℕ) (replace : Bool)
  | publishIssue (creationId : Uuid) (title body marker : String)
  | publishReport (creationId : Uuid) (issueId : String) (reportId : Uuid) (body marker : String)
  deriving DecidableEq

def OperationPayload.toJson : OperationPayload → JsonValue
  | importTask externalId => .obj [("kind", .str "import"), ("external_id", .str externalId)]
  | link externalId expectedVersion replace =>
    .obj [("kind", .str "link"), ("external_id", .str externalId),
      ("expected_version", .num expectedVersion), ("replace", .bool replace)]
  | publishIssue creationId title body marker =>
    .obj [("kind", .str "publish_issue"), ("creation_id", .str creationId.toText),
      ("title", .str title), ("body", .str body), ("marker", .str marker)]
  | publishReport creationId issueId reportId body marker =>
    .obj [("kind", .str "publish_report"), ("creation_id", .str creationId.toText),
      ("issue_id", .str issueId), ("report_id", .str reportId.toText), ("body", .str body),
      ("marker", .str marker)]

structure ResolutionRequest where
  resolutionId : Uuid
  outcome : ExternalResolutionOutcome
  externalId : Option String
  note : String
  deriving DecidableEq

end SessionRouter
