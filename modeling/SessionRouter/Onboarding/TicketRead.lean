import SessionRouter.Lib.JsonRead
import SessionRouter.Lib.Outcome
import SessionRouter.Onboarding.PromptSafe

/-!
What the installer reads of a prompt: the bounded standard input, the JSON of the ticket and its
checks.
-/

namespace SessionRouter.Onboarding

/-- The readers of JSON texts and of identifiers; a JSON text with a number that is no natural
number is not read. -/
class TicketReader where
  json : List Char → Option JsonValue
  uuid : String → Option Uuid

/-- `read_bounded`; a character counts as the bytes of its encoding. -/
def readBounded (cap : ℕ) (input : List Char) : Option (List Char) :=
  if cap < JsonValue.byteLen input then none else some input

open JsonValue (fieldsOf field optionalField integer)

def OnboardingProvider.fromJson (v : JsonValue) : Option OnboardingProvider :=
  v.variant.bind fun name =>
    [OnboardingProvider.claudeCode, .codexCli, .omp].find? fun p => providerName p = name

def RouteKind.fromJson (v : JsonValue) : Option RouteKind :=
  v.variant.bind fun name =>
    [RouteKind.tailnet, .lan, .public_, .local_].find? fun kind => kind.name = name

/-- `WorkspaceName::deserialize` -/
def workspaceFromJson (v : JsonValue) : Option WorkspaceName :=
  v.string.bind fun s => if h : isWorkspaceName s = true then some ⟨s, h⟩ else none

def OnboardingRoute.fromJson (v : JsonValue) : Option OnboardingRoute := do
  let fields ← fieldsOf ["kind", "routerUrl", "caPem"] v
  let kind ← (field fields "kind").bind RouteKind.fromJson
  let routerUrl ← (field fields "routerUrl").bind JsonValue.string
  let caPem ← optionalField fields "caPem" JsonValue.string
  some { kind, routerUrl, caPem }

def BootstrapArtifact.fromJson (v : JsonValue) : Option BootstrapArtifact := do
  let fields ← fieldsOf ["target", "binaryFile", "binarySha256", "archiveFile", "archiveSha256",
    "binaryBytes", "archiveBytes"] v
  let target ← (field fields "target").bind JsonValue.string
  let binaryFile ← (field fields "binaryFile").bind JsonValue.string
  let binarySha256 ← (field fields "binarySha256").bind JsonValue.string
  let archiveFile ← (field fields "archiveFile").bind JsonValue.string
  let archiveSha256 ← (field fields "archiveSha256").bind JsonValue.string
  let binaryBytes ← (field fields "binaryBytes").bind (integer (2 ^ 64))
  let archiveBytes ← (field fields "archiveBytes").bind (integer (2 ^ 64))
  some { target, binaryFile, binarySha256, archiveFile, archiveSha256, binaryBytes, archiveBytes }

section

variable [TicketReader]

def uuidFromJson (v : JsonValue) : Option Uuid := v.string.bind TicketReader.uuid

def OnboardingTicket.fromJson (v : JsonValue) : Option OnboardingTicket := do
  let fields ← fieldsOf ["version", "serverId", "inviteId", "inviteToken", "expiresAt",
    "profileName", "workspace", "provider", "routes", "manifestSha256", "artifacts"] v
  let version ← (field fields "version").bind (integer (2 ^ 8))
  let serverId ← (field fields "serverId").bind uuidFromJson
  let inviteId ← (field fields "inviteId").bind uuidFromJson
  let inviteToken ← (field fields "inviteToken").bind JsonValue.string
  let expiresAt ← (field fields "expiresAt").bind (integer (2 ^ 63))
  let profileName ← (field fields "profileName").bind JsonValue.string
  let workspace ← (field fields "workspace").bind workspaceFromJson
  let provider ← optionalField fields "provider" OnboardingProvider.fromJson
  let routes ← ((field fields "routes").bind JsonValue.array).bind
    (List.mapM OnboardingRoute.fromJson)
  let manifestSha256 ← (field fields "manifestSha256").bind JsonValue.string
  let artifacts ← ((field fields "artifacts").bind JsonValue.array).bind
    (List.mapM BootstrapArtifact.fromJson)
  some { version, serverId, inviteId, inviteToken, expiresAt, profileName, workspace, provider,
         routes, manifestSha256, artifacts }

variable [JournalEnv]

/-- `OnboardingTicket::parse`; the errors are not told apart. -/
def OnboardingTicket.parse (input : List Char) : Option OnboardingTicket :=
  if maxTicketBytes < JsonValue.byteLen input then none
  else ((TicketReader.json input).bind OnboardingTicket.fromJson).filter OnboardingTicket.validate

/-- The ticket that `onboarding install` reads of its standard input. -/
def installTicket (input : List Char) : Option OnboardingTicket :=
  (readBounded maxTicketBytes input).bind OnboardingTicket.parse

end

end SessionRouter.Onboarding
