import SessionRouter.Lib.Crash
import SessionRouter.Store.Events
import Mathlib.Data.List.Infix

/-!
The journal of an onboarding: the identity of an invitation and a provider in two files of one
directory, and the exchange with the server.
-/

namespace SessionRouter.Onboarding

def version : ℕ := 1
def protocolVersion : ℕ := 2
def maxStateBytes : ℕ := 1024 * 1024
def maxEnrollmentBytes : ℕ := 4096

/-- A path of the host as its components. -/
structure HostPath where
  absolute : Bool
  parts : List String
  deriving DecidableEq

namespace HostPath

def join (p : HostPath) (name : String) : HostPath := { p with parts := p.parts ++ [name] }

/-- `absolute_path` leaves an absolute path as it is. -/
def isPlain (p : HostPath) : Bool := p.absolute && !p.parts.contains ".."

end HostPath

inductive Stage where
  | prepared | enrolled | configured
  deriving DecidableEq

inductive InstallAction where
  | file (path : HostPath) (sha256 : String)
  | command (argv : List String)
  deriving DecidableEq

inductive ActionStatus where
  | planned | applied
  deriving DecidableEq

structure ActionRecord where
  intent : InstallAction
  status : ActionStatus
  deriving DecidableEq

inductive RouteKind where
  | tailnet | lan | public_ | local_
  deriving DecidableEq

structure OnboardingRoute where
  kind : RouteKind
  routerUrl : String
  caPem : Option String
  deriving DecidableEq

structure BootstrapArtifact where
  target : String
  binaryFile : String
  binarySha256 : String
  archiveFile : String
  archiveSha256 : String
  binaryBytes : ℕ
  archiveBytes : ℕ
  deriving DecidableEq

structure OnboardingTicket where
  version : ℕ
  serverId : Uuid
  inviteId : Uuid
  inviteToken : String
  expiresAt : ℤ
  profileName : String
  workspace : WorkspaceName
  provider : Option OnboardingProvider
  routes : List OnboardingRoute
  manifestSha256 : String
  artifacts : List BootstrapArtifact
  deriving DecidableEq

structure JournalState where
  version : ℕ
  inviteId : Uuid
  provider : OnboardingProvider
  serverId : Uuid
  profileName : String
  workspace : WorkspaceName
  enrollmentId : Uuid
  credentialFile : HostPath
  executable : HostPath
  manifestSha256 : String
  stage : Stage
  ticket : Option OnboardingTicket
  actions : List ActionRecord
  deriving DecidableEq

inductive JournalError where
  | configurationBusy | permissions | io | invalid | notFound | conflict | profileConflict
  | bindingConflict | configuration | identityMismatch | invalidRoute | claimsMismatch
  | invalidResponse | inviteUnavailable | unavailable | rateLimited
  deriving DecidableEq

structure EnrollmentResponse where
  version : ℕ
  serverId : Uuid
  inviteId : Uuid
  claims : PublicCredentialClaims

/-- A route whose server has answered. -/
structure VerifiedRoute where
  route : OnboardingRoute
  infoVersion : ℕ
  infoProtocolVersion : ℕ
  infoServerId : Uuid

/-- The checks of the URLs and certificates of routes, whether the URL of the exchange can be built,
and the lengths of the encodings. -/
class JournalEnv where
  validRoutes : List OnboardingRoute → Bool
  enrollUrl : String → Bool
  stateBytes : JournalState → ℕ
  requestBytes : EnrollmentRequest → ℕ

export JournalEnv (validRoutes enrollUrl stateBytes requestBytes)

def targets : List String :=
  ["aarch64-apple-darwin", "x86_64-apple-darwin", "aarch64-unknown-linux-gnu",
    "x86_64-unknown-linux-gnu"]

def validSha256 (value : String) : Bool :=
  value.utf8ByteSize = 64 && value.toList.all fun c => c.isDigit || ('a' ≤ c && c ≤ 'f')

/-- `validate_profile_name` -/
def validProfileName (name : String) : Bool :=
  name.utf8ByteSize ≤ 64 && isIdentifier ['.', '_', '-'] name.toList

def maxArtifactBytes : ℕ := 512 * 1024 * 1024

def validArtifact (artifact : BootstrapArtifact) : Bool :=
  targets.contains artifact.target &&
    artifact.binaryFile = "asr-" ++ artifact.target &&
    artifact.archiveFile = "agent-session-router-" ++ artifact.target ++ ".tar.gz" &&
    validSha256 artifact.binarySha256 && validSha256 artifact.archiveSha256 &&
    0 < artifact.binaryBytes && artifact.binaryBytes ≤ maxArtifactBytes &&
    0 < artifact.archiveBytes && artifact.archiveBytes ≤ maxArtifactBytes

def validArtifacts (artifacts : List BootstrapArtifact) : Bool :=
  !artifacts.isEmpty && artifacts.length ≤ targets.length && artifacts.all validArtifact &&
    decide (artifacts.map BootstrapArtifact.target).Nodup

/-- The part of a text occurs in it. -/
def occursIn (part text : String) : Bool := decide (part.toList <:+: text.toList)

def validateAction (action : InstallAction) (ticket : Option OnboardingTicket)
    (credential : Option CredentialFile) : Bool :=
  match action with
  | .file path sha256 => path.isPlain && validSha256 sha256
  | .command argv =>
    (argv.head?.any fun program => program ≠ "") && !argv.any fun arg =>
      arg.toList.contains '\x00' || (ticket.any fun ticket => occursIn ticket.inviteToken arg) ||
        credential.any fun credential => occursIn credential.token arg

/-- The two actions cannot both be in a journal. -/
def clashes : InstallAction → InstallAction → Bool
  | .file left _, .file right _ => left = right
  | left, right => left = right

/-- No action clashes with an earlier one. -/
def compatible : List ActionRecord → Bool
  | [] => true
  | record :: records =>
    (records.all fun later => !clashes record.intent later.intent) && compatible records

def validateClaims (credential : CredentialFile) (inviteId : Uuid) (provider : OnboardingProvider)
    (workspace : WorkspaceName) : Bool :=
  !credential.id.isNil && credential.role = .agent &&
    credential.subject = inviteSubject inviteId &&
    credential.agentSide = some provider.identity.1 &&
    credential.agentClient = some provider.identity.2 && credential.workspaces = [workspace]

section

variable [JournalEnv]

def OnboardingTicket.validate (t : OnboardingTicket) : Bool :=
  t.version = Onboarding.version && !t.serverId.isNil && !t.inviteId.isNil && 0 < t.expiresAt &&
    t.profileName ≠ "local" && validProfileName t.profileName && validSha256 t.manifestSha256 &&
    canonicalToken t.inviteToken && validRoutes t.routes && validArtifacts t.artifacts

/-- The ticket belongs to the journal. -/
def ticketMatches (state : JournalState) (ticket : OnboardingTicket)
    (provider : OnboardingProvider) : Bool :=
  ticket.validate && ticket.inviteId = state.inviteId && ticket.serverId = state.serverId &&
    ticket.profileName = state.profileName && ticket.workspace = state.workspace &&
    ticket.manifestSha256 = state.manifestSha256 &&
    !ticket.provider.any fun bound => bound ≠ provider

def validateActions (state : JournalState) : Bool :=
  (state.actions.all fun record => validateAction record.intent state.ticket none &&
    !(state.stage = .configured && record.status ≠ .applied)) && compatible state.actions

/-- `validate_state` apart from the executable, which is looked up in the file system. -/
def validateState (state : JournalState) (inviteId : Uuid) (provider : OnboardingProvider)
    (path : HostPath) : Bool :=
  state.version = Onboarding.version && state.inviteId = inviteId && state.provider = provider &&
    !state.serverId.isNil && !state.enrollmentId.isNil &&
    state.credentialFile = path.join "credential.json" && state.profileName ≠ "local" &&
    validProfileName state.profileName && validSha256 state.manifestSha256 &&
    state.executable.isPlain &&
    (match state.ticket, state.stage with
      | some ticket, .prepared | some ticket, .enrolled => ticketMatches state ticket provider
      | none, .configured => true
      | _, _ => false) &&
    validateActions state

end

/-- The operations of the file system and the network. -/
inductive Op where
  | readState
  | readCredential
  | inspectExecutable (path : HostPath)
  /-- Everything outside the directory of the journal: the configuration, the cache of
  certificates, the bundle and the provider. -/
  | outside
  | newUuid
  | generateCredential (inviteId : Uuid) (provider : OnboardingProvider)
      (workspace : WorkspaceName)
  /-- A temporary file is created, written and synced. -/
  | writeTemporary
  | removeTemporary
  | linkCredential (credential : CredentialFile)
  | renameState (state : JournalState) (replace : Bool)
  | syncCredential
  | syncDirectory
  | exchange (request : EnrollmentRequest)

inductive Reply where
  | done
  | failed (error : JournalError)
  | state (state : JournalState)
  | credential (credential : CredentialFile) (links : ℕ)
  | uuid (id : Uuid)
  | response (response : EnrollmentResponse)

/-- A name of the directory, with what a crash may bring back in its place. -/
structure Slot (α : Type) where
  now : Option α := none
  older : List (Option α) := []

namespace Slot

variable {α : Type}

def set (s : Slot α) (value : α) : Slot α := { now := some value, older := s.now :: s.older }

def sync (s : Slot α) : Slot α := { s with older := [] }

/-- What the name can stand for after a crash. -/
def values (s : Slot α) : List (Option α) := s.now :: s.older

end Slot

/-- The directory, with the requests ever sent and the states that were durable in turn. -/
structure Disk where
  state : Slot JournalState := {}
  credential : Slot CredentialFile := {}
  sent : List EnrollmentRequest := []
  durable : List (Option JournalState) := [none]

namespace Disk

def sync (d : Disk) : Disk :=
  { d with
    state := d.state.sync
    credential := d.credential.sync
    durable := d.durable ++ [d.state.now] }

/-- What an operation may answer, and what it leaves behind. -/
def answers (d : Disk) (o : Op) (r : Reply) (d' : Disk) : Prop :=
  match o with
  | .readState => d' = d ∧ match d.state.now with
    | some state => r = .state state ∨ ∃ e, e ≠ .notFound ∧ r = .failed e
    | none => ∃ e, r = .failed e
  | .readCredential => d' = d ∧ match d.credential.now with
    | some credential => (∃ links, r = .credential credential links) ∨
      ∃ e, e ≠ .notFound ∧ r = .failed e
    | none => ∃ e, r = .failed e
  | .inspectExecutable _ | .outside | .writeTemporary | .removeTemporary | .syncCredential =>
    d' = d ∧ (r = .done ∨ ∃ e, r = .failed e)
  | .newUuid => d' = d ∧ ∃ id, id ≠ Uuid.nil ∧ r = .uuid id
  | .generateCredential inviteId provider workspace => d' = d ∧
    ((∃ credential links, validateClaims credential inviteId provider workspace = true ∧
      r = .credential credential links) ∨ ∃ e, r = .failed e)
  | .linkCredential credential =>
    (d.credential.now = none ∧ r = .done ∧
      d' = { d with credential := d.credential.set credential }) ∨ ∃ e, r = .failed e ∧ d' = d
  | .renameState state replace =>
    ((replace = false → d.state.now = none) ∧ r = .done ∧
      d' = { d with state := d.state.set state }) ∨ ∃ e, r = .failed e ∧ d' = d
  | .syncDirectory => r = .done ∧ d' = d.sync ∨ ∃ e, r = .failed e ∧ d' = d
  | .exchange request => d' = { d with sent := d.sent ++ [request] } ∧
    ((∃ response, r = .response response) ∨ ∃ e, r = .failed e)

/-- A crash of the machine: each name stands for one of the values it had since the last sync. -/
def crash (d d' : Disk) : Prop :=
  ∃ state ∈ d.state.values, ∃ credential ∈ d.credential.values,
    d' = { d with
      state := { now := state }
      credential := { now := credential }
      durable := d.durable ++ [state] }

end Disk

abbrev Run (α : Type) := Prog Op Reply α

/-- An operation that succeeds or fails. -/
def act (o : Op) : Run (Except JournalError Unit) :=
  .op o fun
    | .failed e => .ret (.error e)
    | _ => .ret (.ok ())

def readState : Run (Except JournalError JournalState) :=
  .op .readState fun
    | .state state => .ret (.ok state)
    | .failed e => .ret (.error e)
    | _ => .ret (.error .io)

def newUuid : Run Uuid :=
  .op .newUuid fun
    | .uuid id => .ret id
    | _ => .ret .nil

/-- A journal in memory. What was persisted is compared as the record it encodes. -/
structure Journal where
  state : JournalState
  persisted : Option JournalState
  needsReload : Bool

/-- The crash window between the link of the credential and the end of its temporary name. -/
def recoverCredentialTemporaryLink : Run (Except JournalError Unit) := do
  match ← act .removeTemporary with
  | .error e => return .error e
  | .ok () =>
    match ← act .syncCredential with
    | .error e => return .error e
    | .ok () => act .syncDirectory

def readPendingCredential (inviteId : Uuid) (provider : OnboardingProvider)
    (workspace : WorkspaceName) : Run (Except JournalError CredentialFile) :=
  .op .readCredential fun
    | .credential credential links =>
      if !(links = 1 || links = 2) then .ret (.error .permissions)
      else if !credential.validate then .ret (.error .invalid)
      else if !validateClaims credential inviteId provider workspace then
        .ret (.error .claimsMismatch)
      else if links = 2 then do
        match ← recoverCredentialTemporaryLink with
        | .error e => return .error e
        | .ok () => return .ok credential
      else .ret (.ok credential)
    | .failed e => .ret (.error e)
    | _ => .ret (.error .io)

def generateCredential (inviteId : Uuid) (provider : OnboardingProvider)
    (workspace : WorkspaceName) : Run (Except JournalError CredentialFile) :=
  .op (.generateCredential inviteId provider workspace) fun
    | .credential credential _ => .ret (.ok credential)
    | .failed e => .ret (.error e)
    | _ => .ret (.error .io)

/-- `write_credential_atomic_no_replace`: the temporary name is removed in any case. -/
def writeCredentialNoReplace (credential : CredentialFile) : Run (Except JournalError Unit) := do
  match ← act .writeTemporary with
  | .error e => return .error e
  | .ok () =>
    match ← act .syncDirectory with
    | .error e =>
      let _ ← act .removeTemporary
      return .error e
    | .ok () =>
      match ← act (.linkCredential credential) with
      | .error e =>
        let _ ← act .removeTemporary
        return .error e
      | .ok () =>
        let synced ← act .syncDirectory
        let _ ← act .removeTemporary
        return synced

def exchange (request : EnrollmentRequest) : Run (Except JournalError EnrollmentResponse) :=
  .op (.exchange request) fun
    | .response response => .ret (.ok response)
    | .failed e => .ret (.error e)
    | _ => .ret (.error .io)

namespace Journal

def assertUnchanged (j : Journal) : Run (Except JournalError Unit) :=
  if j.needsReload then return .error .conflict
  else do
    match ← readState with
    | .ok state => return if some state = j.persisted then .ok () else .error .conflict
    | .error .notFound => return if j.persisted.isNone then .ok () else .error .conflict
    | .error e => return .error e

def credential (j : Journal) : Run (Except JournalError CredentialFile) :=
  readPendingCredential j.state.inviteId j.state.provider j.state.workspace

variable [JournalEnv]

/-- Publish a state. If the directory cannot be synced the journal is of no use until it is
loaded again. -/
def persist (j : Journal) (candidate : JournalState) :
    Run (Except JournalError Unit × Journal) := do
  match ← j.assertUnchanged with
  | .error e => return (.error e, j)
  | .ok () =>
    if maxStateBytes < stateBytes candidate then return (.error .invalid, j)
    else
      match ← act .writeTemporary with
      | .error e => return (.error e, j)
      | .ok () =>
        let renamed ← act (.renameState candidate j.persisted.isSome)
        let _ ← act .removeTemporary
        match renamed with
        | .error e => return (.error e, j)
        | .ok () =>
          match ← act .syncDirectory with
          | .error e => return (.error e, { j with needsReload := true })
          | .ok () =>
            return (.ok (),
              { state := candidate, persisted := some candidate, needsReload := false })

/-- The journal that exists for the invitation and the provider. -/
def load (inviteId : Uuid) (provider : OnboardingProvider) (path : HostPath) :
    Run (Except JournalError Journal) := do
  match ← act .outside with
  | .error e => return .error e
  | .ok () =>
    match ← readState with
    | .error e => return .error e
    | .ok state =>
      if maxStateBytes < stateBytes state then return .error .invalid
      else
        match ← act (.inspectExecutable state.executable) with
        | .error e => return .error e
        | .ok () =>
          if !validateState state inviteId provider path then return .error .invalid
          else
            let j : Journal := { state, persisted := some state, needsReload := false }
            match ← j.credential with
            | .error e => return .error e
            | .ok _ =>
              match ← act .syncDirectory with
              | .error e => return .error e
              | .ok () => return .ok j

/-- The saved journal is the one of the ticket. -/
def agreesWith (state : JournalState) (ticket : OnboardingTicket) (executable : HostPath) : Bool :=
  state.serverId = ticket.serverId && state.profileName = ticket.profileName &&
    state.workspace = ticket.workspace && state.manifestSha256 = ticket.manifestSha256 &&
    state.executable = executable && !state.ticket.any fun saved => saved ≠ ticket

/-- The credential of the invitation: an orphan of a crash is adopted, never replaced. -/
def adoptCredential (ticket : OnboardingTicket) (provider : OnboardingProvider) :
    Run (Except JournalError CredentialFile) := do
  match ← readPendingCredential ticket.inviteId provider ticket.workspace with
  | .ok credential => return .ok credential
  | .error .notFound =>
    match ← generateCredential ticket.inviteId provider ticket.workspace with
    | .error e => return .error e
    | .ok generated =>
      match ← writeCredentialNoReplace generated with
      | .error e => return .error e
      | .ok () => return .ok generated
  | .error e => return .error e

/-- The first state of a journal. -/
def initial (path : HostPath) (ticket : OnboardingTicket) (provider : OnboardingProvider)
    (executable : HostPath) (enrollmentId : Uuid) : JournalState where
  version := Onboarding.version
  inviteId := ticket.inviteId
  provider := provider
  serverId := ticket.serverId
  profileName := ticket.profileName
  workspace := ticket.workspace
  enrollmentId := enrollmentId
  credentialFile := path.join "credential.json"
  executable := executable
  manifestSha256 := ticket.manifestSha256
  stage := .prepared
  ticket := some ticket
  actions := []

/-- The part of `prepare` for an invitation without a journal. -/
def create (path : HostPath) (ticket : OnboardingTicket) (provider : OnboardingProvider)
    (executable : HostPath) : Run (Except JournalError Journal) := do
  match ← act .outside with
  | .error e => return .error e
  | .ok () =>
    match ← adoptCredential ticket provider with
    | .error e => return .error e
    | .ok credential =>
      if !validateClaims credential ticket.inviteId provider ticket.workspace then
        return .error .claimsMismatch
      else
        let state := initial path ticket provider executable (← newUuid)
        match ← persist { state, persisted := none, needsReload := false } state with
        | (.error e, _) => return .error e
        | (.ok (), j) => return .ok j

def prepare (path : HostPath) (ticket : OnboardingTicket) (provider : OnboardingProvider)
    (executable : HostPath) : Run (Except JournalError Journal) :=
  if !ticket.validate then return .error .invalid
  else if ticket.provider.any fun bound => bound ≠ provider then return .error .conflict
  else if !executable.isPlain then return .error .invalid
  else do
    match ← act (.inspectExecutable executable) with
    | .error e => return .error e
    | .ok () =>
      match ← act .outside with
      | .error e => return .error e
      | .ok () =>
        match ← readState with
        | .ok _ =>
          match ← load ticket.inviteId provider path with
          | .error e => return .error e
          | .ok j =>
            return if agreesWith j.state ticket executable then .ok j else .error .conflict
        | .error .notFound => create path ticket provider executable
        | .error e => return .error e

/-- The request for the identity of the journal. -/
def request (j : Journal) (ticket : OnboardingTicket) (credential : CredentialFile) :
    EnrollmentRequest where
  version := Onboarding.version
  serverId := j.state.serverId
  inviteId := j.state.inviteId
  inviteToken := ticket.inviteToken
  enrollmentId := j.state.enrollmentId
  provider := j.state.provider
  credentialId := credential.id
  credentialToken := credential.token

/-- The exchange, and the publication of its result. -/
def exchanged (j : Journal) (ticket : OnboardingTicket) (credential : CredentialFile) :
    Run (Except JournalError Unit × Journal) := do
  let request := j.request ticket credential
  if maxEnrollmentBytes < requestBytes request then return (.error .invalid, j)
  else
    match ← exchange request with
    | .error e => return (.error e, j)
    | .ok response =>
      if response.version ≠ Onboarding.version || response.serverId ≠ j.state.serverId ||
          response.inviteId ≠ j.state.inviteId || response.claims ≠ credential.publicClaims then
        return (.error .claimsMismatch, j)
      else
        match ← j.persist { j.state with stage := .enrolled } with
        | (.error e, j) => return (.error e, j)
        | (.ok (), j) => return (← act .outside, j)

def enroll (j : Journal) (route : VerifiedRoute) : Run (Except JournalError Unit × Journal) :=
  match j.state.ticket with
  | none => return (.error .conflict, j)
  | some ticket =>
    if route.infoVersion ≠ Onboarding.version || route.infoProtocolVersion ≠ protocolVersion ||
        route.infoServerId ≠ j.state.serverId then return (.error .identityMismatch, j)
    else if !ticket.routes.contains route.route || !enrollUrl route.route.routerUrl then
      return (.error .invalidRoute, j)
    else do
      match ← j.assertUnchanged with
      | .error e => return (.error e, j)
      | .ok () =>
        match ← j.credential with
        | .error e => return (.error e, j)
        | .ok credential =>
          match ← act .outside with
          | .error e => return (.error e, j)
          | .ok () => j.exchanged ticket credential

def markConfigured (j : Journal) : Run (Except JournalError Unit × Journal) :=
  if j.state.stage = .prepared || j.state.actions.any fun record => record.status ≠ .applied then
    return (.error .conflict, j)
  else j.persist { j.state with stage := .configured, ticket := none }

def plan (j : Journal) (action : InstallAction) : Run (Except JournalError Unit × Journal) := do
  match ← j.assertUnchanged with
  | .error e => return (.error e, j)
  | .ok () =>
    match ← j.credential with
    | .error e => return (.error e, j)
    | .ok credential =>
      if !validateAction action j.state.ticket (some credential) then return (.error .invalid, j)
      else if j.state.actions.any fun record => record.intent = action then return (.ok (), j)
      else if j.state.stage = .configured ||
          j.state.actions.any fun record => clashes record.intent action then
        return (.error .conflict, j)
      else j.persist { j.state with
        actions := j.state.actions ++ [{ intent := action, status := .planned }] }

def markApplied (j : Journal) (index : ℕ) : Run (Except JournalError Unit × Journal) :=
  if index < j.state.actions.length then
    j.persist { j.state with
      actions := j.state.actions.modify index fun record => { record with status := .applied } }
  else return (.error .conflict, j)

end Journal

/-- What an installer asks of its journal. -/
inductive Command where
  | enroll (route : VerifiedRoute)
  | markConfigured
  | plan (action : InstallAction)
  | markApplied (index : ℕ)

section

variable [JournalEnv]

def Journal.command (j : Journal) : Command → Run (Except JournalError Unit × Journal)
  | .enroll route => j.enroll route
  | .markConfigured => j.markConfigured
  | .plan action => j.plan action
  | .markApplied index => j.markApplied index

/-- An installer may ask for anything in any order, also after a failure. -/
def session (j : Journal) : List Command → Run Unit
  | [] => return
  | command :: commands => do
    let (_, j) ← j.command command
    session j commands

def sessionOf (result : Except JournalError Journal) (commands : List Command) : Run Unit :=
  match result with
  | .ok j => session j commands
  | .error _ => return

def install (path : HostPath) (ticket : OnboardingTicket) (provider : OnboardingProvider)
    (executable : HostPath) (commands : List Command) : Run Unit :=
  if !ticket.validate || ticket.provider.any fun bound => bound ≠ provider then return
  else do
    match ← act .outside with
    | .error _ => return
    | .ok () =>
      match ← Journal.load ticket.inviteId provider path with
      | .ok existing =>
        sessionOf (← Journal.prepare path ticket provider existing.state.executable) commands
      | .error .notFound =>
        match ← act .outside with
        | .error _ => return
        | .ok () => sessionOf (← Journal.prepare path ticket provider executable) commands
      | .error _ => return

def resume (inviteId : Uuid) (provider : OnboardingProvider) (path : HostPath)
    (commands : List Command) : Run Unit :=
  if inviteId.isNil then return
  else do
    match ← act .outside with
    | .error _ => return
    | .ok () => sessionOf (← Journal.load inviteId provider path) commands

/-- The programs that work on the journal of an invitation and a provider. -/
inductive Allowed (inviteId : Uuid) (provider : OnboardingProvider) (path : HostPath) :
    Run Unit → Prop
  | install {ticket : OnboardingTicket} (h : ticket.inviteId = inviteId) (executable : HostPath)
      (commands : List Command) :
      Allowed inviteId provider path (install path ticket provider executable commands)
  | resume (commands : List Command) :
      Allowed inviteId provider path (resume inviteId provider path commands)

end

end SessionRouter.Onboarding
