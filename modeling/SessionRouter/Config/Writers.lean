import SessionRouter.Config.Publish
import Mathlib.Logic.Relation

/-!
The processes that change the configuration file. Each loads the file, changes what it loaded and
replaces the file; only the installer holds the configuration lock meanwhile.
-/

namespace SessionRouter.Config

open Onboarding (HostPath OnboardingTicket)

/-- `DEVICE_PROFILE` -/
def deviceProfile : String := "this-device"

inductive UpdateError where
  | config (e : ConfigError)
  | invalidProfile | profileExists | profileNotFound
  deriving DecidableEq

/-- What a process wants to change: `asr profile add`, `asr profile use`, the publication of the
router of this device, and the publication of a binding. -/
inductive Update where
  | add (name address : String) (force : Bool)
  | use (name : String)
  | publish (routerUrl : String)
  | bind (ticket : OnboardingTicket) (provider : OnboardingProvider) (credentialFile : HostPath)
      (routerUrl : String) (routes : List StoredOnboardingRoute)

/-- The parts of a configuration that two updates can compete for. -/
inductive Part where
  | profile (name : String)
  | default
  deriving DecidableEq

/-- A part of the configuration is as it was. -/
def Part.Same (before after : ConfigFile) : Part → Prop
  | profile name => after.profiles.get? name = before.profiles.get? name
  | default => after.defaultProfile = before.defaultProfile

namespace Update

def parts : Update → List Part
  | add name _ _ => [.profile name, .default]
  | use _ => [.default]
  | publish _ => [.profile deviceProfile]
  | bind ticket _ _ _ _ => [.profile ticket.profileName]

def isBinding : Update → Bool
  | bind .. => true
  | add .. | use _ | publish _ => false

section

variable [UrlParser]

/-- `ProfileCommand::Add` -/
def addProfile (config : ConfigFile) (name address : String) (force : Bool) :
    Except UpdateError ConfigFile := do
  Except.mapError .config (validateProfileName name)
  Except.require (name ≠ defaultProfileName) .invalidProfile
  Except.require (!config.profiles.contains name || force) .profileExists
  let url ← Except.mapError .config (normalizeRouterUrl address)
  pure { config with
    profiles := config.profiles.put name (.manual (href url))
    defaultProfile := some name }

/-- `ProfileCommand::Use` -/
def useProfile (config : ConfigFile) (name : String) : Except UpdateError ConfigFile := do
  Except.mapError .config (validateProfileName name)
  Except.require (name = defaultProfileName || config.profiles.contains name) .profileNotFound
  pure { config with defaultProfile := some name }

/-- `LocalProfilePublisher::publish`, which leaves the profile of a server alone. -/
def publishDevice (config : ConfigFile) (routerUrl : String) : Option ConfigFile :=
  if (config.profiles.get? deviceProfile).any fun profile => profile.serverId.isSome then none
  else some { config with
    profiles := config.profiles.put deviceProfile (.manual routerUrl) }

/-- The last part of `publish_onboarding_binding`. -/
def bindProfile (config : ConfigFile) (ticket : OnboardingTicket) (provider : OnboardingProvider)
    (credentialFile : HostPath) (routerUrl : String) (routes : List StoredOnboardingRoute) :
    Except UpdateError ConfigFile := do
  let url ← Except.mapError .config (normalizeRouterUrl routerUrl)
  Except.mapError .config (checkBinding config ticket provider credentialFile)
  pure (bound config ticket provider credentialFile (href url) routes)

/-- What a process makes of the configuration it loaded, if there is anything to save. -/
def change (config : ConfigFile) : Update → Except UpdateError (Option ConfigFile)
  | add name address force => some <$> addProfile config name address force
  | use name => some <$> useProfile config name
  | publish routerUrl => .ok (publishDevice config routerUrl)
  | bind ticket provider credentialFile routerUrl routes =>
    some <$> bindProfile config ticket provider credentialFile routerUrl routes

/-- The configuration has in a part what the update put there. -/
def Shows (config : ConfigFile) : Update → Part → Prop
  | add name address _, .profile _ => ∃ url, normalizeRouterUrl address = .ok url ∧
      config.profiles.get? name = some (.manual (href url))
  | add name _ _, .default => config.defaultProfile = some name
  | use name, _ => config.defaultProfile = some name
  | publish routerUrl, _ => config.profiles.get? deviceProfile = some (.manual routerUrl)
  | bind ticket provider credentialFile routerUrl routes, _ => ∃ profile url,
      config.profiles.get? ticket.profileName = some profile ∧
      profile.serverId = some ticket.serverId ∧ normalizeRouterUrl routerUrl = .ok url ∧
      profile.routerUrl = href url ∧ profile.routes = routes ∧
      profile.bindings.get? provider = some { credentialFile, workspace := ticket.workspace }

end

end Update

/-- The configuration file as `fstat` and its readers see it. -/
structure StoredConfig where
  inode : ℕ
  links : ℕ
  config : ConfigFile

/-- A configuration to be saved, with the number of times the file had been replaced when the
configuration it was made of was loaded. -/
structure Draft where
  version : ℕ
  config : ConfigFile

/-- An update that took effect, with the moments of its first file operation and of its effect. -/
structure Publication where
  update : Update
  started : ℕ
  published : ℕ

/-- How far a process has got: a binding is checked before the file is loaded for it, the rest is
`save_config`. -/
inductive Phase where
  | checking | checked
  | loaded (draft : Draft)
  | examined (draft : Draft) (existing : Option ℕ)
  | written (draft : Draft) (existing : Option ℕ) (inode : ℕ)
  | compared (draft : Draft) (existing : Option ℕ) (inode : ℕ)
  | linked (entry : Publication) (inode : ℕ)
  | saved (entry : Publication)

def Phase.draft : Phase → Option Draft
  | loaded draft | examined draft _ | written draft _ _ | compared draft _ _ => some draft
  | checking | checked | linked _ _ | saved _ => none

/-- The temporary file of a process. -/
def Phase.inode : Phase → Option ℕ
  | written _ _ inode | compared _ _ inode | linked _ inode => some inode
  | checking | checked | loaded _ | examined _ _ | saved _ => none

structure Writer where
  update : Update
  started : ℕ
  phase : Phase

/-- The file, the configuration lock, the processes, and which updates took effect and returned. -/
structure Shared where
  file : Option StoredConfig
  lock : Option ℕ
  clock : ℕ
  writers : Table ℕ Writer
  published : List Publication
  succeeded : List Publication

namespace Shared

/-- What `load_config` reads. -/
def content (s : Shared) : ConfigFile := (s.file.map StoredConfig.config).getD .fresh

/-- The updates that took effect since the file was loaded for a draft. -/
def since (s : Shared) (draft : Draft) : List Publication :=
  s.published.take (s.published.length - draft.version)

/-- `config_file_identity` -/
def identity (s : Shared) : Except ConfigError (Option ℕ) :=
  match s.file with
  | none => .ok none
  | some file => if file.links = 1 then .ok (some file.inode) else .error .invalid

/-- What the functions of the configuration find, apart from the identity of the file, which is
looked up in a step of its own. -/
def disk (s : Shared) (nodes : Nodes) : Disk where
  content := .ok (s.file.map StoredConfig.config)
  parent := .ok ()
  identity := .ok none
  writable := true
  nodes

def advance (s : Shared) (p : ℕ) (w : Writer) (phase : Phase) : Shared :=
  { s with writers := s.writers.put p { w with phase } }

def leave (s : Shared) (p : ℕ) : Shared := { s with writers := s.writers.remove p }

/-- The configuration file is now the one a process wrote. -/
def store (s : Shared) (p : ℕ) (w : Writer) (file : StoredConfig)
    (phase : Publication → Phase) : Shared :=
  let entry : Publication := { update := w.update, started := w.started, published := s.clock }
  { s.advance p w (phase entry) with
    file := some file, clock := s.clock + 1, published := entry :: s.published }

/-- The second name of a file is removed. -/
def unlinked (s : Shared) (inode : ℕ) : Shared :=
  { s with file := s.file.map fun file =>
      if file.inode = inode then { file with links := 1 } else file }

/-- No file has the inode: the system gives away those of removed files again. -/
def Unused (s : Shared) (inode : ℕ) : Prop :=
  (∀ file, s.file = some file → file.inode ≠ inode) ∧
    ∀ p w, s.writers.get? p = some w → w.phase.inode ≠ some inode

end Shared

inductive Action where
  | acquire (p : ℕ) | release (p : ℕ)
  | start (p : ℕ) | probe (p : ℕ) | load (p : ℕ)
  | examine (p : ℕ) | write (p : ℕ) | compare (p : ℕ) | replace (p : ℕ) | link (p : ℕ)
  | unlink (p : ℕ) | finish (p : ℕ) | fail (p : ℕ)

/-- The configuration that is saved. -/
def ConfigFile.current (config : ConfigFile) : ConfigFile :=
  { config with version := configVersion }

section

variable [UrlParser] [ConfigEnv] [Onboarding.JournalEnv]

/-- One operation on the file by one process; what else is in the file system may change at any
time. A process may fail wherever it is, because of an error or because it is killed. -/
inductive Step (s : Shared) : Action → Shared → Prop
  | acquire (p : ℕ) (hfree : s.lock = none) : Step s (.acquire p) { s with lock := some p }
  | release (p : ℕ) (hheld : s.lock = some p) (hidle : s.writers.get? p = none) :
      Step s (.release p) { s with lock := none }
  | start {p : ℕ} {update : Update} {nodes : Nodes} {config next : ConfigFile}
      (hidle : s.writers.get? p = none) (hupdate : update.isBinding = false)
      (hload : loadConfig (s.disk nodes) = .ok config)
      (hchange : update.change config = .ok (some next)) :
      Step s (.start p) { s.advance p ⟨update, s.clock, .checking⟩
        (.loaded ⟨s.published.length, next⟩) with clock := s.clock + 1 }
  /-- `LocalProfilePublisher::publish` returns without saving anything. -/
  | startIdle {p : ℕ} {update : Update} {nodes : Nodes} {config : ConfigFile}
      (hidle : s.writers.get? p = none) (hload : loadConfig (s.disk nodes) = .ok config)
      (hchange : update.change config = .ok none) : Step s (.start p) s
  /-- `check_onboarding_binding` up to its look at the identity of the file. -/
  | startBinding {p : ℕ} {ticket : OnboardingTicket} {provider : OnboardingProvider}
      {credentialFile : HostPath} {nodes : Nodes} (routerUrl : String)
      (routes : List StoredOnboardingRoute) (hidle : s.writers.get? p = none)
      (hlock : s.lock = some p)
      (hcheck : checkOnboardingBinding (s.disk nodes) ticket provider credentialFile = .ok ()) :
      Step s (.start p) { s.advance p
        ⟨.bind ticket provider credentialFile routerUrl routes, s.clock, .checking⟩ .checking with
        clock := s.clock + 1 }
  | probe {p : ℕ} {w : Writer} {existing : Option ℕ} (hw : s.writers.get? p = some w)
      (hphase : w.phase = .checking) (hidentity : s.identity = .ok existing) :
      Step s (.probe p) (s.advance p w .checked)
  | load {p : ℕ} {w : Writer} {ticket : OnboardingTicket} {provider : OnboardingProvider}
      {credentialFile : HostPath} {routerUrl : String} {routes : List StoredOnboardingRoute}
      {nodes nodes' : Nodes} {url : Url} {config next : ConfigFile}
      (hw : s.writers.get? p = some w) (hphase : w.phase = .checked)
      (hupdate : w.update = .bind ticket provider credentialFile routerUrl routes)
      (hroutes : checkStoredRoutes nodes ticket routerUrl routes = .ok url)
      (hload : loadConfig (s.disk nodes') = .ok config)
      (hchange : w.update.change config = .ok (some next)) :
      Step s (.load p) (s.advance p w (.loaded ⟨s.published.length, next⟩))
  | examine {p : ℕ} {w : Writer} {draft : Draft} {nodes : Nodes} {existing : Option ℕ}
      (hw : s.writers.get? p = some w) (hphase : w.phase = .loaded draft)
      (hvalid : validateConfig nodes draft.config = .ok ())
      (hidentity : s.identity = .ok existing) :
      Step s (.examine p) (s.advance p w (.examined draft existing))
  | write {p : ℕ} {w : Writer} {draft : Draft} {existing : Option ℕ} {inode : ℕ}
      (hw : s.writers.get? p = some w) (hphase : w.phase = .examined draft existing)
      (hsize : configBytes draft.config.current + 1 ≤ maxConfigBytes) (hinode : s.Unused inode) :
      Step s (.write p) (s.advance p w (.written draft existing inode))
  | compare {p : ℕ} {w : Writer} {draft : Draft} {existing : Option ℕ} {inode : ℕ}
      (hw : s.writers.get? p = some w) (hphase : w.phase = .written draft existing inode)
      (hidentity : s.identity = .ok existing) :
      Step s (.compare p) (s.advance p w (.compared draft existing inode))
  | replace {p : ℕ} {w : Writer} {draft : Draft} {existing inode : ℕ}
      (hw : s.writers.get? p = some w) (hphase : w.phase = .compared draft (some existing) inode) :
      Step s (.replace p) (s.store p w ⟨inode, 1, draft.config.current⟩ .saved)
  | link {p : ℕ} {w : Writer} {draft : Draft} {inode : ℕ} (hw : s.writers.get? p = some w)
      (hphase : w.phase = .compared draft none inode) (hfile : s.file = none) :
      Step s (.link p)
        (s.store p w ⟨inode, 2, draft.config.current⟩ fun entry => .linked entry inode)
  | unlink {p : ℕ} {w : Writer} {entry : Publication} {inode : ℕ}
      (hw : s.writers.get? p = some w) (hphase : w.phase = .linked entry inode) :
      Step s (.unlink p) ((s.unlinked inode).advance p w (.saved entry))
  | finish {p : ℕ} {w : Writer} {entry : Publication} (hw : s.writers.get? p = some w)
      (hphase : w.phase = .saved entry) :
      Step s (.finish p) { s.leave p with succeeded := entry :: s.succeeded }
  | fail {p : ℕ} {w : Writer} (hw : s.writers.get? p = some w) : Step s (.fail p) (s.leave p)
  /-- `save_config` removes the temporary file after an error. -/
  | failLinked {p : ℕ} {w : Writer} {entry : Publication} {inode : ℕ}
      (hw : s.writers.get? p = some w) (hphase : w.phase = .linked entry inode) :
      Step s (.fail p) ((s.unlinked inode).leave p)

end

/-- The file is replaced only while no competing update has taken effect since it was loaded, and
while it has in all other parts what was loaded. -/
def Timely (s : Shared) : Action → Prop
  | .replace p | .link p => ∀ w draft, s.writers.get? p = some w → w.phase.draft = some draft →
      (∀ entry ∈ s.since draft, ∀ part ∈ w.update.parts, part ∉ entry.update.parts) ∧
      ∀ part, part ∉ w.update.parts → part.Same s.content draft.config
  | _ => True

end SessionRouter.Config
