import SessionRouter.Config.Url
import SessionRouter.Lib.Outcome

/-!
The configuration file: profiles with their routes and bindings, the checks that every reader and
writer makes of the whole file, and the change an onboarding makes.
-/

namespace SessionRouter.Config

open Onboarding (HostPath OnboardingTicket OnboardingRoute RouteKind occursIn validProfileName)

def configVersion : ℕ := 2

def defaultProfileName : String := "local"

def maxConfigBytes : ℕ := 256 * 1024

structure StoredOnboardingRoute where
  kind : RouteKind
  routerUrl : String
  caFile : Option HostPath
  deriving DecidableEq

structure ProviderBinding where
  credentialFile : HostPath
  workspace : WorkspaceName
  deriving DecidableEq

structure Profile where
  routerUrl : String
  serverId : Option Uuid
  routes : List StoredOnboardingRoute
  bindings : Table OnboardingProvider ProviderBinding

def Profile.manual (routerUrl : String) : Profile :=
  { routerUrl, serverId := none, routes := [], bindings := ∅ }

structure ConfigFile where
  version : ℕ
  defaultProfile : Option String
  profiles : Table String Profile

/-- What `load_config` returns when there is no file. -/
def ConfigFile.fresh : ConfigFile :=
  { version := configVersion, defaultProfile := none, profiles := ∅ }

/-- The certificates that `validate_ca_pem` accepts, their SHA-256 digests, and the length of the
file a configuration is written as. -/
class ConfigEnv where
  validCaPem : String → Bool
  digest : String → String
  digest_valid : ∀ pem, Onboarding.validSha256 (digest pem) = true
  configBytes : ConfigFile → ℕ

export ConfigEnv (validCaPem configBytes)

/-- The name under which a certificate is cached. -/
def caName [ConfigEnv] (pem : String) : String := ConfigEnv.digest pem ++ ".pem"

/-- What `symlink_metadata` says about a path. -/
inductive Node where
  | missing | directory | file | symlink | other | failed
  deriving DecidableEq

/-- The paths of the file system, as the components below the root. -/
abbrev Nodes := List String → Node

/-- The check of one ancestor of a stored path, or of the path itself. -/
def validatePrefix (nodes : Nodes) (current : List String) (last : Bool) :
    Except ConfigError Unit :=
  match nodes current with
  | .missing => .ok ()
  | .failed => .error .io
  | .directory => if last then .error .invalid else .ok ()
  | .file => if last then .ok () else .error .invalid
  | .symlink | .other => .error .invalid

/-- The ancestors of a path, from `current` on. -/
def validateParts (nodes : Nodes) (current : List String) : List String → Except ConfigError Unit
  | [] => .ok ()
  | part :: parts => do
    Except.require (part ≠ "..") .invalid
    validatePrefix nodes (current ++ [part]) parts.isEmpty
    validateParts nodes (current ++ [part]) parts

def isControl (c : Char) : Bool := c.toNat < 32 || (127 ≤ c.toNat && c.toNat < 160)

/-- `validate_stored_path` -/
def validateStoredPath (nodes : Nodes) (path : HostPath) : Except ConfigError Unit := do
  Except.require (path.absolute && path.parts.getLast?.any (fun part => part ≠ "..") &&
    path.parts.all fun part => !part.toList.any isControl) .invalid
  validatePrefix nodes [] false
  validateParts nodes [] path.parts

section

variable [UrlParser] [ConfigEnv]

/-- The URLs that `validate_routes` accepts for a route of some kind. -/
def validRouteUrl (kind : RouteKind) (url : Url) : Bool :=
  url.path = "/ws" && url.isPlain && url.host.any fun host => !host.isRefused &&
    match kind with
    | .local_ => host.isLoopback && url.isSocket
    | .lan | .public_ => !host.isLoopback && url.scheme = "wss"
    | .tailnet => url.scheme = "ws" && host.isTailnet

/-- The checks of a single route in `validate_routes`. -/
def validRoute (route : OnboardingRoute) : Bool :=
  (parse route.routerUrl).any fun url => validRouteUrl route.kind url &&
    route.caPem.all fun pem => url.scheme = "wss" && validCaPem pem

/-- `validate_routes` -/
def validateRoutes (routes : List OnboardingRoute) : Bool :=
  !routes.isEmpty && routes.length ≤ 4 && decide (routes.map OnboardingRoute.kind).Nodup &&
    (routes.all fun route => route.kind ≠ .local_ || routes.length = 1) && routes.all validRoute

def validateStoredCa (nodes : Nodes) (url : Url) : Option HostPath → Except ConfigError Unit
  | none => .ok ()
  | some path => do
    Except.require (url.scheme = "wss") .invalid
    validateStoredPath nodes path

/-- The route that `validate_stored_routes` makes of a stored one. -/
def storedCandidate (nodes : Nodes) (route : StoredOnboardingRoute) :
    Except ConfigError OnboardingRoute := do
  let url ← normalizeRouterUrl route.routerUrl
  validateStoredCa nodes url route.caFile
  pure { kind := route.kind, routerUrl := href url, caPem := none }

/-- `validate_stored_routes` -/
def validateStoredRoutes (nodes : Nodes) (routes : List StoredOnboardingRoute) :
    Except ConfigError Unit := do
  let candidates ← routes.mapM (storedCandidate nodes)
  Except.require (validateRoutes candidates) .invalid

def validateProfileName (name : String) : Except ConfigError Unit :=
  Except.require (validProfileName name) .invalidProfile

/-- The routes of a profile that belongs to a server, and the URL among them. -/
def validateServerRoutes (nodes : Nodes) (profile : Profile) : Except ConfigError Unit :=
  match profile.serverId with
  | none => .ok ()
  | some _ => do
    validateStoredRoutes nodes profile.routes
    Except.require (profile.routes.any fun route => (normalizeRouterUrl route.routerUrl).toOption =
      (normalizeRouterUrl profile.routerUrl).toOption) .invalid

/-- The checks of one entry in `validate_config`. -/
def validateProfile (nodes : Nodes) (name : String) (profile : Profile) :
    Except ConfigError Unit := do
  validateProfileName name
  Except.require (name ≠ defaultProfileName) .invalid
  let _ ← normalizeRouterUrl profile.routerUrl
  Except.require (!profile.serverId.any Uuid.isNil && (profile.serverId.isSome ||
    (profile.routes.isEmpty && profile.bindings.toList.isEmpty))) .invalid
  validateServerRoutes nodes profile
  profile.bindings.toList.forM fun binding => validateStoredPath nodes binding.2.credentialFile

def validateDefault (config : ConfigFile) : Except ConfigError Unit :=
  match config.defaultProfile with
  | none => .ok ()
  | some name => do
    validateProfileName name
    Except.require (name = defaultProfileName || config.profiles.contains name) .invalid

/-- `validate_config` -/
def validateConfig (nodes : Nodes) (config : ConfigFile) : Except ConfigError Unit := do
  Except.require (config.version = 1 || config.version = configVersion) .invalid
  validateDefault config
  config.profiles.toList.forM fun entry => validateProfile nodes entry.1 entry.2

/-- `check_binding` -/
def checkBinding (config : ConfigFile) (ticket : OnboardingTicket) (provider : OnboardingProvider)
    (credentialFile : HostPath) : Except ConfigError Unit :=
  match config.profiles.get? ticket.profileName with
  | none => .ok ()
  | some profile =>
    if profile.serverId ≠ some ticket.serverId then .error .profileConflict
    else if (profile.bindings.get? provider).any fun binding =>
      binding.credentialFile ≠ credentialFile || binding.workspace ≠ ticket.workspace then
        .error .bindingConflict
    else .ok ()

/-- The configuration with the profile and the binding of a ticket. -/
def bound (config : ConfigFile) (ticket : OnboardingTicket) (provider : OnboardingProvider)
    (credentialFile : HostPath) (routerUrl : String) (routes : List StoredOnboardingRoute) :
    ConfigFile :=
  let profile := (config.profiles.get? ticket.profileName).getD (.manual routerUrl)
  { config with profiles := config.profiles.put ticket.profileName { profile with
      serverId := some ticket.serverId
      routerUrl := routerUrl
      routes := routes
      bindings := profile.bindings.put provider
        { credentialFile, workspace := ticket.workspace } } }

end

end SessionRouter.Config
