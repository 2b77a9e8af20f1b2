import SessionRouter.Config.File

/-!
Before an invitation is exchanged the installer checks that its binding can be published and stores
the certificates of its routes; after the exchange it publishes the binding.
-/

namespace SessionRouter.Config

open Onboarding (HostPath OnboardingTicket OnboardingRoute)

/-- What the functions of the configuration find when they look at the file system: the file, its
directory, its identity, whether files can be written beside it, and all other paths. -/
structure Disk where
  content : Except ConfigError (Option ConfigFile)
  parent : Except ConfigError Unit
  identity : Except ConfigError (Option ℕ)
  writable : Bool
  nodes : Nodes

section

variable [UrlParser] [ConfigEnv]

/-- `load_config` -/
def loadConfig (disk : Disk) : Except ConfigError ConfigFile := do
  let content ← disk.content
  match content with
  | none => pure .fresh
  | some config => do
    validateConfig disk.nodes config
    pure config

/-- `save_config`, with the configuration it writes. -/
def saveConfig (disk : Disk) (config : ConfigFile) : Except ConfigError ConfigFile := do
  validateConfig disk.nodes config
  disk.parent
  let _ ← disk.identity
  let current := { config with version := configVersion }
  Except.require (configBytes current + 1 ≤ maxConfigBytes) .oversized
  Except.require disk.writable .io
  pure current

/-- The route to store for a route of a ticket, whose certificate is cached. -/
def storeRoute (persists : String → Bool) (caDirectory : HostPath) (route : OnboardingRoute) :
    Except ConfigError StoredOnboardingRoute := do
  let url ← normalizeRouterUrl route.routerUrl
  Except.require (route.caPem.all fun pem => validCaPem pem && persists pem) .invalid
  pure { kind := route.kind, routerUrl := href url,
         caFile := route.caPem.map fun pem => caDirectory.join (caName pem) }

/-- `store_onboarding_routes`; `persists` tells which certificates `persist_ca` could store. -/
def storeOnboardingRoutes (disk : Disk) (persists : String → Bool) (routes : List OnboardingRoute)
    (caDirectory : HostPath) : Except ConfigError (List StoredOnboardingRoute) := do
  Except.require (validateRoutes routes) .invalid
  validateStoredPath disk.nodes (caDirectory.join "certificate.pem")
  routes.mapM (storeRoute persists caDirectory)

/-- The paths once `persist_ca` has stored the certificates of the routes. -/
def cachedNodes (nodes : Nodes) (routes : List OnboardingRoute) (caDirectory : HostPath) : Nodes :=
  fun path =>
    let names := routes.filterMap fun route => route.caPem.map caName
    if names.isEmpty then nodes path
    else if path <+: caDirectory.parts then .directory
    else if names.any fun name => path = caDirectory.parts ++ [name] then .file
    else nodes path

/-- `check_onboarding_binding` -/
def checkOnboardingBinding [Onboarding.JournalEnv] (disk : Disk) (ticket : OnboardingTicket)
    (provider : OnboardingProvider) (credentialFile : HostPath) : Except ConfigError Unit := do
  Except.require ticket.validate .invalid
  Except.require (ticket.provider.all fun expected => expected = provider) .bindingConflict
  validateStoredPath disk.nodes credentialFile
  let config ← loadConfig disk
  checkBinding config ticket provider credentialFile
  disk.parent
  let _ ← disk.identity
  Except.require disk.writable .io

/-- A stored route is one of the routes of the ticket. -/
def matchesTicket (ticket : OnboardingTicket) (route : StoredOnboardingRoute) : Bool :=
  ticket.routes.any fun candidate => candidate.kind = route.kind &&
    (match normalizeRouterUrl candidate.routerUrl with
      | .ok url => href url = route.routerUrl
      | .error _ => false) &&
    candidate.caPem.isSome = route.caFile.isSome

/-- What `publish_onboarding_binding` checks of the routes before it loads the file. -/
def checkStoredRoutes (nodes : Nodes) (ticket : OnboardingTicket) (routerUrl : String)
    (routes : List StoredOnboardingRoute) : Except ConfigError Url := do
  validateStoredRoutes nodes routes
  let url ← normalizeRouterUrl routerUrl
  Except.require (routes.length = ticket.routes.length &&
    routes.any fun route => route.routerUrl = href url) .invalid
  Except.require (routes.all (matchesTicket ticket)) .invalid
  pure url

/-- `publish_onboarding_binding`, with the configuration it writes. -/
def publishOnboardingBinding [Onboarding.JournalEnv] (disk : Disk) (ticket : OnboardingTicket)
    (provider : OnboardingProvider) (credentialFile : HostPath) (routerUrl : String)
    (routes : List StoredOnboardingRoute) : Except ConfigError ConfigFile := do
  checkOnboardingBinding disk ticket provider credentialFile
  let url ← checkStoredRoutes disk.nodes ticket routerUrl routes
  let config ← loadConfig disk
  checkBinding config ticket provider credentialFile
  saveConfig disk (bound config ticket provider credentialFile (href url) routes)

end

end SessionRouter.Config
