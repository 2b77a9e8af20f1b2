import SessionRouter.Config.Url
import SessionRouter.Lib.Crash
import Mathlib.Logic.Relation

/-!
The launcher of the router: the record of the running instance, the router process, and the mapping
by which a tailnet reaches it, which are changed one after the other.
-/

namespace SessionRouter.Launcher

inductive IpAddr where
  | v4 (a b c d : Fin 256)
  | v6 (ip : BitVec 128)
  deriving DecidableEq

namespace IpAddr

def isLoopback : IpAddr → Bool
  | v4 a _ _ _ => a = 127
  | v6 ip => ip = 1

/-- `is_tailscale_ipv4` -/
def isTailscale : IpAddr → Bool
  | v4 a b _ _ => a = 100 && 64 ≤ b.val && b.val ≤ 127
  | v6 _ => false

def text : IpAddr → String
  | v4 a b c d => s!"{a.val}.{b.val}.{c.val}.{d.val}"
  | v6 _ => ""

end IpAddr

structure SocketAddr where
  ip : IpAddr
  port : ℕ

inductive RuntimeShareMode where
  | local_ | lan | tailscale
  deriving DecidableEq

inductive ShareRequest where
  | local_ | auto | tailscale | lan
  deriving DecidableEq

inductive ProbeFailure where
  | connectionRefused | tls | authentication | markerMismatch | transport
  deriving DecidableEq

/-- `RouterLaunchError` -/
inductive LaunchError where
  | routerBusy | instanceChanged | interrupted | permissions | io | invalidRuntimeRecord
  | runtimeRecordTooLarge | startupProtocol | startupTimeout | shutdownTimeout | childLaunch
  | childTerminated | health (failure : ProbeFailure) | adminAuthentication | adminProtocol
  | tlsRequired | tlsInvalid | tailscaleUnavailable | tailscaleStatus | tailscaleMappingConflict
  | tailscaleCommand | profile
  deriving DecidableEq

structure OwnedServe where
  instanceId : Uuid
  port : ℕ
  target : String
  deriving DecidableEq

namespace OwnedServe

def loopbackTarget (port : ℕ) : String := s!"tcp://127.0.0.1:{port}"

def loopback (instanceId : Uuid) (port : ℕ) : OwnedServe :=
  { instanceId, port, target := loopbackTarget port }

def validate (serve : OwnedServe) (recordInstance : Uuid) : Bool :=
  serve.instanceId = recordInstance && serve.port ≠ 0 && serve.target = loopbackTarget serve.port

end OwnedServe

structure RuntimeRecord where
  instanceId : Uuid
  controlUrl : String
  shareMode : RuntimeShareMode
  advertisedUrl : Option String
  ownedServe : Option OwnedServe
  deriving DecidableEq

structure TlsSettings where
  publicUrl : String

structure StartOptions where
  bind : SocketAddr
  share : ShareRequest
  tls : Option TlsSettings
  background : Bool
  instanceId : Option Uuid

structure StartupReady where
  instanceId : Uuid
  controlUrl : String

structure HealthMarker where
  service : String
  protocolVersion : ℕ
  status : String
  instanceId : Uuid

def HealthMarker.verify (marker : HealthMarker) (expected : Uuid) : Bool :=
  marker.service = "agent-session-router" && marker.protocolVersion = 2 &&
    marker.status = "ok" && marker.instanceId = expected

/-- What `tailscale status` and `tailscale serve status` say. -/
structure Snapshot where
  backendRunning : Bool
  selfIpv4 : List IpAddr
  onlinePeerIpv4 : List IpAddr
  tcpForwards : ℕ → Option String

def Snapshot.validate (s : Snapshot) : Bool :=
  s.backendRunning && !s.selfIpv4.isEmpty && (s.selfIpv4 ++ s.onlinePeerIpv4).all IpAddr.isTailscale

/-- What a call of the launcher asks of its surroundings. A request that was made under a deadline
may be given up while it is going on. -/
inductive Op where
  | lock | read
  | write (record : RuntimeRecord) | removeIfInstance (instanceId : Uuid)
  | probe (record : RuntimeRecord)
  | verifyOwner (record : RuntimeRecord) | shutdown (record : RuntimeRecord)
  | waitStopped (record : RuntimeRecord)
  | snapshot | enable (serve : OwnedServe) | disable (serve : OwnedServe)
  | publish (routerUrl : String) (record : RuntimeRecord)
  | newInstance (wanted : Option Uuid)
  | configureShareMode (mode : RuntimeShareMode)
  | launch (instanceId : Uuid) (background : Bool) | acknowledge (instanceId : Uuid)
  | terminate | detach
  /-- The launcher lock is given up while the router runs in the foreground. -/
  | release (record : RuntimeRecord)
  /-- The router in the foreground has ended, and the lock is taken again. -/
  | resume (record : RuntimeRecord)
  | timed (o : Op)

/-- The calls that are futures; the others return without giving way. -/
def Op.awaits : Op → Bool
  | probe _ | verifyOwner _ | shutdown _ | waitStopped _ | snapshot | enable _ | disable _
  | launch .. | acknowledge _ | terminate => true
  | lock | read | write _ | removeIfInstance _ | publish .. | newInstance _ | configureShareMode _
  | detach | release _ | resume _ | timed _ => false

inductive Reply where
  | done
  | failed (e : LaunchError)
  | record (found : Option RuntimeRecord)
  | marker (m : HealthMarker)
  | unhealthy (failure : ProbeFailure)
  | seen (s : Snapshot)
  | instance_ (id : Uuid)
  | ready (r : StartupReady)
  | expired

abbrev Call (α : Type) := Prog Op Reply (Except LaunchError α)

namespace Call

variable {α β : Type}

def andThen (p : Call α) (f : α → Call β) : Call β :=
  p.bind fun
    | .ok a => f a
    | .error e => .ret (.error e)

instance : Monad Call where
  pure a := .ret (.ok a)
  bind := andThen

def fail (e : LaunchError) : Call α := .ret (.error e)

def require (b : Bool) (e : LaunchError) : Call Unit := if b then pure () else fail e

def ofExcept (x : Except LaunchError α) : Call α := .ret x

/-- Go on with the outcome of a call, whatever it is. -/
def attempt (p : Call α) : Call (Except LaunchError α) := Prog.bind p fun r => .ret (.ok r)

/-- The answer to an operation, as far as it is one of the expected kind. -/
def ask (o : Op) (answer : Reply → Option α) : Call α :=
  .op o fun r => .ret (match answer r, r with
    | some a, _ => .ok a
    | none, .failed e => .error e
    | none, _ => .error .io)

def act (o : Op) : Call Unit := ask o fun
  | .done => some ()
  | _ => none

def snapshot : Call Snapshot := ask .snapshot fun
  | .seen s => some s
  | _ => none

def read : Call (Option RuntimeRecord) := ask .read fun
  | .record found => some found
  | _ => none

def newInstance (wanted : Option Uuid) : Call Uuid := ask (.newInstance wanted) fun
  | .instance_ id => some id
  | _ => none

def launch (instanceId : Uuid) (background : Bool) : Call StartupReady :=
  ask (.launch instanceId background) fun
    | .ready r => some r
    | _ => none

def probe (record : RuntimeRecord) : Call (Except ProbeFailure HealthMarker) :=
  ask (.probe record) fun
    | .marker m => some (.ok m)
    | .unhealthy failure => some (.error failure)
    | _ => none

/-- `timeout(STARTUP_TIMEOUT, ..)` -/
def timed : Call α → Call α
  | .ret a => .ret a
  | .op o k =>
    if o.awaits then .op (.timed o) fun
      | .expired => .ret (.error .startupTimeout)
      | r => timed (k r)
    else .op o fun r => timed (k r)

end Call

open Call

section

variable [UrlParser]

/-- `validate_router_url` -/
def validateRouterUrl (value : String) : Option Url :=
  (parse value).filter fun url => url.isSocket && url.host.isSome && url.path = "/ws" && url.isPlain

/-- `RuntimeRecord::validate` -/
def RuntimeRecord.validate (record : RuntimeRecord) : Bool :=
  !record.instanceId.isNil && (validateRouterUrl record.controlUrl).isSome &&
    (record.advertisedUrl.all fun url => (validateRouterUrl url).isSome) &&
    match record.shareMode, record.ownedServe with
    | .tailscale, some serve => serve.validate record.instanceId
    | .tailscale, none | .local_, some _ | .lan, some _ => false
    | .local_, none | .lan, none => true

def verifyHealthMarker (marker : HealthMarker) (instanceId : Uuid) : Call Unit :=
  require (marker.verify instanceId) (.health .markerMismatch)

/-- `resolve_share_mode` -/
def resolveShareMode (request : ShareRequest) (bind : SocketAddr) (tls : Option TlsSettings)
    (tailscale : Option Snapshot) : Except LaunchError RuntimeShareMode :=
  match request with
  | .local_ => if bind.ip.isLoopback then .ok .local_ else .error .tlsRequired
  | .lan => if bind.ip.isLoopback || tls.isNone then .error .tlsRequired else .ok .lan
  | .tailscale =>
    if tls.isSome || !bind.ip.isLoopback then .error .tlsInvalid
    else match tailscale with
      | none => .error .tailscaleUnavailable
      | some s => if s.validate then .ok .tailscale else .error .tailscaleUnavailable
  | .auto =>
    if tls.isSome then .ok (if bind.ip.isLoopback then .local_ else .lan)
    else if !bind.ip.isLoopback then .error .tlsRequired
    else .ok (if tailscale.any Snapshot.validate then .tailscale else .local_)

/-- The host of a URL that is an address; one in brackets is not read as an address. -/
def isLoopbackAddress : Option Host → Bool
  | some (.ipv4 a _ _ _) => a = 127
  | some (.ipv6 _) | some (.domain _) | none => false

/-- `validate_ready_control_url`, with the port of the URL. -/
def validateReadyControlUrl (value : String) (options : StartOptions) : Except LaunchError ℕ :=
  match validateRouterUrl value with
  | none => .error .startupProtocol
  | some url =>
    let accepted := match options.tls with
      | some tls => value = tls.publicUrl && url.scheme = "wss"
      | none => url.scheme = "ws" && isLoopbackAddress url.host &&
          (options.bind.port = 0 || url.portOrKnownDefault = some options.bind.port)
    match url.portOrKnownDefault with
    | some port => if accepted then .ok port else .error .startupProtocol
    | none => .error .startupProtocol

/-- `cleanup_owned_serve` -/
def cleanupOwnedServe (record : RuntimeRecord) : Call Unit :=
  match record.ownedServe with
  | none => pure ()
  | some serve => do
    require (serve.validate record.instanceId) .invalidRuntimeRecord
    let before ← snapshot
    require before.validate .tailscaleUnavailable
    match before.tcpForwards serve.port with
    | none => pure ()
    | some target => do
      require (target = serve.target) .tailscaleMappingConflict
      act (.disable serve)
      let after ← snapshot
      require after.validate .tailscaleUnavailable
      require (after.tcpForwards serve.port).isNone .tailscaleMappingConflict

/-- What happens to the mapping and the record of a router that is gone. -/
def recoverStale (record : RuntimeRecord) : Call Unit := do
  cleanupOwnedServe record
  act (.removeIfInstance record.instanceId)

inductive StartOutcome where
  | reused (record : RuntimeRecord)
  | started (record : RuntimeRecord)
  /-- The call goes on when the router in the foreground has ended. -/
  | foreground (record : RuntimeRecord)

/-- What to do about the record of an earlier start. -/
def reuse (record : RuntimeRecord) : Call (Option RuntimeRecord) := do
  let health ← probe record
  match health with
  | .ok marker => do
    verifyHealthMarker marker record.instanceId
    act (.verifyOwner record)
    pure (some record)
  | .error .connectionRefused => do
    recoverStale record
    pure none
  | .error failure => fail (.health failure)

def initialSnapshot (share : ShareRequest) : Call (Option Snapshot) :=
  match share with
  | .auto => do
    let found ← attempt snapshot
    pure found.toOption
  | .tailscale => do
    let s ← snapshot
    pure (some s)
  | .local_ | .lan => pure none

/-- A step of the start-up whose failure ends the router that was launched. -/
def orTerminate {α : Type} (p : Call α) : Call α := do
  let outcome ← attempt p
  match outcome with
  | .ok a => pure a
  | .error e => do
    let _ ← attempt (act .terminate)
    fail e

/-- The mapping that the router is to have, for a port that nobody uses. -/
def planServe (instanceId : Uuid) (port : ℕ) : Call OwnedServe := do
  let s ← snapshot
  require s.validate .tailscaleUnavailable
  require (s.tcpForwards port).isNone .tailscaleMappingConflict
  pure (.loopback instanceId port)

/-- The URL under which the router is published. -/
def publishedUrl (record : RuntimeRecord) : Call String :=
  match record.shareMode with
  | .local_ => pure record.controlUrl
  | .lan => do
    let url ← ofExcept ((parse record.controlUrl).elim (.error .invalidRuntimeRecord) .ok)
    require (url.scheme = "wss") .tlsRequired
    pure record.controlUrl
  | .tailscale =>
    match record.ownedServe with
    | none => fail .invalidRuntimeRecord
    | some serve => do
      act (.enable serve)
      let s ← snapshot
      require s.validate .tailscaleUnavailable
      require (s.tcpForwards serve.port = some serve.target) .tailscaleMappingConflict
      match s.selfIpv4.head? with
      | none => fail .tailscaleUnavailable
      | some address => pure s!"ws://{address.text}:{serve.port}/ws"

/-- `finish_start`, with the record as it is afterwards. -/
def finishStart (record : RuntimeRecord) : Call RuntimeRecord := do
  let health ← probe record
  match health with
  | .error failure => fail (.health failure)
  | .ok marker => do
    verifyHealthMarker marker record.instanceId
    act (.verifyOwner record)
    let url ← publishedUrl record
    if record.shareMode ≠ .local_ then do
      let advertised := { record with advertisedUrl := some url }
      act (.write advertised)
      act (.publish url advertised)
      pure advertised
    else do
      act (.publish url record)
      pure record

/-- `cleanup_failed_start` -/
def cleanupFailedStart (record : RuntimeRecord) : Call Unit := do
  let serve ← attempt (cleanupOwnedServe record)
  let child ← attempt (act .terminate)
  if serve.toBool && child.toBool then act (.removeIfInstance record.instanceId)
  else do
    ofExcept serve
    ofExcept child

/-- The start-up of a router that has been told to go on. -/
def settle (record : RuntimeRecord) (background : Bool) : Call StartOutcome := do
  let setup ← attempt (timed (finishStart record))
  match setup with
  | .error e => do
    cleanupFailedStart record
    fail e
  | .ok record =>
    if background then do
      act .detach
      pure (.started record)
    else do
      act (.release record)
      pure (.foreground record)

def acknowledge (instanceId : Uuid) : Call Unit := do
  let outcome ← attempt (act (.acknowledge instanceId))
  match outcome with
  | .ok () => pure ()
  | .error e => do
    let _ ← attempt (act .terminate)
    act (.removeIfInstance instanceId)
    fail e

/-- The router that was launched answers for the instance it was launched as. -/
def checkReady (ready : StartupReady) (instanceId : Uuid) (options : StartOptions) : Call ℕ := do
  require (ready.instanceId = instanceId) .startupProtocol
  ofExcept (validateReadyControlUrl ready.controlUrl options)

def planOwned (mode : RuntimeShareMode) (instanceId : Uuid) (port : ℕ) :
    Call (Option OwnedServe) :=
  if mode = .tailscale then do
    let serve ← orTerminate (planServe instanceId port)
    pure (some serve)
  else pure none

/-- The part of `start` that launches a router. -/
def startNew (options : StartOptions) : Call StartOutcome := do
  let found ← initialSnapshot options.share
  let mode ← ofExcept (resolveShareMode options.share options.bind options.tls found)
  let instanceId ← newInstance options.instanceId
  require (!instanceId.isNil) .startupProtocol
  act (.configureShareMode mode)
  let ready ← orTerminate (launch instanceId options.background)
  let port ← orTerminate (checkReady ready instanceId options)
  let serve ← planOwned mode instanceId port
  let record : RuntimeRecord :=
    { instanceId, controlUrl := ready.controlUrl, shareMode := mode, advertisedUrl := none,
      ownedServe := serve }
  orTerminate (act (.write record))
  acknowledge instanceId
  settle record options.background

/-- `NativeLauncher::start` up to the end of the start-up. -/
def start (options : StartOptions) : Call StartOutcome := do
  act .lock
  let found ← read
  let reused ← found.elim (pure none) reuse
  match reused with
  | some record => pure (.reused record)
  | none => startNew options

/-- The end of `start` in the foreground. -/
def reap (record : RuntimeRecord) : Call Unit := do
  act (.resume record)
  let found ← read
  if found.any fun current => current.instanceId = record.instanceId then recoverStale record
  else pure ()

inductive StopOutcome where
  | notRunning
  | staleRecovered
  | stopped (record : RuntimeRecord)

/-- The part of `stop_locked` that has found a record. -/
def stopRecorded (record : RuntimeRecord) : Call StopOutcome := do
  let health ← probe record
  match health with
  | .ok marker => do
    verifyHealthMarker marker record.instanceId
    act (.verifyOwner record)
    act (.shutdown record)
    act (.waitStopped record)
    recoverStale record
    pure (.stopped record)
  | .error .connectionRefused => do
    recoverStale record
    pure .staleRecovered
  | .error failure => fail (.health failure)

/-- `stop_locked` -/
def stopLocked (expected : Option Uuid) : Call StopOutcome := do
  act .lock
  let found ← read
  match found with
  | none => pure .notRunning
  | some record => do
    require (expected.all fun id => id = record.instanceId) .instanceChanged
    stopRecorded record

end

/-- A mapping of a port of the tailnet address, and the instance the launcher enabled it for. -/
structure Mapping where
  target : String
  owner : Option Uuid

/-- What the launcher did, with what it had to know for it. -/
inductive Event where
  /-- A router is launched, with the record on disk. -/
  | launched (record : Option RuntimeRecord)
  /-- A mapping is enabled, with the latest snapshot. -/
  | enabled (serve : OwnedServe) (latest : Option Snapshot)
  /-- A mapping is switched off, with its target and the record on disk. -/
  | disabled (serve : OwnedServe) (target : Option String) (record : Option RuntimeRecord)

structure Device where
  serve : ℕ → Option Mapping
  disk : Option RuntimeRecord
  /-- Commands that went on after the start-up had been given up. -/
  background : List OwnedServe
  /-- The records of the routers that run in the foreground. -/
  waiting : List RuntimeRecord
  used : List Uuid
  latest : Option Snapshot
  log : List Event

namespace Device

def note (w : Device) (e : Event) : Device := { w with log := e :: w.log }

def map (w : Device) (port : ℕ) (mapping : Option Mapping) : Device :=
  { w with serve := Function.update w.serve port mapping }

def enabled (w : Device) (serve : OwnedServe) : Device :=
  w.map serve.port (some ⟨serve.target, some serve.instanceId⟩)

def removed (w : Device) (instanceId : Uuid) : Device :=
  if w.disk.any fun record => record.instanceId = instanceId then { w with disk := none } else w

def target (w : Device) (port : ℕ) : Option String := (w.serve port).map Mapping.target

end Device

/-- What happens beside the calls of the launcher: other programs change the mappings of ports that
the launcher has nothing to do with, and a command that was left behind takes effect. -/
inductive Change (w : Device) : Device → Prop
  | other {port : ℕ} {mapping : Option Mapping} (hnew : ∀ m, mapping = some m → m.owner = none)
      (hold : ∀ m, w.serve port = some m → m.owner = none)
      (hrecord : ∀ record serve, w.disk = some record → record.ownedServe = some serve →
        serve.port ≠ port) : Change w (w.map port mapping)
  | late {serve : OwnedServe} (h : serve ∈ w.background) :
      Change w { w.enabled serve with background := w.background.erase serve }

/-- The operations that change nothing the launcher keeps an eye on. -/
def Op.quiet : Op → Bool
  | lock | read | probe _ | verifyOwner _ | shutdown _ | waitStopped _ | publish .. | detach
  | configureShareMode _ | acknowledge _ | terminate => true
  | write _ | removeIfInstance _ | snapshot | enable _ | disable _ | newInstance _ | launch ..
  | release _ | resume _ | timed _ => false

/-- The operation takes a snapshot. -/
def Op.looks : Op → Bool
  | snapshot => true
  | timed o => o.looks
  | lock | read | write _ | removeIfInstance _ | probe _ | verifyOwner _ | shutdown _
  | waitStopped _ | enable _ | disable _ | publish .. | detach | newInstance _
  | configureShareMode _ | launch .. | acknowledge _ | terminate | release _ | resume _ => false

section

variable [UrlParser]

/-- What an operation does and answers. A failed one may have done its work. -/
inductive Effect (w : Device) : Op → Reply → Device → Prop
  | failed (o : Op) (e : LaunchError) : Effect w o (.failed e) w
  | done {o : Op} (h : o.quiet = true) : Effect w o .done w
  | read : Effect w .read (.record w.disk) w
  | marker (record : RuntimeRecord) (m : HealthMarker) : Effect w (.probe record) (.marker m) w
  | unhealthy (record : RuntimeRecord) (failure : ProbeFailure) :
      Effect w (.probe record) (.unhealthy failure) w
  | snapshot (s : Snapshot) (h : s.tcpForwards = w.target) :
      Effect w .snapshot (.seen s) { w with latest := some s }
  | write {record : RuntimeRecord} {r : Reply} (h : record.validate = true)
      (hr : r = .done ∨ ∃ e, r = .failed e) :
      Effect w (.write record) r { w with disk := some record }
  | remove {instanceId : Uuid} {r : Reply} (hr : r = .done ∨ ∃ e, r = .failed e) :
      Effect w (.removeIfInstance instanceId) r (w.removed instanceId)
  | enable {serve : OwnedServe} {r : Reply} (hr : r = .done ∨ ∃ e, r = .failed e) :
      Effect w (.enable serve) r ((w.note (.enabled serve w.latest)).enabled serve)
  | disable {serve : OwnedServe} {r : Reply} (hr : r = .done ∨ ∃ e, r = .failed e) :
      Effect w (.disable serve) r
        ((w.note (.disabled serve (w.target serve.port) w.disk)).map serve.port none)
  | newInstance {wanted : Option Uuid} {id : Uuid} (h : wanted.elim (id ∉ w.used) (· = id)) :
      Effect w (.newInstance wanted) (.instance_ id) { w with used := id :: w.used }
  | launch (instanceId : Uuid) (background : Bool) (ready : StartupReady) :
      Effect w (.launch instanceId background) (.ready ready) (w.note (.launched w.disk))
  | launchFailed (instanceId : Uuid) (background : Bool) (e : LaunchError) :
      Effect w (.launch instanceId background) (.failed e) (w.note (.launched w.disk))
  | release (record : RuntimeRecord) :
      Effect w (.release record) .done { w with waiting := record :: w.waiting }
  | resume {record : RuntimeRecord} (h : record ∈ w.waiting) :
      Effect w (.resume record) .done { w with waiting := w.waiting.erase record }
  | timed {o : Op} {r : Reply} {w' : Device} (h : Effect w o r w') : Effect w (.timed o) r w'
  /-- The deadline passes before the operation answers. -/
  | expired {o : Op} {r : Reply} {w' : Device} (h : Effect w o r w') :
      Effect w (.timed o) .expired w'
  /-- The command runs on a thread of its own, which nobody waits for any more. -/
  | detached (serve : OwnedServe) : Effect w (.timed (.enable serve)) .expired
      { w.note (.enabled serve w.latest) with background := serve :: w.background }

/-- An operation, and what happens before it. -/
def Answers (w : Device) (o : Op) (r : Reply) (w' : Device) : Prop :=
  ∃ before, Relation.ReflTransGen Change w before ∧ Effect before o r w'

/-- No snapshot is taken while a command that was left behind has still to take effect, and no start
names an instance that an earlier one had. -/
def Timely (w : Device) (o : Op) (r : Reply) (w' : Device) : Prop :=
  (o.looks = true → (∀ e, r ≠ .failed e) → w'.background = []) ∧
    ∀ id, o = .newInstance (some id) → id ∉ w.used

/-- The calls of the launcher, as far as each holds the launcher lock. -/
inductive IsCall : Prog Op Reply Unit → Prop
  | start (options : StartOptions) : IsCall ((start options).bind fun _ => .ret ())
  | reap (record : RuntimeRecord) : IsCall ((reap record).bind fun _ => .ret ())
  | stop (expected : Option Uuid) : IsCall ((stopLocked expected).bind fun _ => .ret ())

end

end SessionRouter.Launcher
