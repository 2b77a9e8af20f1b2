import SessionRouter.Config.File
import SessionRouter.Lib.ShellText

/-!
The onboarding prompt: the JSON of a ticket, the shell template with its slots, and the text that
is made of them.
-/

namespace SessionRouter.Onboarding

open Config (validateRoutes validCaPem)

def maxTicketBytes : ℕ := 128 * 1024

def maxCaBytes : ℕ := 64 * 1024

/-- `OnboardingProvider::as_str` -/
def providerName : OnboardingProvider → String
  | .claudeCode => "claude-code"
  | .codexCli => "codex-cli"
  | .omp => "omp"

def RouteKind.name : RouteKind → String
  | tailnet => "tailnet"
  | lan => "lan"
  | public_ => "public"
  | local_ => "local"

def OnboardingRoute.toJson (route : OnboardingRoute) : JsonValue :=
  .obj ([("kind", .str route.kind.name), ("routerUrl", .str route.routerUrl)] ++
    JsonValue.optField "caPem" .str route.caPem)

def BootstrapArtifact.toJson (artifact : BootstrapArtifact) : JsonValue :=
  .obj [("target", .str artifact.target), ("binaryFile", .str artifact.binaryFile),
    ("binarySha256", .str artifact.binarySha256), ("archiveFile", .str artifact.archiveFile),
    ("archiveSha256", .str artifact.archiveSha256), ("binaryBytes", .num artifact.binaryBytes),
    ("archiveBytes", .num artifact.archiveBytes)]

/-- The JSON of a ticket; no ticket that is encoded expires before the epoch. -/
def OnboardingTicket.toJson (t : OnboardingTicket) : JsonValue :=
  .obj ([("version", .num t.version), ("serverId", .str t.serverId.toText),
    ("inviteId", .str t.inviteId.toText), ("inviteToken", .str t.inviteToken),
    ("expiresAt", .num t.expiresAt.toNat), ("profileName", .str t.profileName),
    ("workspace", .str t.workspace.asStr)] ++
    JsonValue.optField "provider" (fun provider => .str (providerName provider)) t.provider ++
    [("routes", .arr (t.routes.map OnboardingRoute.toJson)),
      ("manifestSha256", .str t.manifestSha256),
      ("artifacts", .arr (t.artifacts.map BootstrapArtifact.toJson))])

/-- A line of a text without its end; what is read of the line is reversed. -/
def linesFrom : List Char → List Char → List (List Char)
  | [], [] => []
  | line, [] => [line.reverse]
  | '\r' :: line, '\n' :: text => line.reverse :: linesFrom [] text
  | line, '\n' :: text => line.reverse :: linesFrom [] text
  | line, c :: text => linesFrom (c :: line) text

/-- `str::lines` -/
def lines (text : List Char) : List (List Char) := linesFrom [] text

def isBase64Char (c : Char) : Bool := isAsciiAlphanumeric c || c = '+' || c = '/' || c = '='

/-- Whether a certificate is open behind a line, unless the line is refused. -/
def caLine (active : Bool) (line : List Char) : Option Bool :=
  if line = "-----BEGIN CERTIFICATE-----".toList && !active then some true
  else if line = "-----END CERTIFICATE-----".toList && active then some false
  else if !active && line.all isWhitespace then some false
  else if active && !line.isEmpty && line.all isBase64Char then some true
  else none

/-- Whether every certificate of a text is read and added to the roots, and there is one. -/
class PemRoots where
  accepted : String → Bool

def validateCaPem [PemRoots] (pem : String) : Bool :=
  pem ≠ "" && pem.utf8ByteSize ≤ maxCaBytes &&
    (lines pem.toList).foldlM caLine false = some false && PemRoots.accepted pem

section

variable [UrlParser]

/-- The paths of the server that an onboarding URL may name. -/
def knownPath (path : String) : Bool :=
  path = "/onboarding/info" || path = "/onboarding/enroll" ||
    path = "/onboarding/files/bootstrap-manifest.json" ||
    targets.any fun target => path = "/onboarding/files/asr-" ++ target ||
      path = "/onboarding/files/agent-session-router-" ++ target ++ ".tar.gz"

/-- `Url::set_scheme`; the default port of a scheme is left out. -/
def withScheme (url : Url) (scheme : String) : Url :=
  { url with scheme, port := if url.port = Url.knownDefault scheme then none else url.port }

/-- `onboarding_url` -/
def onboardingUrl (routerUrl path : String) : Option Url :=
  if knownPath path then
    (parse routerUrl).bind fun url =>
      if !url.isSocket || url.host.isNone || url.path ≠ "/ws" || !url.isPlain ||
          url.port = some 0 || url.host.any Host.isRefused then none
      else some { withScheme url (if url.scheme = "wss" then "https" else "http") with path }
  else none

/-- The URL under which a route serves the files. -/
def filesUrl (route : OnboardingRoute) : Option String :=
  (onboardingUrl route.routerUrl "/onboarding/info").map fun url =>
    href { url with path := "/onboarding/files/" }

/-- The routes in the order in which they are tried. -/
def orderedRoutes (t : OnboardingTicket) : List OnboardingRoute :=
  [RouteKind.tailnet, .lan, .public_, .local_].filterMap fun kind =>
    t.routes.find? fun route => route.kind = kind

/-- The URLs and certificates of the routes, or nothing when a URL is refused. -/
def routeSlots (t : OnboardingTicket) : Option (List (String × String)) :=
  (orderedRoutes t).mapM fun route =>
    (filesUrl route).map fun url => (url, route.caPem.getD "")

end

inductive PromptSlot where
  | pinnedProvider | sha256 (target : ℕ) | bytes (target : ℕ) | route (index : ℕ)
  | ca (index : ℕ) | ticketJson
  deriving DecidableEq

def slotNames : List (String × ShellSymbol PromptSlot) :=
  [("PINNED_PROVIDER", .word .pinnedProvider),
    ("DARWIN_ARM64_SHA256", .word (.sha256 0)), ("DARWIN_ARM64_BYTES", .word (.bytes 0)),
    ("DARWIN_X64_SHA256", .word (.sha256 1)), ("DARWIN_X64_BYTES", .word (.bytes 1)),
    ("LINUX_ARM64_SHA256", .word (.sha256 2)), ("LINUX_ARM64_BYTES", .word (.bytes 2)),
    ("LINUX_X64_SHA256", .word (.sha256 3)), ("LINUX_X64_BYTES", .word (.bytes 3)),
    ("ROUTE_1", .word (.route 0)), ("CA_1", .word (.ca 0)),
    ("ROUTE_2", .word (.route 1)), ("CA_2", .word (.ca 1)),
    ("ROUTE_3", .word (.route 2)), ("CA_3", .word (.ca 2)),
    ("ROUTE_4", .word (.route 3)), ("CA_4", .word (.ca 3)),
    ("TICKET_JSON", .line .ticketJson)]

/-- The artifact of a target, as the four slots of the targets name it. -/
def artifactOf (t : OnboardingTicket) (target : ℕ) : Option BootstrapArtifact :=
  t.artifacts.find? fun artifact => targets[target]? = some artifact.target

/-- What is put into a slot. -/
def slotValue (t : OnboardingTicket) (routes : List (String × String)) : PromptSlot → List Char
  | .pinnedProvider => (t.provider.map providerName).getD "" |>.toList
  | .sha256 target => ((artifactOf t target).map BootstrapArtifact.binarySha256).getD "" |>.toList
  | .bytes target =>
    ((artifactOf t target).map fun artifact => JsonValue.encodeNat 20 artifact.binaryBytes).getD
      ['0']
  | .route index => ((routes[index]?).map Prod.fst).getD "" |>.toList
  | .ca index => ((routes[index]?).map Prod.snd).getD "" |>.toList
  | .ticketJson => t.toJson.encode

/-- The parts of a text between marks, as `split` gives them. -/
def fragments : List Char → List (List Char)
  | [] => [[]]
  | '@' :: '@' :: text => [] :: fragments text
  | c :: text =>
    match fragments text with
    | [] => [[c]]
    | first :: rest => (c :: first) :: rest

def slotOf (name : List Char) : Option (ShellSymbol PromptSlot) :=
  (slotNames.find? fun slot => slot.1.toList = name).map Prod.snd

/-- Every other fragment is the name of a slot. -/
def symbols : List (List Char) → Option (List (ShellSymbol PromptSlot))
  | [] => some []
  | [text] => some (text.map .char)
  | text :: name :: rest => do
    let slot ← slotOf name
    let rest ← symbols rest
    some (text.map .char ++ slot :: rest)

/-- `scripts/onboarding-bootstrap.sh` -/
def templateParts : List String :=
  ["#!/bin/sh\n",
    "# This fixed POSIX template is rendered by onboarding::prompt. Only quoted data\n",
    "# slots and the compact JSON stdin document are substituted; no server commands.\n",
    "set +vx\n",
    "set -eu\n",
    "set -f\n",
    "umask 077\n",
    "IFS=' \t\n",
    "'\n",
    "\n",
    "asr_fail() \x7b\n",
    "    printf '%s\\n' \"$1\" >&2\n",
    "    exit 1\n",
    "\x7d\n",
    "\n",
    "for asr_command in sh curl mktemp chmod wc uname rm; do\n",
    "    command -v \"$asr_command\" >/dev/null 2>&1 || asr_fail \"prerequisite_missing:",
      " $asr_command; install it yourself using your normal approved procedure, then retry\"\n",
    "done\n",
    "if command -v sha256sum >/dev/null 2>&1; then\n",
    "    asr_hash_tool=sha256sum\n",
    "elif command -v shasum >/dev/null 2>&1; then\n",
    "    asr_hash_tool=shasum\n",
    "else\n",
    "    asr_fail 'prerequisite_missing: sha256sum or shasum; no packages were installed'\n",
    "fi\n",
    "\n",
    "asr_pinned_provider=@@PINNED_PROVIDER@@\n",
    "asr_provider=$\x7bASR_PROVIDER:-\x7d\n",
    "case \"$asr_provider\" in\n",
    "    claude-code) asr_host_command=claude ;;\n",
    "    codex-cli) asr_host_command=codex ;;\n",
    "    omp) asr_host_command=omp ;;\n",
    "    *) asr_fail 'provider_required: explicitly set ASR_PROVIDER to the provider",
      " running this conversation: claude-code, codex-cli, or omp' ;;\n",
    "esac\n",
    "if [ -n \"$asr_pinned_provider\" ] && [ \"$asr_provider\" != \"$asr_pinned_provider\"",
      " ]; then\n",
    "    asr_fail 'provider_mismatch: this invitation is restricted to a different",
      " provider; request a new prompt'\n",
    "fi\n",
    "command -v \"$asr_host_command\" >/dev/null 2>&1 || asr_fail \"provider_cli_missing:",
      " $asr_host_command; install or update the current provider yourself before retrying\"\n",
    "\n",
    "asr_os=$(uname -s) || asr_fail 'unsupported_platform: cannot identify operating",
      " system'\n",
    "asr_arch=$(uname -m) || asr_fail 'unsupported_platform: cannot identify architecture'\n",
    "case \"$asr_os/$asr_arch\" in\n",
    "    Darwin/arm64|Darwin/aarch64)\n",
    "        asr_target=aarch64-apple-darwin\n",
    "        asr_sha256=@@DARWIN_ARM64_SHA256@@\n",
    "        asr_bytes=@@DARWIN_ARM64_BYTES@@\n",
    "        ;;\n",
    "    Darwin/x86_64|Darwin/amd64)\n",
    "        asr_target=x86_64-apple-darwin\n",
    "        asr_sha256=@@DARWIN_X64_SHA256@@\n",
    "        asr_bytes=@@DARWIN_X64_BYTES@@\n",
    "        ;;\n",
    "    Linux/arm64|Linux/aarch64)\n",
    "        asr_target=aarch64-unknown-linux-gnu\n",
    "        asr_sha256=@@LINUX_ARM64_SHA256@@\n",
    "        asr_bytes=@@LINUX_ARM64_BYTES@@\n",
    "        ;;\n",
    "    Linux/x86_64|Linux/amd64)\n",
    "        asr_target=x86_64-unknown-linux-gnu\n",
    "        asr_sha256=@@LINUX_X64_SHA256@@\n",
    "        asr_bytes=@@LINUX_X64_BYTES@@\n",
    "        ;;\n",
    "    *) asr_fail 'unsupported_platform: only macOS/Linux on arm64/x86_64 are supported;",
      " nothing was installed' ;;\n",
    "esac\n",
    "[ -n \"$asr_sha256\" ] || asr_fail \"target_unavailable: $asr_target is not supplied",
      " by this server; request a matching bootstrap bundle\"\n",
    "\n",
    "# Routes are ordered tailnet, LAN, public; local is allowed only by itself.\n",
    "# The tokenless raw download is hash-pinned. The verified native installer must\n",
    "# check server identity, manifest, TLS/Tailscale trust before sending credentials.\n",
    "asr_route_1=@@ROUTE_1@@\n",
    "asr_ca_1=@@CA_1@@\n",
    "asr_route_2=@@ROUTE_2@@\n",
    "asr_ca_2=@@CA_2@@\n",
    "asr_route_3=@@ROUTE_3@@\n",
    "asr_ca_3=@@CA_3@@\n",
    "asr_route_4=@@ROUTE_4@@\n",
    "asr_ca_4=@@CA_4@@\n",
    "\n",
    "case \"$\x7bTMPDIR:-/tmp\x7d\" in\n",
    "    /*) ;;\n",
    "    *) asr_fail 'unsafe_temporary_directory: TMPDIR must be an absolute path' ;;\n",
    "esac\n",
    "asr_tmp=$(mktemp -d \"$\x7bTMPDIR:-/tmp\x7d/asr-onboarding.XXXXXXXXXX\") || asr_fail",
      " 'temporary_directory_failed'\n",
    "trap 'rm -rf \"$asr_tmp\"' 0\n",
    "trap 'exit 129' HUP\n",
    "trap 'exit 130' INT\n",
    "trap 'exit 143' TERM\n",
    "asr_downloaded=false\n",
    "for asr_index in 1 2 3 4; do\n",
    "    case \"$asr_index\" in\n",
    "        1) asr_base=$asr_route_1; asr_ca=$asr_ca_1 ;;\n",
    "        2) asr_base=$asr_route_2; asr_ca=$asr_ca_2 ;;\n",
    "        3) asr_base=$asr_route_3; asr_ca=$asr_ca_3 ;;\n",
    "        4) asr_base=$asr_route_4; asr_ca=$asr_ca_4 ;;\n",
    "    esac\n",
    "    [ -n \"$asr_base\" ] || continue\n",
    "    set --\n",
    "    if [ -n \"$asr_ca\" ]; then\n",
    "        printf '%s' \"$asr_ca\" > \"$asr_tmp/ca.pem\" || asr_fail 'ca_write_failed'\n",
    "        set -- --cacert \"$asr_tmp/ca.pem\"\n",
    "    fi\n",
    "    # --disable is the first curl option: a user's curlrc must not enable\n",
    "    # redirects, insecure TLS, tracing, alternate output paths, or extra URLs.\n",
    "    asr_curl_status=0\n",
    "    asr_http_status=$(curl --disable --silent --fail --globoff --proto '=http,https'",
      " \\\n",
    "        --noproxy '*' --max-redirs 0 --connect-timeout 3 --max-time 120 \\\n",
    "        --max-filesize \"$asr_bytes\" --output \"$asr_tmp/asr\" \\\n",
    "        --write-out '%\x7bhttp_code\x7d' \"$@\" \\\n",
    "        --url \"$\x7basr_base\x7dasr-$\x7basr_target\x7d\") || asr_curl_status=$?\n",
    "    case \"$asr_curl_status\" in\n",
    "        0) ;;\n",
    "        5|6|7|28|52|55|56)\n",
    "            printf 'route_unreachable: candidate %s; trying only the next supplied",
      " route\\n' \"$asr_index\" >&2\n",
    "            continue\n",
    "            ;;\n",
    "        35|51|58|59|60|64|66|77|80|82|83|90|91)\n",
    "            asr_fail 'bootstrap_trust_failed: TLS verification failed; do not bypass",
      " it or try another route'\n",
    "            ;;\n",
    "        63) asr_fail 'binary_size_mismatch: refusing to execute or try another route'",
      " ;;\n",
    "        22) asr_fail 'bootstrap_http_rejected: server did not provide the required",
      " binary' ;;\n",
    "        *) asr_fail 'bootstrap_download_failed: refusing to execute or bypass this",
      " failure' ;;\n",
    "    esac\n",
    "    case \"$asr_http_status\" in\n",
    "        200) ;;\n",
    "        3??) asr_fail 'bootstrap_redirect_rejected: redirects are not followed' ;;\n",
    "        *) asr_fail 'bootstrap_http_rejected: expected HTTP 200' ;;\n",
    "    esac\n",
    "    asr_actual_bytes=$(wc -c < \"$asr_tmp/asr\") || asr_fail",
      " 'binary_size_check_failed'\n",
    "    set -- $asr_actual_bytes\n",
    "    [ \"$#\" -eq 1 ] && [ \"$1\" = \"$asr_bytes\" ] || asr_fail 'binary_size_mismatch:",
      " refusing to execute or try another route'\n",
    "    case \"$asr_hash_tool\" in\n",
    "        sha256sum) asr_actual_digest=$(sha256sum < \"$asr_tmp/asr\") || asr_fail",
      " 'binary_digest_check_failed' ;;\n",
    "        shasum) asr_actual_digest=$(shasum -a 256 < \"$asr_tmp/asr\") || asr_fail",
      " 'binary_digest_check_failed' ;;\n",
    "    esac\n",
    "    set -- $asr_actual_digest\n",
    "    [ \"$\x7b1:-\x7d\" = \"$asr_sha256\" ] || asr_fail 'binary_digest_mismatch:",
      " refusing to execute or try another route'\n",
    "    asr_downloaded=true\n",
    "    break\n",
    "done\n",
    "[ \"$asr_downloaded\" = true ] || asr_fail 'no_reachable_route: none of the supplied",
      " routes worked; ask the server operator for a reachable endpoint'\n",
    "chmod 700 \"$asr_tmp/asr\" || asr_fail 'binary_permission_failed'\n",
    "\n",
    "# Never move this JSON to arguments, environment variables, a URL, or a log.\n",
    "# Keep both here-document delimiters fixed; the renderer emits compact JSON.\n",
    "\"$asr_tmp/asr\" onboarding install --provider \"$asr_provider\" --stdin",
      " <<'ASR_ONBOARDING_TICKET'\n",
    "@@TICKET_JSON@@\n",
    "ASR_ONBOARDING_TICKET\n"]

def templateText : List Char := templateParts.flatMap String.toList

/-- The script of a prompt: a value is quoted, the JSON is put in as it is. -/
def renderSymbol (t : OnboardingTicket) (routes : List (String × String)) :
    ShellSymbol PromptSlot → List Char
  | .char c => [c]
  | .word slot => ShellText.quote (slotValue t routes slot)
  | .line slot => slotValue t routes slot

/-- What a prompt says before the targets. -/
def introduction (t : OnboardingTicket) : List String :=
  ["# ASR workspace onboarding\n\n",
    "Server: `", t.serverId.toText, "`\nProfile: `", t.profileName, "`\nWorkspace: `",
    t.workspace.asStr, "`\n\n",
    "This prompt contains a **one-time invitation valid for 10 minutes from issuance**. Its ",
    "server-authoritative expiry is `", String.ofList (JsonValue.encodeNat 20 t.expiresAt.toNat),
    "` (Unix milliseconds). The invitation remains in this conversation: anyone who obtains ",
    "it before expiry can take it over first. Use it only for one device and one provider ",
    "identity; another device/provider needs a new invitation. The prompt contains no ",
    "long-lived credential, private key, or administrator token.\n\n",
    "Before running anything, confirm that the user trusts this prompt and the server ",
    "operator who supplied it. Obtain OS shell execution permission through the current ",
    "provider's normal approval procedure. Do not bypass approvals, use sudo, install system ",
    "packages, change provider logins, alter Tailscale/firewalls, or invent a public ",
    "download URL. If permission is unavailable, report `host_permission_required` and ask ",
    "the user to grant it normally.\n\n",
    "Choose the provider from **the host running this conversation**, never by counting or ",
    "inspecting which provider executables happen to be installed. Install only that host. ",
    "Set the shell environment variable `ASR_PROVIDER` to exactly one value: `claude-code` ",
    "for Claude Code, `codex-cli` for Codex CLI, or `omp` for OMP. For example, in an OMP ",
    "conversation use `export ASR_PROVIDER=omp` in the same approved shell before the block ",
    "below. This variable contains only the provider name, never an invitation or ",
    "credential.\n\n"]

def restriction (provider : OnboardingProvider) : List String :=
  ["**Provider restriction: `", providerName provider,
    "` only.** If this conversation is in another host, stop and request a new prompt; do ",
    "not set a false provider value. The shell also rejects any nonmatching ",
    "`ASR_PROVIDER`.\n\n"]

def workspaceNote : List String :=
  ["Use only the invited workspace. Workspace assignment and creation belong to the server ",
    "administrator; request a new server-issued prompt rather than attempting an authority ",
    "bypass.\n\n",
    "This server supplies these targets (only these can be installed):\n"]

def requirements : List String :=
  ["\nWindows, unsupported architectures, and a missing current-provider CLI are ",
    "prerequisites to resolve manually, not a reason to auto-install packages or build from ",
    "source. Linux binaries target GNU/Linux. The shell requires POSIX `sh`, `uname`, ",
    "`curl`, `mktemp`, `chmod`, `wc`, `rm`, and either `sha256sum` or `shasum`.\n\n"]

def localWarning : List String :=
  ["**LOCAL-ONLY WARNING:** this invitation points at loopback on the same machine as the ",
    "server. Do not distribute it to a remote client. The verified native installer must ",
    "still compare the persistent server ID so a different local router cannot receive the ",
    "invitation.\n\n"]

def review : List String :=
  ["Review and execute the following fixed POSIX shell block with tracing/verbose logging ",
    "off. Feed the script to `sh` on stdin as shown, not as a `sh -c` argument. Do not copy ",
    "the ticket into command arguments, environment variables, URLs, or diagnostic output, ",
    "and do not read or print credential/profile/journal files into this conversation. The ",
    "raw executable is downloaded without a token and must match both its pinned size and ",
    "SHA-256 before execution. Only supplied routes are tried, in Tailnet → LAN → public ",
    "order; a trust/hash failure is final, not permission to bypass TLS. Public CA ",
    "certificates, if supplied, are written privately for this download. The native ",
    "installer separately validates server identity, Tailscale/TLS, the manifest and archive ",
    "before enrollment. Existing PATH executables and shell startup files must not be ",
    "replaced.\n\n"]

/-- What a prompt says behind the script. -/
def closing : List String :=
  ["After the installer returns, report its real result and reproduce its `nextAction` ",
    "command exactly. A successful installation/registration is **not** proof that this ",
    "current conversation is connected. Respect `restart_required` or `not_checked`; if MCP ",
    "tools are unavailable, follow the reported normal restart/reload procedure and then ",
    "check in the new provider session. Do not use an operator CLI connection to impersonate ",
    "the provider. Only report connected after this host's actual MCP `workspace_list` and ",
    "`workspace_members` confirm this provider identity in the invited workspace. Claude ",
    "Channel push/automatic execution additionally requires its normal organization policy ",
    "and development Channel opt-in; do not bypass either. If anything fails, report the ",
    "redacted error and required prerequisite, not a false installation or connection ",
    "success.\n"]

def suppliedTargets (t : OnboardingTicket) : List String :=
  (targets.filter fun target => t.artifacts.any fun artifact => artifact.target = target).flatMap
    fun target => ["- `", target, "`\n"]

def localNote (t : OnboardingTicket) : List String :=
  if t.routes.head?.any fun route => route.kind = .local_ then localWarning else []

def textOf (parts : List String) : List Char := parts.flatMap String.toList

def scriptOpening : List Char := "sh <<'ASR_BOOTSTRAP_SCRIPT'\n".toList

def scriptClosing : List Char := "ASR_BOOTSTRAP_SCRIPT\n".toList

/-- What a prompt says before the script. -/
def promptHead (t : OnboardingTicket) : List Char :=
  textOf (introduction t ++ t.provider.elim [] restriction ++ workspaceNote ++ suppliedTargets t ++
    requirements ++ localNote t ++ review)

/-- `render_prompt`; the errors are not told apart. -/
def renderPrompt [UrlParser] [JournalEnv] (t : OnboardingTicket) : Option (List Char) :=
  if !t.validate || maxTicketBytes < t.toJson.encodedLen then none
  else do
    let routes ← routeSlots t
    let script ← symbols (fragments templateText)
    some (promptHead t ++ "```sh\n".toList ++ scriptOpening ++
      script.flatMap (renderSymbol t routes) ++ scriptClosing ++ "```\n\n".toList ++ textOf closing)

end SessionRouter.Onboarding
