import SessionRouter.Onboarding.Journal

/-!
The reading of router URLs. The parser is the one of the URL standard; what the router asks of the
URLs it returns, and how it guesses the parts a user left out, is here.
-/

namespace SessionRouter

/-- The host of a URL as the parser classifies it. -/
inductive Host where
  | ipv4 (a b c d : Fin 256)
  | ipv6 (ip : BitVec 128)
  | domain (name : String)
  deriving DecidableEq

structure Url where
  scheme : String
  username : String
  password : Option String
  host : Option Host
  port : Option ℕ
  path : String
  query : Option String
  fragment : Option String
  deriving DecidableEq

instance octets : NeZero 256 := ⟨by decide⟩

namespace Host

def isUnspecified : Host → Bool
  | ipv4 a b c d => a = 0 && b = 0 && c = 0 && d = 0
  | ipv6 ip => ip = 0
  | domain _ => false

def isLinkLocal : Host → Bool
  | ipv4 a b _ _ => a = 169 && b = 254
  | ipv6 ip => ip >>> 118 = 0x3fa#128
  | domain _ => false

def isMulticast : Host → Bool
  | ipv4 a _ _ _ => 224 ≤ a.val && a.val ≤ 239
  | ipv6 ip => ip >>> 120 = 0xff#128
  | domain _ => false

def isBroadcast : Host → Bool
  | ipv4 a b c d => a = 255 && b = 255 && c = 255 && d = 255
  | ipv6 _ | domain _ => false

/-- `to_ipv4_mapped` -/
def isMapped : Host → Bool
  | ipv6 ip => ip >>> 32 = 0xffff#128
  | ipv4 .. | domain _ => false

def isLoopback : Host → Bool
  | ipv4 a _ _ _ => a = 127
  | ipv6 ip => ip = 1
  | domain name => name.toList.map Char.toLower = "localhost".toList

/-- The shared address space that a tailnet uses. -/
def isTailnet : Host → Bool
  | ipv4 a b _ _ => a = 100 && 64 ≤ b.val && b.val ≤ 127
  | ipv6 _ | domain _ => false

/-- An address that no route may have. -/
def isRefused (h : Host) : Bool :=
  h.isUnspecified || h.isLinkLocal || h.isMulticast || h.isBroadcast || h.isMapped

end Host

namespace Url

def knownDefault : String → Option ℕ
  | "ws" | "http" => some 80
  | "wss" | "https" => some 443
  | "ftp" => some 21
  | _ => none

def portOrKnownDefault (u : Url) : Option ℕ := u.port.or (knownDefault u.scheme)

/-- Nothing but a scheme, a host, a port and a path. -/
def isPlain (u : Url) : Bool :=
  u.username = "" && u.password.isNone && u.query.isNone && u.fragment.isNone

/-- The schemes of a web socket. -/
def isSocket (u : Url) : Bool := u.scheme = "ws" || u.scheme = "wss"

end Url

/-- `Url::parse`, and `Url::as_str`. -/
class UrlParser where
  parse : String → Option Url
  href : Url → String

export UrlParser (parse href)

/-- `char::is_whitespace` -/
def isWhitespace (c : Char) : Bool :=
  (9 ≤ c.toNat && c.toNat ≤ 13) || (8192 ≤ c.toNat && c.toNat ≤ 8202) ||
    [32, 133, 160, 5760, 8232, 8233, 8239, 8287, 12288].contains c.toNat

/-- `str::trim` -/
def trim (s : String) : String :=
  String.ofList ((s.toList.dropWhile isWhitespace).reverse.dropWhile isWhitespace).reverse

/-- What the URL standard says about the URLs of web sockets, as far as the router relies on it. -/
class UrlStandard [UrlParser] : Prop where
  /-- A serialised URL is parsed to the same URL, also after its path was replaced. -/
  parse_href : ∀ {s u}, parse s = some u → u.isSocket = true → ∀ path,
    path = u.path ∨ path = "/ws" → parse (href { u with path }) = some { u with path }
  /-- A serialised URL has an authority, and its whitespace is percent-encoded. -/
  href_text : ∀ {s u}, parse s = some u → u.isSocket = true → ∀ path,
    path = u.path ∨ path = "/ws" → Onboarding.occursIn "://" (href { u with path }) = true ∧
      (href { u with path }).toList.any isWhitespace = false
  /-- Whitespace around a URL is ignored, an error, or percent-encoded at the end of the path. -/
  parse_trim : ∀ {s u}, parse s = some u → u.path = "/ws" → u.query = none → u.fragment = none →
    parse (trim s) = some u
  /-- Behind another scheme, the scheme of a URL without an authority is read as a host or as a
  user. -/
  parse_guess : ∀ {s u v}, parse s = some u → u.isSocket = true →
    Onboarding.occursIn "://" (trim s) = false → parse ("ws://" ++ trim s) = some v →
    v.scheme = "ws" ∧ (v.username = "" → v.host = some (.domain u.scheme))

/-- `ConfigError`; `oversized` is `Invalid` for a payload over the size limit. -/
inductive ConfigError where
  | invalid | oversized | invalidUrl | invalidProfile | profileConflict | bindingConflict | io
  deriving DecidableEq

section

variable [UrlParser]

/-- The URL a user may have meant, before it is parsed. -/
def candidateUrl (trimmed : String) : String :=
  if Onboarding.occursIn "://" trimmed then trimmed else "ws://" ++ trimmed

/-- `normalize_router_url` -/
def normalizeRouterUrl (raw : String) : Except ConfigError Url :=
  let trimmed := trim raw
  if trimmed = "" || trimmed.toList.any isWhitespace then .error .invalidUrl
  else match parse (candidateUrl trimmed) with
    | none => .error .invalidUrl
    | some url =>
      if !url.isSocket || !url.isPlain || url.host.isNone then .error .invalidUrl
      else
        let url := if url.port.isNone && url.portOrKnownDefault.isNone then
          { url with port := some 8787 } else url
        .ok (if url.path = "" || url.path = "/" then { url with path := "/ws" } else url)

end

end SessionRouter
