import AcpBridge.Startup

/-! The dependency probe of the `doctor` command: eight checks, each reported by itself, run
past failures. Network answers are parameters. -/
namespace AcpBridge

inductive Status
  | pass
  | warn
  | fail
  | skip
deriving DecidableEq

structure CheckResult where
  check : String
  status : Status
  detail : String
deriving DecidableEq

/-- 0 when nothing failed, warnings allowed; 1 otherwise. -/
def exitCode (results : List CheckResult) : ℕ :=
  if results.any fun r => r.status == .fail then 1 else 0

/-- Typed errors of the SDK with their display text. -/
inductive MuxiError
  | authentication (status : ℕ) (text : String)
  | authorization (status : ℕ) (text : String)
  | notFound (status : ℕ) (text : String)
  | conflict (status : ℕ) (text : String)
  | validation (status : ℕ) (text : String)
  | rateLimit (status : ℕ) (text : String)
  | server (status : ℕ) (text : String)
  | unknown (status : ℕ) (text : String)
  | connection (text : String)
  | request (text : String)
  | json (text : String)

/-- HTTP status of an error; failures of the transport have none. -/
def httpStatus : MuxiError → Option ℕ
  | .authentication status _ | .authorization status _ | .notFound status _ | .conflict status _
  | .validation status _ | .rateLimit status _ | .server status _ | .unknown status _ => some status
  | .connection _ | .request _ | .json _ => none

def MuxiError.text : MuxiError → String
  | .authentication _ text | .authorization _ text | .notFound _ text | .conflict _ text
  | .validation _ text | .rateLimit _ text | .server _ text | .unknown _ text
  | .connection text | .request text | .json text => text

/-- Host and port of an authority, and the port of the scheme where it names none. -/
def authorityOrigin (url : String) (authority : Str) (defaultPort : UInt16) :
    Except String (Str × UInt16) :=
  let parsed (host port : Str) : Except String (Str × UInt16) :=
    match port.parseU16 with
    | some port => .ok (host, port)
    | none => .error ("endpoint '" ++ url ++ "' has an invalid port")
  match Str.stripPrefix authority ['['] with
  | some bracketed =>
    match Str.splitOnce bracketed [']'] with
    | none => .error ("endpoint '" ++ url ++ "' has an unterminated IPv6 literal")
    | some (host, behind) =>
      match Str.stripPrefix behind [':'] with
      | some port => parsed host port
      | none => .ok (host, defaultPort)
  | none =>
    match Str.rsplitOnce authority [':'] with
    | some (host, port) =>
      if port.all Char.isDigit && !port.isEmpty then parsed host port
      else .ok (authority, defaultPort)
    | none => .ok (authority, defaultPort)

/-- Port of a scheme the doctor can probe. -/
def schemePort (scheme : String) : Except String UInt16 :=
  match scheme with
  | "https" | "wss" => .ok 443
  | "http" | "ws" => .ok 80
  | other => .error ("unsupported scheme '" ++ other ++ "'")

def Profile.endpointUrl (p : Profile) : Option String := p.baseUrl.or p.serverUrl

/-- Scheme, host and port of the endpoint. -/
def endpointOrigin (p : Profile) : Except String (String × String × UInt16) :=
  match p.endpointUrl with
  | none => .error "profile has no base_url or server_url"
  | some url =>
    match Str.splitOnce url.toList "://".toList with
    | none => .error ("endpoint '" ++ url ++ "' has no scheme")
    | some (scheme, rest) => do
      let defaultPort ← schemePort (String.ofList scheme)
      let authority := Str.splitFirst rest ['/', '?', '#']
      if authority.isEmpty then .error ("endpoint '" ++ url ++ "' has no host")
      else
        let (host, port) ← authorityOrigin url authority defaultPort
        return (String.ofList scheme, String.ofList host, port)

/-- Request id of the cancellation probe; no turn ever carries it. -/
def probeRequestId : String := "doctor-probe-nonexistent"

/-- What the doctor takes from the machine, the network and the SDK client. -/
structure Probes (Client Addr : Type) extends Environment Client where
  /-- `tokio::net::lookup_host` -/
  lookupHost : String → UInt16 → Except String (List Addr)
  /-- Display text of an address. -/
  showAddr : Addr → String
  /-- A bounded TCP connect; `none` when the bound is reached. -/
  connect : Addr → Option (Except String Unit)
  /-- `GET /health` -/
  health : Client → Except MuxiError Unit
  /-- `GET /v1/sessions` for a user id, with a limit -/
  getSessions : Client → String → Option ℕ → Except MuxiError Unit
  /-- `DELETE /v1/requests/<id>` for a user id -/
  cancelRequest : Client → String → String → Except MuxiError Unit

namespace Probes
variable {Client Addr : Type} (probes : Probes Client Addr)

/-- Profile loads and has an endpoint of the right shape. -/
def loadProfile (configPath : String) (profileFlag : Option String) :
    Except String (String × Profile) := do
  let file ← (probes.load configPath).mapError ConfigError.display
  let (name, profile) ← (selectProfile file profileFlag).mapError ConfigError.display
  profile.validateEndpoint.mapError ConfigError.display
  return (name, profile)

/-- The secret reference resolves; only its scheme is ever reported. -/
def configCheck (profileName : String) (profile : Profile) : CheckResult × Option String :=
  match profile.clientKeyReference with
  | .error err =>
    (⟨"config", .fail, "profile '" ++ profileName ++ "' loaded but " ++ err.display⟩, none)
  | .ok reference =>
    let scheme := String.ofList (Str.splitFirst reference.toList [':'])
    match probes.resolveSecret reference with
    | .ok key => (⟨"config", .pass, "profile '" ++ profileName ++
        "' loaded; client key resolves via '" ++ scheme ++ ":' reference"⟩, some key)
    | .error err => (⟨"config", .fail, "profile '" ++ profileName ++ "' loaded but the '" ++
        scheme ++ ":' client key reference does not resolve: " ++ err.display⟩, none)

/-- The enforcement of the connect mode. -/
def tlsPolicyCheck (profileName : String) (profile : Profile) : CheckResult :=
  match profile.validateTransportSecurity profileName with
  | .ok () => ⟨"tls-policy", .pass,
      if [profile.baseUrl, profile.serverUrl].reduceOption.any schemeIsPlaintext then
        "plaintext loopback endpoint permitted by allow_insecure_localhost (dev mode)"
      else "endpoint scheme passes connect-time TLS policy (https enforced off-box)"⟩
  | .error err => ⟨"tls-policy", .fail, err.display⟩

def dnsCheck (origin : Except String (String × String × UInt16)) : CheckResult × Option Addr :=
  match origin with
  | .error detail => (⟨"dns", .fail, detail⟩, none)
  | .ok (_, host, port) =>
    match probes.lookupHost host port with
    | .error err => (⟨"dns", .fail, "cannot resolve " ++ host ++ ": " ++ err⟩, none)
    | .ok [] => (⟨"dns", .fail, host ++ " resolved to no addresses"⟩, none)
    | .ok (first :: rest) => (⟨"dns", .pass, host ++ " resolved to " ++
        toString (rest.length + 1) ++ " address(es), first " ++ probes.showAddr first⟩,
        some first)

/-- Any HTTP status proves the round trip; only a failure of the transport does not. -/
def roundTrip (client : Except String Client) : Except String String :=
  match client with
  | .error err => .error ("cannot build client: " ++ err)
  | .ok client =>
    match probes.health client with
    | .ok () => .ok "HTTP 2xx"
    | .error err =>
      match httpStatus err with
      | some status => .ok ("HTTP " ++ toString status)
      | none => .error err.text

/-- A TCP connect, then an HTTP round trip; whether the origin answered is passed on. -/
def tcpTlsCheck (origin : Except String (String × String × UInt16)) (firstAddr : Option Addr)
    (client : Except String Client) : CheckResult × Bool :=
  match origin, firstAddr with
  | .ok (scheme, _, _), some addr =>
    match (probes.connect addr).getD (.error "timed out") with
    | .error err => (⟨"tcp+tls", .fail, "TCP connect to " ++ probes.showAddr addr ++
        " failed: " ++ err⟩, false)
    | .ok () =>
      match probes.roundTrip client with
      | .error err => (⟨"tcp+tls", .fail, "TCP connect to " ++ probes.showAddr addr ++
          " ok but HTTP(S) request failed: " ++ err⟩, false)
      | .ok status => (⟨"tcp+tls", .pass, if scheme == "https" || scheme == "wss" then
          "TCP connect to " ++ probes.showAddr addr ++
            " ok; TLS negotiated (https round-trip returned " ++ status ++ ")"
          else "TCP connect to " ++ probes.showAddr addr ++
            " ok; plaintext HTTP round-trip returned " ++ status ++ " (dev mode, no TLS)"⟩, true)
  | _, _ => (⟨"tcp+tls", .skip, "endpoint did not resolve; see dns"⟩, false)

def authCheck (client : Except String Client) (clientKey : Option String) (userId : String) :
    CheckResult :=
  match client, clientKey with
  | .ok client, some _ =>
    match probes.getSessions client userId (some 1) with
    | .ok () => ⟨"auth", .pass, "GET /v1/sessions returned 2xx; client key accepted"⟩
    | .error err =>
      match httpStatus err with
      | some 401 => ⟨"auth", .fail, "bad credentials: GET /v1/sessions returned 401"⟩
      | some status => ⟨"auth", .fail, "GET /v1/sessions returned HTTP " ++ toString status⟩
      | none => ⟨"auth", .fail, "cannot reach endpoint: " ++ err.text⟩
  | .error err, _ => ⟨"auth", .fail, "cannot build client: " ++ err⟩
  | _, none => ⟨"auth", .skip, "client key did not resolve; see config"⟩

/-- A stream is a billable turn, so only the shared origin is vouched for. -/
def streamingCheck (originHttpOk : Bool) : CheckResult :=
  if originHttpOk then
    ⟨"streaming", .pass, "SSE endpoint shares the verified origin; stream mechanics are only " ++
      "exercised by a real (billable) turn, which doctor never starts"⟩
  else ⟨"streaming", .skip, "origin unreachable; see tcp+tls"⟩

/-- 404 for an unknown id is the answer of a route that works. -/
def cancellationCheck (client : Except String Client) (clientKey : Option String)
    (userId : String) : CheckResult :=
  match client, clientKey with
  | .ok client, some _ =>
    match probes.cancelRequest client probeRequestId userId with
    | .ok () =>
      ⟨"cancellation", .fail, "unexpected 2xx cancelling a nonexistent request id"⟩
    | .error err =>
      match httpStatus err with
      | some 404 => ⟨"cancellation", .pass,
          "cancellation endpoint present (404 for unknown id, as expected)"⟩
      | some status =>
        if status = 400 ∨ status = 405 then
          ⟨"cancellation", .warn, "cancellation endpoint returned " ++ toString status ++
            " for an unknown id — runtime predates the cancel-route fix (PR #314/#315); " ++
            "cancels still fire but degraded, upgrade recommended"⟩
        else
          ⟨"cancellation", .fail, "DELETE /v1/requests/<unknown> returned HTTP " ++
            toString status⟩
      | none => ⟨"cancellation", .fail, "cannot reach endpoint: " ++ err.text⟩
  | .error err, _ => ⟨"cancellation", .fail, "cannot build client: " ++ err⟩
  | _, none => ⟨"cancellation", .skip, "client key did not resolve; see config"⟩

/-- Which tier pins the memory partition. -/
def identityCheck (cliUserId defaultUserId : Option String) : CheckResult :=
  ⟨"identity", .pass, if cliUserId.any (· ≠ "") then
    "tier: flag — --user-id pins every session's memory partition"
  else if defaultUserId.any (· ≠ "") then
    "tier: default — identity.default_user_id from the profile pins the partition"
  else "tier: per-session — synthetic 'acp:<session_id>' partition per session"⟩

def collect (configPath : String) (profileFlag cliUserId : Option String) : List CheckResult :=
  match probes.loadProfile configPath profileFlag with
  | .error detail =>
    ⟨"config", .fail, detail⟩ ::
      ["tls-policy", "dns", "tcp+tls", "auth", "streaming", "cancellation", "identity"].map
        fun check => ⟨check, .skip, "config did not load"⟩
  | .ok (profileName, profile) =>
    let (config, clientKey) := probes.configCheck profileName profile
    let origin := endpointOrigin profile
    let (dns, firstAddr) := probes.dnsCheck origin
    let client := (probes.clientFromProfile profile (clientKey.getD "")).mapError
      ConfigError.display
    let (tcpTls, originHttpOk) := probes.tcpTlsCheck origin firstAddr client
    let userId := resolveUserId cliUserId none profile.identity.defaultUserId "doctor"
    [config, tlsPolicyCheck profileName profile, dns, tcpTls,
      probes.authCheck client clientKey userId, streamingCheck originHttpOk,
      probes.cancellationCheck client clientKey userId,
      identityCheck cliUserId profile.identity.defaultUserId]

end Probes
end AcpBridge
