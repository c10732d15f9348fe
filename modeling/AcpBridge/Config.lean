import AcpBridge.Lib.Text

/-! Profile configuration: caps, identity settings, endpoint shape, the transport
security check and the precedence of user ids. -/
namespace AcpBridge

/-- Concurrency and buffering caps. -/
structure Limits where
  maxSessions : Usize := 8
  maxConcurrentTurns : Usize := 4
  maxBufferedBytes : Usize := 1048576
deriving DecidableEq

inductive IdentityHost
  | buzz
  | none
deriving DecidableEq

/-- What an extracted id identifies: the conversation or the person. -/
inductive HostUnit
  | channel
  | sender
deriving DecidableEq

structure Identity where
  host : IdentityHost := .none
  hostUnit : HostUnit := .channel
  defaultUserId : Option String := Option.none
  idPrefix : String := "buzz"
deriving DecidableEq

/-- Time spans and instants are counted in nanoseconds. -/
abbrev Duration := ℕ

def defaultTurnTimeout : Duration := 30 * 60 * 1000000000

def defaultIdleTimeout : Duration := 10 * 60 * 1000000000

structure Profile where
  serverUrl : Option String := none
  formation : Option String := none
  baseUrl : Option String := none
  clientKey : Option String := none
  agent : Option String := none
  forwardThoughts : Bool := false
  turnTimeout : Duration := defaultTurnTimeout
  idleTimeout : Duration := defaultIdleTimeout
  allowInsecureLocalhost : Bool := false
  identity : Identity := {}
  limits : Limits := {}
deriving DecidableEq

inductive ConfigError
  | io (path err : String)
  | parse (path err : String)
  | unknownProfile (name : String)
  | noProfiles
  | missingClientKey
  | invalidEndpoint (msg : String)
  | secret (msg : String)
deriving DecidableEq

/-- The endpoint is either `base_url`, or `server_url` together with `formation`. -/
def Profile.validateEndpoint (p : Profile) : Except ConfigError Unit :=
  match p.baseUrl, p.serverUrl, p.formation with
  | some _, none, none => .ok ()
  | none, some _, some _ => .ok ()
  | some _, _, _ =>
    .error (.invalidEndpoint "base_url is mutually exclusive with server_url/formation")
  | _, _, _ => .error (.invalidEndpoint "set either base_url, or both server_url and formation")

/-- Whether the authority of the URL names the loopback host, with or without a port. -/
def isLoopbackHost (url : String) : Bool :=
  match Str.splitOnce url.toList "://".toList with
  | none => false
  | some (_, rest) =>
    let authority := Str.splitFirst rest ['/', '?', '#']
    let host := match Str.stripPrefix authority ['['] with
      | some bracketed => Str.splitFirst bracketed [']']
      | none =>
        match Str.rsplitOnce authority [':'] with
        | none => authority
        -- only a numeric suffix is a port; a bare IPv6 host keeps its full form
        | some (host, port) => if port.all Char.isDigit then host else authority
    host == "127.0.0.1".toList || host == "localhost".toList || host == "::1".toList

def schemeIsPlaintext (url : String) : Bool :=
  ["http://", "ws://"].any fun scheme => Str.startsWith url.toList scheme.toList

/-- A plaintext endpoint is rejected unless the host is loopback and the profile opted in;
the error names the profile key. -/
def Profile.checkEndpoint (p : Profile) (profileName key : String) :
    Option String → Except ConfigError Unit
  | none => .ok ()
  | some url =>
    if !schemeIsPlaintext url then .ok ()
    else if !isLoopbackHost url then
      .error (.invalidEndpoint ("profiles." ++ profileName ++ "." ++ key ++ " = \"" ++ url ++
        "\" uses a plaintext scheme to a non-loopback host; " ++
        "use https:// (TLS is required off-box)"))
    else if !p.allowInsecureLocalhost then
      .error (.invalidEndpoint ("profiles." ++ profileName ++ "." ++ key ++ " = \"" ++ url ++
        "\" is plaintext; loopback is only allowed with profiles." ++ profileName ++
        ".allow_insecure_localhost = true"))
    else .ok ()

def Profile.validateTransportSecurity (p : Profile) (profileName : String) :
    Except ConfigError Unit :=
  [("base_url", p.baseUrl), ("server_url", p.serverUrl)].forM fun (key, url) =>
    p.checkEndpoint profileName key url

/-- Flag, then host extraction, then the configured default, then a synthetic id. -/
def resolveUserId (cliUserId hostExtracted defaultUserId : Option String)
    (acpSessionId : String) : String :=
  match cliUserId.filter (· ≠ "") with
  | some userId => userId
  | none =>
    match hostExtracted.filter (· ≠ "") with
    | some userId => userId
    | none =>
      match defaultUserId.filter (· ≠ "") with
      | some userId => userId
      | none => "acp:" ++ acpSessionId

end AcpBridge
