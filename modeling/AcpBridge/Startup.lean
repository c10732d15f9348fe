import AcpBridge.Agent

/-! Start-up in connect mode: the config file, the profile picked from it, its secret and its
client. Every step can end it with a message for the operator. -/
namespace AcpBridge

structure ConfigFile where
  defaultProfile : Option String := none
  profiles : KeyMap String Profile := ∅

def ConfigError.display : ConfigError → String
  | .io path err => "cannot read config " ++ path ++ ": " ++ err
  | .parse path err => "cannot parse config " ++ path ++ ": " ++ err
  | .unknownProfile name => "profile '" ++ name ++ "' not found in config"
  | .noProfiles => "config defines no profiles"
  | .missingClientKey => "profile is missing 'client_key'"
  | .invalidEndpoint msg => "invalid endpoint config: " ++ msg
  | .secret msg => "cannot resolve secret reference: " ++ msg

/-- Explicit name, then the default profile, then the only one. The name is returned too. -/
def selectProfile (config : ConfigFile) (name : Option String) :
    Except ConfigError (String × Profile) := do
  let name ← match name, config.defaultProfile with
    | some name, _ => .ok name
    | none, some default => .ok default
    | none, none =>
      match config.profiles.keys with
      | [name] => .ok name
      | _ => .error .noProfiles
  match config.profiles.lookup name with
  | some profile => .ok (name, profile)
  | none => .error (.unknownProfile name)

def Profile.clientKeyReference (p : Profile) : Except ConfigError String :=
  match p.clientKey.filter (· ≠ "") with
  | some reference => .ok reference
  | none => .error .missingClientKey

/-- What the client of the SDK is built from. -/
inductive FormationConfig
  | withBaseUrl (baseUrl clientKey adminKey : String)
  | new (serverUrl formation clientKey adminKey : String)

/-- What start-up takes from the machine and the SDK. -/
structure Environment (Client : Type) where
  /-- `std::fs::read_to_string` -/
  readToString : String → Except String String
  /-- `toml::from_str` -/
  fromToml : String → Except String ConfigFile
  /-- `resolve_secret`, from an `env:`, `file:` or `keychain:` reference to the secret -/
  resolveSecret : String → Except ConfigError String
  /-- `FormationClient::new` -/
  newClient : FormationConfig → Except String Client

/-- Command line of the connect mode. -/
structure Cli where
  profile : Option String := none
  userId : Option String := none
  forwardThoughts : Bool := false

/-- The state shared by the handlers, without the registry and the client. -/
def Profile.bridgeState (p : Profile) (cli : Cli) : BridgeState where
  agentId := p.agent.filter (· ≠ "")
  cliUserId := cli.userId
  defaultUserId := p.identity.defaultUserId
  hostExtractor := hostExtractorFrom p.identity
  forwardThoughts := cli.forwardThoughts || p.forwardThoughts
  turnTimeout := p.turnTimeout
  idleTimeout := p.idleTimeout

namespace Environment
variable {Client : Type} (env : Environment Client)

def load (path : String) : Except ConfigError ConfigFile :=
  match env.readToString path with
  | .error err => .error (.io path err)
  | .ok raw =>
    match env.fromToml raw with
    | .error err => .error (.parse path err)
    | .ok file => .ok file

def clientFromProfile (profile : Profile) (clientKey : String) : Except ConfigError Client := do
  let config ← match profile.baseUrl, profile.serverUrl, profile.formation with
    | some baseUrl, _, _ => .ok (.withBaseUrl baseUrl clientKey "")
    | none, some serverUrl, some formation => .ok (.new serverUrl formation clientKey "")
    | none, _, _ =>
      .error (.invalidEndpoint "set either base_url, or both server_url and formation")
  (env.newClient config).mapError .invalidEndpoint

def buildState (cli : Cli) (configPath : String) :
    Except String (SessionRegistry × Client × BridgeState) := do
  let file ← (env.load configPath).mapError ConfigError.display
  let (profileName, profile) ← (selectProfile file cli.profile).mapError ConfigError.display
  profile.validateEndpoint.mapError ConfigError.display
  (profile.validateTransportSecurity profileName).mapError ConfigError.display
  let keyReference ← profile.clientKeyReference.mapError ConfigError.display
  let clientKey ← (env.resolveSecret keyReference).mapError ConfigError.display
  let mux ← (env.clientFromProfile profile clientKey).mapError ConfigError.display
  return (.new profile.limits, mux, profile.bridgeState cli)

end Environment
end AcpBridge
