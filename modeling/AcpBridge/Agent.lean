import AcpBridge.Buzz
import AcpBridge.Session
import AcpBridge.Translate

/-! Northbound surface of the agent: wire types, the functions taken from libraries, the
resolved configuration and the hook on the stdout writer. -/
namespace AcpBridge

/-- JSON-RPC error; the data object has string fields only. -/
structure Error where
  code : Int
  message : String
  data : List (String × String) := []
deriving DecidableEq

def Error.invalidParams (data : List (String × String)) : Error :=
  { code := -32602, message := "Invalid params", data := data }

def bridgeError (code message : String) : Error :=
  { code := -32603, message := message, data := [("code", code)] }

/-- Result of a request. -/
inductive Reply
  | stop (reason : StopReason)
  | newSession (sessionId : String)
  | resumed
  | sessions (list : List (String × String))
  | closed
  | deleted
  | error (err : Error)
deriving DecidableEq

/-- A message queued to the host. A response names the request it answers. The turn an
update belongs to is recorded here, but it is not part of the notification. -/
inductive Outgoing
  | update (sessionId requestId : String) (update : SessionUpdate)
  | response (request : ℕ) (reply : Reply)
deriving DecidableEq

inductive ContentBlock
  | text (text : String)
  | image
  | audio
  | resourceLink
  | resource
  | unknown
deriving DecidableEq

def contentBlockKind : ContentBlock → String
  | .text _ => "text"
  | .image => "image"
  | .audio => "audio"
  | .resourceLink => "resource_link"
  | .resource => "resource"
  | .unknown => "unknown"

/-- What the bridge takes from its libraries. -/
structure Sdk where
  /-- `serde_json::from_str` -/
  fromStr : String → Option Value
  /-- Bytes of a serialized `session/update` notification of a session, or 0. -/
  notificationLen : String → SessionUpdate → Usize
  /-- The JSON-RPC line of a message. -/
  line : Outgoing → String
  /-- `humantime::format_duration` -/
  formatDuration : Duration → String

/-- Resolved configuration shared by the handlers. -/
structure BridgeState where
  agentId : Option String := none
  cliUserId : Option String := none
  defaultUserId : Option String := none
  hostExtractor : Option BuzzPromptExtractor := none
  forwardThoughts : Bool := false
  turnTimeout : Duration := defaultTurnTimeout
  idleTimeout : Duration := defaultIdleTimeout

namespace BridgeState

/-- Identity without prompt text, for the cancel and shutdown paths. -/
def userIdFor (state : BridgeState) (acpSessionId : String) : String :=
  resolveUserId state.cliUserId none state.defaultUserId acpSessionId

/-- Identity of one turn; the flag short-circuits extraction. -/
def userIdForTurn (state : BridgeState) (acpSessionId promptText : String) : String :=
  let flagSet := state.cliUserId.any (· ≠ "")
  let extracted := if flagSet then none
    else (state.hostExtractor.bind (·.extract promptText)).map (·.userId)
  resolveUserId state.cliUserId extracted state.defaultUserId acpSessionId

end BridgeState

/-- Payload of the upstream chat request. -/
def chatPayload (message sessionId requestId : String) (agentId : Option String) : Value :=
  let fields := [("message", Value.string message), ("session_id", .string sessionId),
    ("request_id", .string requestId), ("stream", .bool true)]
  match agentId.filter (· ≠ "") with
  | none => .object fields
  | some id => .object (fields ++ [("agent_id", .string id)])

/-- Text blocks in order; the first block of another kind is reported instead. -/
def promptText : List ContentBlock → Except String String
  | [] => .ok ""
  | .text text :: rest => (promptText rest).map (text ++ ·)
  | other :: _ => .error (contentBlockKind other)

/-- Writer hook: a `session/update` line completes one reservation of its session. -/
def noteLineWritten (sdk : Sdk) (sessions : SessionRegistry) (line : String) : SessionRegistry :=
  if (Str.splitOnce line.toList "\"session/update\"".toList).isNone then sessions
  else
    match sdk.fromStr line with
    | none => sessions
    | some value =>
      if (value.get "method").bind Value.asStr ≠ some "session/update" then sessions
      else
        match ((value.get "params").bind (·.get "sessionId")).bind Value.asStr with
        | none => sessions
        | some sessionId => sessions.bufferWritten sessionId

end AcpBridge
