import Mathlib.Data.Finset.Insert

/-! Translation of upstream SSE frames into the events of a turn. Parsing of a frame's data
is a parameter: everything after it is pure. -/
namespace AcpBridge

/-- A JSON value; object keys are unique as the parser returns them. -/
inductive Value
  | null
  | bool (b : Bool)
  | number (literal : String)
  | string (text : String)
  | array (elems : List Value)
  | object (fields : List (String × Value))

namespace Value

def get (v : Value) (key : String) : Option Value :=
  match v with
  | object fields => fields.lookup key
  | _ => none

def asStr : Value → Option String
  | string text => some text
  | _ => none

def asBool : Value → Option Bool
  | bool b => some b
  | _ => none

/-- The first of the keys that holds a string. -/
def firstStr (v : Value) (keys : List String) : Option String :=
  keys.findSome? fun key => (v.get key).bind asStr

end Value

def codeStreamTruncated : String := "BRIDGE_STREAM_TRUNCATED"
def codeUpstreamError : String := "BRIDGE_UPSTREAM_ERROR"
def codeTransportError : String := "BRIDGE_TRANSPORT_ERROR"
def codeTurnTimeout : String := "BRIDGE_TURN_TIMEOUT"
def codeIdleTimeout : String := "BRIDGE_IDLE_TIMEOUT"
def codeBufferOverflow : String := "BRIDGE_BUFFER_OVERFLOW"
def codeSessionLimit : String := "BRIDGE_SESSION_LIMIT"
def codeTurnLimit : String := "BRIDGE_TURN_LIMIT"

inductive PlanEntryPriority
  | high
  | medium
  | low
deriving DecidableEq

inductive PlanEntryStatus
  | pending
  | inProgress
  | completed
deriving DecidableEq

structure PlanEntry where
  content : String
  priority : PlanEntryPriority
  status : PlanEntryStatus
deriving DecidableEq

inductive ToolCallStatus
  | pending
  | inProgress
  | completed
  | failed
deriving DecidableEq

structure ToolCall where
  toolCallId : String
  title : String
  status : ToolCallStatus
  content : List String := []
deriving DecidableEq

structure ToolCallUpdate where
  toolCallId : String
  status : Option ToolCallStatus
  content : Option (List String) := none
deriving DecidableEq

/-- Payload of a `session/update`; all content is text. -/
inductive SessionUpdate
  | agentMessageChunk (text : String)
  | agentThoughtChunk (text : String)
  | plan (entries : List PlanEntry)
  | toolCall (call : ToolCall)
  | toolCallUpdate (update : ToolCallUpdate)
deriving DecidableEq

/-- What a frame means for the running turn. -/
inductive TurnEvent
  | update (update : SessionUpdate)
  | completed
  | done
  | error (code message : String)
deriving DecidableEq

structure SseEvent where
  event : String
  data : String
deriving DecidableEq

inductive StopReason
  | endTurn
  | maxTokens
  | maxTurnRequests
  | refusal
  | cancelled
deriving DecidableEq

/-- How a turn resolves when its stream ends: a missing terminal event is a failure. -/
def streamEndOutcome (sawTerminal : Bool) : Except (String × String) StopReason :=
  if sawTerminal then .ok .endTurn
  else .error (codeStreamTruncated, "stream ended without a terminal event")

def messageChunk (text : String) : List TurnEvent :=
  if text = "" then [] else [.update (.agentMessageChunk text)]

def eventText (obj : Value) : String :=
  (obj.firstStr ["content", "text", "message", "plan"]).getD ""

def toolStatus (status : String) : Option ToolCallStatus :=
  match status with
  | "pending" => some .pending
  | "in_progress" | "running" | "started" => some .inProgress
  | "completed" | "success" => some .completed
  | "failed" | "error" => some .failed
  | _ => none

def upstreamError (obj : Value) : TurnEvent :=
  let code := ((((obj.get "type").or (obj.get "code")).bind Value.asStr).filter (· ≠ "error")).getD
    codeUpstreamError
  let message := ((((obj.get "error").or (obj.get "message")).or (obj.get "content")).bind
    Value.asStr).getD "upstream error"
  .error code message

/-- Content of a data frame: a raw text delta, an event object, or nothing of use. -/
inductive Payload
  | delta (text : String)
  | event (obj : Value)
  | ignored

/-- Unwrap the `{"token": …}` envelope; frames without one pass through. -/
def unwrapToken (json : Value) : Payload :=
  match json.get "token" with
  | some (.string text) => .delta text
  | some (.object fields) => .event (.object fields)
  | some _ => .ignored
  | none => .event json

def eventType (obj : Value) : String := ((obj.get "type").bind Value.asStr).getD ""

/-- The runtime flags that the deltas so far belong to an abandoned generation. -/
def streamDiscontinuity (obj : Value) : Bool :=
  ((obj.get "stream_discontinuity").bind Value.asBool).getD false

/-- Stateful translator of one turn. -/
structure Translator where
  forwardThoughts : Bool
  seenTools : Finset String := ∅
  streamedContent : Bool := false
deriving DecidableEq

namespace Translator

def new (forwardThoughts : Bool) : Translator := { forwardThoughts := forwardThoughts }

/-- The first frame of a tool id announces the call, later ones update it. -/
def translateToolCall (t : Translator) (obj : Value) : List TurnEvent × Translator :=
  let id := (obj.firstStr ["tool_call_id", "tool_id", "id", "tool", "name"]).getD "tool"
  let title := (obj.firstStr ["title", "name", "tool", "tool_name"]).getD id
  let status := ((obj.get "status").bind Value.asStr).bind toolStatus
  let content := ((obj.get "content").bind Value.asStr).map fun text => [text]
  if id ∈ t.seenTools then
    let update : ToolCallUpdate := { toolCallId := id, status, content }
    ([.update (.toolCallUpdate update)], t)
  else
    let call : ToolCall := {
      toolCallId := id
      title := title
      status := status.getD .inProgress
      content := content.getD [] }
    ([.update (.toolCall call)], { t with seenTools := insert id t.seenTools })

/-- Terminal text is emitted unless deltas already carried it. -/
def translateCompleted (t : Translator) (obj : Value) : List TurnEvent :=
  let text := eventText obj
  let discontinuity := streamDiscontinuity obj
  if text ≠ "" ∧ (t.streamedContent = false ∨ discontinuity = true) then
    let chunkText := if discontinuity && t.streamedContent then "\n\n" ++ text else text
    messageChunk chunkText ++ [.completed]
  else [.completed]

def translateEventObject (t : Translator) (obj : Value) : List TurnEvent × Translator :=
  match eventType obj with
  | "content" => (messageChunk (eventText obj), { t with streamedContent := true })
  | "thinking" =>
    (if t.forwardThoughts then [.update (.agentThoughtChunk (eventText obj))] else [], t)
  | "planning" | "replanning" =>
    ([.update (.plan [⟨eventText obj, .medium, .inProgress⟩])], t)
  | "tool_call" => t.translateToolCall obj
  | "progress" => ([], t)
  | "completed" => (t.translateCompleted obj, t)
  | "error" => ([upstreamError obj], t)
  | _ => ([], t)

section Frames
variable (fromStr : String → Option Value)

def translateDataFrame (t : Translator) (data : String) : List TurnEvent × Translator :=
  match (fromStr data).map unwrapToken with
  | some (.delta text) => (messageChunk text, { t with streamedContent := true })
  | some (.event obj) => t.translateEventObject obj
  | some .ignored | none => ([], t)

/-- Translate one frame into the events of the turn. -/
def translate (t : Translator) (event : SseEvent) : List TurnEvent × Translator :=
  match event.event with
  | "done" => ([.done], t)
  | "ui" => ([], t)
  | "error" => ([upstreamError ((fromStr event.data).getD .null)], t)
  | _ => t.translateDataFrame fromStr event.data

/-- Outputs frame by frame and the translator they leave. -/
def translateAll (t : Translator) : List SseEvent → List (List TurnEvent) × Translator
  | [] => ([], t)
  | event :: rest =>
    let first := t.translate fromStr event
    let later := translateAll first.2 rest
    (first.1 :: later.1, later.2)

end Frames
end Translator
end AcpBridge
