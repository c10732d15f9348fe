import AcpBridge.Lib.Mealy
import AcpBridge.Translate.Reply

/-! What a data frame means apart from how it is framed, and which framings of one event a
translator can tell apart. -/
namespace AcpBridge

/-- What an event object says to any translator. -/
inductive Meaning
  | text (text : String)
  | thought (text : String)
  | plan (text : String)
  | tool (id title : String) (status : Option ToolCallStatus) (content : Option String)
  | completed (text : String) (discontinuity : Bool)
  | failure (code message : String)
  | nothing
deriving DecidableEq

/-- An error event as its code and message. -/
def TurnEvent.failure : TurnEvent → Meaning
  | .error code message => .failure code message
  | _ => .nothing

/-- The meaning of a tool event: its id falls back to a constant and its title to the id. -/
def Value.toolMeaning (obj : Value) : Meaning :=
  let id := (obj.firstStr ["tool_call_id", "tool_id", "id", "tool", "name"]).getD "tool"
  .tool id ((obj.firstStr ["title", "name", "tool", "tool_name"]).getD id)
    (((obj.get "status").bind Value.asStr).bind toolStatus) ((obj.get "content").bind Value.asStr)

/-- The meaning of an event object is decided by its own type. -/
def Value.meaning (obj : Value) : Meaning :=
  match eventType obj with
  | "content" => .text (eventText obj)
  | "thinking" => .thought (eventText obj)
  | "planning" | "replanning" => .plan (eventText obj)
  | "tool_call" => obj.toolMeaning
  | "completed" => .completed (eventText obj) (streamDiscontinuity obj)
  | "error" => (upstreamError obj).failure
  | _ => .nothing

/-- The meaning of a frame once its envelope is off. -/
def Payload.meaning : Payload → Meaning
  | .delta text => .text text
  | .event obj => obj.meaning
  | .ignored => .nothing

namespace Translator

/-- The text of a `completed` event is not shown. -/
def Withholds (t : Translator) (text : String) (discontinuity : Bool) : Prop :=
  text = "" ∨ (t.streamedContent = true ∧ discontinuity = false)

instance (t : Translator) (text : String) (discontinuity : Bool) :
    Decidable (t.Withholds text discontinuity) := inferInstanceAs (Decidable (_ ∨ _))

/-- A translator acting on a meaning alone. -/
def act (t : Translator) : Meaning → List TurnEvent × Translator
  | .text text => (messageChunk text, { t with streamedContent := true })
  | .thought text =>
    (if t.forwardThoughts then [.update (.agentThoughtChunk text)] else [], t)
  | .plan text => ([.update (.plan [⟨text, .medium, .inProgress⟩])], t)
  | .tool id title status content =>
    if id ∈ t.seenTools then
      ([.update (.toolCallUpdate ⟨id, status, content.map fun text => [text]⟩)], t)
    else
      ([.update (.toolCall ⟨id, title, status.getD .inProgress,
          (content.map fun text => [text]).getD []⟩)],
        { t with seenTools := insert id t.seenTools })
  | .completed text discontinuity =>
    (if t.Withholds text discontinuity then [.completed]
      else messageChunk (if t.streamedContent then "\n\n" ++ text else text) ++ [.completed], t)
  | .failure code message => ([.error code message], t)
  | .nothing => ([], t)

theorem translateCompleted_eq_act (t : Translator) (obj : Value) :
    (t.translateCompleted obj, t) =
      t.act (.completed (eventText obj) (streamDiscontinuity obj)) := by
  unfold translateCompleted
  simp only [act, Withholds]
  by_cases he : eventText obj = ""
  · simp [he]
  · by_cases hs : t.streamedContent = true <;> by_cases hd : streamDiscontinuity obj = true <;>
      simp [he, hs, hd]

/-- The translator of the source acts on the meaning of the object. -/
theorem translateEventObject_eq_act (t : Translator) (obj : Value) :
    t.translateEventObject obj = t.act obj.meaning := by
  unfold translateEventObject Value.meaning
  split
  any_goals simp only [*]
  any_goals rfl
  · exact translateCompleted_eq_act t obj

theorem translateDataFrame_eq_act {fromStr : String → Option Value} {data : String} {json : Value}
    (h : fromStr data = some json) (t : Translator) :
    t.translateDataFrame fromStr data = t.act (unwrapToken json).meaning := by
  unfold translateDataFrame
  rw [h, Option.map_some]
  cases unwrapToken json with
  | delta text => rfl
  | event obj => exact translateEventObject_eq_act t obj
  | ignored => rfl

/-- A frame says what its name says and is acted on by the meaning of its payload. -/
theorem translate_eq_act (fromStr : String → Option Value) (t : Translator) (event : SseEvent) :
    t.translate fromStr event =
      (event.notice fromStr ++ (t.act (event.payload fromStr).meaning).1,
        (t.act (event.payload fromStr).meaning).2) := by
  cases hp : event.payload fromStr with
  | delta text =>
    rw [translate_of_payload_delta t event hp, notice_of_payload event (by simp [hp])]
    rfl
  | event obj =>
    rw [translate_of_payload_event t event hp, notice_of_payload event (by simp [hp]),
      translateEventObject_eq_act]
    rfl
  | ignored =>
    rw [translate_of_payload_ignored t event hp]
    simp [Payload.meaning, act]

theorem translateAll_eq_run (fromStr : String → Option Value) (t : Translator)
    (frames : List SseEvent) :
    t.translateAll fromStr frames = Mealy.run (fun t => t.translate fromStr) t frames := by
  induction frames generalizing t with
  | nil => rfl
  | cons event rest ih => simp only [translateAll, Mealy.run_cons, ih]

variable {fromStr : String → Option Value}

theorem unwrapToken_of_none {json : Value} (h : json.get "token" = none) :
    unwrapToken json = .event json := by
  unfold unwrapToken
  rw [h]

/-- The parser on the frames of the runs below. -/
def envelopeFrames (data : String) : Option Value :=
  match data with
  | "\x7b\"type\":\"content\",\"content\":\"Hi\"\x7d" =>
    some (.object [("type", .string "content"), ("content", .string "Hi")])
  | "\x7b\"token\":\"Hi\"\x7d" => some (.object [("token", .string "Hi")])
  | "\x7b\"token\":\x7b\"type\":\"completed\",\"content\":\"Hi\"\x7d\x7d" =>
    some (.object [("token", .object [("type", .string "completed"), ("content", .string "Hi")])])
  | "\x7b\"type\":\"completed\",\"content\":\"Hi\"\x7d" =>
    some (.object [("type", .string "completed"), ("content", .string "Hi")])
  | "\x7b\"type\":\"completed\",\"content\":\"Hi\",\"token\":5\x7d" =>
    some (.object [("type", .string "completed"), ("content", .string "Hi"),
      ("token", .number "5")])
  | _ => none

/-- A frame and another framing of the same event: as it is, under a `token` key, or as the
bare text of a content event. -/
inductive Framed (fromStr : String → Option Value) : SseEvent → SseEvent → Prop
  | bare (event : SseEvent) : Framed fromStr event event
  | wrapped {bare sent : SseEvent} {fields : List (String × Value)}
      (hbare : bare.event ∉ ["done", "ui", "error"])
      (hsent : sent.event ∉ ["done", "ui", "error"])
      (hobj : fromStr bare.data = some (.object fields))
      (htoken : (Value.object fields).get "token" = none)
      (hwrap : fromStr sent.data = some (.object [("token", .object fields)])) :
      Framed fromStr bare sent
  | delta {bare sent : SseEvent} {fields : List (String × Value)} {text : String}
      (hbare : bare.event ∉ ["done", "ui", "error"])
      (hsent : sent.event ∉ ["done", "ui", "error"])
      (hobj : fromStr bare.data = some (.object fields))
      (htoken : (Value.object fields).get "token" = none)
      (htype : (Value.object fields).get "type" = some (.string "content"))
      (htext : (Value.object fields).get "content" = some (.string text))
      (hraw : fromStr sent.data = some (.object [("token", .string text)])) :
      Framed fromStr bare sent

theorem translate_framed (t : Translator) {bare sent : SseEvent} (h : Framed fromStr bare sent) :
    t.translate fromStr sent = t.translate fromStr bare := by
  cases h with
  | bare => rfl
  | wrapped hbare hsent hobj htoken hwrap =>
    rw [translate_of_data t _ hbare, translate_of_data t _ hsent,
      translateDataFrame_eq_act hobj, translateDataFrame_eq_act hwrap, unwrapToken_of_none htoken]
    rfl
  | delta hbare hsent hobj htoken htype htext hraw =>
    rename_i fields text
    have hmeaning : (Value.object fields).meaning = .text text := by
      have hcontent : eventType (.object fields) = "content" := by
        simp [eventType, htype, Value.asStr]
      have hfirst : eventText (.object fields) = text := by
        simp [eventText, Value.firstStr, htext, Value.asStr]
      simp [Value.meaning, hcontent, hfirst]
    rw [translate_of_data t _ hbare, translate_of_data t _ hsent,
      translateDataFrame_eq_act hobj, translateDataFrame_eq_act hraw, unwrapToken_of_none htoken]
    simp only [Payload.meaning, hmeaning]
    rfl

theorem translateAll_framed (t : Translator) {bares sents : List SseEvent}
    (h : List.Forall₂ (Framed fromStr) bares sents) :
    t.translateAll fromStr sents = t.translateAll fromStr bares := by
  induction h generalizing t with
  | nil => rfl
  | cons hfirst _ ih => simp only [translateAll, translate_framed t hfirst, ih]

/-- Fresh translators agree frame by frame and in the end on any two framings of a stream. -/
theorem framings_agree (forwardThoughts : Bool) {bares sents : List SseEvent}
    (h : List.Forall₂ (Framed fromStr) bares sents) :
    (new forwardThoughts).translateAll fromStr sents =
      (new forwardThoughts).translateAll fromStr bares := translateAll_framed _ h

theorem framings_agree_hi :
    (new false).translateAll envelopeFrames
        [⟨"message", "\x7b\"token\":\"Hi\"\x7d"⟩,
          ⟨"message", "\x7b\"token\":\x7b\"type\":\"completed\",\"content\":\"Hi\"\x7d\x7d"⟩] =
      (new false).translateAll envelopeFrames
        [⟨"message", "\x7b\"type\":\"content\",\"content\":\"Hi\"\x7d"⟩,
          ⟨"message", "\x7b\"type\":\"completed\",\"content\":\"Hi\"\x7d"⟩] :=
  framings_agree false (.cons (.delta (by decide) (by decide) rfl rfl rfl rfl rfl)
    (.cons (.wrapped (by decide) (by decide) rfl rfl rfl) .nil))

end Translator
end AcpBridge
