import AcpBridge.Lib.Sighting
import AcpBridge.Translate.Envelope

/-! Tool calls over a whole turn: the first update of an id announces it, the later ones
update it, and the id is the frame's own. -/
namespace AcpBridge

/-- The tool id of an update, marked when the update announces the call. -/
def TurnEvent.sighting : TurnEvent → Option (String × Bool)
  | .update (.toolCall call) => some (call.toolCallId, true)
  | .update (.toolCallUpdate change) => some (change.toolCallId, false)
  | _ => none

def TurnEvent.toolId (e : TurnEvent) : Option String := e.sighting.map Prod.fst

/-- The tool id a payload carries, if it is a tool event. -/
def Payload.toolId : Payload → Option String
  | .event obj => if eventType obj = "tool_call" then some obj.toolId else none
  | _ => none

def SseEvent.toolId (fromStr : String → Option Value) (event : SseEvent) : Option String :=
  (event.payload fromStr).toolId

def Meaning.toolId : Meaning → Option String
  | .tool id _ _ _ => some id
  | _ => none

theorem Value.meaning_toolId (obj : Value) :
    obj.meaning.toolId = if eventType obj = "tool_call" then some obj.toolId else none := by
  unfold Value.meaning
  split <;> simp_all [Meaning.toolId, Value.toolMeaning, Value.toolId, upstreamError,
    TurnEvent.failure]

theorem Payload.meaning_toolId (p : Payload) : p.meaning.toolId = p.toolId := by
  cases p with
  | event obj => exact obj.meaning_toolId
  | _ => rfl

theorem messageChunk_filterMap_sighting (text : String) :
    (messageChunk text).filterMap TurnEvent.sighting = [] := by
  unfold messageChunk
  split_ifs <;> rfl

theorem notice_filterMap_sighting (fromStr : String → Option Value) (event : SseEvent) :
    (event.notice fromStr).filterMap TurnEvent.sighting = [] := by
  unfold SseEvent.notice
  split <;> rfl

namespace Translator
variable {fromStr : String → Option Value} (t : Translator)

theorem act_sighting (m : Meaning) :
    Sighting.step t.seenTools m.toolId =
      ((t.act m).1.filterMap TurnEvent.sighting, (t.act m).2.seenTools) := by
  cases m with
  | text text => simp [act, Meaning.toolId, Sighting.step, messageChunk_filterMap_sighting]
  | thought text =>
    by_cases h : t.forwardThoughts = true <;>
      simp [act, Meaning.toolId, Sighting.step, TurnEvent.sighting, h]
  | tool id title status content =>
    by_cases h : id ∈ t.seenTools <;>
      simp [act, Meaning.toolId, Sighting.step, TurnEvent.sighting, h]
  | completed text discontinuity =>
    by_cases h : t.Withholds text discontinuity <;>
      simp [act, Meaning.toolId, Sighting.step, TurnEvent.sighting,
        messageChunk_filterMap_sighting, h]
  | _ => rfl

/-- Every frame is one sighting of its own tool id, whatever the translator holds. -/
theorem translate_sighting (event : SseEvent) :
    Sighting.step t.seenTools (event.toolId fromStr) =
      ((t.translate fromStr event).1.filterMap TurnEvent.sighting,
        (t.translate fromStr event).2.seenTools) := by
  rw [translate_eq_act, List.filterMap_append, notice_filterMap_sighting, List.nil_append,
    SseEvent.toolId, ← Payload.meaning_toolId]
  exact t.act_sighting _

theorem translateAll_sighting (frames : List SseEvent) :
    (t.translateAll fromStr frames).1.flatten.filterMap TurnEvent.sighting =
      Sighting.marks t.seenTools (frames.map (SseEvent.toolId fromStr)) := by
  have hrun := Mealy.run_map Translator.seenTools (SseEvent.toolId fromStr)
    (List.filterMap TurnEvent.sighting) (fun t event => t.translate_sighting event) t frames
  rw [Sighting.marks, hrun, translateAll_eq_run, List.filterMap_flatten]

theorem translate_toolId (event : SseEvent) :
    (t.translate fromStr event).1.filterMap TurnEvent.toolId =
      (event.toolId fromStr).toList := by
  have hsplit : (t.translate fromStr event).1.filterMap TurnEvent.toolId =
      ((t.translate fromStr event).1.filterMap TurnEvent.sighting).map Prod.fst := by
    rw [List.map_filterMap]
    rfl
  have hstep : (t.translate fromStr event).1.filterMap TurnEvent.sighting =
      (Sighting.step t.seenTools (event.toolId fromStr)).1 :=
    congrArg Prod.fst (t.translate_sighting event).symm
  rw [hsplit, hstep]
  cases event.toolId fromStr <;> rfl

end Translator

theorem TurnEvent.announces_of_sighting {e : TurnEvent} {id : String}
    (h : e.sighting = some (id, true)) : ∃ call, e = .update (.toolCall call) := by
  unfold sighting at h
  split at h
  · exact ⟨_, rfl⟩
  · simp at h
  · contradiction

theorem TurnEvent.updates_of_sighting {e : TurnEvent} {id : String}
    (h : e.sighting = some (id, false)) : ∃ change, e = .update (.toolCallUpdate change) := by
  unfold sighting at h
  split at h
  · simp at h
  · exact ⟨_, rfl⟩
  · contradiction

theorem TurnEvent.sighting_of_toolId {e : TurnEvent} {id : String} (h : e.toolId = some id) :
    ∃ announced, e.sighting = some (id, announced) := by
  obtain ⟨⟨id', announced⟩, hs, rfl⟩ := Option.map_eq_some_iff.mp h
  exact ⟨announced, hs⟩

/-- Among the events of one id, the first announces the call and the later ones update it. -/
def AnnouncedOnce (events : List TurnEvent) (id : String) : Prop :=
  (∀ e ∈ (events.filter (·.toolId = some id)).head?, ∃ call, e = .update (.toolCall call)) ∧
    ∀ e ∈ (events.filter (·.toolId = some id)).tail, ∃ change, e = .update (.toolCallUpdate change)

theorem filter_toolId_filterMap (events : List TurnEvent) (id : String) :
    (events.filter (·.toolId = some id)).filterMap TurnEvent.sighting =
      (events.filterMap TurnEvent.sighting).filter (·.1 = id) := by
  induction events with
  | nil => rfl
  | cons e rest ih =>
    have htool : e.toolId = e.sighting.map Prod.fst := rfl
    cases hs : e.sighting with
    | none => simp [htool, hs, ih]
    | some m => by_cases hid : m.1 = id <;> simp [htool, hs, hid, ih]

/-- Events whose marks are those of first sightings announce every id once. -/
theorem announcedOnce_of_marks {events : List TurnEvent} {inputs : List (Option String)}
    (h : events.filterMap TurnEvent.sighting = Sighting.marks ∅ inputs) (id : String) :
    AnnouncedOnce events id := by
  have hmarks := @Sighting.marks_filter String _ ∅ id inputs (Finset.notMem_empty id)
  rw [← h, ← filter_toolId_filterMap] at hmarks
  unfold AnnouncedOnce
  have hid : ∀ e ∈ events.filter (·.toolId = some id), e.toolId = some id := fun e he => by
    simpa using (List.mem_filter.mp he).2
  cases hshown : events.filter (·.toolId = some id) with
  | nil => simp
  | cons first rest =>
    rw [hshown] at hmarks hid
    obtain ⟨announced, hfirst⟩ := TurnEvent.sighting_of_toolId (hid first (by simp))
    rw [List.filterMap_cons_some hfirst] at hmarks
    rcases hmarks with hmarks | ⟨later, hmarks, hlater⟩
    · simp at hmarks
    · obtain ⟨hhead, htail⟩ := List.cons.inj hmarks
      constructor
      · intro e he
        obtain rfl : first = e := by simpa using he
        obtain rfl : announced = true := congrArg Prod.snd hhead
        exact TurnEvent.announces_of_sighting hfirst
      · intro e he
        obtain ⟨announced', hs⟩ := TurnEvent.sighting_of_toolId (hid e (by simp_all))
        have hmem : (id, announced') ∈ later := by
          rw [← htail]
          exact List.mem_filterMap.mpr ⟨e, he, hs⟩
        obtain rfl : announced' = false := hlater _ hmem
        exact TurnEvent.updates_of_sighting hs

/-- `sent` carries the object of `bare` under the `token` key of an envelope. -/
structure Enveloped (fromStr : String → Option Value) (bare sent : SseEvent) : Prop where
  bareName : bare.event ∉ ["done", "ui", "error"]
  sentName : sent.event ∉ ["done", "ui", "error"]
  wraps : ∃ fields envelope, fromStr bare.data = some (.object fields) ∧
    (Value.object fields).get "token" = none ∧ fromStr sent.data = some envelope ∧
    envelope.get "token" = some (.object fields)

theorem payload_enveloped {fromStr : String → Option Value} {bare sent : SseEvent}
    (h : Enveloped fromStr bare sent) : sent.payload fromStr = bare.payload fromStr := by
  obtain ⟨fields, envelope, hobj, hnone, henv, htoken⟩ := h.wraps
  have hbare : unwrapToken (.object fields) = .event (.object fields) :=
    Translator.unwrapToken_of_none hnone
  have hsent : unwrapToken envelope = .event (.object fields) := by
    unfold unwrapToken
    rw [htoken]
  simp only [SseEvent.payload, if_neg h.bareName, if_neg h.sentName, hobj, henv, Option.map_some,
    hbare, hsent]

namespace Translator

/-- Every tool call of a turn is announced once and then updated. The id of a frame is its
own: no translator state and no token envelope changes it. -/
theorem toolCalls_announced_once (fromStr : String → Option Value) (forwardThoughts : Bool)
    (frames : List SseEvent) :
    (∀ id, AnnouncedOnce ((new forwardThoughts).translateAll fromStr frames).1.flatten id) ∧
      (∀ (t : Translator) (event : SseEvent),
        (t.translate fromStr event).1.filterMap TurnEvent.toolId =
          (event.toolId fromStr).toList) ∧
      ∀ bare sent, Enveloped fromStr bare sent → sent.toolId fromStr = bare.toolId fromStr := by
  refine ⟨fun id => ?_, fun t event => t.translate_toolId event, fun bare sent h => ?_⟩
  · exact announcedOnce_of_marks (translateAll_sighting (new forwardThoughts) frames) id
  · rw [SseEvent.toolId, SseEvent.toolId, payload_enveloped h]

/-- The parser on the frames of the run below. -/
def toolFrames (data : String) : Option Value :=
  match data with
  | "\x7b\"type\":\"tool_call\",\"tool_id\":7,\"name\":\"search\"\x7d" =>
    some (.object [("type", .string "tool_call"), ("tool_id", .number "7"),
      ("name", .string "search")])
  | "\x7b\"token\":\x7b\"type\":\"tool_call\",\"tool_id\":7,\"name\":\"search\"\x7d\x7d" =>
    some (.object [("token", .object [("type", .string "tool_call"), ("tool_id", .number "7"),
      ("name", .string "search")])])
  | _ => none

def searchFrame : SseEvent :=
  ⟨"message", "\x7b\"type\":\"tool_call\",\"tool_id\":7,\"name\":\"search\"\x7d"⟩

def searchEnvelope : SseEvent :=
  ⟨"message",
    "\x7b\"token\":\x7b\"type\":\"tool_call\",\"tool_id\":7,\"name\":\"search\"\x7d\x7d"⟩

/-- A number is no id: both frames are about `search`, which is announced by the first. -/
theorem toolCalls_announced_search :
    AnnouncedOnce ((new false).translateAll toolFrames [searchFrame, searchEnvelope]).1.flatten
        "search" ∧
      searchEnvelope.toolId toolFrames = searchFrame.toolId toolFrames :=
  have h := toolCalls_announced_once toolFrames false [searchFrame, searchEnvelope]
  ⟨h.1 "search", h.2.2 searchFrame searchEnvelope
    ⟨by decide, by decide, _, _, rfl, rfl, rfl, rfl⟩⟩

end Translator
end AcpBridge
