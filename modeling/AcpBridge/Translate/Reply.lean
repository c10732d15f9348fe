import AcpBridge.Translate

/-! When the text of a terminal `completed` frame reaches the host: the dedup flag of the
translator against the text that was really emitted. -/
namespace AcpBridge

def TurnEvent.isMessageChunk : TurnEvent → Bool
  | .update (.agentMessageChunk _) => true
  | _ => false

section Frames
variable (fromStr : String → Option Value)

/-- Payload of a frame; named `done`, `ui` and `error` frames carry none. -/
def SseEvent.payload (event : SseEvent) : Payload :=
  if event.event ∈ ["done", "ui", "error"] then .ignored
  else ((fromStr event.data).map unwrapToken).getD .ignored

/-- What a named `done`, `ui` or `error` frame says by its name. -/
def SseEvent.notice (event : SseEvent) : List TurnEvent :=
  match event.event with
  | "done" => [.done]
  | "error" => [upstreamError ((fromStr event.data).getD .null)]
  | _ => []

/-- Text of a streamed delta, a raw token or a `content` object, possibly empty. -/
def SseEvent.deltaText (event : SseEvent) : Option String :=
  match event.payload fromStr with
  | .delta text => some text
  | .event obj => if eventType obj = "content" then some (eventText obj) else none
  | .ignored => none

/-- A `completed` frame with this text that flags no discontinuity. -/
def SseEvent.CompletedWith (event : SseEvent) (text : String) : Prop :=
  ∃ obj, event.payload fromStr = .event obj ∧ eventType obj = "completed" ∧
    eventText obj = text ∧ streamDiscontinuity obj = false

end Frames

section Names
variable {fromStr : String → Option Value} {event : SseEvent}

theorem payload_of_named (h : event.event ∈ ["done", "ui", "error"]) :
    event.payload fromStr = .ignored := if_pos h

theorem notice_of_data (h : event.event ∉ ["done", "ui", "error"]) :
    event.notice fromStr = [] := by
  unfold SseEvent.notice
  split <;> simp_all

end Names

theorem messageChunk_of_ne {text : String} (h : text ≠ "") :
    messageChunk text = [.update (.agentMessageChunk text)] := if_neg h

namespace Translator
variable {fromStr : String → Option Value} (t : Translator) (event : SseEvent)

@[simp] theorem translateToolCall_streamedContent (obj : Value) :
    (t.translateToolCall obj).2.streamedContent = t.streamedContent := by
  unfold translateToolCall
  dsimp only
  split_ifs <;> rfl

theorem translateEventObject_streamedContent (obj : Value) :
    (t.translateEventObject obj).2.streamedContent =
      (t.streamedContent || decide (eventType obj = "content")) := by
  unfold translateEventObject
  split <;> simp_all

theorem translate_of_data (h : event.event ∉ ["done", "ui", "error"]) :
    t.translate fromStr event = t.translateDataFrame fromStr event.data := by
  unfold translate
  split <;> simp_all

private theorem payload_eq {p : Payload} (h : event.payload fromStr = p) (hp : p ≠ .ignored) :
    event.event ∉ ["done", "ui", "error"] ∧ (fromStr event.data).map unwrapToken = some p := by
  unfold SseEvent.payload at h
  split_ifs at h with hname
  · exact absurd h.symm hp
  · refine ⟨hname, ?_⟩
    cases hj : (fromStr event.data).map unwrapToken with
    | none => exact absurd (by simpa [hj] using h.symm) hp
    | some q => simpa [hj] using h

theorem notice_of_payload (hp : event.payload fromStr ≠ .ignored) :
    event.notice fromStr = [] :=
  notice_of_data fun hname => hp (payload_of_named hname)

theorem translate_of_payload_event {obj : Value} (h : event.payload fromStr = .event obj) :
    t.translate fromStr event = t.translateEventObject obj := by
  obtain ⟨hname, hj⟩ := payload_eq event h (by simp)
  rw [translate_of_data t event hname, translateDataFrame, hj]

theorem translate_of_payload_delta {text : String} (h : event.payload fromStr = .delta text) :
    t.translate fromStr event = (messageChunk text, { t with streamedContent := true }) := by
  obtain ⟨hname, hj⟩ := payload_eq event h (by simp)
  rw [translate_of_data t event hname, translateDataFrame, hj]

theorem translate_of_payload_ignored (h : event.payload fromStr = .ignored) :
    t.translate fromStr event = (event.notice fromStr, t) := by
  by_cases hname : event.event ∈ ["done", "ui", "error"]
  · simp only [List.mem_cons, List.not_mem_nil, or_false] at hname
    rcases hname with hname | hname | hname
    all_goals simp [translate, SseEvent.notice, hname]
  · rw [translate_of_data t event hname, notice_of_data hname, translateDataFrame]
    cases hj : (fromStr event.data).map unwrapToken with
    | none => rfl
    | some p =>
      rw [SseEvent.payload, if_neg hname, hj] at h
      obtain rfl : p = .ignored := h
      rfl

/-- A delta emits its text, if any, and marks the turn as streamed either way. -/
theorem translate_of_deltaText {text : String} (h : event.deltaText fromStr = some text) :
    t.translate fromStr event = (messageChunk text, { t with streamedContent := true }) := by
  unfold SseEvent.deltaText at h
  cases hp : event.payload fromStr with
  | ignored => simp [hp] at h
  | delta text' =>
    obtain rfl : text' = text := by simpa [hp] using h
    exact translate_of_payload_delta t event hp
  | event obj =>
    simp only [hp] at h
    split_ifs at h with hc
    obtain rfl := Option.some.inj h
    rw [translate_of_payload_event t event hp]
    simp [translateEventObject, hc]

/-- The flag records that a delta was seen, whether or not it carried text. -/
theorem translate_streamedContent : (t.translate fromStr event).2.streamedContent =
    (t.streamedContent || (event.deltaText fromStr).isSome) := by
  cases hd : event.deltaText fromStr with
  | some text => simp [translate_of_deltaText t event hd]
  | none =>
    unfold SseEvent.deltaText at hd
    cases hp : event.payload fromStr with
    | delta text => simp [hp] at hd
    | event obj =>
      have hc : eventType obj ≠ "content" := by simpa [hp] using hd
      simp [translate_of_payload_event t event hp, translateEventObject_streamedContent, hc]
    | ignored => simp [translate_of_payload_ignored t event hp]

theorem translateAll_streamedContent (frames : List SseEvent) :
    (t.translateAll fromStr frames).2.streamedContent =
      (t.streamedContent || frames.any fun f => (f.deltaText fromStr).isSome) := by
  induction frames generalizing t with
  | nil => simp [translateAll]
  | cons f rest ih => simp [translateAll, ih, translate_streamedContent, Bool.or_assoc]

theorem deltaText_eq_empty {frames : List SseEvent}
    (hnone : ∀ out ∈ (t.translateAll fromStr frames).1, ∀ e ∈ out, e.isMessageChunk = false)
    {f : SseEvent} (hf : f ∈ frames) {text : String} (hd : f.deltaText fromStr = some text) :
    text = "" := by
  induction frames generalizing t with
  | nil => simp at hf
  | cons g rest ih =>
    simp only [translateAll, List.forall_mem_cons] at hnone
    rcases List.mem_cons.mp hf with rfl | hf
    · by_contra hne
      have hout := hnone.1
      rw [translate_of_deltaText t f hd, messageChunk_of_ne hne] at hout
      simp [TurnEvent.isMessageChunk] at hout
    · exact ih (t.translate fromStr g).2 hnone.2 hf

theorem translate_completed {text : String} (h : event.CompletedWith fromStr text)
    (ht : text ≠ "") : (t.translate fromStr event).1 =
      if t.streamedContent then [.completed]
      else [.update (.agentMessageChunk text), .completed] := by
  obtain ⟨obj, hp, htype, htext, hdisc⟩ := h
  rw [translate_of_payload_event t event hp]
  cases hs : t.streamedContent <;>
    simp [translateEventObject, htype, translateCompleted, htext, hdisc, ht, hs,
      messageChunk_of_ne ht]

/-- When no text was emitted before a `completed` frame, its own text is emitted exactly
when no earlier delta was empty. -/
theorem completed_reply_iff (forwardThoughts : Bool) (frames : List SseEvent) {last : SseEvent}
    {text : String} (ht : text ≠ "") (hlast : last.CompletedWith fromStr text)
    (hnone : ∀ out ∈ ((new forwardThoughts).translateAll fromStr frames).1, ∀ e ∈ out,
      e.isMessageChunk = false) :
    (((new forwardThoughts).translateAll fromStr frames).2.translate fromStr last).1 =
        [.update (.agentMessageChunk text), .completed] ↔
      ∀ f ∈ frames, f.deltaText fromStr ≠ some "" := by
  have hflag := @translateAll_streamedContent fromStr (new forwardThoughts) frames
  rw [translate_completed _ _ hlast ht, hflag]
  have hany : (frames.any fun f => (f.deltaText fromStr).isSome) = true ↔
      ∃ f ∈ frames, f.deltaText fromStr = some "" := by
    simp only [List.any_eq_true, Option.isSome_iff_exists]
    constructor
    · rintro ⟨f, hf, text', hd⟩
      obtain rfl := deltaText_eq_empty (new forwardThoughts) hnone hf hd
      exact ⟨f, hf, hd⟩
    · rintro ⟨f, hf, hd⟩
      exact ⟨f, hf, "", hd⟩
  by_cases he : ∃ f ∈ frames, f.deltaText fromStr = some ""
  · simpa [new, hany.mpr he] using he
  · have hfalse := Bool.eq_false_iff.mpr (mt hany.mp he)
    simpa [new, hfalse] using he

/-- The parser on the frames of the two runs below. -/
def replyFrames (data : String) : Option Value :=
  match data with
  | "\x7b\"type\":\"planning\",\"content\":\"plan\"\x7d" =>
    some (.object [("type", .string "planning"), ("content", .string "plan")])
  | "\x7b\"type\":\"content\",\"content\":\"\"\x7d" =>
    some (.object [("type", .string "content"), ("content", .string "")])
  | "\x7b\"type\":\"completed\",\"content\":\"Hello.\"\x7d" =>
    some (.object [("type", .string "completed"), ("content", .string "Hello.")])
  | _ => none

def planningFrame : SseEvent :=
  ⟨"message", "\x7b\"type\":\"planning\",\"content\":\"plan\"\x7d"⟩

def emptyContentFrame : SseEvent :=
  ⟨"message", "\x7b\"type\":\"content\",\"content\":\"\"\x7d"⟩

def helloFrame : SseEvent :=
  ⟨"message", "\x7b\"type\":\"completed\",\"content\":\"Hello.\"\x7d"⟩

theorem helloFrame_completedWith : helloFrame.CompletedWith replyFrames "Hello." :=
  ⟨.object [("type", .string "completed"), ("content", .string "Hello.")], rfl, rfl, rfl, rfl⟩

theorem completed_reply_after_planning :
    (((new false).translateAll replyFrames [planningFrame]).2.translate replyFrames helloFrame).1 =
      [.update (.agentMessageChunk "Hello."), .completed] :=
  (completed_reply_iff false [planningFrame] (by decide) helloFrame_completedWith (by decide)).mpr
    (by decide)

/-- An empty delta is enough to lose the reply: nothing was streamed, nothing is emitted. -/
theorem completed_reply_lost : helloFrame.CompletedWith replyFrames "Hello." ∧
    (∀ out ∈ ((new false).translateAll replyFrames [emptyContentFrame]).1, ∀ e ∈ out,
      e.isMessageChunk = false) ∧
    (((new false).translateAll replyFrames [emptyContentFrame]).2.translate replyFrames
      helloFrame).1 = [.completed] :=
  ⟨helloFrame_completedWith, by decide, by decide⟩

end Translator
end AcpBridge
