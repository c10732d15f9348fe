import AcpBridge.Translate.Reply

/-! Which frames put assistant text before the host, and when the text of a `completed` frame
can follow text the host already has. -/
namespace AcpBridge

section Frames
variable (fromStr : String → Option Value)

/-- Text of a `completed` frame, possibly empty. -/
def SseEvent.completedText (event : SseEvent) : Option String :=
  match event.payload fromStr with
  | .event obj => if eventType obj = "completed" then some (eventText obj) else none
  | _ => none

end Frames

@[simp] theorem any_messageChunk (text : String) :
    (messageChunk text).any TurnEvent.isMessageChunk = decide (text ≠ "") := by
  by_cases h : text = ""
  · simp [messageChunk, h]
  · simp [messageChunk, h, TurnEvent.isMessageChunk]

namespace Translator
variable {fromStr : String → Option Value} (t : Translator) (event : SseEvent)

/-- Whether a frame puts assistant text before the host. -/
def speaks (t : Translator) (fromStr : String → Option Value) (event : SseEvent) : Bool :=
  (t.translate fromStr event).1.any TurnEvent.isMessageChunk

theorem translateToolCall_any (obj : Value) :
    (t.translateToolCall obj).1.any TurnEvent.isMessageChunk = false := by
  unfold translateToolCall
  dsimp only
  split_ifs <;> simp [TurnEvent.isMessageChunk]

theorem upstreamError_isMessageChunk (obj : Value) :
    (upstreamError obj).isMessageChunk = false := rfl

theorem translateEventObject_any (obj : Value) (hc : eventType obj ≠ "content")
    (hd : eventType obj ≠ "completed") :
    (t.translateEventObject obj).1.any TurnEvent.isMessageChunk = false := by
  unfold translateEventObject
  split
  · contradiction
  · split_ifs <;> simp [TurnEvent.isMessageChunk]
  · simp [TurnEvent.isMessageChunk]
  · simp [TurnEvent.isMessageChunk]
  · exact t.translateToolCall_any obj
  · rfl
  · contradiction
  · simp [upstreamError_isMessageChunk]
  · rfl

theorem speaks_of_ignored (h : event.payload fromStr = .ignored) :
    t.speaks fromStr event = false := by
  unfold speaks
  rw [translate_of_payload_ignored t event h, SseEvent.notice]
  split
  · rfl
  · simp [upstreamError_isMessageChunk]
  · rfl

theorem speaks_of_neither (hd : event.deltaText fromStr = none)
    (hc : event.completedText fromStr = none) : t.speaks fromStr event = false := by
  unfold speaks
  unfold SseEvent.deltaText at hd
  unfold SseEvent.completedText at hc
  cases hp : event.payload fromStr with
  | delta text => simp [hp] at hd
  | event obj =>
    have hdelta : eventType obj ≠ "content" := by simpa [hp] using hd
    have hdone : eventType obj ≠ "completed" := by simpa [hp] using hc
    rw [translate_of_payload_event t event hp]
    exact t.translateEventObject_any obj hdelta hdone
  | ignored => exact t.speaks_of_ignored event hp

/-- Without earlier deltas every terminal text reaches the host, flagged or not. -/
theorem speaks_of_completedText {text : String} (h : event.completedText fromStr = some text)
    (ht : t.streamedContent = false) : t.speaks fromStr event = decide (text ≠ "") := by
  unfold SseEvent.completedText at h
  cases hp : event.payload fromStr with
  | delta text => simp [hp] at h
  | ignored => simp [hp] at h
  | event obj =>
    simp only [hp] at h
    split_ifs at h with htype
    obtain rfl := Option.some.inj h
    unfold speaks
    rw [translate_of_payload_event t event hp]
    by_cases he : eventText obj = ""
    · simp [translateEventObject, htype, translateCompleted, he, TurnEvent.isMessageChunk]
    · simp [translateEventObject, htype, translateCompleted, he, ht]

theorem silent_iff_of_no_delta {frames : List SseEvent} (ht : t.streamedContent = false)
    (hd : ∀ f ∈ frames, f.deltaText fromStr = none) :
    (∀ out ∈ (t.translateAll fromStr frames).1, ∀ e ∈ out, e.isMessageChunk = false) ↔
      ∀ f ∈ frames, (f.completedText fromStr).getD "" = "" := by
  induction frames generalizing t with
  | nil => simp [translateAll]
  | cons f rest ih =>
    simp only [List.forall_mem_cons] at hd
    have hnext : (t.translate fromStr f).2.streamedContent = false := by
      rw [translate_streamedContent, ht, hd.1]
      rfl
    have hfirst : (∀ e ∈ (t.translate fromStr f).1, e.isMessageChunk = false) ↔
        (f.completedText fromStr).getD "" = "" := by
      have hany : (∀ e ∈ (t.translate fromStr f).1, e.isMessageChunk = false) ↔
          t.speaks fromStr f = false := by simp [speaks]
      rw [hany]
      cases hc : f.completedText fromStr with
      | none => simp [t.speaks_of_neither f hd.1 hc]
      | some text => simp [t.speaks_of_completedText f hc ht]
    simp only [translateAll, List.forall_mem_cons]
    exact and_congr hfirst (ih _ hnext hd.2)

/-- Terminal text that flags no discontinuity is emitted until the first delta. -/
theorem speaks_of_completedWith {text : String} (h : event.CompletedWith fromStr text) :
    t.speaks fromStr event = (decide (text ≠ "") && !t.streamedContent) := by
  by_cases ht : text = ""
  · obtain ⟨obj, hp, htype, htext, -⟩ := h
    unfold speaks
    rw [translate_of_payload_event t event hp]
    simp [translateEventObject, htype, translateCompleted, htext, ht, TurnEvent.isMessageChunk]
  · unfold speaks
    rw [translate_completed t event h ht]
    cases hs : t.streamedContent <;> simp [TurnEvent.isMessageChunk, ht]

/-- A reply is told once exactly when it is empty, a delta came first, or no earlier
`completed` frame had text: the flag never records what a `completed` frame emitted. -/
theorem reply_once_iff (forwardThoughts : Bool) (frames : List SseEvent) {last : SseEvent}
    {text : String} (hlast : last.CompletedWith fromStr text) :
    ((∃ e ∈ (((new forwardThoughts).translateAll fromStr frames).2.translate fromStr last).1,
        e.isMessageChunk = true) →
      ∀ out ∈ ((new forwardThoughts).translateAll fromStr frames).1, ∀ e ∈ out,
        e.isMessageChunk = false) ↔
    text = "" ∨ (∃ f ∈ frames, (f.deltaText fromStr).isSome = true) ∨
      ∀ f ∈ frames, (f.completedText fromStr).getD "" = "" := by
  have hflag := @translateAll_streamedContent fromStr (new forwardThoughts) frames
  have hspeaks := speaks_of_completedWith
    ((new forwardThoughts).translateAll fromStr frames).2 last hlast
  rw [speaks, hflag] at hspeaks
  rw [← List.any_eq_true, hspeaks]
  by_cases htext : text = ""
  · simp [htext]
  by_cases hdelta : ∃ f ∈ frames, (f.deltaText fromStr).isSome = true
  · have hany := List.any_eq_true.mpr hdelta
    simp [hany, hdelta]
  · have hnone : ∀ f ∈ frames, f.deltaText fromStr = none := by
      intro f hf
      by_contra hne
      exact hdelta ⟨f, hf, Option.isSome_iff_ne_none.mpr hne⟩
    have hany := Bool.eq_false_iff.mpr (mt List.any_eq_true.mp hdelta)
    have hsilent := silent_iff_of_no_delta (new forwardThoughts) rfl hnone
    rw [hsilent, hany]
    simp [htext, hdelta, new]

theorem reply_once_after_planning : helloFrame.CompletedWith replyFrames "Hello." ∧
    ((∃ e ∈ (((new false).translateAll replyFrames [planningFrame]).2.translate replyFrames
        helloFrame).1, e.isMessageChunk = true) →
      ∀ out ∈ ((new false).translateAll replyFrames [planningFrame]).1, ∀ e ∈ out,
        e.isMessageChunk = false) :=
  ⟨helloFrame_completedWith,
    (reply_once_iff false [planningFrame] helloFrame_completedWith).mpr (by decide)⟩

/-- A runtime that reports completion twice is quoted twice. -/
theorem reply_delivered_twice : helloFrame.CompletedWith replyFrames "Hello." ∧
    ¬ ((∃ e ∈ (((new false).translateAll replyFrames [helloFrame]).2.translate replyFrames
        helloFrame).1, e.isMessageChunk = true) →
      ∀ out ∈ ((new false).translateAll replyFrames [helloFrame]).1, ∀ e ∈ out,
        e.isMessageChunk = false) :=
  ⟨helloFrame_completedWith, by decide⟩

end Translator
end AcpBridge
