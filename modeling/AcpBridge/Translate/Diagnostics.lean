import AcpBridge.Lib.FirstField
import AcpBridge.Translate.Framing

/-! Which frames fail a turn, and when the failure reports what its error object says. -/
namespace AcpBridge

def TurnEvent.isError : TurnEvent → Bool
  | .error _ _ => true
  | _ => false

/-- The error object of a frame: the data of a named `error` frame, whatever it is, or the
object of a data frame of type `error`. -/
def SseEvent.errorObject (fromStr : String → Option Value) (event : SseEvent) : Option Value :=
  if event.event = "error" then some ((fromStr event.data).getD .null)
  else match event.payload fromStr with
    | .event obj => if eventType obj = "error" then some obj else none
    | _ => none

namespace Value

/-- An error code: a string that says more than that there was an error. -/
def asCode (v : Value) : Option String := v.asStr.filter (· ≠ "error")

def messageFields : List String := ["error", "message", "content"]

def codeFields : List String := ["type", "code"]

/-- The first usable message and the first usable code of an error object. -/
def diagnosis (o : Value) : TurnEvent :=
  .error ((FirstField.readable o.get asCode codeFields).getD codeUpstreamError)
    ((FirstField.readable o.get asStr messageFields).getD "upstream error")

/-- A field that is no string comes before the message. -/
def HidesMessage (o : Value) : Prop :=
  FirstField.Hidden o.get asStr messageFields "upstream error"

/-- A field that is no code, such as the type `error`, comes before the code. -/
def HidesCode (o : Value) : Prop :=
  FirstField.Hidden o.get asCode codeFields codeUpstreamError

end Value

/-- The code takes the first field that is there, and only then tests it. -/
theorem upstreamError_eq (o : Value) :
    upstreamError o =
      .error (((FirstField.present o.get Value.codeFields).bind Value.asCode).getD
          codeUpstreamError)
        (((FirstField.present o.get Value.messageFields).bind Value.asStr).getD
          "upstream error") := by
  have hcode : FirstField.present o.get Value.codeFields = (o.get "type").or (o.get "code") := by
    cases ht : o.get "type" <;> cases hc : o.get "code" <;>
      simp [FirstField.present, Value.codeFields, ht, hc]
  have hmessage : FirstField.present o.get Value.messageFields =
      ((o.get "error").or (o.get "message")).or (o.get "content") := by
    cases he : o.get "error" <;> cases hm : o.get "message" <;> cases hc : o.get "content" <;>
      simp [FirstField.present, Value.messageFields, he, hm, hc]
  have hread : ∀ v : Option Value,
      v.bind Value.asCode = (v.bind Value.asStr).filter (· ≠ "error") := by
    intro v
    cases v <;> rfl
  rw [hcode, hmessage, hread]
  rfl

theorem upstreamError_eq_diagnosis_iff (o : Value) :
    upstreamError o = o.diagnosis ↔ ¬o.HidesMessage ∧ ¬o.HidesCode := by
  rw [upstreamError_eq, Value.diagnosis, TurnEvent.error.injEq, Value.HidesMessage,
    Value.HidesCode, ← FirstField.read_present_eq_iff, ← FirstField.read_present_eq_iff]
  exact and_comm

/-- The error an object or a meaning brings, if any. -/
def Meaning.errors : Meaning → List TurnEvent
  | .failure code message => [.error code message]
  | _ => []

theorem Value.meaning_errors (obj : Value) :
    obj.meaning.errors = if eventType obj = "error" then [upstreamError obj] else [] := by
  unfold Value.meaning
  split <;> simp_all [Meaning.errors, Value.toolMeaning, upstreamError, TurnEvent.failure]

theorem messageChunk_filter_isError (text : String) :
    (messageChunk text).filter TurnEvent.isError = [] := by
  unfold messageChunk
  split_ifs <;> rfl

theorem notice_filter_isError (fromStr : String → Option Value) (event : SseEvent) :
    (event.notice fromStr).filter TurnEvent.isError =
      if event.event = "error" then [upstreamError ((fromStr event.data).getD .null)] else [] := by
  unfold SseEvent.notice
  split <;> simp_all [TurnEvent.isError, upstreamError]

namespace Translator
variable {fromStr : String → Option Value} (t : Translator) (event : SseEvent)

theorem act_errors (m : Meaning) : (t.act m).1.filter TurnEvent.isError = m.errors := by
  cases m with
  | text text => exact messageChunk_filter_isError text
  | thought text => by_cases h : t.forwardThoughts = true <;> simp [act, h] <;> rfl
  | plan text => rfl
  | tool id title status content => by_cases h : id ∈ t.seenTools <;> simp [act, h] <;> rfl
  | completed text discontinuity =>
    by_cases h : t.Withholds text discontinuity
    · simp only [act, if_pos h]
      rfl
    · simp only [act, if_neg h, List.filter_append, messageChunk_filter_isError]
      rfl
  | failure code message => rfl
  | nothing => rfl

/-- The errors of a frame are the one its error object makes, in every state. -/
theorem translate_errors :
    (t.translate fromStr event).1.filter TurnEvent.isError =
      ((event.errorObject fromStr).map upstreamError).toList := by
  rw [translate_eq_act, List.filter_append, notice_filter_isError, act_errors]
  unfold SseEvent.errorObject
  by_cases hname : event.event = "error"
  · have hignored : event.payload fromStr = .ignored := payload_of_named (by simp [hname])
    rw [if_pos hname, if_pos hname, hignored]
    rfl
  · rw [if_neg hname, if_neg hname, List.nil_append]
    cases event.payload fromStr with
    | delta text => rfl
    | event obj =>
      simp only [Payload.meaning, Value.meaning_errors]
      split_ifs <;> rfl
    | ignored => rfl

/-- A frame fails the turn exactly when it has an error object, and the failure says what
that object says. -/
def Diagnosed (fromStr : String → Option Value) (t : Translator) (event : SseEvent) : Prop :=
  ((∃ e ∈ (t.translate fromStr event).1, e.isError = true) ↔
      (event.errorObject fromStr).isSome = true) ∧
    ∀ o, event.errorObject fromStr = some o →
      ∀ e ∈ (t.translate fromStr event).1, e.isError = true → e = o.diagnosis

theorem mem_translate_isError_iff (e : TurnEvent) :
    e ∈ (t.translate fromStr event).1 ∧ e.isError = true ↔
      ∃ o, event.errorObject fromStr = some o ∧ upstreamError o = e := by
  rw [← List.mem_filter, translate_errors, Option.mem_toList, Option.map_eq_some_iff]

/-- No state and no frame invents or loses an error. What the error says survives exactly when
no unusable field of the error object hides a usable one. -/
theorem diagnosed_iff (fromStr : String → Option Value) (t : Translator) (event : SseEvent) :
    Diagnosed fromStr t event ↔
      ∀ o, event.errorObject fromStr = some o → ¬o.HidesMessage ∧ ¬o.HidesCode := by
  have hmem := fun e => @mem_translate_isError_iff fromStr t event e
  have hiff : (∃ e ∈ (t.translate fromStr event).1, e.isError = true) ↔
      (event.errorObject fromStr).isSome = true := by
    simp [hmem, Option.isSome_iff_exists]
  unfold Diagnosed
  constructor
  · intro h o ho
    rw [← upstreamError_eq_diagnosis_iff]
    have hout := (hmem (upstreamError o)).mpr ⟨o, ho, rfl⟩
    exact h.2 o ho _ hout.1 hout.2
  · intro h
    refine ⟨hiff, fun o ho e he herror => ?_⟩
    obtain ⟨o', ho', rfl⟩ := (hmem e).mp ⟨he, herror⟩
    obtain rfl : o = o' := Option.some.inj (ho.symm.trans ho')
    exact (upstreamError_eq_diagnosis_iff o).mpr (h o ho)

/-- The parser on the two frames below. -/
def errorFrames (data : String) : Option Value :=
  match data with
  | "\x7b\"type\":\"error\",\"code\":\"RATE_LIMITED\",\"error\":\"slow down\"\x7d" =>
    some (.object [("type", .string "error"), ("code", .string "RATE_LIMITED"),
      ("error", .string "slow down")])
  | "\x7b\"type\":\"error\",\"error\":null,\"message\":\"out of memory\"\x7d" =>
    some (.object [("type", .string "error"), ("error", .null),
      ("message", .string "out of memory")])
  | _ => none

def rateLimitedFrame : SseEvent :=
  ⟨"message",
    "\x7b\"type\":\"error\",\"code\":\"RATE_LIMITED\",\"error\":\"slow down\"\x7d"⟩

def nullErrorFrame : SseEvent :=
  ⟨"message", "\x7b\"type\":\"error\",\"error\":null,\"message\":\"out of memory\"\x7d"⟩

/-- The type `error` hides the code beside it, and a null `error` hides the message. -/
theorem diagnosis_hidden :
    (((new false).translate errorFrames rateLimitedFrame).1 =
        [.error codeUpstreamError "slow down"] ∧
      (rateLimitedFrame.errorObject errorFrames).map Value.diagnosis =
        some (.error "RATE_LIMITED" "slow down") ∧
      ¬Diagnosed errorFrames (new false) rateLimitedFrame) ∧
    ((new false).translate errorFrames nullErrorFrame).1 =
        [.error codeUpstreamError "upstream error"] ∧
      (nullErrorFrame.errorObject errorFrames).map Value.diagnosis =
        some (.error codeUpstreamError "out of memory") ∧
      ¬Diagnosed errorFrames (new false) nullErrorFrame := by
  refine ⟨⟨by decide, by decide, fun h => ?_⟩, by decide, by decide, fun h => ?_⟩
  · have hsaid := h.2 _ rfl (.error codeUpstreamError "slow down") (by decide) rfl
    exact absurd hsaid (by decide)
  · have hsaid := h.2 _ rfl (.error codeUpstreamError "upstream error") (by decide) rfl
    exact absurd hsaid (by decide)

end Translator
end AcpBridge
