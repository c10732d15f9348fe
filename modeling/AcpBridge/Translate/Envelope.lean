import AcpBridge.Translate.Framing

/-! Typed frames with a `token` beside their fields: the token is read first, and the frame
is translated by its own type exactly when the token says the same as its fields. -/
namespace AcpBridge

theorem firstStr_congr {o o' : Value} {keys : List String}
    (h : ∀ key ∈ keys, o.get key = o'.get key) : o.firstStr keys = o'.firstStr keys := by
  unfold Value.firstStr
  induction keys with
  | nil => rfl
  | cons key rest ih =>
    simp only [List.forall_mem_cons] at h
    simp only [List.findSome?_cons, h.1, ih h.2]

/-- No event object is read at its `token` key. -/
theorem meaning_congr {o o' : Value} (h : ∀ key ≠ "token", o.get key = o'.get key) :
    o.meaning = o'.meaning := by
  have htype : eventType o = eventType o' := by simp [eventType, h "type"]
  have htext : eventText o = eventText o' := by
    unfold eventText
    rw [firstStr_congr fun key hkey => h key (by rintro rfl; simp at hkey)]
  have hdisc : streamDiscontinuity o = streamDiscontinuity o' := by
    simp [streamDiscontinuity, h "stream_discontinuity"]
  have htool : o.toolMeaning = o'.toolMeaning := by
    unfold Value.toolMeaning
    rw [firstStr_congr fun key hkey => h key (by rintro rfl; simp at hkey),
      firstStr_congr fun key hkey => h key (by rintro rfl; simp at hkey),
      h "status" (by decide), h "content" (by decide)]
  have herror : upstreamError o = upstreamError o' := by
    simp [upstreamError, h "type", h "code", h "error", h "message", h "content"]
  unfold Value.meaning
  rw [htype, htext, hdisc, htool, herror]

namespace Value

/-- The id of a tool event: the first string among these keys. -/
def toolId (obj : Value) : String :=
  (obj.firstStr ["tool_call_id", "tool_id", "id", "tool", "name"]).getD "tool"

def toolTitle (obj : Value) : String :=
  (obj.firstStr ["title", "name", "tool", "tool_name"]).getD obj.toolId

def toolStatus (obj : Value) : Option ToolCallStatus :=
  ((obj.get "status").bind asStr).bind AcpBridge.toolStatus

def toolContent (obj : Value) : Option String := (obj.get "content").bind asStr

/-- The message of an error event: what the first of these keys holds, if it is a string. -/
def errorMessage (obj : Value) : String :=
  ((((obj.get "error").or (obj.get "message")).or (obj.get "content")).bind asStr).getD
    "upstream error"

theorem upstreamError_of_type {obj : Value} (h : eventType obj = "error") :
    upstreamError obj = .error codeUpstreamError obj.errorMessage := by
  have htype : (obj.get "type").bind asStr = some "error" := by
    cases ho : (obj.get "type").bind asStr with
    | none => simp [eventType, ho] at h
    | some text => simpa [eventType, ho] using h
  obtain ⟨v, hv, hstr⟩ := Option.bind_eq_some_iff.mp htype
  simp [upstreamError, hv, hstr, errorMessage, Option.filter]

end Value

namespace Translator

/-- What a translator in this state takes in of a meaning: what it shows or remembers. -/
def heard (t : Translator) : Meaning → Meaning
  | .text text => if text = "" ∧ t.streamedContent = true then .nothing else .text text
  | .thought text => if t.forwardThoughts then .thought text else .nothing
  | .tool id title status content =>
    if id ∈ t.seenTools then .tool id id status content
    else .tool id title (some (status.getD .inProgress)) content
  | .completed text discontinuity =>
    if t.Withholds text discontinuity then .completed "" false
    else .completed text t.streamedContent
  | m => m

/-- The meaning read back from the outputs and the next state of a translator. -/
def understood (t : Translator) (result : List TurnEvent × Translator) : Meaning :=
  match result.1 with
  | [] => if result.2 = t then .nothing else .text ""
  | [.update (.agentMessageChunk text)] => .text text
  | [.update (.agentThoughtChunk text)] => .thought text
  | [.update (.plan [entry])] => .plan entry.content
  | [.update (.toolCall call)] => .tool call.toolCallId call.title call.status call.content.head?
  | [.update (.toolCallUpdate update)] =>
    .tool update.toolCallId update.toolCallId update.status (update.content.bind List.head?)
  | [.completed] => .completed "" false
  | [.update (.agentMessageChunk text), .completed] =>
    .completed (if t.streamedContent then .ofList (text.toList.drop 2) else text) t.streamedContent
  | [.error code message] => .failure code message
  | _ => .nothing

theorem act_heard (t : Translator) (m : Meaning) : t.act (t.heard m) = t.act m := by
  cases m with
  | text text =>
    by_cases h : text = "" ∧ t.streamedContent = true
    · obtain ⟨rfl, hs⟩ := h
      have hsame : { t with streamedContent := true } = t := by rw [← hs]
      simp [act, heard, messageChunk, hs, hsame]
    · simp only [heard, if_neg h]
  | thought text => by_cases h : t.forwardThoughts = true <;> simp [act, heard, h]
  | tool id title status content => by_cases h : id ∈ t.seenTools <;> simp [act, heard, h]
  | completed text discontinuity =>
    by_cases h : t.Withholds text discontinuity
    · have h' : t.Withholds "" false := .inl rfl
      simp [act, heard, h, h']
    · have h' : ¬ t.Withholds text t.streamedContent := by
        simp only [Withholds, not_or, not_and] at h ⊢
        exact ⟨h.1, fun hs => by simp [hs]⟩
      simp [act, heard, h, h']
  | _ => rfl

theorem understood_act (t : Translator) (m : Meaning) : t.understood (t.act m) = t.heard m := by
  cases m with
  | text text =>
    by_cases h : text = ""
    · cases t with
      | mk _ _ streamed => cases streamed <;> simp [act, understood, heard, messageChunk, h]
    · simp [act, understood, heard, messageChunk, h]
  | thought text => by_cases h : t.forwardThoughts = true <;> simp [act, understood, heard, h]
  | tool id title status content =>
    by_cases h : id ∈ t.seenTools <;> cases content <;> simp [act, understood, heard, h]
  | completed text discontinuity =>
    by_cases h : t.Withholds text discontinuity
    · simp [act, understood, heard, h]
    · have hne : text ≠ "" := fun he => h (.inl he)
      by_cases hs : t.streamedContent = true
      · simp [act, understood, heard, messageChunk, h, hs]
      · simp [act, understood, heard, messageChunk, h, hs, hne]
  | _ => simp [act, understood, heard]

/-- Two meanings are told apart exactly when more than what is heard of them differs. -/
theorem act_eq_iff (t : Translator) (m m' : Meaning) :
    t.act m = t.act m' ↔ t.heard m = t.heard m' := by
  constructor
  · intro h
    rw [← understood_act, h, understood_act]
  · intro h
    rw [← act_heard, h, act_heard]

/-- An event object that leaves no trace: of a type that is not acted on, a thought that is
not forwarded, or an empty delta after an earlier delta. -/
inductive Ignores (t : Translator) (o : Value) : Prop
  | unknown (htype : eventType o ∉ ["content", "thinking", "planning", "replanning", "tool_call",
      "completed", "error"])
  | thinking (htype : eventType o = "thinking") (hidden : t.forwardThoughts = false)
  | content (htype : eventType o = "content") (empty : eventText o = "")
      (streamed : t.streamedContent = true)

/-- An event object that says the same as `o` where its kind is read: the text, the call and
what is new of it, or the message. A terminal text matters only where it is shown. -/
inductive SameEvent (t : Translator) (o p : Value) : Prop
  | content (htype : eventType o = "content") (htype' : eventType p = "content")
      (text : eventText p = eventText o)
  | thinking (htype : eventType o = "thinking") (htype' : eventType p = "thinking")
      (text : eventText p = eventText o)
  | planning (htype : eventType o ∈ ["planning", "replanning"])
      (htype' : eventType p ∈ ["planning", "replanning"]) (text : eventText p = eventText o)
  | toolCall (htype : eventType o = "tool_call") (htype' : eventType p = "tool_call")
      (id : p.toolId = o.toolId) (unseen : o.toolId ∉ t.seenTools)
      (title : p.toolTitle = o.toolTitle)
      (status : p.toolStatus.getD .inProgress = o.toolStatus.getD .inProgress)
      (content : p.toolContent = o.toolContent)
  | toolCallUpdate (htype : eventType o = "tool_call") (htype' : eventType p = "tool_call")
      (id : p.toolId = o.toolId) (seen : o.toolId ∈ t.seenTools)
      (status : p.toolStatus = o.toolStatus) (content : p.toolContent = o.toolContent)
  | withheld (htype : eventType o = "completed") (htype' : eventType p = "completed")
      (hidden : t.Withholds (eventText o) (streamDiscontinuity o))
      (hidden' : t.Withholds (eventText p) (streamDiscontinuity p))
  | completed (htype : eventType o = "completed") (htype' : eventType p = "completed")
      (shown : ¬ t.Withholds (eventText o) (streamDiscontinuity o))
      (shown' : ¬ t.Withholds (eventText p) (streamDiscontinuity p))
      (text : eventText p = eventText o)
  | error (htype : eventType o = "error") (htype' : eventType p = "error")
      (message : p.errorMessage = o.errorMessage)

/-- What the `token` beside the fields of `o` is for it not to matter: absent, the delta `o`
is, an event that says the same, or a token that is passed over beside an `o` that is too. -/
def TokenAgrees (t : Translator) (o : Value) : Prop :=
  match o.get "token" with
  | none => True
  | some (.string text) =>
    (eventType o = "content" ∧ eventText o = text) ∨
      (text = "" ∧ t.streamedContent = true ∧ t.Ignores o)
  | some (.object fields) =>
    t.SameEvent o (.object fields) ∨ (t.Ignores o ∧ t.Ignores (.object fields))
  | some _ => t.Ignores o

section Heard
variable {t : Translator} {o p : Value} {m : Meaning}

/-- What is taken in of an object of each type. -/
inductive Hears (t : Translator) (o : Value) : Meaning → Prop
  | ignored (h : t.Ignores o) : t.Hears o .nothing
  | content {text : String} (htype : eventType o = "content") (htext : eventText o = text)
      (new : ¬ (text = "" ∧ t.streamedContent = true)) : t.Hears o (.text text)
  | thinking {text : String} (htype : eventType o = "thinking") (htext : eventText o = text)
      (shown : t.forwardThoughts = true) : t.Hears o (.thought text)
  | planning {text : String} (htype : eventType o ∈ ["planning", "replanning"])
      (htext : eventText o = text) : t.Hears o (.plan text)
  | tool {id title : String} {status : Option ToolCallStatus} {content : Option String}
      (htype : eventType o = "tool_call") (hid : o.toolId = id) (hcontent : o.toolContent = content)
      (hread : if id ∈ t.seenTools then title = id ∧ o.toolStatus = status
        else o.toolTitle = title ∧ some (o.toolStatus.getD .inProgress) = status) :
      t.Hears o (.tool id title status content)
  | completed {text : String} {streamed : Bool} (htype : eventType o = "completed")
      (hread : if t.Withholds (eventText o) (streamDiscontinuity o) then
        text = "" ∧ streamed = false else eventText o = text ∧ streamed = t.streamedContent) :
      t.Hears o (.completed text streamed)
  | error {code message : String} (htype : eventType o = "error") (hcode : codeUpstreamError = code)
      (hmessage : o.errorMessage = message) : t.Hears o (.failure code message)

theorem hears_heard (t : Translator) (o : Value) : t.Hears o (t.heard o.meaning) := by
  unfold Value.meaning
  split
  case h_1 ht =>
    simp only [heard]
    split_ifs with hs
    · exact .ignored (.content ht hs.1 hs.2)
    · exact .content ht rfl hs
  case h_2 ht =>
    simp only [heard]
    split_ifs with hf
    · exact .thinking ht rfl hf
    · exact .ignored (.thinking ht (by simpa using hf))
  case h_3 ht => exact .planning (by simp [ht]) rfl
  case h_4 ht => exact .planning (by simp [ht]) rfl
  case h_5 ht =>
    simp only [Value.toolMeaning, heard]
    split_ifs with hseen
    · exact .tool ht rfl rfl (by rw [if_pos hseen]; exact ⟨rfl, rfl⟩)
    · exact .tool ht rfl rfl (by rw [if_neg hseen]; exact ⟨rfl, rfl⟩)
  case h_6 ht =>
    simp only [heard]
    split_ifs with hw
    · exact .completed ht (by rw [if_pos hw]; exact ⟨rfl, rfl⟩)
    · exact .completed ht (by rw [if_neg hw]; exact ⟨rfl, rfl⟩)
  case h_7 ht =>
    rw [Value.upstreamError_of_type ht]
    exact .error ht rfl rfl
  case h_8 h₁ h₂ h₃ h₄ h₅ h₆ h₇ =>
    exact .ignored (.unknown (by simp_all))

theorem Hears.heard_eq (h : t.Hears o m) : t.heard o.meaning = m := by
  cases h with
  | ignored h =>
    cases h with
    | unknown htype =>
      simp only [List.mem_cons, not_or] at htype
      unfold Value.meaning
      split <;> simp_all [heard]
    | thinking htype hidden => simp [Value.meaning, htype, heard, hidden]
    | content htype empty streamed => simp [Value.meaning, htype, heard, empty, streamed]
  | content htype htext new => simp [Value.meaning, htype, htext, heard, new]
  | thinking htype htext shown => simp [Value.meaning, htype, htext, heard, shown]
  | planning htype htext =>
    obtain ht | ht := List.mem_pair.mp htype <;> simp [Value.meaning, ht, htext, heard]
  | tool htype hid hcontent hread =>
    have hm : o.meaning = .tool o.toolId o.toolTitle o.toolStatus o.toolContent := by
      simp only [Value.meaning, htype]; rfl
    rw [hm, hid, hcontent]
    simp only [heard]
    split_ifs at hread ⊢ with hseen <;> simp [hread]
  | completed htype hread =>
    simp only [Value.meaning, htype, heard]
    split_ifs at hread ⊢ with hw <;> simp [hread]
  | error htype hcode hmessage =>
    simp [Value.meaning, htype, Value.upstreamError_of_type htype, TurnEvent.failure, heard,
      hcode, hmessage]

theorem heard_eq_iff : t.heard p.meaning = t.heard o.meaning ↔ ∃ m, t.Hears o m ∧ t.Hears p m := by
  constructor
  · intro h
    exact ⟨_, t.hears_heard o, h ▸ t.hears_heard p⟩
  · rintro ⟨m, ho, hp⟩
    rw [ho.heard_eq, hp.heard_eq]

theorem Hears.same (ho : t.Hears o m) (hp : t.Hears p m) :
    t.SameEvent o p ∨ (t.Ignores o ∧ t.Ignores p) := by
  cases ho with
  | ignored h => cases hp with | ignored h' => exact .inr ⟨h, h'⟩
  | content htype htext _ => cases hp with
    | content htype' htext' _ => exact .inl (.content htype htype' (htext'.trans htext.symm))
  | thinking htype htext _ => cases hp with
    | thinking htype' htext' _ => exact .inl (.thinking htype htype' (htext'.trans htext.symm))
  | planning htype htext => cases hp with
    | planning htype' htext' => exact .inl (.planning htype htype' (htext'.trans htext.symm))
  | tool htype hid hcontent hread => cases hp with
    | tool htype' hid' hcontent' hread' =>
      subst hid hcontent
      split_ifs at hread hread' with hseen
      · exact .inl (.toolCallUpdate htype htype' hid' hseen (hread'.2.trans hread.2.symm) hcontent')
      · exact .inl (.toolCall htype htype' hid' hseen (hread'.1.trans hread.1.symm)
          (Option.some.inj (hread'.2.trans hread.2.symm)) hcontent')
  | completed htype hread => cases hp with
    | completed htype' hread' =>
      by_cases hw : t.Withholds (eventText o) (streamDiscontinuity o) <;>
        by_cases hw' : t.Withholds (eventText p) (streamDiscontinuity p)
      · exact .inl (.withheld htype htype' hw hw')
      · rw [if_pos hw] at hread
        rw [if_neg hw'] at hread'
        exact absurd (.inl (hread'.1.trans hread.1)) hw'
      · rw [if_neg hw] at hread
        rw [if_pos hw'] at hread'
        exact absurd (.inl (hread.1.trans hread'.1)) hw
      · rw [if_neg hw] at hread
        rw [if_neg hw'] at hread'
        exact .inl (.completed htype htype' hw hw' (hread'.1.trans hread.1.symm))
  | error htype _ hmessage => cases hp with
    | error htype' _ hmessage' => exact .inl (.error htype htype' (hmessage'.trans hmessage.symm))

theorem SameEvent.hears (h : t.SameEvent o p) : ∃ m, t.Hears o m ∧ t.Hears p m := by
  cases h with
  | content htype htype' text =>
    by_cases hs : eventText o = "" ∧ t.streamedContent = true
    · exact ⟨_, .ignored (.content htype hs.1 hs.2),
        .ignored (.content htype' (text.trans hs.1) hs.2)⟩
    · exact ⟨_, .content htype rfl hs, .content htype' text hs⟩
  | thinking htype htype' text =>
    cases hf : t.forwardThoughts with
    | false => exact ⟨_, .ignored (.thinking htype hf), .ignored (.thinking htype' hf)⟩
    | true => exact ⟨_, .thinking htype rfl hf, .thinking htype' text hf⟩
  | planning htype htype' text => exact ⟨_, .planning htype rfl, .planning htype' text⟩
  | toolCall htype htype' id unseen title status content =>
    exact ⟨_, .tool htype rfl rfl (by rw [if_neg unseen]; exact ⟨rfl, rfl⟩),
      .tool htype' id content (by rw [if_neg unseen]; exact ⟨title, congrArg some status⟩)⟩
  | toolCallUpdate htype htype' id seen status content =>
    exact ⟨_, .tool htype rfl rfl (by rw [if_pos seen]; exact ⟨rfl, rfl⟩),
      .tool htype' id content (by rw [if_pos seen]; exact ⟨rfl, status⟩)⟩
  | withheld htype htype' hidden hidden' =>
    exact ⟨_, .completed htype (by rw [if_pos hidden]; exact ⟨rfl, rfl⟩),
      .completed htype' (by rw [if_pos hidden']; exact ⟨rfl, rfl⟩)⟩
  | completed htype htype' shown shown' text =>
    exact ⟨_, .completed htype (by rw [if_neg shown]; exact ⟨rfl, rfl⟩),
      .completed htype' (by rw [if_neg shown']; exact ⟨text, rfl⟩)⟩
  | error htype htype' message => exact ⟨_, .error htype rfl rfl, .error htype' rfl message⟩

theorem heard_event_iff : t.heard p.meaning = t.heard o.meaning ↔
    t.SameEvent o p ∨ (t.Ignores o ∧ t.Ignores p) := by
  rw [heard_eq_iff]
  constructor
  · rintro ⟨m, ho, hp⟩
    exact ho.same hp
  · rintro (h | ⟨h, h'⟩)
    · exact h.hears
    · exact ⟨_, .ignored h, .ignored h'⟩

theorem heard_nothing_iff : t.heard .nothing = t.heard o.meaning ↔ t.Ignores o := by
  constructor
  · intro h
    have ho := t.hears_heard o
    rw [← h] at ho
    cases ho with | ignored hi => exact hi
  · intro hi
    exact (Hears.ignored hi).heard_eq.symm

theorem heard_text_iff {text : String} : t.heard (.text text) = t.heard o.meaning ↔
    (eventType o = "content" ∧ eventText o = text) ∨
      (text = "" ∧ t.streamedContent = true ∧ t.Ignores o) := by
  have hsilent : text = "" ∧ t.streamedContent = true → t.heard (.text text) = t.heard .nothing :=
    fun hs => by simp [heard, hs]
  constructor
  · intro h
    by_cases hs : text = "" ∧ t.streamedContent = true
    · exact .inr ⟨hs.1, hs.2, heard_nothing_iff.mp ((hsilent hs).symm.trans h)⟩
    · have ho := t.hears_heard o
      rw [← h, heard, if_neg hs] at ho
      cases ho with | content htype htext _ => exact .inl ⟨htype, htext⟩
  · rintro (⟨htype, htext⟩ | ⟨he, hs, hi⟩)
    · simp [Value.meaning, htype, htext]
    · exact (hsilent ⟨he, hs⟩).trans (heard_nothing_iff.mpr hi)

end Heard

variable {fromStr : String → Option Value}

/-- The token beside a typed frame never bears on how the frame itself would be translated. -/
theorem translateEventObject_congr (t : Translator) {o o' : Value}
    (h : ∀ key ≠ "token", o.get key = o'.get key) :
    t.translateEventObject o = t.translateEventObject o' := by
  rw [translateEventObject_eq_act, translateEventObject_eq_act, meaning_congr h]

/-- An object without a token is translated by its own type, whatever frame it comes in. With
one it is so exactly when the token agrees with its fields. -/
theorem typed_frame_iff (t : Translator) {data : String} {o : Value} (h : fromStr data = some o) :
    (∀ bare o', fromStr bare = some o' → (∀ key ≠ "token", o'.get key = o.get key) →
      o'.get "token" = none → t.translateDataFrame fromStr bare = t.translateEventObject o) ∧
    (t.translateDataFrame fromStr data = t.translateEventObject o ↔ t.TokenAgrees o) := by
  constructor
  · intro bare o' hbare hsame hnone
    rw [translateDataFrame_eq_act hbare, unwrapToken_of_none hnone,
      ← t.translateEventObject_congr hsame, translateEventObject_eq_act]
    rfl
  · rw [translateDataFrame_eq_act h, translateEventObject_eq_act, act_eq_iff]
    unfold TokenAgrees
    cases htoken : o.get "token" with
    | none => simp [unwrapToken_of_none htoken, Payload.meaning]
    | some v =>
      unfold unwrapToken
      rw [htoken]
      cases v with
      | string text => exact heard_text_iff
      | object fields => exact heard_event_iff
      | null | bool _ | number _ | array _ => exact heard_nothing_iff

def bareCompleted : Value :=
  .object [("type", .string "completed"), ("content", .string "Hi")]

/-- The terminal event again, with its text under another key. -/
def echo : List (String × Value) := [("type", .string "completed"), ("text", .string "Hi")]

def echoedCompleted : Value :=
  .object [("type", .string "completed"), ("content", .string "Hi"), ("token", .object echo)]

def echoedText : String :=
  "\x7b\"type\":\"completed\",\"content\":\"Hi\"," ++
    "\"token\":\x7b\"type\":\"completed\",\"text\":\"Hi\"\x7d\x7d"

def echoedDelta : Value :=
  .object [("type", .string "content"), ("content", .string "Hi"), ("token", .string "Hi")]

/-- The parser on typed frames with a token that agrees with them, and on one without. -/
def echoFrames (data : String) : Option Value :=
  if data = echoedText then some echoedCompleted
  else if data = "\x7b\"type\":\"completed\",\"content\":\"Hi\"\x7d" then
    some bareCompleted
  else if data = "\x7b\"type\":\"content\",\"content\":\"Hi\",\"token\":\"Hi\"\x7d" then
    some echoedDelta
  else none

/-- A delta repeated as the token, a terminal event repeated under another key, and the
terminal event on its own. -/
theorem typed_frame_echoed :
    (new false).translateDataFrame echoFrames
        "\x7b\"type\":\"content\",\"content\":\"Hi\",\"token\":\"Hi\"\x7d" =
      (new false).translateEventObject echoedDelta ∧
    (new false).translateDataFrame echoFrames echoedText =
      (new false).translateEventObject echoedCompleted ∧
    (new false).translateDataFrame echoFrames "\x7b\"type\":\"completed\",\"content\":\"Hi\"\x7d" =
      (new false).translateEventObject echoedCompleted := by
  have hdelta : echoFrames "\x7b\"type\":\"content\",\"content\":\"Hi\",\"token\":\"Hi\"\x7d" =
      some echoedDelta := by
    rw [echoFrames, if_neg (by decide +kernel), if_neg (by decide +kernel), if_pos rfl]
  have hecho : echoFrames echoedText = some echoedCompleted := by
    rw [echoFrames, if_pos rfl]
  have hbare : echoFrames "\x7b\"type\":\"completed\",\"content\":\"Hi\"\x7d" =
      some bareCompleted := by
    rw [echoFrames, if_neg (by decide +kernel), if_pos rfl]
  have htoken : echoedCompleted.get "token" = some (.object echo) := rfl
  have hsays : (new false).SameEvent echoedCompleted (.object echo) :=
    .completed (by decide +kernel) (by decide +kernel) (by decide +kernel) (by decide +kernel)
      (by decide +kernel)
  have hagrees : (new false).TokenAgrees echoedCompleted := by
    unfold TokenAgrees
    rw [htoken]
    exact .inl hsays
  have hsame : ∀ key ≠ "token", bareCompleted.get key = echoedCompleted.get key := by
    intro key hkey
    simp [bareCompleted, echoedCompleted, Value.get, List.lookup_cons,
      beq_eq_false_iff_ne.mpr hkey]
  refine ⟨(typed_frame_iff (new false) hdelta).2.mpr ?_,
    (typed_frame_iff (new false) hecho).2.mpr hagrees,
    (typed_frame_iff (new false) hecho).1 _ _ hbare hsame rfl⟩
  have htoken : echoedDelta.get "token" = some (.string "Hi") := rfl
  unfold TokenAgrees
  rw [htoken]
  exact .inl ⟨by decide +kernel, by decide +kernel⟩

/-- A number under `token` swallows a typed terminal event. -/
theorem typed_frame_swallowed : ∃ o, envelopeFrames
      "\x7b\"type\":\"completed\",\"content\":\"Hi\",\"token\":5\x7d" = some o ∧
    o.get "type" = some (.string "completed") ∧
    (new false).translateDataFrame envelopeFrames
      "\x7b\"type\":\"completed\",\"content\":\"Hi\",\"token\":5\x7d" = ([], new false) ∧
    (new false).translateEventObject o =
      ([.update (.agentMessageChunk "Hi"), .completed], new false) :=
  ⟨_, rfl, rfl, rfl, by decide⟩

end Translator
end AcpBridge
