import AcpBridge.Translate.Framing

/-! Forwarding the thoughts of the model changes nothing but the thoughts: two runs that
differ in the option alone agree on everything else, outputs and memory. -/
namespace AcpBridge

def TurnEvent.isThoughtChunk : TurnEvent → Bool
  | .update (.agentThoughtChunk _) => true
  | _ => false

/-- The events of a frame without its thoughts. -/
def withoutThoughts (events : List TurnEvent) : List TurnEvent :=
  events.filter (!·.isThoughtChunk)

theorem isThoughtChunk_of_mem_withoutThoughts {events : List TurnEvent} {e : TurnEvent}
    (h : e ∈ withoutThoughts events) : e.isThoughtChunk = false := by
  have hkept := (List.mem_filter.mp h).2
  simpa using hkept

theorem withoutThoughts_append (events events' : List TurnEvent) :
    withoutThoughts (events ++ events') = withoutThoughts events ++ withoutThoughts events' :=
  List.filter_append events events'

@[simp] theorem withoutThoughts_messageChunk (text : String) :
    withoutThoughts (messageChunk text) = messageChunk text := by
  unfold messageChunk
  split_ifs <;> rfl

@[simp] theorem withoutThoughts_notice (fromStr : String → Option Value) (event : SseEvent) :
    withoutThoughts (event.notice fromStr) = event.notice fromStr := by
  unfold SseEvent.notice
  split <;> rfl

namespace Translator
variable {fromStr : String → Option Value} (t : Translator)

/-- The translator with the same memory that keeps thoughts to itself. -/
def withholding : Translator := { t with forwardThoughts := false }

theorem act_withholding (m : Meaning) :
    t.withholding.act m = (withoutThoughts (t.act m).1, (t.act m).2.withholding) := by
  cases m with
  | text text => simp [act, withholding]
  | thought text =>
    by_cases h : t.forwardThoughts = true <;>
      simp [act, withholding, withoutThoughts, TurnEvent.isThoughtChunk, h]
  | plan text => rfl
  | tool id title status content =>
    by_cases h : id ∈ t.seenTools <;>
      simp [act, withholding, withoutThoughts, TurnEvent.isThoughtChunk, h]
  | completed text discontinuity =>
    have hiff : t.withholding.Withholds text discontinuity ↔ t.Withholds text discontinuity :=
      Iff.rfl
    by_cases h : t.Withholds text discontinuity
    · simp [act, hiff, h, withoutThoughts, TurnEvent.isThoughtChunk]
    · simp only [act, hiff, if_neg h, withoutThoughts_append, withoutThoughts_messageChunk]
      rfl
  | failure code message => rfl
  | nothing => rfl

/-- One frame: what is not a thought, and what is remembered, is the same without them. -/
theorem translate_withholding (event : SseEvent) :
    t.withholding.translate fromStr event =
      (withoutThoughts (t.translate fromStr event).1,
        (t.translate fromStr event).2.withholding) := by
  rw [translate_eq_act, translate_eq_act, withoutThoughts_append, withoutThoughts_notice,
    act_withholding]

theorem translateAll_withholding (frames : List SseEvent) :
    t.withholding.translateAll fromStr frames =
      ((t.translateAll fromStr frames).1.map withoutThoughts,
        (t.translateAll fromStr frames).2.withholding) := by
  have hstep := fun t event => @translate_withholding fromStr t event
  have hrun := Mealy.run_map withholding id withoutThoughts hstep t frames
  rw [translateAll_eq_run, translateAll_eq_run, ← hrun, List.map_id]

/-- A turn that forwards thoughts is the turn that does not, frame by frame, with thoughts
added and the same memory in the end. -/
theorem thoughts_apart (fromStr : String → Option Value) (frames : List SseEvent) :
    ((new true).translateAll fromStr frames).1.map withoutThoughts =
        ((new false).translateAll fromStr frames).1 ∧
      (∀ out ∈ ((new false).translateAll fromStr frames).1, ∀ e ∈ out,
        e.isThoughtChunk = false) ∧
      ((new true).translateAll fromStr frames).2.seenTools =
        ((new false).translateAll fromStr frames).2.seenTools ∧
      ((new true).translateAll fromStr frames).2.streamedContent =
        ((new false).translateAll fromStr frames).2.streamedContent := by
  have hnew : new false = (new true).withholding := rfl
  rw [hnew, translateAll_withholding]
  refine ⟨rfl, ?_, rfl, rfl⟩
  intro out hout e he
  obtain ⟨events, -, rfl⟩ := List.mem_map.mp hout
  exact isThoughtChunk_of_mem_withoutThoughts he

end Translator
end AcpBridge
