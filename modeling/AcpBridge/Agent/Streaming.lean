import AcpBridge.Agent.Answers
import AcpBridge.Translate.Framing

/-! What a task queues against what its stream delivered: the updates of the consumed frames
in order, all of them whenever the turn is answered as a success. -/
namespace AcpBridge

namespace TurnEvent

@[simp] theorem updates_nil : updates [] = [] := rfl

@[simp] theorem updates_append (xs ys : List TurnEvent) :
    updates (xs ++ ys) = updates xs ++ updates ys := List.filterMap_append

end TurnEvent

namespace Translator
variable (fromStr : String → Option Value) (t : Translator)

theorem translateAll_concat (frames : List SseEvent) (event : SseEvent) :
    t.translateAll fromStr (frames ++ [event]) =
      ((t.translateAll fromStr frames).1 ++
        [((t.translateAll fromStr frames).2.translate fromStr event).1],
        ((t.translateAll fromStr frames).2.translate fromStr event).2) := by
  induction frames generalizing t with
  | nil => rfl
  | cons frame rest ih => simp [translateAll, ih]

variable {fromStr t}

theorem done_not_mem_messageChunk (text : String) : TurnEvent.done ∉ messageChunk text := by
  unfold messageChunk
  split_ifs <;> simp

theorem done_not_mem_act (m : Meaning) : TurnEvent.done ∉ (t.act m).1 := by
  cases m with
  | text text => exact done_not_mem_messageChunk text
  | thought text => by_cases h : t.forwardThoughts = true <;> simp [act, h]
  | tool id title status content => by_cases h : id ∈ t.seenTools <;> simp [act, h]
  | completed text discontinuity =>
    by_cases h : t.Withholds text discontinuity <;> simp [act, h, done_not_mem_messageChunk]
  | plan text | failure code message | nothing => simp [act]

/-- Only a `done` frame translates to the event that ends a turn as a success, and to no
update. -/
theorem translate_of_done_mem {event : SseEvent}
    (h : TurnEvent.done ∈ (t.translate fromStr event).1) :
    event.event = "done" ∧ (t.translate fromStr event).1 = [.done] := by
  have hname : event.event = "done" := by
    rw [translate_eq_act, List.mem_append] at h
    have hnotice := h.resolve_right (done_not_mem_act _)
    unfold SseEvent.notice at hnotice
    split at hnotice
    · assumption
    · simp [upstreamError] at hnotice
    · simp at hnotice
  exact ⟨hname, by simp [translate, hname]⟩

end Translator

namespace RunTurn
variable (sdk : Sdk) (state : BridgeState)

/-- The frames a task has consumed. -/
def frames (t : RunTurn) : List SseEvent :=
  t.consumed.filterMap fun
    | (_, .event event) => some event
    | _ => none

/-- What translating the consumed frames from the start gives, frame by frame. -/
def outputs (t : RunTurn) : List (List TurnEvent) :=
  (Translator.translateAll sdk.fromStr (.new state.forwardThoughts) t.frames).1

/-- The updates queued for a task, against the frames it consumed. -/
structure Streamed (queued : List SessionUpdate) (t : RunTurn) : Prop where
  translator : t.translator =
    (Translator.translateAll sdk.fromStr (.new state.forwardThoughts) t.frames).2
  queuedFirst : queued <+: TurnEvent.updates (t.outputs sdk state).flatten
  complete : t.exit = none ∨ t.exit = some .done ∨ t.exit = some .streamEnd →
    queued = TurnEvent.updates (t.outputs sdk state).flatten
  saw : t.exit = none ∨ t.exit = some .streamEnd →
    (t.sawTerminal = true ↔ ∃ events ∈ t.outputs sdk state, .completed ∈ events)
  done : t.exit = some .done → ∃ frame ∈ t.frames, frame.event = "done"
  ended : t.exit = some .streamEnd → ∃ now, t.consumed.getLast? = some (now, .close)

namespace Streamed
variable {sdk state} {t : RunTurn} {input : PollInput} {sessions : SessionRegistry} {st : Stretch}
  {queued sent : List SessionUpdate} {answer : Option Reply}

theorem newTurn (b : Bridge) (s r text : String) (cancel : Token) :
    (b.newTurn state s r text cancel).Streamed sdk state [] where
  translator := rfl
  queuedFirst := List.nil_prefix
  complete := fun _ => rfl
  saw := fun _ => by simp [Bridge.newTurn, outputs, frames, Translator.translateAll]
  done := by simp [Bridge.newTurn]
  ended := by simp [Bridge.newTurn]

/-- Nothing was consumed but perhaps the end of the stream, and nothing queued. -/
theorem of_frames (hs : t.Streamed sdk state queued) (hx : t.exit = none) {t' : RunTurn}
    (hframes : t'.frames = t.frames) (htranslator : t'.translator = t.translator)
    (hsaw : t'.sawTerminal = t.sawTerminal) (hdone : t'.exit ≠ some .done)
    (hended : t'.exit = some .streamEnd → ∃ now, t'.consumed.getLast? = some (now, .close)) :
    t'.Streamed sdk state queued := by
  have houtputs : t'.outputs sdk state = t.outputs sdk state := by rw [outputs, hframes]; rfl
  exact {
    translator := by rw [htranslator, hframes, hs.translator]
    queuedFirst := houtputs ▸ hs.queuedFirst
    complete := fun _ => houtputs ▸ hs.complete (.inl hx)
    saw := fun _ => by rw [hsaw, houtputs, hs.saw (.inl hx)]
    done := fun hd => absurd hd hdone
    ended := hended }

/-- A frame was consumed and its updates queued, all of them unless the loop was left. -/
theorem of_event (hs : t.Streamed sdk state queued) (hx : t.exit = none) {t' : RunTurn}
    {now : Duration} {event : SseEvent}
    (hconsumed : t'.consumed = t.consumed ++ [(now, .event event)])
    (htranslator : t'.translator = (t.translator.translate sdk.fromStr event).2)
    (hstays : t'.exit = none →
      sent = TurnEvent.updates (t.translator.translate sdk.fromStr event).1 ∧
      t'.sawTerminal = (t.sawTerminal ||
        decide (TurnEvent.completed ∈ (t.translator.translate sdk.fromStr event).1)))
    (hleaves : t'.exit = some .done →
      TurnEvent.done ∈ (t.translator.translate sdk.fromStr event).1)
    (hended : t'.exit ≠ some .streamEnd)
    (hsent : sent <+: TurnEvent.updates (t.translator.translate sdk.fromStr event).1) :
    t'.Streamed sdk state (queued ++ sent) := by
  have hframes : t'.frames = t.frames ++ [event] := by simp [frames, hconsumed]
  have hall :=
    Translator.translateAll_concat sdk.fromStr (.new state.forwardThoughts) t.frames event
  rw [← hframes, ← hs.translator] at hall
  have houtputs : t'.outputs sdk state =
      t.outputs sdk state ++ [(t.translator.translate sdk.fromStr event).1] :=
    congrArg Prod.fst hall
  have hupdates : TurnEvent.updates (t'.outputs sdk state).flatten = queued ++
      TurnEvent.updates (t.translator.translate sdk.fromStr event).1 := by
    rw [houtputs, List.flatten_append, TurnEvent.updates_append, ← hs.complete (.inl hx)]
    simp
  exact {
    translator := htranslator.trans (congrArg Prod.snd hall).symm
    queuedFirst := by
      rw [hupdates]
      exact (List.prefix_append_right_inj queued).mpr hsent
    complete := by
      rw [hupdates]
      rintro (hnone | hdone | hend)
      · rw [(hstays hnone).1]
      · have hevents := (Translator.translate_of_done_mem (hleaves hdone)).2
        rw [hevents] at hsent ⊢
        rw [List.prefix_nil.mp hsent]
        rfl
      · exact absurd hend hended
    saw := by
      rintro (hnone | hend)
      · rw [(hstays hnone).2, houtputs]
        simp [hs.saw (.inl hx), or_comm]
      · exact absurd hend hended
    done := fun hdone => ⟨event, by simp [hframes],
      (Translator.translate_of_done_mem (hleaves hdone)).1⟩
    ended := fun hend => absurd hend hended }

theorem polled (hs : t.Streamed sdk state queued) (hx : t.exit = none)
    (h : Stretch.Polled sdk state t input sessions st sent answer) :
    st.turn.Streamed sdk state (queued ++ sent) := by
  cases h.took with
  | nothing consumed translator saw hsent ways =>
    rw [hsent, List.append_nil]
    refine hs.of_frames hx (by rw [frames, consumed]; rfl) translator saw ?_ fun hend => ?_
    · intro hdone
      rcases ways _ hdone with hw | hw | hw | hw <;> simp at hw
    · rcases ways _ hend with hw | hw | hw | hw <;> simp at hw
  | close ready consumed translator saw hsent exit =>
    rw [hsent, List.append_nil]
    exact hs.of_frames hx (by simp [frames, consumed]) translator saw (by simp [exit])
      fun _ => ⟨input.now, by simp [consumed]⟩
  | error message ready consumed translator saw hsent exit =>
    rw [hsent, List.append_nil]
    exact hs.of_frames hx (by simp [frames, consumed]) translator saw (by simp [exit])
      (by simp [exit])
  | event event ready consumed translator stays leaves ways sentFirst =>
    refine hs.of_event hx consumed translator stays leaves (fun hend => ?_) sentFirst
    rcases ways _ hend with hw | hw | hw | hw <;> simp at hw

theorem of_endTurn (hs : t.Streamed sdk state queued) {e : Exit} (hx : t.exit = some e)
    (ha : e.Answers t.sawTerminal (some (.stop .endTurn))) :
    ((∃ frame ∈ t.frames, frame.event = "done") ∨
      (∃ events ∈ t.outputs sdk state, .completed ∈ events) ∧
        ∃ now, t.consumed.getLast? = some (now, .close)) ∧
    queued = TurnEvent.updates (t.outputs sdk state).flatten := by
  obtain rfl | ⟨rfl, hsaw⟩ := ha.endTurn_iff.mp rfl
  · exact ⟨.inl (hs.done hx), hs.complete (.inr (.inl hx))⟩
  · exact ⟨.inr ⟨(hs.saw (.inr hx)).mp hsaw, hs.ended hx⟩, hs.complete (.inr (.inr hx))⟩

end Streamed
end RunTurn

theorem Exit.Answers.stop {saw : Bool} {reason : StopReason} {e : Exit}
    (h : e.Answers saw (some (.stop reason))) : reason = .endTurn ∨ reason = .cancelled := by
  cases e <;> simp [Exit.Answers] at h
  case streamEnd => exact .inl h.2
  all_goals simp [h]

namespace Bridge
variable {sdk : Sdk} {state : BridgeState} {limits : Limits} {b b' : Bridge} {ev : Event}

theorem Slots.streamed (hs : b.Slots) (hl : b.Ledger) (hm : b.Move sdk state ev b')
    (h : ∀ t ∈ b.turns, t.Streamed sdk state (updatesOf t.requestId b.out)) :
    ∀ t ∈ b'.turns, t.Streamed sdk state (updatesOf t.requestId b'.out) := by
  obtain ⟨hturns, ha⟩ | ⟨s, r, text, h'⟩ | ⟨i, t, input, st, h'⟩ := hm.tasks
  · obtain ⟨_, new, hout, hnew, _⟩ := ha.new
    intro t ht
    rw [hout, updatesOf_append, hnew, List.append_nil]
    exact h t (hturns ▸ ht)
  · rw [h'.turns, h'.out, List.forall_mem_append, List.forall_mem_singleton]
    refine ⟨h, ?_⟩
    rw [newTurn, hl.unheard r h'.fresh]
    exact .newTurn b s r text _
  · obtain ⟨sent, answer, hpolled⟩ := hs.polled h'
    intro x hx
    rw [h'.out, hpolled.out, updatesOf_append, updatesOf_messages]
    obtain rfl | ⟨hxb, hne⟩ := hs.mem_polls h' hx
    · rw [if_pos hpolled.requestId.symm, hpolled.requestId]
      exact (h t h'.mem).polled h'.running hpolled
    · rw [if_neg (Ne.symm hne), List.append_nil]
      exact h x hxb

theorem streamed_of_reachable (h : (bridgeSystem sdk state limits).Reachable b) :
    ∀ t ∈ b.turns, t.Streamed sdk state (updatesOf t.requestId b.out) := by
  refine TransitionSystem.Reachable.invariant
    (P := fun b => ∀ t ∈ b.turns, t.Streamed sdk state (updatesOf t.requestId b.out))
    (by simp [bridgeSystem]) (fun b ev hr hb he => ?_) h
  exact (slots_of_reachable hr).streamed (ledger_of_reachable hr) (b.step_move sdk state he) hb

theorem Slots.stops (hs : b.Slots) (hm : b.Move sdk state ev b') {n : ℕ} {reason : StopReason}
    (hnew : Reply.stop reason ∈ answersTo n b'.out) :
    Reply.stop reason ∈ answersTo n b.out ∨ reason = .endTurn ∨ reason = .cancelled := by
  obtain ⟨_, ha⟩ | ⟨s, r, text, h⟩ | ⟨i, t, input, st, h⟩ := hm.tasks
  · obtain ⟨hout, _⟩ | ⟨reply, hreply, hout, _⟩ := ha
    · exact .inl (hout ▸ hnew)
    · rw [hout, answersTo_append, List.mem_append] at hnew
      refine .inl (hnew.resolve_right fun hmem => ?_)
      rw [answersTo_response] at hmem
      split_ifs at hmem
      · exact hreply reason (List.mem_singleton.mp hmem).symm
      · simp at hmem
  · exact .inl (h.out ▸ hnew)
  · obtain ⟨sent, answer, hpolled⟩ := hs.polled h
    rw [h.out, hpolled.out, answersTo_append, answersTo_messages, List.mem_append] at hnew
    refine hnew.imp_right fun hmem => ?_
    split_ifs at hmem
    · have hanswer : answer = some (.stop reason) := by simpa using hmem
      cases hx : st.turn.exit with
      | none => simp [hpolled.stays hx] at hanswer
      | some e => exact (hanswer ▸ hpolled.answers e hx).stop
    · simp at hmem

theorem stops_of_reachable (h : (bridgeSystem sdk state limits).Reachable b) :
    ∀ n reason, Reply.stop reason ∈ answersTo n b.out →
      reason = .endTurn ∨ reason = .cancelled := by
  refine TransitionSystem.Reachable.invariant
    (P := fun b => ∀ n reason, Reply.stop reason ∈ answersTo n b.out →
      reason = .endTurn ∨ reason = .cancelled)
    (by simp [bridgeSystem, answersTo]) (fun b ev hr hb he n reason hnew => ?_) h
  exact ((slots_of_reachable hr).stops (b.step_move sdk state he) hnew).elim (hb n reason) id

/-- Success is honest: a turn answered with the end of the turn was delivered to its end, and
all updates of its frames are queued; otherwise those queued are the first of them. -/
theorem success_honest (h : (bridgeSystem sdk state limits).Reachable b) :
    (∀ t ∈ b.turns,
      (Reply.stop .endTurn ∈ answersTo t.request b.out →
        ((∃ frame ∈ t.frames, frame.event = "done") ∨
          (∃ events ∈ t.outputs sdk state, .completed ∈ events) ∧
            ∃ now, t.consumed.getLast? = some (now, .close)) ∧
        updatesOf t.requestId b.out = TurnEvent.updates (t.outputs sdk state).flatten) ∧
      updatesOf t.requestId b.out <+: TurnEvent.updates (t.outputs sdk state).flatten) ∧
    ∀ n reason, Reply.stop reason ∈ answersTo n b.out →
      reason = .endTurn ∨ reason = .cancelled := by
  refine ⟨fun t ht => ?_, stops_of_reachable h⟩
  have hs := streamed_of_reachable h t ht
  refine ⟨fun ha => ?_, hs.queuedFirst⟩
  cases hx : t.exit with
  | none => simp [(ledger_of_reachable h).unanswered t ht hx] at ha
  | some e =>
    obtain ⟨answer, hanswer, hout⟩ := (ledger_of_reachable h).answered t ht e hx
    have hstop : answer = some (.stop .endTurn) := by simpa [hout] using ha
    exact hs.of_endTurn hx (hstop ▸ hanswer)

/-- Two deltas and the end of the turn. -/
def spokenRun : List Event :=
  [.newSession "s" "/tmp", .prompt "s" "r" [.text "hi"],
    .poll 0 0 (some (.event ⟨"message", "Hel"⟩)) [true],
    .poll 0 1 (some (.event ⟨"message", "lo."⟩)) [true],
    .poll 0 2 (some (.event ⟨"done", ""⟩)) []]

def spokenBridge : Bridge :=
  (bridgeSystem rawSdk {} {}).exec { sessions := .new {} } spokenRun

theorem spokenBridge_reachable : (bridgeSystem rawSdk {} {}).Reachable spokenBridge :=
  ⟨spokenRun, by decide, rfl⟩

/-- The turn ended well, so both deltas are queued. -/
theorem success_honest_spoken : ∃ t ∈ spokenBridge.turns,
    answersTo t.request spokenBridge.out = [.stop .endTurn] ∧
    (updatesOf t.requestId spokenBridge.out).length = 2 ∧
    updatesOf t.requestId spokenBridge.out = TurnEvent.updates (t.outputs rawSdk {}).flatten := by
  have ht := List.head_mem (l := spokenBridge.turns) (by decide)
  have hanswer : answersTo (spokenBridge.turns.head (by decide)).request spokenBridge.out =
      [.stop .endTurn] := by decide
  exact ⟨_, ht, hanswer, by decide,
    (((success_honest spokenBridge_reachable).1 _ ht).1 (by simp [hanswer])).2⟩

end Bridge
end AcpBridge
