import AcpBridge.Agent.Deadlines
import AcpBridge.Agent.Streaming

/-! What becomes of a turn after a frame reported it completed: the ways out that look at the
report, and those that do not. -/
namespace AcpBridge

/-- The transport failed. -/
def StreamItem.isError : StreamItem → Bool
  | error _ => true
  | _ => false

namespace Exit

/-- The turn was cut short: by the host, by the queue to the host, or by an error the
formation reported. -/
def interrupted : Exit → Bool
  | cancelled | hostDisconnected | overflow | sendFailed | upstreamError => true
  | _ => false

end Exit

namespace RunTurn
variable {sdk : Sdk} {state : BridgeState} {t : RunTurn}

/-- The way out, if the loop was left, is one of those that end a completed turn well. -/
def EndsWell (t : RunTurn) : Prop :=
  ∀ e, t.exit = some e → e = .done ∨ e = .streamEnd ∧ t.sawTerminal = true

/-- Neither a deadline nor a failed transport meets the task at a step. -/
def OnCourse (state : BridgeState) (t : RunTurn) (now : Duration) (item : Option StreamItem) :
    Prop :=
  now < (t.deadlinesAt state now).1 ∧ now < (t.deadlinesAt state now).2 ∧
    item.any StreamItem.isError = false

instance (state : BridgeState) (t : RunTurn) (now : Duration) (item : Option StreamItem) :
    Decidable (t.OnCourse state now item) := inferInstanceAs (Decidable (_ ∧ _ ∧ _))

theorem poll_saw (hsaw : t.sawTerminal = true) {input : PollInput} {st : Stretch}
    {sent : List SessionUpdate} (h : Stretch.Took sdk t st.turn input.now input.item sent)
    (hx : st.turn.exit = none ∨ st.turn.exit = some .streamEnd) :
    st.turn.sawTerminal = true := by
  cases h with
  | nothing _ _ saw => rw [saw, hsaw]
  | close _ _ _ saw => rw [saw, hsaw]
  | error _ _ _ _ saw => rw [saw, hsaw]
  | event _ _ _ _ stays _ ways _ =>
    obtain hnone | hend := hx
    · rw [(stays hnone).2, hsaw, Bool.true_or]
    · obtain hw | hw | hw | hw := ways _ hend <;> cases hw

end RunTurn

namespace Stretch

/-- The arm fails the turn by itself: a deadline has passed or the transport failed. -/
def Arm.fails : Arm → Bool
  | turnDeadline | idleDeadline | item (.error _) => true
  | _ => false

/-- Unless the turn is cut short, the arm alone decides whether a completed turn ends well. -/
theorem Arm.Leads.endsWell_iff {w : Arm} {t : RunTurn} (h : w.Leads t.exit)
    (hsaw : t.exit = some .streamEnd → t.sawTerminal = true)
    (hcalm : t.exit.any Exit.interrupted = false) : t.EndsWell ↔ w.fails = false := by
  cases w with
  | cancelled | incomingClosed => simp [show t.exit = _ from h, Exit.interrupted] at hcalm
  | turnDeadline | idleDeadline =>
    exact iff_of_false (fun hwell => by simpa using hwell _ h) (by simp [fails])
  | pending => exact iff_of_true (fun e hx => by simp [show t.exit = _ from h] at hx) rfl
  | item item =>
    cases item with
    | close =>
      refine iff_of_true (fun e hx => ?_) rfl
      obtain rfl : .streamEnd = e := Option.some.inj (h.symm.trans hx)
      exact .inr ⟨rfl, hsaw hx⟩
    | error message =>
      exact iff_of_false (fun hwell => by simpa using hwell _ h) (by simp [fails])
    | event event =>
      refine iff_of_true (fun e hx => ?_) rfl
      rw [hx] at hcalm
      obtain rfl | rfl | rfl | rfl := h e hx
      · simp [Exit.interrupted] at hcalm
      · simp [Exit.interrupted] at hcalm
      · exact .inl rfl
      · simp [Exit.interrupted] at hcalm

/-- With the host silent, such an arm wins when a deadline has passed or the item that is
ready is an error. -/
theorem select_fails {now turnDeadline idleDeadline : Duration} {ready : Option StreamItem} :
    (select false false now turnDeadline idleDeadline ready).fails = false ↔
      now < turnDeadline ∧ now < idleDeadline ∧ ready.any StreamItem.isError = false := by
  simp only [select, Bool.false_eq_true, if_false]
  split_ifs with hturn hidle
  · simp [Arm.fails, hturn]
  · simp [Arm.fails, hidle]
  · simp only [Nat.lt_of_not_le hturn, Nat.lt_of_not_le hidle, true_and]
    cases ready with
    | none => simp [Arm.fails]
    | some item => cases item <;> simp [Arm.fails, StreamItem.isError]

end Stretch

namespace RunTurn
variable {sdk : Sdk} {state : BridgeState} {t : RunTurn}

theorem poll_endsWell_iff (ht : t.Running) (hsaw : t.sawTerminal = true)
    (sessions : SessionRegistry) (input : PollInput)
    (hcalm : (t.poll sdk state sessions input).turn.exit.any Exit.interrupted = false) :
    (t.poll sdk state sessions input).turn.EndsWell ↔ t.OnCourse state input.now input.item := by
  have hleads := poll_leads sdk state ht sessions input
  obtain ⟨sent, answer, hpolled⟩ := poll_spec sdk state ht sessions input
  rw [hleads.endsWell_iff (fun hx => poll_saw hsaw hpolled.took (.inr hx)) hcalm]
  have hcancelled : sessions.tokens.isCancelled t.cancel = false := by
    rw [← Bool.not_eq_true]
    intro hc
    have hexit := hpolled.cancelled.mpr (by simpa [CancellationTokens.isCancelled] using hc)
    simp [hexit, Exit.interrupted] at hcalm
  have hclosed : input.incomingClosed = false := by
    rw [← Bool.not_eq_true]
    intro hc
    have hw : t.winner state sessions input = .incomingClosed := by
      simp [winner, Stretch.select, hcancelled, hc]
    rw [hw] at hleads
    simp [show _ = some _ from hleads, Exit.interrupted] at hcalm
  rw [winner, hcancelled, hclosed, Stretch.select_fails]
  rfl

end RunTurn

namespace Bridge
variable {sdk : Sdk} {state : BridgeState} {limits : Limits} {b b' : Bridge} {ev : Event} {i : ℕ}
  {t : RunTurn}

/-- The answer to a turn, once its loop is left, is that the turn ended. -/
def AnsweredEndTurn (i : ℕ) (b : Bridge) : Prop :=
  ∀ t, b.turns[i]? = some t → t.exit ≠ none → answersTo t.request b.out = [.stop .endTurn]

/-- A step does not cut the turn short: its loop is not left for a cancel, a disconnect, an
overflow, a failed send or an error the formation reported. -/
def Calm (sdk : Sdk) (state : BridgeState) (i : ℕ) (b : Bridge) (ev : Event) : Prop :=
  ((b.step sdk state ev).turns[i]?.bind RunTurn.exit).any Exit.interrupted = false

/-- A step of the running task meets neither a deadline nor a failed transport. -/
def OnCourse (state : BridgeState) (i : ℕ) (b : Bridge) : Event → Prop
  | .poll j now item _ => i = j → ∀ t ∈ b.turns[i]?, t.exit = none → t.OnCourse state now item
  | _ => True

instance (i : ℕ) (b : Bridge) (ev : Event) : Decidable (Calm sdk state i b ev) :=
  inferInstanceAs (Decidable (_ = _))

instance (i : ℕ) (b : Bridge) : ∀ ev, Decidable (OnCourse state i b ev)
  | .poll j now item _ => inferInstanceAs (Decidable
      (i = j → ∀ t ∈ b.turns[i]?, t.exit = none → t.OnCourse state now item))
  | .newSession _ _ | .prompt _ _ _ | .cancel _ | .resumeSession _ _ | .listSessions
  | .closeSession _ | .deleteSession _ | .lineWritten | .incomingClosed | .shutdown =>
    isTrue trivial

/-- A completed turn that has not gone wrong. -/
def Completed (i : ℕ) (b : Bridge) : Prop :=
  ∃ t, b.turns[i]? = some t ∧ (t.exit = none → t.sawTerminal = true) ∧ t.EndsWell

theorem Ledger.answeredEndTurn_iff (hl : b.Ledger) (hi : b.turns[i]? = some t) :
    b.AnsweredEndTurn i ↔ t.EndsWell := by
  have ht := List.mem_of_getElem? hi
  constructor
  · intro hanswered e hx
    obtain ⟨answer, hanswer, hout⟩ := hl.answered t ht e hx
    rw [← hanswer.endTurn_iff, ← hout]
    exact hanswered t hi (by simp [hx])
  · intro hwell u hu hx
    obtain rfl : t = u := Option.some.inj (hi.symm.trans hu)
    obtain ⟨e, hx⟩ := Option.ne_none_iff_exists'.mp hx
    obtain ⟨answer, hanswer, hout⟩ := hl.answered t ht e hx
    rw [hout, hanswer.endTurn_iff]
    exact hwell e hx

theorem Completed.answeredEndTurn (hc : b.Completed i) (hl : b.Ledger) : b.AnsweredEndTurn i := by
  obtain ⟨t, hi, _, hwell⟩ := hc
  exact (hl.answeredEndTurn_iff hi).mpr hwell

/-- What a stretch of a completed turn does, unless it cuts the turn short. -/
theorem Slots.completed_polls (hs : b.Slots) {input : PollInput} {st : Stretch}
    (hp : b.Polls sdk state ev i t input st b') (hsaw : t.sawTerminal = true)
    (hcalm : st.turn.exit.any Exit.interrupted = false) :
    (st.turn.exit = none → st.turn.sawTerminal = true) ∧
      (st.turn.EndsWell ↔ t.OnCourse state input.now input.item) := by
  have ht := hs.running t hp.mem hp.running
  obtain ⟨sent, answer, hpolled⟩ := hs.polled hp
  refine ⟨fun hx => RunTurn.poll_saw hsaw hpolled.took (.inl hx), ?_⟩
  rw [hp.stretch] at hcalm ⊢
  exact RunTurn.poll_endsWell_iff ht hsaw b.sessions input hcalm

theorem Completed.step (hc : b.Completed i) (hs : b.Slots) (he : b.Enabled ev)
    (hcalm : b.Calm sdk state i ev) (hcourse : b.OnCourse state i ev) :
    (b.step sdk state ev).Completed i := by
  obtain ⟨t, hi, hsaw, hwell⟩ := hc
  obtain hi' | ⟨input, st, hp⟩ := (b.step_move sdk state he).task hi
  · exact ⟨t, hi', hsaw, hwell⟩
  · rw [Calm, hp.turn_after, Option.bind_some] at hcalm
    obtain ⟨hsaw', hiff⟩ := hs.completed_polls hp (hsaw hp.running) hcalm
    refine ⟨st.turn, hp.turn_after, hsaw', hiff.mpr ?_⟩
    have hev := hp.event
    subst hev
    exact hcourse rfl t hi hp.running

theorem Completed.step_off_course (hc : b.Completed i) (hs : b.Slots)
    (hl : (b.step sdk state ev).Ledger) (hcalm : b.Calm sdk state i ev)
    (hcourse : ¬ b.OnCourse state i ev) : ¬ (b.step sdk state ev).AnsweredEndTurn i := by
  cases ev with
  | poll j now item sends =>
    obtain ⟨u, hi, hsaw, _⟩ := hc
    simp only [OnCourse, Classical.not_imp, not_forall] at hcourse
    obtain ⟨rfl, t, ht, hx, hoff⟩ := hcourse
    obtain rfl : u = t := Option.some.inj (hi.symm.trans ht)
    have hp := step_polls sdk state b hi hx now item sends
    rw [Calm, hp.turn_after, Option.bind_some] at hcalm
    rw [hl.answeredEndTurn_iff hp.turn_after, (hs.completed_polls hp (hsaw hx) hcalm).2]
    exact hoff
  | _ => exact absurd trivial hcourse

/-- Every frame reports completion, whatever its data. -/
def completedSdk : Sdk :=
  { rawSdk with fromStr := fun _ => some (.object [("type", .string "completed")]) }

/-- A turn that was reported as completed and still runs. -/
def completedBridge : Bridge :=
  (bridgeSystem completedSdk {} {}).exec { sessions := .new {} }
    [.newSession "s" "/tmp", .prompt "s" "r" [.text "hi"],
      .poll 0 0 (some (.event ⟨"message", ""⟩)) []]

theorem completedBridge_reachable : (bridgeSystem completedSdk {} {}).Reachable completedBridge :=
  ⟨_, by decide, rfl⟩

theorem completedBridge_completed : ∃ t, completedBridge.turns[0]? = some t ∧ t.exit = none ∧
    ∃ events ∈ t.outputs completedSdk {}, TurnEvent.completed ∈ events :=
  ⟨_, List.getElem?_eq_getElem (by decide), by decide, [.completed], by decide, by decide⟩

/-- The transport fails after the report. -/
def resetEvent : Event := .poll 0 1 (some (.error "connection reset")) []

/-- Nothing comes after the report. -/
def silentEvent : Event := .poll 0 defaultIdleTimeout none []

/-- A reported completion becomes a failure: the host is told of the failed transport or of
the idle deadline. -/
theorem completion_lost :
    (bridgeSystem completedSdk {} {}).Reachable completedBridge ∧
    (∃ t, completedBridge.turns[0]? = some t ∧ t.exit = none ∧
      ∃ events ∈ t.outputs completedSdk {}, TurnEvent.completed ∈ events) ∧
    (∀ ev ∈ [resetEvent, silentEvent],
      completedBridge.Enabled ev ∧ completedBridge.Calm completedSdk {} 0 ev ∧
        ¬ (completedBridge.step completedSdk {} ev).AnsweredEndTurn 0) ∧
    answersTo 1 (completedBridge.step completedSdk {} resetEvent).out =
      [.error (bridgeError codeTransportError "connection reset")] ∧
    answersTo 1 (completedBridge.step completedSdk {} silentEvent).out =
      [.error (Stretch.idleTimeoutError completedSdk {})] := by
  refine ⟨completedBridge_reachable, completedBridge_completed, ?_, by decide, by decide⟩
  rw [List.forall_mem_cons, List.forall_mem_singleton]
  constructor
  · refine ⟨by decide, by decide, fun h => ?_⟩
    exact absurd (h _ (List.getElem?_eq_getElem (by decide)) (by decide)) (by decide)
  · refine ⟨by decide, by decide, fun h => ?_⟩
    exact absurd (h _ (List.getElem?_eq_getElem (by decide)) (by decide)) (by decide)

/-- A turn reported as completed that is not cut short is answered with its end exactly when,
until its loop is left, no step meets a deadline or a failed transport; and a step after the
turn deadline leaves the loop. -/
theorem completion_kept_iff (h : (bridgeSystem sdk state limits).Reachable b)
    (hi : b.turns[i]? = some t) (hx : t.exit = none)
    (hc : ∃ events ∈ t.outputs sdk state, TurnEvent.completed ∈ events) {ls : List Event}
    (hr : (bridgeSystem sdk state limits).Along
      (fun b ev => b.Enabled ev ∧ b.Calm sdk state i ev) b ls) :
    ((bridgeSystem sdk state limits).Always (AnsweredEndTurn i) b ls ↔
      (bridgeSystem sdk state limits).Along (OnCourse state i) b ls) ∧
    ∀ t' d now item sends,
      ((bridgeSystem sdk state limits).exec b ls).turns[i]? = some t' → t'.deadlines = some d →
      d.1 ≤ now → ∃ t'', (((bridgeSystem sdk state limits).exec b ls).step sdk state
        (.poll i now item sends)).turns[i]? = some t'' ∧ t''.exit ≠ none := by
  refine ⟨?_, fun _ _ _ item sends hi' hd hnow => step_poll_of_deadline hi' hd hnow item sends⟩
  let I (b : Bridge) : Prop := (bridgeSystem sdk state limits).Reachable b ∧ b.Completed i
  have hinit : I b := by
    have hs := streamed_of_reachable h t (List.mem_of_getElem? hi)
    exact ⟨h, t, hi, fun _ => (hs.saw (.inl hx)).mpr hc, fun e he => by simp [hx] at he⟩
  have hkeep : ∀ b ev, I b → b.Enabled ev ∧ b.Calm sdk state i ev → b.OnCourse state i ev →
      I (b.step sdk state ev) := fun b ev hI he hcourse =>
    ⟨hI.1.next he.1, hI.2.step (slots_of_reachable hI.1) he.1 he.2 hcourse⟩
  have hbreak : ∀ b ev, I b → b.Enabled ev ∧ b.Calm sdk state i ev → ¬ b.OnCourse state i ev →
      ¬ (b.step sdk state ev).AnsweredEndTurn i := fun b ev hI he hcourse =>
    hI.2.step_off_course (slots_of_reachable hI.1) (ledger_of_reachable (hI.1.next he.1)) he.2
      hcourse
  exact TransitionSystem.always_iff_along
    (fun b hI => hI.2.answeredEndTurn (ledger_of_reachable hI.1)) hkeep hbreak hinit hr

/-- Silence until the end of the stream: the completed turn is answered with its end. -/
theorem completion_kept_closed :
    (bridgeSystem completedSdk {} {}).Always (AnsweredEndTurn 0) completedBridge
      [.poll 0 1 none [], .poll 0 2 (some .close) []] ∧
    ¬ (bridgeSystem completedSdk {} {}).Always (AnsweredEndTurn 0) completedBridge
      [resetEvent] := by
  obtain ⟨t, hi, hx, hc⟩ := completedBridge_completed
  constructor
  · exact (completion_kept_iff completedBridge_reachable hi hx hc (by decide)).1.mpr (by decide)
  · rw [(completion_kept_iff completedBridge_reachable hi hx hc (by decide)).1]
    decide

end Bridge
end AcpBridge
