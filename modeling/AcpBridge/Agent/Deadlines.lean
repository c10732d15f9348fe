import Mathlib.Data.List.Chain
import AcpBridge.Agent.Answers

/-! The deadlines of a turn over its whole run: whatever the stream delivers is taken before
both of them, and a turn that meets one is failed and cancelled upstream once. -/
namespace AcpBridge

namespace Exit

/-- A deadline passed. -/
def deadline : Exit → Bool
  | turnTimeout | idleTimeout => true
  | _ => false

end Exit

namespace Stretch.Arm

/-- The ways out an arm of the select can lead to. -/
def Leads (exit : Option Exit) : Arm → Prop
  | cancelled => exit = some .cancelled
  | incomingClosed => exit = some .hostDisconnected
  | turnDeadline => exit = some .turnTimeout
  | idleDeadline => exit = some .idleTimeout
  | item .close => exit = some .streamEnd
  | item (.error _) => exit = some .transportError
  | item (.event _) =>
    ∀ e, exit = some e → e = .overflow ∨ e = .sendFailed ∨ e = .done ∨ e = .upstreamError
  | pending => exit = none

theorem Leads.deadline {exit : Option Exit} {w : Arm} (h : w.Leads exit) :
    exit.any Exit.deadline = true ↔ w = turnDeadline ∨ w = idleDeadline := by
  cases w with
  | item item =>
    cases item with
    | event event =>
      cases exit with
      | none => simp
      | some e => obtain rfl | rfl | rfl | rfl := h e rfl <;> simp [Exit.deadline]
    | _ => simp [show exit = _ from h, Exit.deadline]
  | _ => simp [show exit = _ from h, Exit.deadline]

end Stretch.Arm

namespace RunTurn
variable (sdk : Sdk) (state : BridgeState)

/-- The deadlines of a stretch at `now`, which is when the first one sets them. -/
def deadlinesAt (t : RunTurn) (now : Duration) : Duration × Duration :=
  t.deadlines.getD (now + state.turnTimeout, now + state.idleTimeout)

/-- The arm that wins the select of a stretch. -/
def winner (t : RunTurn) (sessions : SessionRegistry) (input : PollInput) : Stretch.Arm :=
  Stretch.select (sessions.tokens.isCancelled t.cancel) input.incomingClosed input.now
    (t.deadlinesAt state input.now).1 (t.deadlinesAt state input.now).2 input.item

/-- When a task timed from `start` last took something from the stream. -/
def lastItem (start : Duration) (t : RunTurn) : Duration :=
  (t.consumed.map Prod.fst).getLastD start

/-- The task took every item in time, counted from `start`: before the turn deadline and
before the idle deadline since the item before it. -/
def InTime (start : Duration) (t : RunTurn) : Prop :=
  (start :: t.consumed.map Prod.fst).IsChain fun before now =>
    now < start + state.turnTimeout ∧ now < before + state.idleTimeout

/-- A task timed from `start`: its deadlines, while it runs, and what it took. -/
structure OnTime (start : Duration) (t : RunTurn) : Prop where
  deadlines : t.exit = none →
    t.deadlines = some (start + state.turnTimeout, t.lastItem start + state.idleTimeout)
  inTime : t.InTime state start

/-- A deadline of a task timed from `start` has passed. -/
def Overdue (start now : Duration) (t : RunTurn) : Prop :=
  start + state.turnTimeout ≤ now ∨ t.lastItem start + state.idleTimeout ≤ now

/-- What a stretch takes from the stream, and when. -/
inductive Ticks (d : Duration × Duration) (now : Duration) (t t' : RunTurn) : Prop
  | rests (consumed : t'.consumed = t.consumed) (deadlines : t'.deadlines = some d)
  | takes (item : StreamItem) (turn : now < d.1) (idle : now < d.2)
      (consumed : t'.consumed = t.consumed ++ [(now, item)])
      (deadlines : t'.exit = none → t'.deadlines = some (d.1, now + state.idleTimeout))

variable {t : RunTurn}

theorem winner_deadline (sessions : SessionRegistry) (input : PollInput) :
    t.winner state sessions input = .turnDeadline ∨ t.winner state sessions input = .idleDeadline ↔
      t.cancel ∉ sessions.tokens.fired ∧ input.incomingClosed = false ∧
        ((t.deadlinesAt state input.now).1 ≤ input.now ∨
          (t.deadlinesAt state input.now).2 ≤ input.now) := by
  have hfired : sessions.tokens.isCancelled t.cancel = false ↔
      t.cancel ∉ sessions.tokens.fired := by simp [CancellationTokens.isCancelled]
  rw [winner, Stretch.select_eq_turnDeadline, Stretch.select_eq_idleDeadline, hfired,
    ← and_or_left, ← and_or_left]
  refine and_congr_right fun _ => and_congr_right fun _ => ?_
  by_cases hturn : (t.deadlinesAt state input.now).1 ≤ input.now
  · simp [hturn]
  · simp [hturn, Nat.lt_of_not_le hturn]

theorem poll_eq (sessions : SessionRegistry) (input : PollInput) :
    t.poll sdk state sessions input = (({
      sessions := sessions
      turn := { t with deadlines := some (t.deadlinesAt state input.now) } } : Stretch).arm sdk
        state input.now input.sends (t.winner state sessions input)).finish := rfl

/-- A frame was taken; its events come next. -/
def takes (t : RunTurn) (sessions : SessionRegistry) (now : Duration) (event : SseEvent) :
    Stretch where
  sessions := sessions
  turn := { t with
    translator := (t.translator.translate sdk.fromStr event).2
    deadlines := some ((t.deadlinesAt state now).1, now + state.idleTimeout)
    consumed := t.consumed ++ [(now, .event event)] }

/-- The stretch of a frame is the inner loop over its events. -/
theorem poll_takes (ht : t.Running) (sessions : SessionRegistry) (input : PollInput)
    {event : SseEvent} (hw : t.winner state sessions input = .item (.event event)) :
    ∃ st sent answer, t.poll sdk state sessions input = st.finish ∧
      Stretch.Forwarded state (t.translator.translate sdk.fromStr event).1 input.sends
        (t.takes sdk state sessions input.now event) st sent answer := by
  obtain ⟨sent, answer, h⟩ := Stretch.forward_spec sdk state
    (t.translator.translate sdk.fromStr event).1 input.sends
    (t.takes sdk state sessions input.now event) ht.responder ht.exit
  refine ⟨_, sent, answer, ?_, h⟩
  rw [poll_eq, hw]
  rfl

section Arms
attribute [local simp] Stretch.arm Stretch.next Stretch.respond Stretch.spawnMuxCancel
  Stretch.exit

/-- The arm that won decides the way out. -/
theorem poll_leads (ht : t.Running) (sessions : SessionRegistry) (input : PollInput) :
    (t.winner state sessions input).Leads (t.poll sdk state sessions input).turn.exit := by
  cases hw : t.winner state sessions input with
  | item item =>
    cases item with
    | close =>
      rw [poll_eq, hw, Stretch.finish_turn]
      cases h : streamEndOutcome t.sawTerminal <;> simp [Stretch.Arm.Leads, h, ht.responder]
    | error message => simp [poll_eq, hw, Stretch.Arm.Leads, ht.responder]
    | event event =>
      obtain ⟨st, sent, answer, hst, h⟩ := poll_takes sdk state ht sessions input hw
      rw [hst, Stretch.finish_turn]
      exact h.ways
  | _ => simp [poll_eq, hw, Stretch.Arm.Leads, ht.responder, ht.exit]

theorem poll_ticks (ht : t.Running) (sessions : SessionRegistry) (input : PollInput) :
    Ticks state (t.deadlinesAt state input.now) input.now t
      (t.poll sdk state sessions input).turn := by
  cases hw : t.winner state sessions input with
  | item item =>
    obtain ⟨_, _, hturn, hidle⟩ := Stretch.select_eq_item hw
    cases item with
    | close =>
      have hleads := poll_leads sdk state ht sessions input
      rw [hw] at hleads
      refine .takes .close hturn hidle ?_ fun hx => ?_
      · rw [poll_eq, hw, Stretch.finish_turn]
        cases h : streamEndOutcome t.sawTerminal <;> simp [h, ht.responder]
      · rw [hx] at hleads
        cases hleads
    | error message =>
      refine .takes (.error message) hturn hidle ?_ ?_ <;> simp [poll_eq, hw, ht.responder]
    | event event =>
      obtain ⟨st, sent, answer, hst, h⟩ := poll_takes sdk state ht sessions input hw
      obtain ⟨saw, x, hst'⟩ := h.turn
      refine .takes (.event event) hturn hidle ?_ fun _ => ?_ <;>
        rw [hst, Stretch.finish_turn, hst'] <;> rfl
  | _ => exact .rests (by simp [poll_eq, hw, ht.responder]) (by simp [poll_eq, hw, ht.responder])

theorem poll_out_of_deadline (ht : t.Running) (sessions : SessionRegistry) (input : PollInput) :
    (t.winner state sessions input = .turnDeadline → (t.poll sdk state sessions input).out =
      [.response t.request (.error (Stretch.turnTimeoutError sdk state))]) ∧
    (t.winner state sessions input = .idleDeadline → (t.poll sdk state sessions input).out =
      [.response t.request (.error (Stretch.idleTimeoutError sdk state))]) := by
  constructor <;> intro hw <;> simp [poll_eq, hw, ht.responder]

end Arms

variable {sdk state} {t' : RunTurn} {start now : Duration}

theorem Ticks.onTime {d : Duration × Duration} (h : Ticks state d now t t')
    (hd : d = (start + state.turnTimeout, t.lastItem start + state.idleTimeout))
    (hin : t.InTime state start) : t'.OnTime state start := by
  subst hd
  cases h with
  | rests consumed deadlines =>
    constructor
    · intro _
      rw [deadlines, lastItem, lastItem, consumed]
    · rwa [InTime, consumed]
  | takes item turn idle consumed deadlines =>
    constructor
    · intro hx
      have hlast : t'.lastItem start = now := by simp [lastItem, consumed]
      rw [deadlines hx, hlast]
    · rw [InTime, consumed, List.map_append, ← List.cons_append, List.isChain_append]
      refine ⟨hin, by simp, ?_⟩
      intro before hbefore after hafter
      obtain rfl : now = after := by simpa using hafter
      obtain rfl : t.lastItem start = before := by
        simpa [lastItem, List.getLast?_cons] using hbefore
      exact ⟨turn, idle⟩

theorem OnTime.deadlinesAt (h : t.OnTime state start) (hx : t.exit = none) (now : Duration) :
    t.deadlinesAt state now =
      (start + state.turnTimeout, t.lastItem start + state.idleTimeout) := by
  rw [RunTurn.deadlinesAt, h.deadlines hx, Option.getD_some]

end RunTurn

namespace Bridge
variable {sdk : Sdk} {state : BridgeState} {limits : Limits} {b b' : Bridge} {ev : Event} {i : ℕ}
  {t t' : RunTurn} {start now : Duration}

/-- What polling a running task at `now` makes of its deadlines: the loop is left through one
when neither a cancel nor a disconnect comes first, with one answer and one cancel upstream. -/
structure Expires (sdk : Sdk) (state : BridgeState) (start now : Duration) (b b' : Bridge)
    (t t' : RunTurn) : Prop where
  leaves : t'.exit.any Exit.deadline = true ↔
    t.cancel ∉ b.sessions.tokens.fired ∧ b.incomingClosed = false ∧ t.Overdue state start now
  answer : t'.exit.any Exit.deadline = true → ∃ message, b'.out = b.out ++ [.response t.request
    (.error (bridgeError (if start + state.turnTimeout ≤ now then codeTurnTimeout
      else codeIdleTimeout) message))]
  cancels : t'.exit.any Exit.deadline = true →
    b'.cancels = b.cancels ++ [⟨t.requestId, state.userIdFor t.sessionId⟩]

/-- The deadlines of a task timed from `start` are met at a step. -/
def MeetsDeadlines (sdk : Sdk) (state : BridgeState) (start : Duration) (i : ℕ) (b : Bridge) :
    Event → Prop
  | .poll j now item sends => i = j → ∀ t, b.turns[i]? = some t → t.exit = none →
    ∃ t', (b.step sdk state (.poll j now item sends)).turns[i]? = some t' ∧
      Expires sdk state start now b (b.step sdk state (.poll j now item sends)) t t'
  | _ => True

theorem Slots.ticks (hs : b.Slots) {input : PollInput} {st : Stretch}
    (hp : b.Polls sdk state ev i t input st b') :
    RunTurn.Ticks state (t.deadlinesAt state input.now) input.now t st.turn := by
  rw [hp.stretch]
  exact RunTurn.poll_ticks sdk state (hs.running t hp.mem hp.running) b.sessions input

theorem Slots.expires (hs : b.Slots) {input : PollInput} {st : Stretch}
    (hp : b.Polls sdk state ev i t input st b')
    (hd : t.deadlinesAt state input.now =
      (start + state.turnTimeout, t.lastItem start + state.idleTimeout)) :
    Expires sdk state start input.now b b' t st.turn := by
  have ht := hs.running t hp.mem hp.running
  have hleads := RunTurn.poll_leads sdk state ht b.sessions input
  have hout := RunTurn.poll_out_of_deadline sdk state ht b.sessions input
  obtain ⟨sent, answer, hpolled⟩ := hs.polled hp
  rw [← hp.stretch] at hleads hout
  have hdeadline := hleads.deadline
  constructor
  · rw [hdeadline, RunTurn.winner_deadline, hp.gone, hd]
    rfl
  · intro hx
    rw [hp.out]
    obtain hw | hw := hdeadline.mp hx
    · obtain ⟨_, _, hle⟩ := Stretch.select_eq_turnDeadline.mp hw
      rw [hd] at hle
      rw [hout.1 hw, if_pos hle]
      exact ⟨_, rfl⟩
    · obtain ⟨_, _, hlt, _⟩ := Stretch.select_eq_idleDeadline.mp hw
      rw [hd] at hlt
      rw [hout.2 hw, if_neg (Nat.not_le_of_lt hlt)]
      exact ⟨_, rfl⟩
  · intro hx
    obtain ⟨e, he, hdl⟩ := (Option.any_eq_true _ _).mp hx
    have hcancels : e.cancelsUpstream = true := by
      cases e <;> simp_all [Exit.deadline, Exit.cancelsUpstream]
    rw [hp.cancels, hpolled.cancels, he, Stretch.cancelsOf, Option.any_some, if_pos hcancels]

/-- The first stretch, and any later one of a task on time. -/
theorem Slots.meetsDeadlines (hs : b.Slots) (hi : b.turns[i]? = some t) (hx : t.exit = none)
    (hd : t.deadlinesAt state now =
      (start + state.turnTimeout, t.lastItem start + state.idleTimeout))
    (hin : t.InTime state start) (item : Option StreamItem) (sends : List Bool) :
    ∃ t', (b.step sdk state (.poll i now item sends)).turns[i]? = some t' ∧
      t'.OnTime state start ∧
      Expires sdk state start now b (b.step sdk state (.poll i now item sends)) t t' := by
  have hp := step_polls sdk state b hi hx now item sends
  exact ⟨_, hp.turn_after, (hs.ticks hp).onTime hd hin, hs.expires hp hd⟩

theorem Slots.onTime (hs : b.Slots) (hm : b.Move sdk state ev b') (hi : b.turns[i]? = some t)
    (ht : t.OnTime state start) : ∃ t', b'.turns[i]? = some t' ∧ t'.OnTime state start := by
  obtain hi' | ⟨input, st, h⟩ := hm.task hi
  · exact ⟨t, hi', ht⟩
  · exact ⟨st.turn, h.turn_after, (hs.ticks h).onTime (ht.deadlinesAt h.running _) ht.inTime⟩

/-- A task that has not run has taken nothing. -/
theorem unstarted_of_reachable (h : (bridgeSystem sdk state limits).Reachable b) :
    ∀ t ∈ b.turns, t.exit = none → t.deadlines = none → t.consumed = [] := by
  refine TransitionSystem.Reachable.invariant
    (P := fun b => ∀ t ∈ b.turns, t.exit = none → t.deadlines = none → t.consumed = [])
    (by simp [bridgeSystem]) (fun b ev hr hb he => ?_) h
  change ∀ t ∈ (b.step sdk state ev).turns, _
  obtain ⟨hturns, _⟩ | ⟨s, r, text, h⟩ | ⟨j, u, input, st, h⟩ :=
    (b.step_move sdk state he).tasks
  · exact hturns ▸ hb
  · rw [h.turns, List.forall_mem_append, List.forall_mem_singleton]
    exact ⟨hb, fun _ _ => rfl⟩
  · have hs := slots_of_reachable hr
    intro t ht hx hnew
    obtain rfl | ⟨htb, _⟩ := hs.mem_polls h ht
    · cases hs.ticks h with
      | rests _ deadlines => simp [deadlines] at hnew
      | takes _ _ _ _ deadlines => simp [deadlines hx] at hnew
    · exact hb t htb hx hnew

theorem meetsDeadlines_along (h : (bridgeSystem sdk state limits).Reachable b)
    (hi : b.turns[i]? = some t) (ht : t.OnTime state start) {ls : List Event}
    (hr : (bridgeSystem sdk state limits).Along (bridgeSystem sdk state limits).enabled b ls) :
    (bridgeSystem sdk state limits).Along (MeetsDeadlines sdk state start i) b ls ∧
      ∃ t', ((bridgeSystem sdk state limits).exec b ls).turns[i]? = some t' ∧
        t'.OnTime state start := by
  have hstep : ∀ b ev, (bridgeSystem sdk state limits).Reachable b →
      (∃ t, b.turns[i]? = some t ∧ t.OnTime state start) → b.Enabled ev →
      ∃ t, (b.step sdk state ev).turns[i]? = some t ∧ t.OnTime state start := by
    intro b ev hb ⟨t, hi, ht⟩ he
    exact (slots_of_reachable hb).onTime (b.step_move sdk state he) hi ht
  refine ⟨h.along hstep (fun b ev hb hP he => ?_) ⟨t, hi, ht⟩ hr,
    h.henceforth hstep ⟨t, hi, ht⟩ ls hr⟩
  cases ev with
  | poll j now item sends =>
    rintro rfl u hu hx
    obtain ⟨t, hi, ht⟩ := hP
    obtain rfl : t = u := Option.some.inj (hi.symm.trans hu)
    obtain ⟨t', hi', _, hexpires⟩ := (slots_of_reachable hb).meetsDeadlines hi hx
      (ht.deadlinesAt hx now) ht.inTime item sends
    exact ⟨t', hi', hexpires⟩
  | _ => trivial

/-- The deadlines cannot be outrun: however a run goes on from the first stretch of a task, the
task takes every item in time, and is failed and cancelled upstream when a deadline is met. -/
theorem deadlines_met (h : (bridgeSystem sdk state limits).Reachable b)
    (hi : b.turns[i]? = some t) (hx : t.exit = none) (hnew : t.deadlines = none)
    {item : Option StreamItem} {sends : List Bool} {ls : List Event}
    (hr : (bridgeSystem sdk state limits).Along (bridgeSystem sdk state limits).enabled b
      (.poll i start item sends :: ls)) :
    (bridgeSystem sdk state limits).Along (MeetsDeadlines sdk state start i) b
      (.poll i start item sends :: ls) ∧
    ∃ t', ((bridgeSystem sdk state limits).exec b (.poll i start item sends :: ls)).turns[i]? =
      some t' ∧ t'.OnTime state start := by
  have hnone := unstarted_of_reachable h t (List.mem_of_getElem? hi) hx hnew
  have hd : t.deadlinesAt state start =
      (start + state.turnTimeout, t.lastItem start + state.idleTimeout) := by
    rw [RunTurn.deadlinesAt, hnew, RunTurn.lastItem, hnone]
    rfl
  have hin : t.InTime state start := by simp [RunTurn.InTime, hnone]
  obtain ⟨t', hi', ht', hexpires⟩ :=
    (slots_of_reachable h).meetsDeadlines hi hx hd hin item sends
  have hrest := meetsDeadlines_along (h.next hr.1) hi' ht' hr.2
  refine ⟨⟨?_, hrest.1⟩, hrest.2⟩
  intro _ u hu _
  obtain rfl : t = u := Option.some.inj (hi.symm.trans hu)
  exact ⟨t', hi', hexpires⟩

/-- A frame is taken at once; the next is ready when both deadlines have passed. -/
def lateRun : List Event :=
  [.poll 0 0 (some (.event ⟨"ui", ""⟩)) [],
    .poll 0 defaultTurnTimeout (some (.event ⟨"message", "late"⟩)) []]

/-- The late frame is not taken: the turn deadline comes first. -/
theorem deadlines_met_late :
    (bridgeSystem rawSdk {} {}).Along (MeetsDeadlines rawSdk {} 0 0) promptedBridge lateRun ∧
    ∃ t, ((bridgeSystem rawSdk {} {}).exec promptedBridge lateRun).turns[0]? = some t ∧
      t.OnTime {} 0 ∧ t.consumed.map Prod.fst = [0] ∧ t.exit = some .turnTimeout := by
  obtain ⟨hmet, t, ht, htime⟩ := deadlines_met promptedBridge_reachable
    (List.getElem?_eq_getElem (l := promptedBridge.turns) (i := 0) (by decide)) rfl rfl
    (show (bridgeSystem rawSdk {} {}).Along (bridgeSystem rawSdk {} {}).enabled promptedBridge
      lateRun by decide)
  refine ⟨hmet, t, ht, htime, ?_⟩
  have hlate : (((bridgeSystem rawSdk {} {}).exec promptedBridge lateRun).turns[0]?).map
      (fun t => (t.consumed.map Prod.fst, t.exit)) = some ([0], some .turnTimeout) := by decide
  rw [lateRun, ht] at hlate
  simpa using hlate

end Bridge
end AcpBridge
