import AcpBridge.Agent.Deadlines
import AcpBridge.Agent.Answers

/-! The host goes away: from then on no task takes a frame or sends an update, and each one
leaves at its next stretch. -/
namespace AcpBridge

open SessionRegistry

/-- How a task can leave once the host is gone. -/
def Exit.Parting (e : Exit) : Prop := e = .cancelled ∨ e = .hostDisconnected

/-- A message that can still follow: no update, and no stop reason but a cancelled one. -/
def Outgoing.Parting : Outgoing → Prop
  | .update _ _ _ => False
  | .response _ reply => ∀ reason, reply = .stop reason → reason = .cancelled

/-- What a stretch does after a disconnect. -/
structure Stretch.Parts (t : RunTurn) (st : Stretch) : Prop where
  exit : ∃ e, st.turn.exit = some e ∧ e.Parting
  consumed : st.turn.consumed = t.consumed
  out : ∀ m ∈ st.out, m.Parting

/-- With the host gone a task leaves at once. -/
theorem RunTurn.poll_parts (sdk : Sdk) (state : BridgeState) {t : RunTurn} (ht : t.Running)
    (sessions : SessionRegistry) {input : PollInput} (hg : input.incomingClosed = true) :
    Stretch.Parts t (t.poll sdk state sessions input) := by
  have hfinish : ∀ st : Stretch, st.finish.turn = st.turn ∧ st.finish.out = st.out := by
    intro st
    rw [Stretch.finish]
    split_ifs <;> exact ⟨rfl, rfl⟩
  obtain ⟨hturn, hout⟩ := hfinish (Stretch.arm sdk state
    { sessions := sessions, turn := { t with deadlines := some (t.deadlinesAt state input.now) } }
    input.now input.sends (t.winner state sessions input))
  rw [← t.poll_eq] at hturn hout
  cases hc : sessions.tokens.isCancelled t.cancel with
  | true =>
    have hw : t.winner state sessions input = .cancelled := by
      simp [RunTurn.winner, Stretch.select, hc]
    rw [hw] at hturn hout
    refine ⟨⟨.cancelled, ?_, .inl rfl⟩, ?_, ?_⟩
    · rw [hturn]
      rfl
    · rw [hturn]
      simp [Stretch.arm, Stretch.respond, Stretch.exit, ht.responder]
    · rw [hout]
      simp [Stretch.arm, Stretch.respond, Stretch.exit, ht.responder, Outgoing.Parting]
  | false =>
    have hw : t.winner state sessions input = .incomingClosed := by
      simp [RunTurn.winner, Stretch.select, hc, hg]
    rw [hw] at hturn hout
    refine ⟨⟨.hostDisconnected, ?_, .inr rfl⟩, ?_, ?_⟩
    · rw [hturn]
      rfl
    · rw [hturn]
      rfl
    · rw [hout]
      simp [Stretch.arm, Stretch.exit]

/-- What has happened between two states after a disconnect. -/
structure Bridge.Parted (b b' : Bridge) : Prop where
  closed : b'.incomingClosed = true
  out : ∃ new, b'.out = b.out ++ new ∧ ∀ m ∈ new, m.Parting
  consumed : b'.turns.flatMap RunTurn.consumed = b.turns.flatMap RunTurn.consumed
  left : ∀ (i : ℕ) (t : RunTurn), b'.turns[i]? = some t →
    b.turns[i]? = some t ∨ t.exit = none ∨ ∃ e, t.exit = some e ∧ e.Parting

namespace Bridge
variable {sdk : Sdk} {state : BridgeState} {limits : Limits} {b b' b'' : Bridge} {ev : Event}

namespace Parted

theorem refl (hg : b.incomingClosed = true) : b.Parted b :=
  ⟨hg, ⟨[], by simp, by simp⟩, rfl, fun _ _ => .inl⟩

theorem trans (h : b.Parted b') (h' : b'.Parted b'') : b.Parted b'' where
  closed := h'.closed
  out := by
    obtain ⟨new, hout, hnew⟩ := h.out
    obtain ⟨new', hout', hnew'⟩ := h'.out
    refine ⟨new ++ new', by rw [hout', hout, List.append_assoc], ?_⟩
    rw [List.forall_mem_append]
    exact ⟨hnew, hnew'⟩
  consumed := h'.consumed.trans h.consumed
  left := by
    intro i t ht
    obtain hbefore | hleft := h'.left i t ht
    · exact h.left i t hbefore
    · exact .inr hleft

end Parted

theorem Slots.parted (hs : b.Slots) (hg : b.incomingClosed = true) (he : b.Enabled ev) :
    b.Parted (b.step sdk state ev) := by
  have hm := b.step_move sdk state he
  have hclosed : (b.step sdk state ev).incomingClosed = true := by
    cases hm with
    | rests h => exact h.closed hg
    | fires s h => exact h.closed.trans hg
    | begins s r text h => exact h.closed.trans hg
    | polls i t input st h => exact h.closed.trans hg
    | drains h => exact h.closed.trans hg
  obtain ⟨hturns, hanswered⟩ | ⟨s, r, text, h⟩ | ⟨i, t, input, st, h⟩ := hm.tasks
  · refine ⟨hclosed, ?_, by rw [hturns], by rw [hturns]; exact fun _ _ => .inl⟩
    obtain ⟨hout, _⟩ | ⟨reply, hreply, hout, _⟩ := hanswered
    · exact ⟨[], by simpa using hout, by simp⟩
    · refine ⟨_, hout, ?_⟩
      rw [List.forall_mem_singleton]
      exact fun reason hreason => absurd hreason (hreply reason)
  · refine ⟨hclosed, ⟨[], by simpa using h.out, by simp⟩, ?_, fun i t ht => ?_⟩
    · rw [h.turns, List.flatMap_append]
      simp [newTurn]
    · rw [h.turns, List.getElem?_append] at ht
      split_ifs at ht with hi
      · exact .inl ht
      · obtain rfl := List.mem_singleton.mp (List.mem_of_getElem? ht)
        exact .inr (.inl rfl)
  · have hparts := RunTurn.poll_parts sdk state (hs.running t h.mem h.running) b.sessions
      (h.gone.trans hg)
    rw [← h.stretch] at hparts
    refine ⟨hclosed, ⟨st.out, h.out, hparts.out⟩, ?_, fun j x hx => ?_⟩
    · rw [List.flatMap_def, List.flatMap_def, h.turns, Keyed.map_set h.turn hparts.consumed]
    · rw [h.turns] at hx
      rcases eq_or_ne i j with rfl | hij
      · rw [List.getElem?_set_self (List.getElem?_eq_some_iff.mp h.turn).1] at hx
        obtain rfl := Option.some.inj hx
        exact .inr (.inr hparts.exit)
      · rw [List.getElem?_set_ne hij] at hx
        exact .inl hx

theorem Slots.left_of_poll (hs : b.Slots) (hg : b.incomingClosed = true) {i : ℕ} {now : Duration}
    {item : Option StreamItem} {sends : List Bool} {t : RunTurn}
    (ht : (b.step sdk state (.poll i now item sends)).turns[i]? = some t) : t.exit ≠ none := by
  by_cases hrun : ∃ x, b.turns[i]? = some x ∧ x.exit = none
  · obtain ⟨x, hi, hx⟩ := hrun
    have hp := step_polls sdk state b hi hx now item sends
    obtain rfl := Option.some.inj (hp.turn_after.symm.trans ht)
    have hparts := @RunTurn.poll_parts sdk state x (hs.running x hp.mem hx) b.sessions
      ⟨b.incomingClosed, now, item, sends⟩ hg
    obtain ⟨e, he, _⟩ := hparts.exit
    rw [he]
    simp
  · rw [step, pollTurn_of_idle sdk state b hrun] at ht
    exact fun hx => hrun ⟨t, ht, hx⟩

/-- Once the host has gone the bridge winds down, whatever still arrives: no update is sent and
no frame is taken any more, the only stop reason given is `cancelled`, a task that has left since
was cancelled or found the host gone, and every task that was polled since has left. -/
theorem winds_down (h : (bridgeSystem sdk state limits).Reachable b)
    (hg : b.incomingClosed = true) {evs : List Event}
    (he : (bridgeSystem sdk state limits).Along Bridge.Enabled b evs) :
    b.Parted ((bridgeSystem sdk state limits).exec b evs) ∧
    ∀ (i : ℕ) now item sends, i < b.turns.length → .poll i now item sends ∈ evs →
      ∃ t, ((bridgeSystem sdk state limits).exec b evs).turns[i]? = some t ∧ t.exit ≠ none := by
  have hparted : ∀ evs, (bridgeSystem sdk state limits).Along Bridge.Enabled b evs →
      b.Parted ((bridgeSystem sdk state limits).exec b evs) := by
    refine h.henceforth (P := b.Parted) (fun b' ev hr hb hev => ?_) (.refl hg)
    exact hb.trans ((slots_of_reachable hr).parted hb.closed hev)
  refine ⟨hparted evs he, fun i now item sends hi hpoll => ?_⟩
  obtain ⟨before, after, rfl⟩ := List.append_of_mem hpoll
  obtain ⟨hbefore, hev, hafter⟩ := TransitionSystem.along_append.mp he
  rw [TransitionSystem.exec_append, TransitionSystem.exec_cons]
  have hclosed := (hparted before hbefore).closed
  have hr := h.exec hbefore
  obtain ⟨x, hx, _⟩ := continues_henceforth h (List.getElem?_eq_getElem hi) before hbefore
  generalize (bridgeSystem sdk state limits).exec b before = mid at *
  have hs := slots_of_reachable hr
  have hnext := hr.next (l := .poll i now item sends) hev
  obtain ⟨t, ht, _⟩ := hs.continues (mid.step_move sdk state hev) hx
  obtain ⟨t', ht', hc⟩ := continues_henceforth hnext ht after hafter
  have hleft := hs.left_of_poll hclosed ht
  obtain rfl := hc.finished hleft
  exact ⟨t', ht', hleft⟩

/-- One turn is cancelled, the other one still streams when the host goes. -/
def goneBridge : Bridge :=
  (bridgeSystem rawSdk {} {}).exec { sessions := .new {} }
    [.newSession "s" "/tmp", .newSession "s2" "/tmp", .prompt "s" "r" [.text "hi"],
      .prompt "s2" "r2" [.text "hi"], .poll 0 0 (some (.event ⟨"message", "Hel"⟩)) [true],
      .poll 1 0 none [], .cancel "s2", .incomingClosed]

def partingRun : List Event :=
  [.poll 0 1 (some (.event ⟨"message", "lo."⟩)) [true], .listSessions, .poll 1 1 none []]

theorem winds_down_gone :
    goneBridge.Parted ((bridgeSystem rawSdk {} {}).exec goneBridge partingRun) ∧
    ∀ (i : ℕ) now item sends, i < goneBridge.turns.length → .poll i now item sends ∈ partingRun →
      ∃ t, ((bridgeSystem rawSdk {} {}).exec goneBridge partingRun).turns[i]? = some t ∧
        t.exit ≠ none :=
  winds_down ⟨_, by decide, rfl⟩ (by decide) (by decide)

end Bridge
end AcpBridge
