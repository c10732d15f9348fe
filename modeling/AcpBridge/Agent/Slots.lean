import AcpBridge.Lib.Keyed
import AcpBridge.Agent.Moves

/-! Turn slots and running tasks match: the invariant that ties the registry, the tasks and
their tokens together over every run of the bridge. -/
namespace AcpBridge

open SessionRegistry

namespace RunTurn

/-- The handle a task was registered under. -/
def handle (t : RunTurn) : ActiveTurn := ⟨t.requestId, t.cancel⟩

/-- The task runs, or has left its turn to the shutdown sweep. -/
def Holding (t : RunTurn) : Prop := t.exit = none ∨ t.exit = some .hostDisconnected

end RunTurn

namespace Bridge

/-- Slots, tasks and tokens belong together. -/
structure Slots (b : Bridge) : Prop where
  running : ∀ t ∈ b.turns, t.exit = none → t.Running
  requestIds : Keyed RunTurn.requestId b.turns
  tokens : Keyed RunTurn.cancel b.turns
  requests : Keyed RunTurn.request b.turns
  begun : ∀ t ∈ b.turns, t.cancel < b.sessions.tokens.next ∧ t.request < b.requests
  fired : ∀ x ∈ b.sessions.tokens.fired, x < b.sessions.tokens.next
  owned : ∀ s h, b.sessions.active s = some h →
    ∃ t ∈ b.turns, t.sessionId = s ∧ t.handle = h ∧ t.Holding
  held : ∀ t ∈ b.turns, t.Holding →
    b.sessions.active t.sessionId = some t.handle ∨ t.cancel ∈ b.sessions.tokens.fired
  gone : ∀ t ∈ b.turns, t.exit = some .hostDisconnected → b.incomingClosed = true

variable {sdk : Sdk} {state : BridgeState} {b b' : Bridge} {ev : Event}

theorem Polls.mem {i : ℕ} {t : RunTurn} {input : PollInput} {st : Stretch}
    (h : b.Polls sdk state ev i t input st b') : t ∈ b.turns := List.mem_of_getElem? h.turn

theorem Answered.requests_le (h : b.Answered b') : b.requests ≤ b'.requests := by
  obtain ⟨_, h⟩ | ⟨_, _, _, h⟩ := h <;> omega

theorem slots_init (limits : Limits) : Slots { sessions := .new limits } where
  running := by simp
  requestIds := .nil
  tokens := .nil
  requests := .nil
  begun := by simp
  fired := by simp [SessionRegistry.new]
  owned := by simp [active]
  held := by simp
  gone := by simp

namespace Slots

/-- The turns are kept, and what is registered stays so or is cancelled. -/
theorem of_turns (hs : b.Slots) (hturns : b'.turns = b.turns) (hreq : b.requests ≤ b'.requests)
    (hnext : b'.sessions.tokens.next = b.sessions.tokens.next)
    (hmono : ∀ x ∈ b.sessions.tokens.fired, x ∈ b'.sessions.tokens.fired)
    (hnew : ∀ x ∈ b'.sessions.tokens.fired,
      x ∈ b.sessions.tokens.fired ∨ ∃ s h, b.sessions.active s = some h ∧ h.cancel = x)
    (hactive : ∀ s h, b'.sessions.active s = some h → b.sessions.active s = some h)
    (hkept : ∀ s h, b.sessions.active s = some h →
      b'.sessions.active s = some h ∨ h.cancel ∈ b'.sessions.tokens.fired)
    (hclosed : b.incomingClosed = true → b'.incomingClosed = true) : b'.Slots where
  running := by rw [hturns]; exact hs.running
  requestIds := by rw [hturns]; exact hs.requestIds
  tokens := by rw [hturns]; exact hs.tokens
  requests := by rw [hturns]; exact hs.requests
  begun := by
    rw [hturns, hnext]
    exact fun t ht => ⟨(hs.begun t ht).1, (hs.begun t ht).2.trans_le hreq⟩
  fired := by
    intro x hx
    rw [hnext]
    obtain hx | ⟨s, h, ha, rfl⟩ := hnew x hx
    · exact hs.fired x hx
    · obtain ⟨t, ht, _, rfl, _⟩ := hs.owned s h ha
      exact (hs.begun t ht).1
  owned := by
    rw [hturns]
    exact fun s h ha => hs.owned s h (hactive s h ha)
  held := by
    rw [hturns]
    intro t ht hh
    obtain ha | hf := hs.held t ht hh
    · exact hkept t.sessionId t.handle ha
    · exact .inr (hmono _ hf)
  gone := by
    rw [hturns]
    exact fun t ht hx => hclosed (hs.gone t ht hx)

theorem of_begins (hs : b.Slots) {s r text : String} (h : b.Begins state s r text b') :
    b'.Slots where
  running := by
    rw [h.turns, List.forall_mem_append, List.forall_mem_singleton]
    exact ⟨hs.running, fun _ => ⟨rfl, rfl, rfl⟩⟩
  requestIds := by rw [h.turns]; exact hs.requestIds.append h.fresh
  tokens := by
    rw [h.turns]
    exact hs.tokens.append fun t ht => (hs.begun t ht).1.ne
  requests := by
    rw [h.turns]
    exact hs.requests.append fun t ht => (hs.begun t ht).2.ne
  begun := by
    rw [h.turns, h.tokens, h.requests, List.forall_mem_append, List.forall_mem_singleton]
    exact ⟨fun t ht => ⟨(hs.begun t ht).1.trans (Nat.lt_succ_self _),
      (hs.begun t ht).2.trans (Nat.lt_succ_self _)⟩, Nat.lt_succ_self _, Nat.lt_succ_self _⟩
  fired := by
    rw [h.tokens]
    exact fun x hx => (hs.fired x hx).trans (Nat.lt_succ_self _)
  owned := by
    intro s' g ha
    rw [h.active] at ha
    split_ifs at ha with hss
    · obtain rfl := Option.some.inj ha
      exact ⟨_, by rw [h.turns]; exact List.mem_concat_self, hss.symm, rfl, .inl rfl⟩
    · obtain ⟨t, ht, h1, h2, h3⟩ := hs.owned s' g ha
      exact ⟨t, by rw [h.turns]; exact List.mem_append_left _ ht, h1, h2, h3⟩
  held := by
    rw [h.turns, h.tokens, List.forall_mem_append, List.forall_mem_singleton]
    refine ⟨fun t ht hh => ?_, fun _ => .inl ?_⟩
    · refine (hs.held t ht hh).imp_left fun ha => ?_
      rw [h.active, if_neg, ha]
      rintro rfl
      rw [h.free] at ha
      simp at ha
    · rw [h.active]
      exact if_pos rfl
  gone := by
    rw [h.turns, h.closed, List.forall_mem_append, List.forall_mem_singleton]
    exact ⟨hs.gone, fun hx => by simp [newTurn] at hx⟩

theorem polled (hs : b.Slots) {i : ℕ} {t : RunTurn} {input : PollInput} {st : Stretch}
    (hp : b.Polls sdk state ev i t input st b') :
    ∃ sent answer, Stretch.Polled sdk state t input b.sessions st sent answer := by
  rw [hp.stretch]
  exact RunTurn.poll_spec sdk state (hs.running t hp.mem hp.running) b.sessions input

theorem mem_polls (hs : b.Slots) {i : ℕ} {t x : RunTurn} {input : PollInput} {st : Stretch}
    (hp : b.Polls sdk state ev i t input st b') (hx : x ∈ b'.turns) :
    x = st.turn ∨ x ∈ b.turns ∧ x.requestId ≠ t.requestId := by
  rw [hp.turns] at hx
  exact hs.requestIds.mem_set hp.turn hx

/-- A stretch of one task touches no other slot, and gives up its own when it is done. -/
theorem of_polls (hs : b.Slots) {i : ℕ} {t : RunTurn} {input : PollInput} {st : Stretch}
    {sent : List SessionUpdate} {answer : Option Reply} (hp : b.Polls sdk state ev i t input st b')
    (h : Stretch.Polled sdk state t input b.sessions st sent answer) : b'.Slots := by
  have hhandle : st.turn.handle = t.handle := by
    rw [RunTurn.handle, RunTurn.handle, h.requestId, h.cancel]
  exact {
    running := by
      intro x hxm hxx
      obtain rfl | ⟨hxb, _⟩ := hs.mem_polls hp hxm
      · refine ⟨hxx, ?_, ?_⟩
        · rw [h.responder, h.stays hxx, h.request]
          rfl
        · rw [h.leave, hxx]
          rfl
      · exact hs.running x hxb hxx
    requestIds := by rw [hp.turns]; exact hs.requestIds.set hp.turn h.requestId
    tokens := by rw [hp.turns]; exact hs.tokens.set hp.turn h.cancel
    requests := by rw [hp.turns]; exact hs.requests.set hp.turn h.request
    begun := by
      intro x hxm
      rw [hp.sessions, h.tokens, hp.requests]
      obtain rfl | ⟨hxb, _⟩ := hs.mem_polls hp hxm
      · rw [h.cancel, h.request]
        exact hs.begun t hp.mem
      · exact hs.begun x hxb
    fired := by rw [hp.sessions, h.tokens]; exact hs.fired
    owned := by
      intro s g hg
      rw [hp.sessions, h.active] at hg
      split_ifs at hg with hend
      obtain ⟨x, hxb, hsx, hxg, hhold⟩ := hs.owned s g hg
      by_cases hxt : x = t
      · subst hxt
        refine ⟨st.turn, ?_, h.sessionId.trans hsx, hhandle.trans hxg, ?_⟩
        · rw [hp.turns]
          exact Keyed.self_mem_set hp.turn
        · -- otherwise the slot would have been given up
          by_contra hdone
          cases he : st.turn.exit with
          | none => exact hdone (.inl he)
          | some e =>
            refine hend ⟨⟨e, he, fun hd => hdone (.inr (by rw [he, hd]))⟩, hsx.symm, ?_⟩
            rw [hg, ← hxg]
            simp [RunTurn.handle]
      · refine ⟨x, ?_, hsx, hxg, hhold⟩
        rw [hp.turns]
        exact Keyed.mem_set_of_ne hp.turn hxb hxt
    held := by
      intro x hxm hhold
      rw [hp.sessions, h.active, h.tokens]
      obtain rfl | ⟨hxb, hne⟩ := hs.mem_polls hp hxm
      · rw [if_neg, h.sessionId, hhandle, h.cancel]
        · exact hs.held t hp.mem (.inl hp.running)
        · rintro ⟨⟨e, he, hd⟩, _⟩
          obtain hn | hn := hhold <;> rw [he] at hn <;> simp at hn
          exact hd hn
      · refine (hs.held x hxb hhold).imp_left fun ha => ?_
        rw [if_neg, ha]
        rintro ⟨_, _, hany⟩
        rw [ha] at hany
        exact hne (by simpa [RunTurn.handle] using hany)
    gone := by
      intro x hxm hd
      rw [hp.closed]
      obtain rfl | ⟨hxb, _⟩ := hs.mem_polls hp hxm
      · exact hp.gone ▸ h.disconnected hd
      · exact hs.gone x hxb hd }

theorem fired_mono (hs : b.Slots) (hm : b.Move sdk state ev b') :
    ∀ x ∈ b.sessions.tokens.fired, x ∈ b'.sessions.tokens.fired := by
  intro x hx
  cases hm with
  | rests h => rwa [h.tokens]
  | fires s h =>
    rw [h.tokens]
    cases b.sessions.active s with
    | none => exact hx
    | some g => exact Finset.mem_insert_of_mem hx
  | begins s r text h => rwa [h.tokens]
  | polls i t input st h =>
    obtain ⟨sent, answer, hpolled⟩ := hs.polled h
    rwa [h.sessions, hpolled.tokens]
  | drains h =>
    rw [h.sessions]
    exact ((drainActiveTurns_tokens b.sessions).2 x).mpr (.inl hx)

theorem move (hs : b.Slots) (hm : b.Move sdk state ev b') : b'.Slots := by
  have hmono := hs.fired_mono hm
  cases hm with
  | rests h =>
    refine hs.of_turns h.turns h.answered.requests_le (by rw [h.tokens]) hmono ?_ ?_ ?_ h.closed
    · rw [h.tokens]
      exact fun _ => .inl
    · intro s g hg
      rwa [h.active] at hg
    · intro s g hg
      exact .inl (by rw [h.active, hg])
  | fires s h =>
    refine hs.of_turns h.turns h.answered.requests_le ?_ hmono ?_ ?_ ?_ (by rw [h.closed]; exact id)
    · rw [h.tokens]
      cases b.sessions.active s <;> rfl
    · rw [h.tokens]
      intro x hx
      cases hg : b.sessions.active s with
      | none => exact .inl (by simpa [hg] using hx)
      | some g =>
        rw [hg] at hx
        exact (Finset.mem_insert.mp hx).symm.imp_right fun hxg => ⟨s, g, hg, hxg.symm⟩
    · intro s' g hg
      obtain hkeep | hdrop := h.active
      · rwa [hkeep] at hg
      · rw [hdrop] at hg
        split_ifs at hg
        exact hg
    · intro s' g hg
      obtain hkeep | hdrop := h.active
      · exact .inl (by rw [hkeep, hg])
      · rw [hdrop, h.tokens]
        split_ifs with hss
        · subst hss
          rw [hg]
          exact .inr (Finset.mem_insert_self _ _)
        · exact .inl hg
  | begins s r text h => exact hs.of_begins h
  | polls i t input st h =>
    obtain ⟨sent, answer, hpolled⟩ := hs.polled h
    exact hs.of_polls h hpolled
  | drains h =>
    obtain ⟨hnext, hfired⟩ := drainActiveTurns_tokens b.sessions
    refine hs.of_turns h.turns h.answered.requests_le (by rw [h.sessions, hnext]) hmono ?_ ?_ ?_
      (by rw [h.closed]; exact id)
    · rw [h.sessions]
      exact fun x hx => (hfired x).mp hx
    · rw [h.sessions]
      intro s g hg
      simp [SessionRegistry.active] at hg
    · rw [h.sessions]
      exact fun s g hg => .inr ((hfired _).mpr (.inr ⟨s, g, hg, rfl⟩))

end Slots

theorem slots_of_reachable {limits : Limits} (h : (bridgeSystem sdk state limits).Reachable b) :
    b.Slots :=
  h.invariant (slots_init limits) fun s _ _ hs hl => hs.move (s.step_move sdk state hl)

end Bridge
end AcpBridge
