import AcpBridge.Agent.Slots

/-! The cancels sent to the formation: which turns they name, whoever sent them. -/
namespace AcpBridge

open SessionRegistry

namespace Bridge

/-- The turns the formation was told to cancel. -/
def cancelledIds (b : Bridge) : List String := b.cancels.map CancelRequest.requestId

/-- A cancel was sent for a turn exactly when its token was fired or its loop sent it. -/
structure Cancelled (b : Bridge) : Prop where
  known : ∀ r ∈ b.cancelledIds, ∃ t ∈ b.turns, t.requestId = r
  fired : ∀ t ∈ b.turns, t.cancel ∈ b.sessions.tokens.fired → t.requestId ∈ b.cancelledIds
  own : ∀ t ∈ b.turns, ∀ e, t.exit = some e → e.cancelsUpstream → t.requestId ∈ b.cancelledIds
  due : ∀ t ∈ b.turns, t.requestId ∈ b.cancelledIds →
    t.cancel ∈ b.sessions.tokens.fired ∨ ∃ e, t.exit = some e ∧ e.cancelsUpstream
  cancelled : ∀ t ∈ b.turns, t.exit = some .cancelled → t.cancel ∈ b.sessions.tokens.fired
  settled : ∀ t ∈ b.turns, ∀ e, t.exit = some e → e ≠ .cancelled → e ≠ .hostDisconnected →
    t.cancel ∉ b.sessions.tokens.fired

variable {sdk : Sdk} {state : BridgeState} {limits : Limits} {b b' : Bridge} {ev : Event}

theorem cancelled_init (limits : Limits) : Cancelled { sessions := .new limits } where
  known := by simp [cancelledIds]
  fired := by simp
  own := by simp
  due := by simp
  cancelled := by simp
  settled := by simp

namespace Cancelled

/-- Registered turns are cancelled and their tokens fired. -/
theorem of_handles (state : BridgeState) (hc : b.Cancelled) (hs : b.Slots)
    (gs : List (String × ActiveTurn)) (hreg : ∀ e ∈ gs, b.sessions.active e.1 = some e.2)
    (hturns : b'.turns = b.turns)
    (hcancels : b'.cancels = b.cancels ++ gs.map fun e => ⟨e.2.requestId, state.userIdFor e.1⟩)
    (hfired : ∀ x, x ∈ b'.sessions.tokens.fired ↔
      x ∈ b.sessions.tokens.fired ∨ ∃ e ∈ gs, e.2.cancel = x) : b'.Cancelled := by
  have howner : ∀ e ∈ gs, ∃ t ∈ b.turns, t.handle = e.2 ∧ t.Holding := by
    intro e he
    obtain ⟨t, ht, _, hhandle, hhold⟩ := hs.owned e.1 e.2 (hreg e he)
    exact ⟨t, ht, hhandle, hhold⟩
  have hids : ∀ r, r ∈ b'.cancelledIds ↔ r ∈ b.cancelledIds ∨ ∃ e ∈ gs, e.2.requestId = r := by
    intro r
    rw [cancelledIds, cancelledIds, hcancels]
    simp
  exact {
    known := by
      intro r hr
      rw [hturns]
      obtain hr | ⟨e, he, rfl⟩ := (hids r).mp hr
      · exact hc.known r hr
      · obtain ⟨t, ht, hhandle, _⟩ := howner e he
        exact ⟨t, ht, congrArg ActiveTurn.requestId hhandle⟩
    fired := by
      rw [hturns]
      intro t ht hf
      obtain hf | ⟨e, he, hte⟩ := (hfired _).mp hf
      · exact (hids _).mpr (.inl (hc.fired t ht hf))
      · obtain ⟨u, hu, hhandle, _⟩ := howner e he
        have hut : u.cancel = t.cancel := (congrArg ActiveTurn.cancel hhandle).trans hte
        obtain rfl := hs.tokens.eq hu ht hut
        exact (hids _).mpr (.inr ⟨e, he, (congrArg ActiveTurn.requestId hhandle).symm⟩)
    own := by
      rw [hturns]
      exact fun t ht e hx he => (hids _).mpr (.inl (hc.own t ht e hx he))
    due := by
      rw [hturns]
      intro t ht hr
      obtain hr | ⟨e, he, hte⟩ := (hids _).mp hr
      · exact (hc.due t ht hr).imp_left fun hf => (hfired _).mpr (.inl hf)
      · obtain ⟨u, hu, hhandle, _⟩ := howner e he
        have hut : u.requestId = t.requestId :=
          (congrArg ActiveTurn.requestId hhandle).trans hte
        obtain rfl := hs.requestIds.eq hu ht hut
        exact .inl ((hfired _).mpr (.inr ⟨e, he, (congrArg ActiveTurn.cancel hhandle).symm⟩))
    cancelled := by
      rw [hturns]
      exact fun t ht hx => (hfired _).mpr (.inl (hc.cancelled t ht hx))
    settled := by
      rw [hturns]
      intro t ht x hx hcancelled hgone hf
      obtain hf | ⟨e, he, hte⟩ := (hfired _).mp hf
      · exact hc.settled t ht x hx hcancelled hgone hf
      · obtain ⟨u, hu, hhandle, hhold⟩ := howner e he
        have hut : u.cancel = t.cancel := (congrArg ActiveTurn.cancel hhandle).trans hte
        obtain rfl := hs.tokens.eq hu ht hut
        obtain hnone | hd := hhold
        · simp [hnone] at hx
        · exact hgone (Option.some.inj (hx.symm.trans hd)) }

theorem of_begins (hc : b.Cancelled) (hs : b.Slots) {s r text : String}
    (h : b.Begins state s r text b') : b'.Cancelled := by
  have hids : b'.cancelledIds = b.cancelledIds := by rw [cancelledIds, h.cancels]; rfl
  have hfired : b'.sessions.tokens.fired = b.sessions.tokens.fired := by rw [h.tokens]
  have hnew : b.sessions.tokens.next ∉ b.sessions.tokens.fired := fun hf => (hs.fired _ hf).ne rfl
  exact {
    known := by
      rw [hids, h.turns]
      intro r hr
      obtain ⟨u, hu, hur⟩ := hc.known r hr
      exact ⟨u, List.mem_append_left _ hu, hur⟩
    fired := by
      rw [hids, h.turns, hfired, List.forall_mem_append, List.forall_mem_singleton]
      exact ⟨hc.fired, fun hf => absurd hf hnew⟩
    own := by
      rw [hids, h.turns, List.forall_mem_append, List.forall_mem_singleton]
      exact ⟨hc.own, by simp [newTurn]⟩
    due := by
      rw [hids, h.turns, hfired, List.forall_mem_append, List.forall_mem_singleton]
      refine ⟨hc.due, fun hr => ?_⟩
      obtain ⟨u, hu, hur⟩ := hc.known _ hr
      exact absurd hur (h.fresh u hu)
    cancelled := by
      rw [h.turns, hfired, List.forall_mem_append, List.forall_mem_singleton]
      exact ⟨hc.cancelled, by simp [newTurn]⟩
    settled := by
      rw [h.turns, hfired, List.forall_mem_append, List.forall_mem_singleton]
      exact ⟨hc.settled, by simp [newTurn]⟩ }

/-- A stretch sends a cancel for its own turn only, when a limit ends it. -/
theorem of_polls (hc : b.Cancelled) (hs : b.Slots) {i : ℕ} {t : RunTurn} {input : PollInput}
    {st : Stretch} {sent : List SessionUpdate} {answer : Option Reply}
    (hp : b.Polls sdk state ev i t input st b')
    (h : Stretch.Polled sdk state t input b.sessions st sent answer) : b'.Cancelled := by
  have ht := hp.mem
  have hfired : b'.sessions.tokens.fired = b.sessions.tokens.fired := by rw [hp.sessions, h.tokens]
  have hids : ∀ r, r ∈ b'.cancelledIds ↔ r ∈ b.cancelledIds ∨
      (∃ e, st.turn.exit = some e ∧ e.cancelsUpstream) ∧ r = t.requestId := by
    intro r
    have hany : (∃ e, st.turn.exit = some e ∧ e.cancelsUpstream) ↔
        st.turn.exit.any Exit.cancelsUpstream = true := by
      cases st.turn.exit <;> simp
    rw [cancelledIds, cancelledIds, hp.cancels, h.cancels, Stretch.cancelsOf, hany]
    split_ifs with hu
    · simp [hu, eq_comm]
    · simp [hu]
  exact {
    known := by
      intro r hr
      have hself : st.turn ∈ b'.turns := hp.turns ▸ Keyed.self_mem_set hp.turn
      obtain hr | ⟨_, rfl⟩ := (hids r).mp hr
      · obtain ⟨u, hu, rfl⟩ := hc.known r hr
        rcases eq_or_ne u t with rfl | hne
        · exact ⟨_, hself, h.requestId⟩
        · exact ⟨u, hp.turns ▸ Keyed.mem_set_of_ne hp.turn hu hne, rfl⟩
      · exact ⟨_, hself, h.requestId⟩
    fired := by
      intro x hxm hf
      rw [hfired] at hf
      obtain rfl | ⟨hxb, _⟩ := hs.mem_polls hp hxm
      · rw [h.requestId]
        exact (hids _).mpr (.inl (hc.fired t ht (h.cancel ▸ hf)))
      · exact (hids _).mpr (.inl (hc.fired x hxb hf))
    own := by
      intro x hxm e he hu
      obtain rfl | ⟨hxb, _⟩ := hs.mem_polls hp hxm
      · exact (hids _).mpr (.inr ⟨⟨e, he, hu⟩, h.requestId⟩)
      · exact (hids _).mpr (.inl (hc.own x hxb e he hu))
    due := by
      intro x hxm hr
      rw [hfired]
      obtain rfl | ⟨hxb, hne⟩ := hs.mem_polls hp hxm
      · obtain hr | ⟨hu, _⟩ := (hids _).mp hr
        · rw [h.requestId] at hr
          refine .inl ((hc.due t ht hr).elim (fun hf => h.cancel ▸ hf) ?_)
          rintro ⟨e, he, _⟩
          simp [hp.running] at he
        · exact .inr hu
      · exact hc.due x hxb (((hids _).mp hr).resolve_right fun hown => hne hown.2)
    cancelled := by
      intro x hxm hcancelled
      rw [hfired]
      obtain rfl | ⟨hxb, _⟩ := hs.mem_polls hp hxm
      · exact h.cancel ▸ h.cancelled.mp hcancelled
      · exact hc.cancelled x hxb hcancelled
    settled := by
      intro x hxm e he hcancelled hgone hf
      rw [hfired] at hf
      obtain rfl | ⟨hxb, _⟩ := hs.mem_polls hp hxm
      · have hexit := h.cancelled.mpr (h.cancel ▸ hf)
        exact hcancelled (Option.some.inj (he.symm.trans hexit))
      · exact hc.settled x hxb e he hcancelled hgone hf }

theorem move (hc : b.Cancelled) (hs : b.Slots) (hm : b.Move sdk state ev b') : b'.Cancelled := by
  cases hm with
  | rests h =>
    exact hc.of_handles state hs [] (by simp) h.turns (by simp [h.cancels]) (by simp [h.tokens])
  | fires s h =>
    refine hc.of_handles state hs ((b.sessions.active s).toList.map fun g => (s, g)) ?_ h.turns ?_
      fun x => ?_
    · simp
    · rw [h.cancels, List.map_map]
      rfl
    · rw [h.tokens]
      cases b.sessions.active s with
      | none => simp
      | some g => simp [CancellationTokens.cancel, or_comm, eq_comm]
  | begins s r text h => exact hc.of_begins hs h
  | polls i t input st h =>
    obtain ⟨sent, answer, hpolled⟩ := hs.polled h
    exact hc.of_polls hs h hpolled
  | drains h =>
    refine hc.of_handles state hs b.sessions.drainActiveTurns.1
      (fun e he => (b.sessions.mem_drainActiveTurns).mp he) h.turns h.cancels fun x => ?_
    rw [h.sessions, (drainActiveTurns_tokens b.sessions).2]
    simp only [Prod.exists, mem_drainActiveTurns]

end Cancelled

theorem cancelled_of_reachable (h : (bridgeSystem sdk state limits).Reachable b) : b.Cancelled :=
  h.invariant (cancelled_init limits) fun s _ hr hc he =>
    hc.move (slots_of_reachable hr) (s.step_move sdk state he)

end Bridge
end AcpBridge
