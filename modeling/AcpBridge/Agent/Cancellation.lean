import AcpBridge.Agent.Answers
import AcpBridge.Agent.Cancels

/-! Cancellation wins and hits its target only: from the moment a handler has fired a token
its turn does nothing more than answer that it was cancelled. -/
namespace AcpBridge

open SessionRegistry

/-- The next stretch of a cancelled task answers that, whatever else is ready. -/
theorem Stretch.Polled.of_fired {sdk : Sdk} {state : BridgeState} {t : RunTurn} {input : PollInput}
    {sessions : SessionRegistry} {st : Stretch} {sent : List SessionUpdate} {answer : Option Reply}
    (h : Polled sdk state t input sessions st sent answer)
    (hf : t.cancel ∈ sessions.tokens.fired) : st.turn.exit = some .cancelled ∧ sent = [] ∧
      answer = some (.stop .cancelled) ∧ st.turn.consumed = t.consumed := by
  have hx := h.cancelled.mpr hf
  refine ⟨hx, ?_, h.answers _ hx, ?_⟩
  all_goals
    cases h.took with
    | nothing consumed translator saw sent ways => assumption
    | close ready consumed translator saw sent exit => simp [hx] at exit
    | error message ready consumed translator saw sent exit => simp [hx] at exit
    | event event ready consumed translator stays leaves ways =>
      rcases ways _ hx with hw | hw | hw | hw <;> simp at hw

namespace Bridge
variable {sdk : Sdk} {state : BridgeState} {limits : Limits} {b b' b₀ : Bridge} {ev : Event}
  {s : String} {g : ActiveTurn} {i : ℕ} {t : RunTurn}

/-- Since `b₀` task `i`, then `t`, was cancelled, it has queued and consumed nothing, and
answered nothing but that. -/
def Stopped (b₀ : Bridge) (i : ℕ) (t : RunTurn) (b : Bridge) : Prop :=
  ∃ t', b.turns[i]? = some t' ∧ t.Continues t' ∧ t'.cancel ∈ b.sessions.tokens.fired ∧
    t'.consumed = t.consumed ∧
    updatesOf t.requestId b.out = updatesOf t.requestId b₀.out ∧
    (t'.exit = t.exit ∧ answersTo t.request b.out = [] ∨
      t'.exit = some .cancelled ∧ answersTo t.request b.out = [.stop .cancelled])

namespace Stopped

/-- Steps of others keep the task and tell the host nothing about it. -/
theorem of_others (h : b₀.Stopped i t b)
    (hi : ∀ t', b.turns[i]? = some t' → b'.turns[i]? = some t')
    (hfired : ∀ x ∈ b.sessions.tokens.fired, x ∈ b'.sessions.tokens.fired) (new : List Outgoing)
    (hout : b'.out = b.out ++ new) (hupdates : updatesOf t.requestId new = [])
    (hanswers : answersTo t.request new = []) : b₀.Stopped i t b' := by
  obtain ⟨t', hi', hc, hf, hconsumed, hqueued, hexit⟩ := h
  refine ⟨t', hi t' hi', hc, hfired _ hf, hconsumed, ?_, ?_⟩
  · rw [hout, updatesOf_append, hupdates, List.append_nil, hqueued]
  · rwa [hout, answersTo_append, hanswers, List.append_nil]

/-- The one stretch the task may still run answers that it was cancelled. -/
theorem of_own (h : b₀.Stopped i t b) (hs : b.Slots) {u : RunTurn} {input : PollInput}
    {st : Stretch} (hp : b.Polls sdk state ev i u input st b') : b₀.Stopped i t b' := by
  obtain ⟨t', hi', hc, hf, hconsumed, hqueued, hexit⟩ := h
  obtain rfl : u = t' := Option.some.inj (hp.turn.symm.trans hi')
  obtain ⟨sent, answer, hpolled⟩ := hs.polled hp
  obtain ⟨hcancelled, rfl, rfl, hsame⟩ := hpolled.of_fired hf
  have hcontinues : u.Continues st.turn := ⟨hpolled.request, hpolled.sessionId, hpolled.requestId,
    hpolled.cancel, fun hne => absurd hp.running hne⟩
  have hunanswered : answersTo t.request b.out = [] := by
    obtain ⟨_, ha⟩ | ⟨hexit, _⟩ := hexit
    · exact ha
    · simp [hp.running] at hexit
  refine ⟨st.turn, hp.turn_after, hc.trans hcontinues, ?_, hsame.trans hconsumed, ?_,
    .inr ⟨hcancelled, ?_⟩⟩
  · rwa [hp.sessions, hpolled.tokens, hpolled.cancel]
  · rw [hp.out, hpolled.out, updatesOf_append, updatesOf_messages, ite_self, List.append_nil,
      hqueued]
  · rw [hp.out, hpolled.out, answersTo_append, answersTo_messages, if_pos hc.request, hunanswered]
    rfl

theorem move (h : b₀.Stopped i t b) (hs : b.Slots) (hm : b.Move sdk state ev b') :
    b₀.Stopped i t b' := by
  obtain ⟨t', hi, hc, _⟩ := id h
  have ht' : t' ∈ b.turns := List.mem_of_getElem? hi
  have hmono := hs.fired_mono hm
  obtain ⟨hturns, ha⟩ | ⟨s, r, text, h'⟩ | ⟨j, u, input, st, h'⟩ := hm.tasks
  · obtain ⟨_, new, hout, hupdates, hanswers, _⟩ := ha.new
    have hreq : t.request ≠ b.requests := hc.request ▸ (hs.begun t' ht').2.ne
    exact h.of_others (by rw [hturns]; exact fun _ => id) hmono new hout (hupdates _)
      (hanswers _ hreq)
  · refine h.of_others (fun u hu => ?_) hmono [] (by rw [h'.out, List.append_nil]) rfl rfl
    rw [h'.turns, List.getElem?_append_left (List.getElem?_eq_some_iff.mp hu).1, hu]
  · rcases eq_or_ne j i with rfl | hj
    · exact h.of_own hs h'
    · obtain ⟨sent, answer, hpolled⟩ := hs.polled h'
      refine h.of_others (fun x hx => ?_) hmono _ h'.out ?_ ?_
      · rw [h'.turns, List.getElem?_set_ne hj, hx]
      · rw [hpolled.out, updatesOf_messages, if_neg]
        exact hc.requestId ▸ hs.requestIds.ne hi h'.turn hj.symm
      · rw [hpolled.out, answersTo_messages, if_neg]
        exact hc.request ▸ hs.requests.ne hi h'.turn hj.symm

end Stopped

theorem Slots.step_poll_of_fired (hs : b.Slots) (hl : b.Ledger) (hi : b.turns[i]? = some t)
    (hx : t.exit = none) (hf : t.cancel ∈ b.sessions.tokens.fired) (now : Duration)
    (item : Option StreamItem) (sends : List Bool) :
    ∃ t', (b.step sdk state (.poll i now item sends)).turns[i]? = some t' ∧
      t'.exit = some .cancelled ∧
      answersTo t.request (b.step sdk state (.poll i now item sends)).out = [.stop .cancelled] := by
  have ht := List.mem_of_getElem? hi
  obtain ⟨sent, answer, h⟩ := RunTurn.poll_spec sdk state (hs.running t ht hx) b.sessions
    ⟨b.incomingClosed, now, item, sends⟩
  obtain ⟨hcancelled, rfl, rfl, _⟩ := h.of_fired hf
  have hp := step_polls sdk state b hi hx now item sends
  refine ⟨_, hp.turn_after, hcancelled, ?_⟩
  rw [hp.out, h.out, answersTo_append, answersTo_messages, if_pos rfl, hl.unanswered t ht hx]
  rfl

theorem Slots.stopped_of_fires (hs : b.Slots) (hi : b.turns[i]? = some t)
    (hfires : b.Fires state s b') (hg : b.sessions.active s = some t.handle)
    (hunanswered : answersTo t.request b.out = []) : b.Stopped i t b' := by
  obtain ⟨_, new, hout, hupdates, hanswers, _⟩ := hfires.answered.new
  refine ⟨t, hfires.turns ▸ hi, .refl t, ?_, rfl, ?_, .inl ⟨rfl, ?_⟩⟩
  · rw [hfires.tokens, hg]
    exact Finset.mem_insert_self _ _
  · rw [hout, updatesOf_append, hupdates, List.append_nil]
  · rw [hout, answersTo_append, hunanswered,
      hanswers _ (hs.begun t (List.mem_of_getElem? hi)).2.ne]
    rfl

theorem Slots.unanswered (hs : b.Slots) (hl : b.Ledger) (hg : b.sessions.active s = some g) :
    ∃ t ∈ b.turns, t.sessionId = s ∧ t.handle = g ∧ answersTo t.request b.out = [] := by
  obtain ⟨t, ht, hsession, hhandle, hhold⟩ := hs.owned s g hg
  refine ⟨t, ht, hsession, hhandle, ?_⟩
  obtain hx | hx := hhold
  · exact hl.unanswered t ht hx
  · obtain ⟨answer, hanswer, ha⟩ := hl.answered t ht _ hx
    rw [ha, show answer = none from hanswer]
    rfl

theorem Cancelled.not_mem_of_endTurn (hc : b.Cancelled) (hl : b.Ledger) (ht : t ∈ b.turns)
    (ha : Reply.stop .endTurn ∈ answersTo t.request b.out) : t.requestId ∉ b.cancelledIds := by
  intro hr
  cases hx : t.exit with
  | none => simp [hl.unanswered t ht hx] at ha
  | some e =>
    obtain ⟨answer, hanswer, hout⟩ := hl.answered t ht e hx
    have hend : answer = some (.stop .endTurn) := by simpa [hout] using ha
    subst hend
    have he : e = .done ∨ e = .streamEnd := by
      cases e <;> simp [Exit.Answers] at hanswer ⊢
    obtain hf | ⟨e', he', hu⟩ := hc.due t ht hr
    · refine hc.settled t ht e hx ?_ ?_ hf <;> rintro rfl <;> simp at he
    · obtain rfl : e = e' := Option.some.inj (hx.symm.trans he')
      obtain rfl | rfl := he <;> simp [Exit.cancelsUpstream] at hu

/-- Cancellation wins and hits its target only, whichever handler does it; and a turn that was
answered as a success is never cancelled upstream. -/
theorem cancellation_wins (h : (bridgeSystem sdk state limits).Reachable b) :
    (∀ ev s g, b.Enabled ev → ev = .cancel s ∨ ev = .closeSession s ∨ ev = .deleteSession s →
      b.sessions.active s = some g → ∃ i t, b.turns[i]? = some t ∧ t.sessionId = s ∧
        t.handle = g ∧ answersTo t.request b.out = [] ∧
        (b.step sdk state ev).cancels = b.cancels ++ [⟨t.requestId, state.userIdFor s⟩] ∧
        (b.step sdk state ev).sessions.tokens = b.sessions.tokens.cancel t.cancel ∧
        (∀ u ∈ b.turns, u.requestId ≠ t.requestId →
          (u.cancel ∈ (b.step sdk state ev).sessions.tokens.fired ↔
            u.cancel ∈ b.sessions.tokens.fired)) ∧
        (bridgeSystem sdk state limits).Henceforth (fun b' => b.Stopped i t b' ∧
          ∀ t' now item sends, b'.turns[i]? = some t' → t'.exit = none →
            ∃ t'', (b'.step sdk state (.poll i now item sends)).turns[i]? = some t'' ∧
              t''.exit = some .cancelled ∧
              answersTo t.request (b'.step sdk state (.poll i now item sends)).out =
                [.stop .cancelled]) (b.step sdk state ev)) ∧
    ∀ t ∈ b.turns, Reply.stop .endTurn ∈ answersTo t.request b.out →
      ∀ c ∈ b.cancels, c.requestId ≠ t.requestId := by
  have hs := slots_of_reachable h
  have hl := ledger_of_reachable h
  constructor
  · intro ev s g he hev hg
    obtain ⟨t, ht, hsession, rfl, hunanswered⟩ := hs.unanswered hl hg
    obtain ⟨i, hi⟩ := List.mem_iff_getElem?.mp ht
    have hfires := step_fires sdk state b hev
    have htokens : (b.step sdk state ev).sessions.tokens = b.sessions.tokens.cancel t.cancel := by
      rw [hfires.tokens, hg]
      rfl
    have hstopped := hs.stopped_of_fires hi hfires hg hunanswered
    have hnext : (bridgeSystem sdk state limits).Reachable (b.step sdk state ev) :=
      h.next (l := ev) he
    refine ⟨i, t, hi, hsession, rfl, hunanswered, ?_, htokens, fun u hu hne => ?_, ?_⟩
    · rw [hfires.cancels, hg]
      rfl
    · rw [htokens, CancellationTokens.cancel, Finset.mem_insert]
      refine or_iff_right fun hut => hne ?_
      rw [hs.tokens.eq hu ht hut]
    · refine (hnext.henceforth (fun b' ev' hr' hb he' =>
        hb.move (slots_of_reachable hr') (b'.step_move sdk state he')) hstopped).mono hnext
        fun b' hr' hb => ⟨hb, fun t' now item sends hi' hx' => ?_⟩
      obtain ⟨u, hu, hc, hf, _⟩ := hb
      obtain rfl : t' = u := Option.some.inj (hi'.symm.trans hu)
      rw [← hc.request]
      exact (slots_of_reachable hr').step_poll_of_fired (ledger_of_reachable hr') hi' hx' hf now
        item sends
  · intro t ht ha c hc hid
    exact (cancelled_of_reachable h).not_mem_of_endTurn hl ht ha
      (List.mem_map.mpr ⟨c, hc, hid⟩)

/-- The stream has its last frame ready and the turn its deadline behind it, to no avail. -/
theorem cancellation_wins_ready :
    (∃ i t, promptedBridge.turns[i]? = some t ∧ t.requestId = "r" ∧
      promptedBridge.Stopped i t ((bridgeSystem rawSdk {} {}).exec
        (promptedBridge.step rawSdk {} (.cancel "s"))
        [.poll 0 defaultTurnTimeout (some (.event ⟨"done", ""⟩)) []])) ∧
    answersTo 1 ((bridgeSystem rawSdk {} {}).exec (promptedBridge.step rawSdk {} (.cancel "s"))
      [.poll 0 defaultTurnTimeout (some (.event ⟨"done", ""⟩)) []]).out = [.stop .cancelled] := by
  obtain ⟨i, t, hi, _, hhandle, _, _, _, _, hstopped⟩ :=
    (cancellation_wins promptedBridge_reachable).1 (.cancel "s") "s" ⟨"r", 0⟩ (by decide)
      (.inl rfl) (by decide)
  exact ⟨⟨i, t, hi, congrArg ActiveTurn.requestId hhandle, (hstopped _ (by decide)).1⟩, by decide⟩

end Bridge
end AcpBridge
