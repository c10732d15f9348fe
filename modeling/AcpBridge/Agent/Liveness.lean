import AcpBridge.Agent.Deadlines

/-! Every accepted prompt ends: a task that is woken once after its turn deadline has finished for
good, has answered, and has given up its slot. -/
namespace AcpBridge

open SessionRegistry

namespace Bridge
variable {sdk : Sdk} {state : BridgeState} {limits : Limits} {b : Bridge} {i : ℕ} {t : RunTurn}
  {start now : Duration}

theorem Slots.released (hs : b.Slots) (ht : t ∈ b.turns) (hx : t.exit ≠ none)
    (hd : t.exit ≠ some .hostDisconnected) : b.sessions.active t.sessionId ≠ some t.handle := by
  intro hactive
  obtain ⟨x, hx', _, hhandle, hhold⟩ := hs.owned t.sessionId t.handle hactive
  obtain rfl := hs.requestIds.eq hx' ht (congrArg ActiveTurn.requestId hhandle)
  exact hhold.elim hx hd

theorem ended_of_onTime (h : (bridgeSystem sdk state limits).Reachable b)
    (hi : b.turns[i]? = some t) (ht : t.OnTime state start) {ls : List Event}
    (hr : (bridgeSystem sdk state limits).Along Bridge.Enabled b ls) {item : Option StreamItem}
    {sends : List Bool} (hpoll : .poll i now item sends ∈ ls)
    (hlate : start + state.turnTimeout ≤ now) :
    ∃ t', ((bridgeSystem sdk state limits).exec b ls).turns[i]? = some t' ∧ t.Continues t' ∧
      t'.exit ≠ none := by
  obtain ⟨before, after, rfl⟩ := List.append_of_mem hpoll
  obtain ⟨hbefore, hev, hafter⟩ := TransitionSystem.along_append.mp hr
  rw [TransitionSystem.exec_append, TransitionSystem.exec_cons]
  obtain ⟨u, hu, hut⟩ := (meetsDeadlines_along h hi ht hbefore).2
  obtain ⟨u', hu', hcu⟩ := continues_henceforth h hi before hbefore
  obtain rfl : u' = u := Option.some.inj (hu'.symm.trans hu)
  have hmid := h.exec hbefore
  generalize (bridgeSystem sdk state limits).exec b before = mid at *
  have hnext := hmid.next (l := .poll i now item sends) hev
  have hdone : ∃ v, (mid.step sdk state (.poll i now item sends)).turns[i]? = some v ∧
      u'.Continues v ∧ v.exit ≠ none := by
    obtain ⟨v, hv, hc⟩ := (slots_of_reachable hmid).continues (mid.step_move sdk state hev) hu
    refine ⟨v, hv, hc, ?_⟩
    cases hx : u'.exit with
    | some e =>
      rw [hc.finished (by simp [hx]), hx]
      simp
    | none =>
      obtain ⟨v', hv', hleft⟩ : ∃ v',
          (mid.step sdk state (.poll i now item sends)).turns[i]? = some v' ∧ v'.exit ≠ none :=
        step_poll_of_deadline hu (hut.deadlines hx) hlate item sends
      rwa [Option.some.inj (hv.symm.trans hv')]
  obtain ⟨v, hv, hc, hleft⟩ := hdone
  obtain ⟨t', ht', hc'⟩ := continues_henceforth hnext hv after hafter
  obtain rfl := hc'.finished hleft
  exact ⟨t', ht', hcu.trans hc, hleft⟩

/-- Every accepted prompt ends within its cap, however the run goes: once its task, polled first at
`start`, was polled at a time behind `start` and the turn timeout, it has finished for good. While
the host is there its slot is free again, and it has exactly one answer if no send failed. -/
theorem prompt_ends (h : (bridgeSystem sdk state limits).Reachable b) (hi : b.turns[i]? = some t)
    (hx : t.exit = none) (hnew : t.deadlines = none) {item item' : Option StreamItem}
    {sends sends' : List Bool} {ls : List Event}
    (hr : (bridgeSystem sdk state limits).Along Bridge.Enabled b (.poll i start item sends :: ls))
    (hpoll : .poll i now item' sends' ∈ ls) (hlate : start + state.turnTimeout ≤ now) :
    ∃ t', ((bridgeSystem sdk state limits).exec b (.poll i start item sends :: ls)).turns[i]? =
        some t' ∧ t'.exit ≠ none ∧
      (((bridgeSystem sdk state limits).exec b
          (.poll i start item sends :: ls)).incomingClosed = false →
        ((bridgeSystem sdk state limits).exec b
          (.poll i start item sends :: ls)).sessions.active t.sessionId ≠ some t.handle ∧
        (t'.exit ≠ some .sendFailed → (answersTo t.request ((bridgeSystem sdk state limits).exec b
          (.poll i start item sends :: ls)).out).length = 1)) := by
  have hnone := unstarted_of_reachable h t (List.mem_of_getElem? hi) hx hnew
  have hd : t.deadlinesAt state start =
      (start + state.turnTimeout, t.lastItem start + state.idleTimeout) := by
    rw [RunTurn.deadlinesAt, hnew, RunTurn.lastItem, hnone]
    rfl
  have hin : t.InTime state start := by simp [RunTurn.InTime, hnone]
  obtain ⟨t₁, hi₁, hon, _⟩ := (slots_of_reachable h).meetsDeadlines hi hx hd hin item sends
  have hnext := h.next (l := .poll i start item sends) hr.1
  obtain ⟨t₁', hi₁', hc₁⟩ :=
    (slots_of_reachable h).continues (b.step_move sdk state hr.1) hi
  obtain rfl : t₁' = t₁ := Option.some.inj (hi₁'.symm.trans hi₁)
  obtain ⟨t', hi', hc, hleft⟩ := ended_of_onTime hnext hi₁ hon hr.2 hpoll hlate
  refine ⟨t', hi', hleft, fun hopen => ?_⟩
  have hfinal := h.exec hr
  have hs := slots_of_reachable hfinal
  have hmem := List.mem_of_getElem? hi'
  have hsame := hc₁.trans hc
  have hgone : t'.exit ≠ some .hostDisconnected := by
    intro hd
    have hclosed := hs.gone t' hmem hd
    rw [hopen] at hclosed
    exact absurd hclosed (by simp)
  constructor
  · have hreleased := hs.released hmem hleft hgone
    rwa [RunTurn.handle, hsame.sessionId, hsame.requestId, hsame.cancel] at hreleased
  · intro hsent
    obtain ⟨e, he⟩ := Option.ne_none_iff_exists'.mp hleft
    have hanswered := ((ledger_of_reachable hfinal).answeredOnce hmem).finished e he
    rw [← hsame.request]
    exact hanswered.mpr ⟨fun h => hgone (he ▸ h ▸ rfl), fun h => hsent (he ▸ h ▸ rfl)⟩

/-- The stream never yields anything; the task is woken at its deadline. -/
theorem prompt_ends_silent : ∃ t', ((bridgeSystem rawSdk {} {}).exec promptedBridge
      [.poll 0 5 none [], .poll 0 (5 + 3 * defaultTurnTimeout) none []]).turns[0]? = some t' ∧
    t'.exit ≠ none ∧ (((bridgeSystem rawSdk {} {}).exec promptedBridge
      [.poll 0 5 none [], .poll 0 (5 + 3 * defaultTurnTimeout) none []]).incomingClosed = false →
      ((bridgeSystem rawSdk {} {}).exec promptedBridge
        [.poll 0 5 none [], .poll 0 (5 + 3 * defaultTurnTimeout) none []]).sessions.active "s" ≠
          some ⟨"r", 0⟩ ∧
      (t'.exit ≠ some .sendFailed → (answersTo 1 ((bridgeSystem rawSdk {} {}).exec promptedBridge
        [.poll 0 5 none [], .poll 0 (5 + 3 * defaultTurnTimeout) none []]).out).length = 1)) :=
  prompt_ends promptedBridge_reachable
    (List.getElem?_eq_getElem (l := promptedBridge.turns) (i := 0) (by decide)) rfl rfl (by decide)
    (List.mem_singleton_self _) (by decide)

end Bridge
end AcpBridge
