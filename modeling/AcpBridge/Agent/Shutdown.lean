import AcpBridge.Agent.Cancels

/-! No abandoned turn outlives shutdown, provided the connection took every update: which
turns the formation has been told to cancel when the bridge is down. -/
namespace AcpBridge

open SessionRegistry

/-- No call of `send_notification` fails in the step. -/
def Event.SendsSucceed : Event → Prop
  | .poll _ _ _ sends => false ∉ sends
  | _ => True

namespace Bridge
variable {sdk : Sdk} {state : BridgeState} {limits : Limits} {b b' : Bridge} {ev : Event}

theorem Slots.not_sendFailed (hs : b.Slots) (hm : b.Move sdk state ev b') (hev : ev.SendsSucceed)
    (h : ∀ t ∈ b.turns, t.exit ≠ some .sendFailed) : ∀ t ∈ b'.turns, t.exit ≠ some .sendFailed := by
  obtain ⟨hturns, _⟩ | ⟨s, r, text, h'⟩ | ⟨i, t, input, st, h'⟩ := hm.tasks
  · rwa [hturns]
  · rw [h'.turns, List.forall_mem_append, List.forall_mem_singleton]
    exact ⟨h, by simp [newTurn]⟩
  · obtain ⟨sent, answer, hpolled⟩ := hs.polled h'
    intro x hx
    obtain rfl | ⟨hxb, _⟩ := hs.mem_polls h' hx
    · have hsends := h'.event ▸ hev
      exact fun hfailed => hsends (hpolled.failed hfailed)
    · exact h x hxb

theorem run_not_sendFailed {evs : List Event}
    (he : (bridgeSystem sdk state limits).Along Bridge.Enabled { sessions := .new limits } evs)
    (hsends : ∀ ev ∈ evs, ev.SendsSucceed) :
    ∀ t ∈ ((bridgeSystem sdk state limits).exec { sessions := .new limits } evs).turns,
      t.exit ≠ some .sendFailed := by
  let P (b : Bridge) : Prop := (bridgeSystem sdk state limits).Reachable b ∧
    ∀ t ∈ b.turns, t.exit ≠ some .sendFailed
  have hinit : P { sessions := .new limits } := ⟨.start, by simp⟩
  refine (TransitionSystem.exec_invariant (P := P) (fun b ev hb hev => ?_) hinit
    (TransitionSystem.along_and_forall_mem he hsends)).2
  exact ⟨hb.1.next hev.1,
    (slots_of_reachable hb.1).not_sendFailed (b.step_move sdk state hev.1) hev.2 hb.2⟩

/-- Once no turn is registered, every turn that its formation did not end has been cancelled
there, but for those left over a failed send. -/
theorem Cancelled.mem_iff (hc : b.Cancelled) (hs : b.Slots)
    (hidle : ∀ s, b.sessions.active s = none) {t : RunTurn} (ht : t ∈ b.turns)
    (hx : ∀ e, t.exit = some e → e.upstream = false) :
    t.requestId ∈ b.cancelledIds ↔ t.exit ≠ some .sendFailed := by
  have hholding (hhold : t.Holding) : t.requestId ∈ b.cancelledIds := by
    refine hc.fired t ht ((hs.held t ht hhold).resolve_left fun ha => ?_)
    simp [hidle] at ha
  cases hexit : t.exit with
  | none => simp [hholding (.inl hexit)]
  | some e =>
    have hup := hx e hexit
    have hown (hu : e.cancelsUpstream = true) : t.requestId ∈ b.cancelledIds :=
      hc.own t ht e hexit hu
    cases e with
    | cancelled => simp [hc.fired t ht (hc.cancelled t ht hexit)]
    | hostDisconnected => simp [hholding (.inr hexit)]
    | turnTimeout | idleTimeout | overflow => simp [hown rfl]
    | sendFailed =>
      refine iff_of_false (fun hr => ?_) (by simp)
      obtain hf | ⟨e, he, hu⟩ := hc.due t ht hr
      · exact hc.settled t ht _ hexit (by simp) (by simp) hf
      · obtain rfl : Exit.sendFailed = e := Option.some.inj (hexit.symm.trans he)
        simp [Exit.cancelsUpstream] at hu
    | streamEnd | transportError | done | upstreamError => simp [Exit.upstream] at hup

/-- By the end of shutdown every turn that was not ended by its formation has been cancelled
there, if no send failed; exactly the turns left over a failed send are missed. -/
theorem abandoned_cancelled {evs : List Event}
    (he : (bridgeSystem sdk state limits).Along Bridge.Enabled { sessions := .new limits }
      (evs ++ [.shutdown])) :
    ((∀ ev ∈ evs, ev.SendsSucceed) →
      ∀ t ∈ ((bridgeSystem sdk state limits).exec { sessions := .new limits }
          (evs ++ [.shutdown])).turns, (∀ e, t.exit = some e → e.upstream = false) →
        t.requestId ∈ ((bridgeSystem sdk state limits).exec { sessions := .new limits }
          (evs ++ [.shutdown])).cancelledIds) ∧
    ∀ t ∈ ((bridgeSystem sdk state limits).exec { sessions := .new limits }
        (evs ++ [.shutdown])).turns, (∀ e, t.exit = some e → e.upstream = false) →
      (t.requestId ∈ ((bridgeSystem sdk state limits).exec { sessions := .new limits }
        (evs ++ [.shutdown])).cancelledIds ↔ t.exit ≠ some .sendFailed) := by
  have hr : (bridgeSystem sdk state limits).Reachable
      ((bridgeSystem sdk state limits).exec { sessions := .new limits } (evs ++ [.shutdown])) :=
    ⟨_, he, rfl⟩
  have hidle : ∀ s, ((bridgeSystem sdk state limits).exec { sessions := .new limits }
      (evs ++ [.shutdown])).sessions.active s = none := by
    intro s
    rw [TransitionSystem.exec_append]
    simp [bridgeSystem, step, shutdown, active]
  have hexact := fun t ht hx => (cancelled_of_reachable hr).mem_iff (slots_of_reachable hr) hidle
    (t := t) ht hx
  refine ⟨fun hsends t ht hx => (hexact t ht hx).mpr ?_, hexact⟩
  refine run_not_sendFailed he (fun ev hev => ?_) t ht
  obtain hev | hev := List.mem_append.mp hev
  · exact hsends ev hev
  · rw [List.mem_singleton.mp hev]
    trivial

/-- The host disconnects during one turn, another one has run into its deadline. -/
def disconnectedRun : List Event :=
  [.newSession "s" "/tmp", .newSession "s2" "/tmp", .prompt "s" "r" [.text "hi"],
    .prompt "s2" "r2" [.text "hi"], .poll 0 0 none [], .poll 0 defaultTurnTimeout none [],
    .incomingClosed, .poll 1 0 none []]

theorem abandoned_cancelled_disconnected : ∃ t ∈ ((bridgeSystem rawSdk {} {}).exec
      { sessions := .new {} } (disconnectedRun ++ [.shutdown])).turns,
    t.exit = some .hostDisconnected ∧ t.requestId ∈ ((bridgeSystem rawSdk {} {}).exec
      { sessions := .new {} } (disconnectedRun ++ [.shutdown])).cancelledIds := by
  have he : (bridgeSystem rawSdk {} {}).Along Bridge.Enabled { sessions := .new {} }
      (disconnectedRun ++ [.shutdown]) := by decide
  have hsends : ∀ ev ∈ disconnectedRun, ev.SendsSucceed := by
    simp [disconnectedRun, Event.SendsSucceed]
  have ht := List.getLast_mem (l := ((bridgeSystem rawSdk {} {}).exec { sessions := .new {} }
    (disconnectedRun ++ [.shutdown])).turns) (by decide)
  have hexit : (((bridgeSystem rawSdk {} {}).exec { sessions := .new {} }
    (disconnectedRun ++ [.shutdown])).turns.getLast (by decide)).exit = some .hostDisconnected := by
    decide
  refine ⟨_, ht, hexit, (abandoned_cancelled he).1 hsends _ ht fun e hx => ?_⟩
  obtain rfl : Exit.hostDisconnected = e := Option.some.inj (hexit.symm.trans hx)
  rfl

/-- The first update of a turn cannot be sent. -/
def unsentRun : List Event :=
  [.newSession "s" "/tmp", .prompt "s" "r" [.text "hi"],
    .poll 0 0 (some (.event ⟨"message", "Hello."⟩)) [false]]

/-- The formation is never told to cancel the turn left over the failed send. -/
theorem abandoned_not_cancelled :
    (bridgeSystem rawSdk {} {}).Along Bridge.Enabled { sessions := .new {} }
      (unsentRun ++ [.shutdown]) ∧
    ∃ t ∈ ((bridgeSystem rawSdk {} {}).exec { sessions := .new {} }
        (unsentRun ++ [.shutdown])).turns,
      t.exit = some .sendFailed ∧ Exit.upstream .sendFailed = false ∧
      t.requestId ∉ ((bridgeSystem rawSdk {} {}).exec { sessions := .new {} }
        (unsentRun ++ [.shutdown])).cancelledIds :=
  ⟨by decide, by decide⟩

end Bridge
end AcpBridge
