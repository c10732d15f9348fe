import AcpBridge.Session.Accounting

/-! The flags behind the tokens of the registered turns: each turn has a token of its own,
so that an operation on one session leaves the flags of the others alone. -/
namespace AcpBridge.SessionRegistry

theorem active_of_run {reg : SessionRegistry} {op : RegistryOp} {s : String} {h : ActiveTurn}
    (ha : (op.run reg).active s = some h) :
    reg.active s = some h ∨ ∃ r, op = .beginTurn s r ∧ h = ⟨r, reg.tokens.next⟩ ∧
      (op.run reg).tokens.next = reg.tokens.next + 1 := by
  obtain ⟨t, hturn, rfl⟩ := Option.map_eq_some_iff.mp ha
  cases hb : op.isBuffer with
  | true => exact .inl (by rwa [(SameTurns.run_buffer reg hb).1] at ha)
  | false =>
    obtain hold | ⟨r, hop, rfl, hnext⟩ := run_turn_of_not_buffer hb hturn
    · exact .inl (by rw [active, hold]; rfl)
    · exact .inr ⟨r, hop, rfl, hnext⟩

/-- An operation on one session fires at most the token of its turn, and resets none. -/
theorem mem_fired_run {reg : SessionRegistry} {op : RegistryOp} {t : String}
    (ht : op.target = some t) {x : Token} (hx : ∀ h, reg.active t = some h → h.cancel ≠ x) :
    x ∈ (op.run reg).tokens.fired ↔ x ∈ reg.tokens.fired := by
  have hcancel : x ∈ ((reg.active t).elim reg.tokens fun h => reg.tokens.cancel h.cancel).fired ↔
      x ∈ reg.tokens.fired := by
    rw [mem_elim_cancel_fired]
    exact or_iff_left fun ⟨h, ha, hc⟩ => hx h ha hc
  cases op with
  | create id cwd => rw [RegistryOp.run, create_tokens]
  | resume s cwd => rw [RegistryOp.run, resume_tokens]
  | remove s =>
    obtain rfl : s = t := Option.some.inj ht
    rwa [RegistryOp.run, (remove_spec reg s).2.1]
  | beginTurn s r =>
    rw [RegistryOp.run]
    cases hr : (reg.beginTurn s r).1 with
    | error e => rw [beginTurn_error reg s r hr]
    | ok token => rw [(beginTurn_ok reg s r hr).2.2.2.2.1]
  | endTurn s r => rw [RegistryOp.run, endTurn_tokens]
  | cancelActiveTurn s =>
    obtain rfl : s = t := Option.some.inj ht
    rwa [RegistryOp.run, (cancelActiveTurn_spec reg s).2.1]
  | bufferReserve s b => rw [RegistryOp.run, bufferReserve_tokens]
  | bufferWritten s => rw [RegistryOp.run, bufferWritten_tokens]
  | drainActiveTurns => simp [RegistryOp.target] at ht

/-- The tokens of the registered turns were handed out, no two sessions hold the same. -/
structure Issued (reg : SessionRegistry) : Prop where
  below : ∀ s h, reg.active s = some h → h.cancel < reg.tokens.next
  apart : ∀ s s' h h', reg.active s = some h → reg.active s' = some h' →
    h.cancel = h'.cancel → s = s'

namespace Issued
variable {reg : SessionRegistry}

theorem new (limits : Limits) : (SessionRegistry.new limits).Issued :=
  ⟨fun s h ha => by simp [active] at ha, fun s _ h _ ha => by simp [active] at ha⟩

theorem run (hi : reg.Issued) (op : RegistryOp) : (op.run reg).Issued := by
  constructor
  · intro s h ha
    obtain hold | ⟨r, rfl, rfl, hnext⟩ := active_of_run ha
    · exact (hi.below s h hold).trans_le (run_tokens_next reg op)
    · rw [hnext]; exact Nat.lt_succ_self _
  · intro s s' h h' ha ha' heq
    -- a token just handed out is above all the old ones
    obtain hold | ⟨r, rfl, rfl, _⟩ := active_of_run ha <;>
      obtain hold' | ⟨r', hop, rfl, _⟩ := active_of_run ha'
    · exact hi.apart s s' h h' hold hold' heq
    · exact absurd heq (hi.below s h hold).ne
    · exact absurd heq.symm (hi.below s' h' hold').ne
    · exact (RegistryOp.beginTurn.inj hop).1

theorem isCancelled_of_ne (hi : reg.Issued) {op : RegistryOp} {t s : String} {turn : TurnState}
    (ht : op.target = some t) (hs : s ≠ t) (hturn : reg.turn s = some turn) :
    (op.run reg).tokens.isCancelled turn.handle.cancel =
      reg.tokens.isCancelled turn.handle.cancel := by
  have hactive : reg.active s = some turn.handle := by rw [active, hturn]; rfl
  have hx : ∀ h, reg.active t = some h → h.cancel ≠ turn.handle.cancel :=
    fun h ha heq => hs (hi.apart s t turn.handle h hactive ha heq.symm)
  simp only [CancellationTokens.isCancelled, mem_fired_run ht hx]

end Issued
end AcpBridge.SessionRegistry
