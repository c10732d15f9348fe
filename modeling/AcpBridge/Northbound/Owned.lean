import AcpBridge.Lib.Refinement
import AcpBridge.Northbound.Exactness

/-! The outgoing path when every update is sent by the turn registered for its session. Lines
of an earlier turn may then release reservations of the registered one, so the accounting can
fall behind the queue, but it never runs ahead of it. -/
namespace AcpBridge

open SessionRegistry

namespace Northbound

theorem total_le_of_suffix {xs ys : List Usize} (h : xs <:+ ys) :
    Usize.total xs ≤ Usize.total ys := by
  obtain ⟨front, rfl⟩ := h
  rw [Usize.total_append]
  omega

/-- A send comes from the turn registered for the session. -/
def Owned (n : Northbound) : NorthboundStep → Prop
  | .send s turn _ =>
    turn < n.sessions.tokens.next ∧ ∃ t, n.sessions.turn s = some t ∧ t.handle.cancel = turn
  | st => n.Enabled st

/-- Reservations belong to the youngest of the turn's own queued lines. -/
structure Covered (n : Northbound) : Prop where
  begun : ∀ s turn bytes, Line.update s turn bytes ∈ n.queue → turn < n.sessions.tokens.next
  pending : ∀ s t, n.sessions.turn s = some t →
    t.pendingWrites <:+ ownSizes s t.handle.cancel n.queue
  buffered : ∀ s t, n.sessions.turn s = some t →
    t.bufferedBytes.val ≤ Usize.total t.pendingWrites

theorem Owned.enabled {n : Northbound} {st : NorthboundStep} (h : n.Owned st) : n.Enabled st := by
  cases st with
  | send s turn bytes => exact h.1
  | registry op | sendFrame | written => exact h

/-- The accounting of a turn is at most the total of its own queued lines. -/
theorem Covered.buffered_le {n : Northbound} (h : n.Covered) {s : String} {t : TurnState}
    (ht : n.sessions.turn s = some t) :
    t.bufferedBytes.val ≤ Usize.total (ownSizes s t.handle.cancel n.queue) :=
  (h.buffered s t ht).trans (total_le_of_suffix (h.pending s t ht))

theorem Covered.registry {n : Northbound} (h : n.Covered) {op : RegistryOp}
    (hb : op.isBuffer = false) : (n.step (.registry op)).Covered := by
  refine ⟨fun s turn bytes hl => ?_, fun s t ht => ?_, fun s t ht => ?_⟩
  · exact (h.begun s turn bytes hl).trans_le (run_tokens_next n.sessions op)
  · obtain hold | ⟨r, _, rfl, _⟩ := run_turn_of_not_buffer hb ht
    · exact h.pending s t hold
    · exact List.nil_suffix
  · obtain hold | ⟨r, _, rfl, _⟩ := run_turn_of_not_buffer hb ht
    · exact h.buffered s t hold
    · exact Nat.zero_le _

theorem Covered.send {n : Northbound} (h : n.Covered) {s : String} {turn : Token} {bytes : Usize}
    (ho : n.Owned (.send s turn bytes)) : (n.step (.send s turn bytes)).Covered := by
  obtain ⟨hbegun, t, ht, rfl⟩ := ho
  simp only [step, Northbound.send]
  obtain ⟨_, _, _, hr⟩ | ⟨hnone, _⟩ | ⟨t', reg', ht', _, hr, htok, _, hturn⟩ :=
    bufferReserve_cases n.sessions s bytes
  · rw [hr]
    exact h
  · simp [hnone] at ht
  · obtain rfl := Option.some.inj (ht.symm.trans ht')
    rw [hr]
    refine ⟨fun s' turn' bytes' hl => ?_, fun s' t' hs' => ?_, fun s' t' hs' => ?_⟩
    · rw [htok]
      rcases List.mem_append.mp hl with hl | hl
      · exact h.begun s' turn' bytes' hl
      · obtain ⟨-, rfl, -⟩ : s' = s ∧ turn' = t.handle.cancel ∧ bytes' = bytes := by simpa using hl
        exact hbegun
    · rw [hturn] at hs'
      rw [ownSizes_append]
      split_ifs at hs' with hs
      · obtain rfl := Option.some.inj hs'
        subst hs
        have hone : ownSizes s' t.handle.cancel [.update s' t.handle.cancel bytes] = [bytes] := by
          simp [ownSizes]
        obtain ⟨front, hfront⟩ := h.pending s' t ht
        exact ⟨front, by rw [hone, ← hfront, List.append_assoc]⟩
      · have hne : s ≠ s' := fun he => hs he.symm
        simpa [ownSizes_update, hne, ownSizes] using h.pending s' t' hs'
    · rw [hturn] at hs'
      split_ifs at hs' with hs
      · obtain rfl := Option.some.inj hs'
        have hle := h.buffered s t ht
        simp only [Usize.saturatingAdd_val, Usize.total_append, Usize.total_cons, Usize.total_nil]
        omega
      · exact h.buffered s' t' hs'

theorem Covered.written {n : Northbound} (h : n.Covered) : (n.step .written).Covered := by
  simp only [step, Northbound.written]
  split
  · exact h
  · rename_i s turn bytes rest hq
    -- dropping a line keeps every suffix that has already let go of it
    have hrest : ∀ s' tok, ownSizes s' tok rest <:+ ownSizes s' tok n.queue := by
      intro s' tok
      rw [hq, ownSizes_update]
      split_ifs
      · exact List.suffix_cons _ _
      · exact List.suffix_refl _
    have hbegun : ∀ s' turn' bytes', Line.update s' turn' bytes' ∈ rest →
        turn' < (n.sessions.bufferWritten s).tokens.next := by
      intro s' turn' bytes' hl
      rw [bufferWritten_tokens]
      exact h.begun s' turn' bytes' (by rw [hq]; exact List.mem_cons_of_mem _ hl)
    have hother : ∀ s' t', n.sessions.turn s' = some t' → s' ≠ s →
        t'.pendingWrites <:+ ownSizes s' t'.handle.cancel rest := by
      intro s' t' ht' hne
      have hp := h.pending s' t' ht'
      rwa [hq, ownSizes_update, if_neg fun he => hne he.1.symm] at hp
    obtain ⟨hnone, hw⟩ | ⟨t, ht, hnil, hw⟩ | ⟨t, b, tail, ht, hcons, _, _, hturn⟩ :=
      bufferWritten_cases n.sessions s
    · rw [hw] at hbegun ⊢
      refine ⟨hbegun, fun s' t' ht' => hother s' t' ht' ?_, h.buffered⟩
      rintro rfl
      simp [hnone] at ht'
    · rw [hw] at hbegun ⊢
      refine ⟨hbegun, fun s' t' ht' => ?_, h.buffered⟩
      rcases eq_or_ne s' s with rfl | hne
      · obtain rfl := Option.some.inj (ht.symm.trans ht')
        rw [hnil]
        exact List.nil_suffix
      · exact hother s' t' ht' hne
    · refine ⟨hbegun, fun s' t' ht' => ?_, fun s' t' ht' => ?_⟩
      · rw [hturn] at ht'
        split_ifs at ht' with hs
        · obtain rfl := Option.some.inj ht'
          subst hs
          have hp := h.pending _ t ht
          rw [hcons, hq, ownSizes_update] at hp
          split_ifs at hp
          · rw [List.suffix_cons_iff] at hp
            rcases hp with heq | hsuffix
            · rw [(List.cons.inj heq).2]
            · exact (List.suffix_cons _ _).trans hsuffix
          · exact (List.suffix_cons _ _).trans hp
        · exact hother s' t' ht' hs
      · rw [hturn] at ht'
        split_ifs at ht' with hs
        · obtain rfl := Option.some.inj ht'
          have hle := h.buffered s t ht
          rw [hcons, Usize.total_cons] at hle
          simp only [Usize.saturatingSub_val]
          omega
        · exact h.buffered s' t' ht'
  · rename_i rest hq
    refine ⟨fun s turn bytes hl => ?_, fun s t ht => ?_, h.buffered⟩
    · exact h.begun s turn bytes (by rw [hq]; exact List.mem_cons_of_mem _ hl)
    · simpa [hq] using h.pending s t ht

theorem Covered.step {n : Northbound} (h : n.Covered) {st : NorthboundStep} (ho : n.Owned st) :
    (n.step st).Covered := by
  cases st with
  | registry op => exact h.registry ho
  | send s turn bytes => exact h.send ho
  | sendFrame =>
    refine ⟨fun s turn bytes hl => ?_, fun s t ht => ?_, h.buffered⟩
    · exact h.begun s turn bytes (by simpa [Northbound.step] using hl)
    · simpa [Northbound.step, ownSizes] using h.pending s t ht
  | written => exact h.written

/-- Under a cap below the top of the range only a write can be out of step. -/
theorem Owned.inStep {n : Northbound} {st : NorthboundStep} (ho : n.Owned st)
    (hcap : n.sessions.limits.maxBufferedBytes.val < Usize.MAX) (hw : st ≠ .written) :
    n.InStep st := by
  cases st with
  | registry op | sendFrame => trivial
  | written => exact absurd rfl hw
  | send s turn bytes =>
    obtain ⟨_, t, ht, rfl⟩ := ho
    intro t' ht'
    obtain rfl := Option.some.inj (ht.symm.trans ht')
    by_cases hover : n.sessions.limits.maxBufferedBytes.val <
        (t.bufferedBytes.saturatingAdd bytes).val
    · exact .inl hover
    · refine .inr ⟨rfl, ?_⟩
      rw [Usize.saturatingAdd_val] at hover
      omega

end Northbound

open Northbound

/-- The outgoing path with sends of registered turns only. -/
def ownedSystem (limits : Limits) : TransitionSystem Northbound NorthboundStep :=
  (northboundSystem limits).guarded Owned

/-- The same while the writer rests. -/
def sendingSystem (limits : Limits) : TransitionSystem Northbound NorthboundStep :=
  (northboundSystem limits).guarded fun n st => n.Owned st ∧ st ≠ .written

namespace Northbound
variable {limits : Limits} {n n' : Northbound}

theorem covered_of_reachable (h : (ownedSystem limits).Reachable n) : n.Covered := by
  refine h.invariant (P := Covered) ⟨?_, ?_, ?_⟩ fun n st _ hc ho => hc.step ho
  all_goals simp [ownedSystem, northboundSystem, TransitionSystem.guarded]

theorem owned_limits (h : (ownedSystem limits).Reachable n) : n.sessions.limits = limits := by
  refine h.invariant (P := fun n => n.sessions.limits = limits) rfl fun n st _ hn _ => ?_
  exact (step_limits n st).trans hn

theorem matched_init (limits : Limits) : Matched { sessions := .new limits } where
  begun := by simp
  pending := by simp
  accounted := fun s t ht => by simp at ht

/-- Under a cap below the top of the range, the accounting stays matched while the writer
rests. -/
theorem Matched.sending (hm : n.Matched) (hn : n.sessions.limits = limits)
    (hcap : limits.maxBufferedBytes.val < Usize.MAX) (h : (sendingSystem limits).Leads n n') :
    n'.Matched ∧ n'.sessions.limits = limits := by
  let P (m : Northbound) : Prop := m.Matched ∧ m.sessions.limits = limits
  have hstep : ∀ (m : Northbound) (st : NorthboundStep), P m → (m.Owned st ∧ st ≠ .written) →
      P (m.step st) := by
    rintro m st ⟨hmatched, hlimits⟩ ⟨ho, hw⟩
    exact ⟨hmatched.step ho.enabled (ho.inStep (hlimits ▸ hcap) hw),
      (step_limits m st).trans hlimits⟩
  exact TransitionSystem.Leads.keeps (P := P) hstep h ⟨hm, hn⟩

end Northbound
end AcpBridge
