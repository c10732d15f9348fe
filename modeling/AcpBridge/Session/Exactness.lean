import AcpBridge.Session.Accounting
import AcpBridge.Session.Tokens

/-! The buffer accounting of a turn is the exact sum of its pending writes in every run,
unless a sum saturates under a cap that is itself the top of the `usize` range. -/
namespace AcpBridge
namespace SessionRegistry

/-- Buffered bytes are the sum of the pending writes and within the cap. -/
def Accounted (reg : SessionRegistry) : Prop := ∀ s t, reg.turn s = some t →
  t.bufferedBytes.val = Usize.total t.pendingWrites ∧
    t.bufferedBytes.val ≤ reg.limits.maxBufferedBytes.val

/-- No reservation runs past the top of the range under a cap that cannot notice it. -/
def Unsaturated (reg : SessionRegistry) (op : RegistryOp) : Prop :=
  ∀ s b t, op = .bufferReserve s b → reg.turn s = some t →
    reg.limits.maxBufferedBytes.val < Usize.MAX ∨ t.bufferedBytes.val + b.val ≤ Usize.MAX

theorem Accounted.of_turn {reg reg' : SessionRegistry} (ha : reg.Accounted)
    (hl : reg'.limits = reg.limits)
    (h : ∀ s t, reg'.turn s = some t →
      reg.turn s = some t ∨ (t.pendingWrites = [] ∧ t.bufferedBytes = 0)) : reg'.Accounted := by
  intro s t ht
  rcases h s t ht with hold | ⟨hp, hb⟩
  · rw [hl]; exact ha s t hold
  · simp [hp, hb]

theorem Accounted.reserve {reg : SessionRegistry} (ha : reg.Accounted) {s : String} {b : Usize}
    (hu : Unsaturated reg (.bufferReserve s b)) : (reg.bufferReserve s b).2.Accounted := by
  obtain ⟨t, _, _, h⟩ | ⟨_, h⟩ | ⟨t, reg', ht, hle, h, _, hl, hturn⟩ := bufferReserve_cases reg s b
  · rw [h]; exact ha
  · rw [h]; exact ha
  · rw [h]
    intro s' t' ht'
    rw [hturn] at ht'
    split_ifs at ht' with hs
    · obtain rfl := Option.some.inj ht'
      have hsum := (ha s t ht).1
      have hexact : (t.bufferedBytes.saturatingAdd b).val = t.bufferedBytes.val + b.val := by
        rcases hu s b t rfl ht with hlt | hfit
        · exact Usize.saturatingAdd_eq_of_lt hlt hle
        · exact Usize.saturatingAdd_eq_of_le hfit
      rw [hl]
      refine ⟨?_, hle⟩
      simp only [hexact, hsum, Usize.total_append, Usize.total_cons, Usize.total_nil, Nat.add_zero]
    · rw [hl]; exact ha s' t' ht'

/-- A reservation that saturates under the top cap is recorded and loses the sum. -/
theorem not_accounted_of_saturated {reg : SessionRegistry} (ha : reg.Accounted) {op : RegistryOp}
    (hu : ¬ Unsaturated reg op) : ¬ (op.run reg).Accounted := by
  simp only [Unsaturated, not_forall, not_or, Nat.not_lt, Nat.not_le] at hu
  obtain ⟨s, b, t, rfl, ht, hcap, hover⟩ := hu
  intro hbad
  obtain ⟨t', ht', hlt, _⟩ | ⟨hnone, _⟩ | ⟨t', reg', ht', _, h, _, _, hturn⟩ :=
    bufferReserve_cases reg s b
  · have := Usize.le_max (t'.bufferedBytes.saturatingAdd b)
    omega
  · simp [hnone] at ht
  · obtain rfl := Option.some.inj (ht.symm.trans ht')
    simp only [RegistryOp.run, h] at hbad
    have hsum := (hbad s _ ((hturn s).trans (if_pos rfl))).1
    have hold := (ha s t ht).1
    simp only [Usize.total_append, Usize.total_cons, Usize.total_nil,
      Usize.saturatingAdd_val] at hsum
    omega

theorem Accounted.written {reg : SessionRegistry} (ha : reg.Accounted) (s : String) :
    (reg.bufferWritten s).Accounted := by
  obtain ⟨_, h⟩ | ⟨t, _, _, h⟩ | ⟨t, b, rest, ht, hp, _, hl, hturn⟩ := bufferWritten_cases reg s
  · rw [h]; exact ha
  · rw [h]; exact ha
  · intro s' t' ht'
    rw [hturn] at ht'
    rw [hl]
    split_ifs at ht' with hs
    · obtain rfl := Option.some.inj ht'
      obtain ⟨hsum, hle⟩ := ha s t ht
      rw [hp, Usize.total_cons] at hsum
      simp only [Usize.saturatingSub_val]
      omega
    · exact ha s' t' ht'

theorem Accounted.run {reg : SessionRegistry} (ha : reg.Accounted) {op : RegistryOp}
    (hu : Unsaturated reg op) : (op.run reg).Accounted := by
  cases hb : op.isBuffer with
  | false =>
    refine ha.of_turn (run_limits reg op) fun s t ht => ?_
    obtain hold | ⟨r, _, rfl, _⟩ := run_turn_of_not_buffer hb ht
    · exact .inl hold
    · exact .inr ⟨rfl, rfl⟩
  | true =>
    cases op with
    | bufferReserve s b => exact ha.reserve hu
    | bufferWritten s => exact ha.written s
    | _ => simp [RegistryOp.isBuffer] at hb

end SessionRegistry

open SessionRegistry

/-- The caps and the accounting, read against the limits the registry was made with. -/
structure RegistryInvariant (limits : Limits) (reg : SessionRegistry) : Prop where
  sessions : reg.inner.len ≤ limits.maxSessions.val
  turns : reg.inFlight ≤ limits.maxConcurrentTurns.val
  buffers : ∀ s t, reg.turn s = some t →
    t.bufferedBytes.val = Usize.total t.pendingWrites ∧
      t.bufferedBytes.val ≤ limits.maxBufferedBytes.val

/-- An error changes nothing; success on one session leaves the other entries alone, and
the flags behind the tokens they hold. -/
structure OperationFrame (reg : SessionRegistry) (op : RegistryOp) : Prop where
  failed : op.fails reg = true → op.run reg = reg
  others : op.fails reg = false → ∀ t s, op.target = some t → s ≠ t →
    (op.run reg).inner.lookup s = reg.inner.lookup s
  tokens : op.fails reg = false → ∀ t s turn, op.target = some t → s ≠ t →
    reg.turn s = some turn → (op.run reg).tokens.isCancelled turn.handle.cancel =
      reg.tokens.isCancelled turn.handle.cancel

theorem OperationFrame.of_issued {reg : SessionRegistry} (hi : reg.Issued) (op : RegistryOp) :
    OperationFrame reg op :=
  ⟨run_of_fails, fun _ _ _ => run_lookup_of_ne,
    fun _ _ _ _ ht hs hturn => hi.isCancelled_of_ne ht hs hturn⟩

/-- The caps and frames hold in every run. The accounting is exact throughout a run
exactly when none of its reservations saturates unnoticed. -/
theorem registry_invariant_iff (limits : Limits) (ops : List RegistryOp) :
    ((registrySystem limits).Always (RegistryInvariant limits) (.new limits) ops ∧
      (registrySystem limits).Along OperationFrame (.new limits) ops) ↔
    (registrySystem limits).Along Unsaturated (.new limits) ops := by
  let I (reg : SessionRegistry) : Prop := reg.limits = limits ∧ reg.Capped ∧ reg.Accounted
  have hfree : (registrySystem limits).Along (fun _ _ => True) (.new limits) ops :=
    TransitionSystem.along_of_forall (fun _ _ => trivial) _ _
  have hframe : (registrySystem limits).Along OperationFrame (.new limits) ops :=
    TransitionSystem.Reachable.start.along (P := Issued) (fun _ op _ hi _ => hi.run op)
      (fun _ op _ hi _ => .of_issued hi op) (.new limits) hfree
  have hinit : I (.new limits) := ⟨rfl, ⟨Nat.zero_le _, Nat.zero_le _⟩, fun s t h => by simp at h⟩
  have hkeep : ∀ reg op, I reg → True → Unsaturated reg op → I (op.run reg) :=
    fun reg op h _ hu => ⟨(run_limits reg op).trans h.1, h.2.1.run op, h.2.2.run hu⟩
  have hbreak : ∀ reg op, I reg → True → ¬ Unsaturated reg op →
      ¬ RegistryInvariant limits (op.run reg) := by
    intro reg op h _ hu hinv
    refine not_accounted_of_saturated h.2.2 hu fun s t ht => ?_
    rw [run_limits, h.1]
    exact hinv.buffers s t ht
  have hsound : ∀ reg, I reg → RegistryInvariant limits reg := by
    rintro reg ⟨rfl, hc, ha⟩
    exact ⟨hc.sessions, hc.turns, ha⟩
  rw [and_iff_left hframe]
  exact TransitionSystem.always_iff_along hsound hkeep hbreak hinit hfree

/-- Two reservations under the largest cap: the sum passes `usize::MAX` and is lost. -/
theorem registry_invariant_saturates :
    ¬ (registrySystem { maxBufferedBytes := 18446744073709551615 }).Always
      (RegistryInvariant { maxBufferedBytes := 18446744073709551615 })
      (.new { maxBufferedBytes := 18446744073709551615 })
      [.resume "s" "/tmp", .beginTurn "s" "r", .bufferReserve "s" (18446744073709551615),
        .bufferReserve "s" 1] := by
  intro h
  have hlast := h.2.2.2.2.buffers "s"
    ⟨⟨"r", 0⟩, [18446744073709551615, 1], 18446744073709551615⟩ (by decide)
  exact absurd hlast.1 (by decide)

end AcpBridge
