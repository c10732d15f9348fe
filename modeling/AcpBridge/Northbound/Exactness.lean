import AcpBridge.Northbound

/-! Exactness of the northbound accounting over whole runs: the invariant that ties the
reservations of a turn to its queued lines, and the steps that break it. -/
namespace AcpBridge
namespace Northbound
open SessionRegistry

/-- The invariant behind `Exact`: reservations queue in the order of the turn's own lines. -/
structure Matched (n : Northbound) : Prop where
  begun : ∀ s turn bytes, Line.update s turn bytes ∈ n.queue → turn < n.sessions.tokens.next
  pending : ∀ s t, n.sessions.turn s = some t →
    t.pendingWrites = ownSizes s t.handle.cancel n.queue
  accounted : n.sessions.Accounted

theorem Matched.exact {n : Northbound} (h : n.Matched) : n.Exact := by
  intro s t ht
  obtain ⟨hsum, hle⟩ := h.accounted s t ht
  rw [← h.pending s t ht, ← hsum]
  exact ⟨rfl, hle⟩

theorem ownSizes_eq_nil_of_le {n : Northbound} (h : n.Matched) (s : String) {turn : Token}
    (hle : n.sessions.tokens.next ≤ turn) : ownSizes s turn n.queue = [] := by
  refine List.filterMap_eq_nil_iff.mpr fun line hl => ?_
  cases line with
  | frame => rfl
  | update s' turn' bytes =>
    have hne : turn' ≠ turn := ((h.begun s' turn' bytes hl).trans_le hle).ne
    simp [hne]

theorem Matched.registry {n : Northbound} (h : n.Matched) {op : RegistryOp}
    (hb : op.isBuffer = false) : (n.step (.registry op)).Matched := by
  refine ⟨fun s turn bytes hl => ?_, fun s t ht => ?_, h.accounted.run ?_⟩
  · exact (h.begun s turn bytes hl).trans_le (run_tokens_next n.sessions op)
  · obtain hold | ⟨r, _, rfl, _⟩ := run_turn_of_not_buffer hb ht
    · exact h.pending s t hold
    · exact (ownSizes_eq_nil_of_le h s le_rfl).symm
  · rintro s b t rfl
    simp [RegistryOp.isBuffer] at hb

theorem Matched.send {n : Northbound} (h : n.Matched) {s : String} {turn : Token} {bytes : Usize}
    (hbegun : turn < n.sessions.tokens.next) (hin : n.InStep (.send s turn bytes)) :
    (n.step (.send s turn bytes)).Matched := by
  simp only [step, Northbound.send]
  obtain ⟨t, _, _, hr⟩ | ⟨hnone, hr⟩ | ⟨t, reg', ht, hle, hr, htok, hlim, hturn⟩ :=
    bufferReserve_cases n.sessions s bytes <;> rw [hr]
  · exact h
  · refine ⟨fun s' turn' bytes' hl => ?_, fun s' t' ht' => ?_, h.accounted⟩
    · rcases List.mem_append.mp hl with hl | hl
      · exact h.begun s' turn' bytes' hl
      · obtain ⟨-, rfl, -⟩ : s' = s ∧ turn' = turn ∧ bytes' = bytes := by simpa using hl
        exact hbegun
    · have hne : s ≠ s' := by rintro rfl; simp [hnone] at ht'
      simpa [ownSizes_update, hne, ownSizes] using h.pending s' t' ht'
  · obtain ⟨rfl, hfit⟩ := (hin t ht).resolve_left (by omega)
    have hacc : (n.sessions.bufferReserve s bytes).2.Accounted := by
      apply h.accounted.reserve
      rintro s' b t' heq ht'
      obtain ⟨rfl, rfl⟩ : s = s' ∧ bytes = b := by simpa using heq
      obtain rfl := Option.some.inj (ht.symm.trans ht')
      exact .inr hfit
    rw [hr] at hacc
    refine ⟨fun s' turn' bytes' hl => ?_, fun s' t' ht' => ?_, hacc⟩
    · rw [htok]
      rcases List.mem_append.mp hl with hl | hl
      · exact h.begun s' turn' bytes' hl
      · obtain ⟨-, rfl, -⟩ : s' = s ∧ turn' = t.handle.cancel ∧ bytes' = bytes := by simpa using hl
        exact hbegun
    · rw [hturn] at ht'
      split_ifs at ht' with hs
      · obtain rfl := Option.some.inj ht'
        subst hs
        simp [h.pending _ t ht, ownSizes]
      · have hne : s ≠ s' := fun he => hs he.symm
        simpa [ownSizes_update, hne, ownSizes] using h.pending s' t' ht'

theorem Matched.written {n : Northbound} (h : n.Matched) (hin : n.InStep .written) :
    (n.step .written).Matched := by
  simp only [step, Northbound.written]
  split
  · exact h
  · rename_i s turn bytes rest hq
    have hbegun : ∀ s' turn' bytes', Line.update s' turn' bytes' ∈ rest →
        turn' < (n.sessions.bufferWritten s).tokens.next := by
      intro s' turn' bytes' hl
      rw [bufferWritten_tokens]
      exact h.begun s' turn' bytes' (by rw [hq]; exact List.mem_cons_of_mem _ hl)
    refine ⟨hbegun, fun s' t' ht' => ?_, h.accounted.written s⟩
    -- the oldest own line of the registered turn is the reservation released, if any is
    have hother : ∀ t', n.sessions.turn s' = some t' → (s ≠ s' ∨ turn ≠ t'.handle.cancel) →
        t'.pendingWrites = ownSizes s' t'.handle.cancel rest := by
      intro t' ht' hne
      have hp := h.pending s' t' ht'
      rw [hq, ownSizes_update, if_neg (by tauto)] at hp
      exact hp
    obtain ⟨hnone, hw⟩ | ⟨t, ht, hnil, hw⟩ | ⟨t, b, tail, ht, hcons, _, _, hturn⟩ :=
      bufferWritten_cases n.sessions s
    · rw [hw] at ht'
      exact hother t' ht' (.inl (by rintro rfl; simp [hnone] at ht'))
    · rw [hw] at ht'
      apply hother t' ht'
      by_contra hcon
      simp only [not_or, not_not] at hcon
      obtain ⟨rfl, rfl⟩ := hcon
      obtain rfl := Option.some.inj (ht.symm.trans ht')
      have hp := h.pending s t ht
      rw [hnil, hq, ownSizes_update] at hp
      simp at hp
    · have hp := h.pending s t ht
      have hown : t.handle.cancel = turn := by
        refine (hin s turn bytes rest t hq ht).resolve_right fun hnil => ?_
        rw [hnil, hcons] at hp
        exact absurd hp (List.cons_ne_nil _ _)
      rw [hturn] at ht'
      split_ifs at ht' with hs
      · obtain rfl := Option.some.inj ht'
        subst hs
        rw [hcons, hq, ownSizes_update, if_pos ⟨rfl, hown.symm⟩] at hp
        exact (List.cons.inj hp).2
      · exact hother t' ht' (.inl fun he => hs he.symm)
  · rename_i rest hq
    refine ⟨fun s turn bytes hl => ?_, fun s t ht => ?_, h.accounted⟩
    · exact h.begun s turn bytes (by rw [hq]; exact List.mem_cons_of_mem _ hl)
    · simpa [hq] using h.pending s t ht

theorem Matched.step {n : Northbound} (h : n.Matched) {st : NorthboundStep} (he : n.Enabled st)
    (hin : n.InStep st) : (n.step st).Matched := by
  cases st with
  | registry op => exact h.registry he
  | send s turn bytes => exact h.send he hin
  | sendFrame =>
    refine ⟨fun s turn bytes hl => ?_, fun s t ht => ?_, h.accounted⟩
    · exact h.begun s turn bytes (by simpa [Northbound.step] using hl)
    · simpa [Northbound.step, ownSizes] using h.pending s t ht
  | written => exact h.written hin

/-- Under a cap below the top of the range, a step out of order shows at once. -/
theorem not_exact_of_not_inStep {n : Northbound} (h : n.Matched)
    (hcap : n.sessions.limits.maxBufferedBytes.val < Usize.MAX)
    (hpos : ∀ s turn bytes, Line.update s turn bytes ∈ n.queue → 0 < bytes.val)
    {st : NorthboundStep} (hst : ∀ s turn bytes, st = .send s turn bytes → 0 < bytes.val)
    (hin : ¬ n.InStep st) : ¬ (n.step st).Exact := by
  intro hex
  cases st with
  | registry op | sendFrame => exact hin trivial
  | send s turn bytes =>
    simp only [InStep, not_forall, not_or, Nat.not_lt] at hin
    obtain ⟨t, ht, hle, hown⟩ := hin
    have hsum := Usize.saturatingAdd_eq_of_lt hcap hle
    have hne : t.handle.cancel ≠ turn := fun he => hown ⟨he, by omega⟩
    have hb := hst s turn bytes rfl
    simp only [Northbound.step, Northbound.send] at hex
    obtain ⟨t', ht', hlt, _⟩ | ⟨hnone, _⟩ | ⟨t', reg', ht', _, hr, _, _, hturn⟩ :=
      bufferReserve_cases n.sessions s bytes
    · obtain rfl := Option.some.inj (ht.symm.trans ht')
      omega
    · simp [hnone] at ht
    · obtain rfl := Option.some.inj (ht.symm.trans ht')
      rw [hr] at hex
      have hex' := (hex s _ ((hturn s).trans (if_pos rfl))).1
      have hold := (h.exact s t ht).1
      simp only [ownSizes_append, ownSizes_update, Ne.symm hne, and_false, if_false,
        Usize.total_append] at hex'
      simp only [ownSizes, List.filterMap_nil, Usize.total_nil] at hex' hold
      omega
  | written =>
    simp only [InStep, not_forall, not_or] at hin
    obtain ⟨s, turn, bytes, rest, t, hq, ht, hne, hnil⟩ := hin
    have hp := h.pending s t ht
    have hrest : ownSizes s t.handle.cancel n.queue = ownSizes s t.handle.cancel rest := by
      rw [hq, ownSizes_update, if_neg fun he => hne he.2.symm]
    simp only [Northbound.step, Northbound.written, hq] at hex
    obtain ⟨hnone, _⟩ | ⟨t', ht', hempty, _⟩ | ⟨t', b, tail, ht', hcons, _, _, hturn⟩ :=
      bufferWritten_cases n.sessions s
    · simp [hnone] at ht
    · obtain rfl := Option.some.inj (ht.symm.trans ht')
      exact hnil (hp.symm.trans hempty)
    · obtain rfl := Option.some.inj (ht.symm.trans ht')
      have hex' := (hex s _ ((hturn s).trans (if_pos rfl))).1
      have hold := (h.exact s t ht).1
      have hbpos : 0 < b.val := by
        have hmem : b ∈ ownSizes s t.handle.cancel n.queue := by
          rw [← hp, hcons]; exact List.mem_cons_self
        obtain ⟨line, hl, hlb⟩ := List.mem_filterMap.mp hmem
        cases line with
        | frame => simp at hlb
        | update s' turn' b' =>
          obtain ⟨-, rfl⟩ : (s' = s ∧ turn' = t.handle.cancel) ∧ b' = b := by simpa using hlb
          exact hpos _ _ _ hl
      have hb := Usize.total_cons b tail
      rw [← hcons, hp] at hb
      rw [hrest] at hold hb
      simp only [Usize.saturatingSub_val] at hex'
      omega

theorem step_limits (n : Northbound) (st : NorthboundStep) :
    (n.step st).sessions.limits = n.sessions.limits := by
  cases st with
  | registry op => exact run_limits n.sessions op
  | sendFrame => rfl
  | send s turn bytes =>
    have hl := bufferReserve_limits n.sessions s bytes
    simp only [Northbound.step, Northbound.send]
    split <;> simp_all
  | written =>
    simp only [Northbound.step, Northbound.written]
    split <;> simp

theorem mem_step_queue {n : Northbound} {st : NorthboundStep} {s : String} {turn : Token}
    {bytes : Usize} (h : Line.update s turn bytes ∈ (n.step st).queue) :
    Line.update s turn bytes ∈ n.queue ∨ st = .send s turn bytes := by
  cases st with
  | registry op => exact .inl h
  | sendFrame => exact .inl (by simpa [Northbound.step] using h)
  | send s' turn' bytes' =>
    simp only [Northbound.step, Northbound.send] at h
    split at h
    · rcases List.mem_append.mp h with h | h
      · exact .inl h
      · obtain ⟨rfl, rfl, rfl⟩ : s = s' ∧ turn = turn' ∧ bytes = bytes' := by simpa using h
        exact .inr rfl
    · exact .inl h
  | written =>
    simp only [Northbound.step, Northbound.written] at h
    split at h
    · exact .inl h
    · rename_i hq
      exact .inl (by rw [hq]; exact List.mem_cons_of_mem _ h)
    · rename_i hq
      exact .inl (by rw [hq]; exact List.mem_cons_of_mem _ h)

end Northbound

open Northbound

/-- In a run whose steps stay in step with the queue, the accounting of every registered
turn is exact throughout and its own queued bytes are within the cap. For non-empty lines
under a cap below `usize::MAX` the condition is also necessary. -/
theorem buffer_accounting_exact (limits : Limits) (steps : List NorthboundStep)
    (he : (northboundSystem limits).Along Enabled (northboundSystem limits).init steps) :
    ((northboundSystem limits).Along InStep (northboundSystem limits).init steps →
      (northboundSystem limits).Always Exact (northboundSystem limits).init steps) ∧
    (limits.maxBufferedBytes.val < Usize.MAX →
      (∀ s turn bytes, .send s turn bytes ∈ steps → 0 < bytes.val) →
      (northboundSystem limits).Always Exact (northboundSystem limits).init steps →
      (northboundSystem limits).Along InStep (northboundSystem limits).init steps) := by
  have hinit : (northboundSystem limits).init.Matched :=
    ⟨fun _ _ _ h => by simp [northboundSystem] at h, fun _ _ h => by simp [northboundSystem] at h,
      fun _ _ h => by simp [northboundSystem] at h⟩
  constructor
  · intro hin
    have hkeep : ∀ (n : Northbound) st, n.Matched → (n.Enabled st ∧ n.InStep st) →
        (n.step st).Matched := fun n st h hc => h.step hc.1 hc.2
    have hboth := TransitionSystem.along_and.mpr ⟨he, hin⟩
    exact (TransitionSystem.always_invariant hkeep hinit hboth).mono fun _ h => h.exact
  · intro hcap hpos
    let I (n : Northbound) : Prop := n.Matched ∧ n.sessions.limits = limits ∧
      ∀ s turn bytes, Line.update s turn bytes ∈ n.queue → 0 < bytes.val
    let E (n : Northbound) (st : NorthboundStep) : Prop :=
      n.Enabled st ∧ ∀ s turn bytes, st = .send s turn bytes → 0 < bytes.val
    have hE : (northboundSystem limits).Along E (northboundSystem limits).init steps :=
      TransitionSystem.along_and_forall_mem he
        fun st hst s turn bytes heq => hpos s turn bytes (heq ▸ hst)
    have hkeep : ∀ n st, I n → E n st → n.InStep st → I (n.step st) := by
      refine fun n st h hst hin => ⟨h.1.step hst.1 hin, (step_limits n st).trans h.2.1, ?_⟩
      intro s turn bytes hl
      rcases mem_step_queue hl with hl | rfl
      · exact h.2.2 s turn bytes hl
      · exact hst.2 s turn bytes rfl
    have hbreak : ∀ n st, I n → E n st → ¬ n.InStep st → ¬ (n.step st).Exact :=
      fun n st h hst hin => not_exact_of_not_inStep h.1 (h.2.1 ▸ hcap) h.2.2 hst.2 hin
    exact (TransitionSystem.always_iff_along (fun n h => h.1.exact) hkeep hbreak
      ⟨hinit, rfl, fun _ _ _ h => by simp [northboundSystem] at h⟩ hE).mp

/-- One turn whose lines are drained in order. -/
theorem buffer_accounting_exact_drained :
    (northboundSystem {}).Always Exact (northboundSystem {}).init
      [.registry (.resume "s" "/tmp"), .registry (.beginTurn "s" "r"), .send "s" 0 40,
        .send "s" 0 2, .written] := by
  apply (buffer_accounting_exact {} _ (by decide)).1
  refine ⟨trivial, trivial, fun t ht => .inr ?_, fun t ht => .inr ?_, ?_, trivial⟩
  · obtain rfl : ⟨⟨"r", 0⟩, [], 0⟩ = t := Option.some.inj ht
    exact ⟨rfl, by decide⟩
  · obtain rfl : ⟨⟨"r", 0⟩, [40], 40⟩ = t := Option.some.inj ht
    exact ⟨rfl, by decide⟩
  · intro s turn bytes rest t hq ht
    obtain ⟨hline, -⟩ := List.cons.inj hq
    obtain ⟨rfl, rfl, rfl⟩ : "s" = s ∧ 0 = turn ∧ 40 = bytes := by simpa using hline
    obtain rfl : ⟨⟨"r", 0⟩, [40, 2], 42⟩ = t := Option.some.inj ht
    exact .inl rfl

/-- A prompt pipelined behind a turn whose line the host has not read yet. -/
def pipelinedRun : List NorthboundStep :=
  [.registry (.resume "s" "/tmp"), .registry (.beginTurn "s" "r1"), .send "s" 0 10,
    .registry (.endTurn "s" "r1"), .registry (.beginTurn "s" "r2"), .send "s" 1 20, .written,
    .send "s" 1 20]

/-- The line of the first turn releases the reservation of the second, which then queues
more than the cap. -/
theorem buffer_accounting_drifts :
    (northboundSystem { maxBufferedBytes := 25 }).Along Enabled
      (northboundSystem { maxBufferedBytes := 25 }).init pipelinedRun ∧
    ¬ (northboundSystem { maxBufferedBytes := 25 }).Always Exact
      (northboundSystem { maxBufferedBytes := 25 }).init pipelinedRun ∧
    Usize.total (ownSizes "s" 1 ((northboundSystem { maxBufferedBytes := 25 }).exec
      (northboundSystem { maxBufferedBytes := 25 }).init pipelinedRun).queue) = 40 := by
  refine ⟨by decide, fun h => ?_, by decide⟩
  have hlast := (h.2.2.2.2.2.2.2.2 "s" ⟨⟨"r2", 1⟩, [20], 20⟩ (by decide)).2
  exact absurd hlast (by decide)

end AcpBridge
