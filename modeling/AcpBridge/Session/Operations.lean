import AcpBridge.Lib.Transition
import AcpBridge.Session

/-! The registry operations seen through the turn registered for each session: one
specification for each operation, shared by every result about the registry. -/
namespace AcpBridge.SessionRegistry

/-- The turn registered for a session. -/
def turn (reg : SessionRegistry) (s : String) : Option TurnState :=
  (reg.inner.lookup s).bind (·.activeTurn)

/-- Its cancellation handle. -/
def active (reg : SessionRegistry) (s : String) : Option ActiveTurn := (reg.turn s).map (·.handle)

theorem turn_eq_some {reg : SessionRegistry} {s : String} {t : TurnState} :
    reg.turn s = some t ↔ ∃ cwd, reg.inner.lookup s = some ⟨cwd, some t⟩ := by
  unfold turn
  cases h : reg.inner.lookup s with
  | none => simp
  | some entry => obtain ⟨cwd, t'⟩ := entry; simp

@[simp] theorem new_turn (limits : Limits) (s : String) : (new limits).turn s = none := rfl

@[simp] theorem elim_cancel_next (tokens : CancellationTokens) (h : Option ActiveTurn) :
    (h.elim tokens fun h => tokens.cancel h.cancel).next = tokens.next := by
  cases h <;> rfl

theorem mem_elim_cancel_fired {tokens : CancellationTokens} {h : Option ActiveTurn} {x : Token} :
    x ∈ (h.elim tokens fun h => tokens.cancel h.cancel).fired ↔
      x ∈ tokens.fired ∨ ∃ t, h = some t ∧ t.cancel = x := by
  cases h with
  | none => simp
  | some t => simp [CancellationTokens.cancel, or_comm, eq_comm]

section Registration
variable (reg : SessionRegistry) (sessionId cwd s : String)

theorem create_turn : (reg.create sessionId cwd).2.turn s =
    if s = sessionId ∧ reg.inner.len < reg.limits.maxSessions.val then none else reg.turn s := by
  unfold create turn
  by_cases hlen : reg.inner.len ≥ reg.limits.maxSessions.val
  · simp [hlen]
  · rcases eq_or_ne s sessionId with rfl | hs <;>
      simp [Nat.lt_of_not_ge hlen, *]

@[simp] theorem resume_turn : (reg.resume sessionId cwd).2.turn s = reg.turn s := by
  unfold resume turn
  cases h : reg.inner.lookup sessionId with
  | none =>
    dsimp only
    split_ifs
    · rfl
    · rcases eq_or_ne s sessionId with rfl | hs <;> simp [*]
  | some entry =>
    rcases eq_or_ne s sessionId with rfl | hs <;> simp [*]

@[simp] theorem create_tokens : (reg.create sessionId cwd).2.tokens = reg.tokens := by
  unfold create; split_ifs <;> rfl

@[simp] theorem create_limits : (reg.create sessionId cwd).2.limits = reg.limits := by
  unfold create; split_ifs <;> rfl

@[simp] theorem resume_tokens : (reg.resume sessionId cwd).2.tokens = reg.tokens := by
  unfold resume; split
  · rfl
  · split_ifs <;> rfl

@[simp] theorem resume_limits : (reg.resume sessionId cwd).2.limits = reg.limits := by
  unfold resume; split
  · rfl
  · split_ifs <;> rfl

end Registration

section Turns
variable (reg : SessionRegistry) (sessionId requestId s : String)

/-- The handle `remove` returns is the registered one, and its token is what it fires. -/
theorem remove_spec : (reg.remove sessionId).1 = reg.active sessionId ∧
    (reg.remove sessionId).2.tokens =
      ((reg.active sessionId).elim reg.tokens fun h => reg.tokens.cancel h.cancel) ∧
    (reg.remove sessionId).2.limits = reg.limits ∧
    ∀ s, (reg.remove sessionId).2.turn s = if s = sessionId then none else reg.turn s := by
  unfold remove active turn
  cases h : reg.inner.lookup sessionId with
  | none =>
    refine ⟨rfl, rfl, rfl, fun s => ?_⟩
    rcases eq_or_ne s sessionId with rfl | hs <;> simp [*]
  | some entry =>
    obtain ⟨cwd, t⟩ := entry
    cases t <;> refine ⟨rfl, rfl, rfl, fun s => ?_⟩ <;>
      rcases eq_or_ne s sessionId with rfl | hs <;> simp [*]

theorem cancelActiveTurn_spec : (reg.cancelActiveTurn sessionId).1 = reg.active sessionId ∧
    (reg.cancelActiveTurn sessionId).2.tokens =
      ((reg.active sessionId).elim reg.tokens fun h => reg.tokens.cancel h.cancel) ∧
    (reg.cancelActiveTurn sessionId).2.limits = reg.limits ∧
    (reg.cancelActiveTurn sessionId).2.inner = reg.inner := by
  unfold cancelActiveTurn active turn
  cases h : (reg.inner.lookup sessionId).bind (·.activeTurn) <;> exact ⟨rfl, rfl, rfl, rfl⟩

@[simp] theorem cancelActiveTurn_turn : (reg.cancelActiveTurn sessionId).2.turn s = reg.turn s := by
  unfold turn
  rw [(cancelActiveTurn_spec reg sessionId).2.2.2]

/-- A turn begins only on a live idle session below the cap, under a new token. -/
theorem beginTurn_ok {token : Token} (h : (reg.beginTurn sessionId requestId).1 = .ok token) :
    token = reg.tokens.next ∧ reg.turn sessionId = none ∧
    reg.contains sessionId = true ∧ reg.inFlight < reg.limits.maxConcurrentTurns.val ∧
    (reg.beginTurn sessionId requestId).2.tokens = { reg.tokens with next := reg.tokens.next + 1 } ∧
    (reg.beginTurn sessionId requestId).2.limits = reg.limits ∧
    ∀ s, (reg.beginTurn sessionId requestId).2.turn s =
      if s = sessionId then some { handle := ⟨requestId, token⟩ } else reg.turn s := by
  unfold beginTurn contains turn at *
  cases hl : reg.inner.lookup sessionId with
  | none => simp [hl] at h
  | some entry =>
    obtain ⟨cwd, t⟩ := entry
    simp only [hl] at h ⊢
    split_ifs at h ⊢ with ht hcap
    · obtain rfl : reg.tokens.next = token := by simpa [CancellationTokens.new] using h
      refine ⟨rfl, by simpa using ht, rfl, by omega, rfl, rfl, fun s => ?_⟩
      rcases eq_or_ne s sessionId with rfl | hs <;>
        simp [CancellationTokens.new, *]

theorem beginTurn_error {e : TurnError} (h : (reg.beginTurn sessionId requestId).1 = .error e) :
    (reg.beginTurn sessionId requestId).2 = reg := by
  unfold beginTurn at *
  split
  · rfl
  · dsimp only at h ⊢
    split_ifs at h ⊢ <;> first | rfl | simp_all

theorem endTurn_turn : (reg.endTurn sessionId requestId).turn s =
    if s = sessionId ∧ (reg.active sessionId).any (·.requestId == requestId) then none
    else reg.turn s := by
  unfold endTurn active turn
  cases h : reg.inner.lookup sessionId with
  | none => rcases eq_or_ne s sessionId with rfl | hs <;> simp [*]
  | some entry =>
    obtain ⟨cwd, t⟩ := entry
    have hany : (t.map (·.handle)).any (·.requestId == requestId) =
        t.any (·.handle.requestId == requestId) := by cases t <;> rfl
    simp only [Option.bind_some, hany]
    by_cases ho : t.any (·.handle.requestId == requestId) <;>
      rcases eq_or_ne s sessionId with rfl | hs <;> simp [*]

theorem endTurn_active : (reg.endTurn sessionId requestId).active s =
    if s = sessionId ∧ (reg.active sessionId).any (·.requestId == requestId) then none
    else reg.active s := by
  rw [active, endTurn_turn, apply_ite (Option.map _)]
  rfl

@[simp] theorem endTurn_tokens : (reg.endTurn sessionId requestId).tokens = reg.tokens := by
  unfold endTurn; split
  · rfl
  · split_ifs <;> rfl

@[simp] theorem endTurn_limits : (reg.endTurn sessionId requestId).limits = reg.limits := by
  unfold endTurn; split
  · rfl
  · split_ifs <;> rfl

end Turns

section Buffers
variable (reg : SessionRegistry) (sessionId : String) (bytes : Usize)

/-- A reservation is refused, is moot without a turn, or is recorded on the turn. -/
theorem bufferReserve_cases :
    (∃ t, reg.turn sessionId = some t ∧
      reg.limits.maxBufferedBytes.val < (t.bufferedBytes.saturatingAdd bytes).val ∧
      reg.bufferReserve sessionId bytes = (.error
        ⟨t.bufferedBytes.saturatingAdd bytes, reg.limits.maxBufferedBytes⟩, reg)) ∨
    (reg.turn sessionId = none ∧ reg.bufferReserve sessionId bytes = (.ok (), reg)) ∨
    ∃ t reg', reg.turn sessionId = some t ∧
      (t.bufferedBytes.saturatingAdd bytes).val ≤ reg.limits.maxBufferedBytes.val ∧
      reg.bufferReserve sessionId bytes = (.ok (), reg') ∧
      reg'.tokens = reg.tokens ∧ reg'.limits = reg.limits ∧
      ∀ s, reg'.turn s = if s = sessionId then some { t with
        pendingWrites := t.pendingWrites ++ [bytes]
        bufferedBytes := t.bufferedBytes.saturatingAdd bytes } else reg.turn s := by
  cases hl : reg.inner.lookup sessionId with
  | none =>
    have ht : reg.turn sessionId = none := by simp [turn, hl]
    exact .inr (.inl ⟨ht, by simp [bufferReserve, hl]⟩)
  | some entry =>
    obtain ⟨cwd, t⟩ := entry
    cases t with
    | none =>
      have ht : reg.turn sessionId = none := by simp [turn, hl]
      exact .inr (.inl ⟨ht, by simp [bufferReserve, hl]⟩)
    | some t =>
      have ht : reg.turn sessionId = some t := by simp [turn, hl]
      by_cases hover : (t.bufferedBytes.saturatingAdd bytes).val > reg.limits.maxBufferedBytes.val
      · exact .inl ⟨t, ht, hover, by simp only [bufferReserve, hl, hover, if_true]⟩
      · let t' : TurnState := { t with
          pendingWrites := t.pendingWrites ++ [bytes]
          bufferedBytes := t.bufferedBytes.saturatingAdd bytes }
        let reg' := { reg with inner := reg.inner.insert sessionId ⟨cwd, some t'⟩ }
        have hres : reg.bufferReserve sessionId bytes = (.ok (), reg') := by
          simp only [bufferReserve, hl, hover, if_false, reg', t']
        refine .inr (.inr ⟨t, reg', ht, Nat.le_of_not_gt hover, hres, rfl, rfl, fun s => ?_⟩)
        rcases eq_or_ne s sessionId with rfl | hs <;> simp [turn, reg', t', *]

/-- A completed write is moot, finds nothing reserved, or releases the oldest reservation. -/
theorem bufferWritten_cases :
    (reg.turn sessionId = none ∧ reg.bufferWritten sessionId = reg) ∨
    (∃ t, reg.turn sessionId = some t ∧ t.pendingWrites = [] ∧ reg.bufferWritten sessionId = reg) ∨
    ∃ t b rest, reg.turn sessionId = some t ∧ t.pendingWrites = b :: rest ∧
      (reg.bufferWritten sessionId).tokens = reg.tokens ∧
      (reg.bufferWritten sessionId).limits = reg.limits ∧
      ∀ s, (reg.bufferWritten sessionId).turn s = if s = sessionId then some { t with
        pendingWrites := rest
        bufferedBytes := t.bufferedBytes.saturatingSub b } else reg.turn s := by
  cases hl : reg.inner.lookup sessionId with
  | none => exact .inl ⟨by simp [turn, hl], by simp [bufferWritten, hl]⟩
  | some entry =>
    obtain ⟨cwd, t⟩ := entry
    cases t with
    | none => exact .inl ⟨by simp [turn, hl], by simp [bufferWritten, hl]⟩
    | some t =>
      have ht : reg.turn sessionId = some t := by simp [turn, hl]
      cases hp : t.pendingWrites with
      | nil => exact .inr (.inl ⟨t, ht, hp, by simp [bufferWritten, hl, hp]⟩)
      | cons b rest =>
        refine .inr (.inr ⟨t, b, rest, ht, hp, by simp [bufferWritten, hl, hp],
          by simp [bufferWritten, hl, hp], fun s => ?_⟩)
        rcases eq_or_ne s sessionId with rfl | hs <;> simp [turn, bufferWritten, *]

@[simp] theorem bufferReserve_active (s : String) :
    (reg.bufferReserve sessionId bytes).2.active s = reg.active s := by
  obtain ⟨t, ht, _, h⟩ | ⟨ht, h⟩ | ⟨t, reg', ht, _, h, _, _, hturn⟩ :=
    bufferReserve_cases reg sessionId bytes
  · rw [h]
  · rw [h]
  · rw [h]
    simp only [active, hturn]
    rcases eq_or_ne s sessionId with rfl | hs <;> simp [*]

@[simp] theorem bufferReserve_tokens :
    (reg.bufferReserve sessionId bytes).2.tokens = reg.tokens := by
  obtain ⟨t, _, _, h⟩ | ⟨_, h⟩ | ⟨t, reg', _, _, h, htok, _, _⟩ :=
    bufferReserve_cases reg sessionId bytes <;> rw [h]
  exact htok

@[simp] theorem bufferReserve_limits :
    (reg.bufferReserve sessionId bytes).2.limits = reg.limits := by
  obtain ⟨t, _, _, h⟩ | ⟨_, h⟩ | ⟨t, reg', _, _, h, _, hlim, _⟩ :=
    bufferReserve_cases reg sessionId bytes <;> rw [h]
  exact hlim

@[simp] theorem bufferWritten_active (s : String) :
    (reg.bufferWritten sessionId).active s = reg.active s := by
  obtain ⟨_, h⟩ | ⟨t, _, _, h⟩ | ⟨t, b, rest, ht, _, _, _, hturn⟩ :=
    bufferWritten_cases reg sessionId
  · rw [h]
  · rw [h]
  · simp only [active, hturn]
    rcases eq_or_ne s sessionId with rfl | hs <;> simp [*]

@[simp] theorem bufferWritten_tokens : (reg.bufferWritten sessionId).tokens = reg.tokens := by
  obtain ⟨_, h⟩ | ⟨t, _, _, h⟩ | ⟨t, b, rest, _, _, h, _, _⟩ := bufferWritten_cases reg sessionId
  all_goals rw [h]

@[simp] theorem bufferWritten_limits : (reg.bufferWritten sessionId).limits = reg.limits := by
  obtain ⟨_, h⟩ | ⟨t, _, _, h⟩ | ⟨t, b, rest, _, _, _, h, _⟩ := bufferWritten_cases reg sessionId
  all_goals rw [h]

end Buffers

section Drain
variable (reg : SessionRegistry)

@[simp] theorem drainActiveTurns_turn (s : String) : reg.drainActiveTurns.2.turn s = none := by
  simp only [drainActiveTurns, turn, KeyMap.lookup_mapValues]
  cases reg.inner.lookup s <;> rfl

@[simp] theorem drainActiveTurns_limits : reg.drainActiveTurns.2.limits = reg.limits := rfl

theorem mem_drainActiveTurns {s : String} {h : ActiveTurn} :
    (s, h) ∈ reg.drainActiveTurns.1 ↔ reg.active s = some h := by
  have hmem : ∀ entry, (⟨s, entry⟩ : (_ : String) × SessionEntry) ∈ reg.inner.entries ↔
      reg.inner.lookup s = some entry := fun entry => AList.mem_lookup_iff.symm
  simp only [drainActiveTurns, active, turn, List.mem_filterMap, Option.map_eq_some_iff,
    Prod.mk.injEq, Option.bind_eq_some_iff]
  constructor
  · rintro ⟨⟨s', entry⟩, he, t, ht, rfl, rfl⟩
    exact ⟨t, ⟨entry, (hmem entry).mp he, ht⟩, rfl⟩
  · rintro ⟨t, ⟨entry, he, ht⟩, rfl⟩
    exact ⟨⟨s, entry⟩, (hmem entry).mpr he, t, ht, rfl, rfl⟩

private theorem foldl_cancel (turns : List (String × ActiveTurn)) (ts : CancellationTokens) :
    (turns.foldl (fun ts turn => ts.cancel turn.2.cancel) ts).next = ts.next ∧
    ∀ t, t ∈ (turns.foldl (fun ts turn => ts.cancel turn.2.cancel) ts).fired ↔
      t ∈ ts.fired ∨ ∃ turn ∈ turns, turn.2.cancel = t := by
  induction turns generalizing ts with
  | nil => simp
  | cons turn turns ih =>
    obtain ⟨hn, hf⟩ := ih (ts.cancel turn.2.cancel)
    refine ⟨hn, fun t => (hf t).trans ?_⟩
    simp only [CancellationTokens.cancel, Finset.mem_insert, List.mem_cons, exists_eq_or_imp]
    tauto

theorem drainActiveTurns_tokens :
    reg.drainActiveTurns.2.tokens.next = reg.tokens.next ∧
    ∀ t, t ∈ reg.drainActiveTurns.2.tokens.fired ↔
      t ∈ reg.tokens.fired ∨ ∃ s h, reg.active s = some h ∧ h.cancel = t := by
  obtain ⟨hn, hf⟩ := foldl_cancel reg.drainActiveTurns.1 reg.tokens
  refine ⟨hn, fun t => (hf t).trans (or_congr_right ⟨?_, ?_⟩)⟩
  · rintro ⟨⟨s, h⟩, hm, rfl⟩
    exact ⟨s, h, reg.mem_drainActiveTurns.mp hm, rfl⟩
  · rintro ⟨s, h, ha, rfl⟩
    exact ⟨(s, h), reg.mem_drainActiveTurns.mpr ha, rfl⟩

end Drain

end AcpBridge.SessionRegistry
