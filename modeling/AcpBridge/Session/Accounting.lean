import AcpBridge.Session.Operations

/-! Runs of registry operations: the caps, the frame of each operation and the exactness
of the buffer accounting, with the one case in which a saturating sum loses it. -/
namespace AcpBridge

inductive RegistryOp
  | create (id cwd : String)
  | resume (sessionId cwd : String)
  | remove (sessionId : String)
  | beginTurn (sessionId requestId : String)
  | endTurn (sessionId requestId : String)
  | cancelActiveTurn (sessionId : String)
  | bufferReserve (sessionId : String) (bytes : Usize)
  | bufferWritten (sessionId : String)
  | drainActiveTurns

namespace RegistryOp

/-- The session an operation works on; draining works on all of them. -/
def target : RegistryOp → Option String
  | create id _ => some id
  | resume s _ | remove s | beginTurn s _ | endTurn s _ | cancelActiveTurn s | bufferReserve s _
  | bufferWritten s => some s
  | drainActiveTurns => none

def run (reg : SessionRegistry) : RegistryOp → SessionRegistry
  | create id cwd => (reg.create id cwd).2
  | resume s cwd => (reg.resume s cwd).2
  | remove s => (reg.remove s).2
  | beginTurn s r => (reg.beginTurn s r).2
  | endTurn s r => reg.endTurn s r
  | cancelActiveTurn s => (reg.cancelActiveTurn s).2
  | bufferReserve s b => (reg.bufferReserve s b).2
  | bufferWritten s => reg.bufferWritten s
  | drainActiveTurns => reg.drainActiveTurns.2

/-- The two operations that only account for queued bytes. -/
def isBuffer : RegistryOp → Bool
  | bufferReserve _ _ | bufferWritten _ => true
  | _ => false

/-- Whether the operation returns an error. -/
def fails (reg : SessionRegistry) : RegistryOp → Bool
  | create id cwd => !(reg.create id cwd).1.isOk
  | resume s cwd => !(reg.resume s cwd).1.isOk
  | beginTurn s r => !(reg.beginTurn s r).1.isOk
  | bufferReserve s b => !(reg.bufferReserve s b).1.isOk
  | remove _ | endTurn _ _ | cancelActiveTurn _ | bufferWritten _ | drainActiveTurns => false

/-- A sequence of operations. -/
def runAll (reg : SessionRegistry) (ops : List RegistryOp) : SessionRegistry := ops.foldl run reg

end RegistryOp

/-- The registry driven by any sequence of its operations. -/
def registrySystem (limits : Limits) : TransitionSystem SessionRegistry RegistryOp where
  init := .new limits
  enabled _ _ := True
  next := RegistryOp.run

namespace SessionRegistry

@[simp] theorem run_limits (reg : SessionRegistry) (op : RegistryOp) :
    (op.run reg).limits = reg.limits := by
  cases op with
  | create id cwd => exact create_limits reg id cwd
  | resume s cwd => exact resume_limits reg s cwd
  | remove s => exact (remove_spec reg s).2.2.1
  | beginTurn s r =>
    cases h : (reg.beginTurn s r).1 with
    | ok token => exact (beginTurn_ok reg s r h).2.2.2.2.2.1
    | error e => exact congrArg limits (beginTurn_error reg s r h)
  | endTurn s r => exact endTurn_limits reg s r
  | cancelActiveTurn s => exact (cancelActiveTurn_spec reg s).2.2.1
  | bufferReserve s b => exact bufferReserve_limits reg s b
  | bufferWritten s => exact bufferWritten_limits reg s
  | drainActiveTurns => rfl

theorem run_of_fails {reg : SessionRegistry} {op : RegistryOp} (h : op.fails reg = true) :
    op.run reg = reg := by
  cases op with
  | create id cwd =>
    simp only [RegistryOp.fails, RegistryOp.run, create] at h ⊢
    split_ifs at h ⊢ <;> first | rfl | simp [Except.isOk, Except.toBool] at h
  | resume s cwd =>
    simp only [RegistryOp.fails, RegistryOp.run, resume] at h ⊢
    split at h
    · simp [Except.isOk, Except.toBool] at h
    · split_ifs at h ⊢ <;> first | rfl | simp [Except.isOk, Except.toBool] at h
  | beginTurn s r =>
    cases hr : (reg.beginTurn s r).1 with
    | ok token => simp [RegistryOp.fails, hr, Except.isOk, Except.toBool] at h
    | error e => exact beginTurn_error reg s r hr
  | bufferReserve s b =>
    simp only [RegistryOp.fails, RegistryOp.run] at h ⊢
    obtain ⟨t, _, _, hr⟩ | ⟨_, hr⟩ | ⟨t, reg', _, _, hr, _⟩ := bufferReserve_cases reg s b
    · rw [hr]
    · rw [hr]
    · rw [hr] at h
      simp [Except.isOk, Except.toBool] at h
  | remove s | endTurn s r | cancelActiveTurn s | bufferWritten s | drainActiveTurns =>
    simp [RegistryOp.fails] at h

theorem run_lookup_of_ne {reg : SessionRegistry} {op : RegistryOp} {t s : String}
    (ht : op.target = some t) (hs : s ≠ t) : (op.run reg).inner.lookup s = reg.inner.lookup s := by
  cases op with
  | drainActiveTurns => simp [RegistryOp.target] at ht
  | create id cwd =>
    obtain rfl : id = t := by simpa [RegistryOp.target] using ht
    simp only [RegistryOp.run, create]
    split_ifs <;> simp [hs]
  | resume s' cwd =>
    obtain rfl : s' = t := by simpa [RegistryOp.target] using ht
    simp only [RegistryOp.run, resume]
    split
    · simp [hs]
    · split_ifs <;> simp [hs]
  | remove s' =>
    obtain rfl : s' = t := by simpa [RegistryOp.target] using ht
    simp only [RegistryOp.run, remove]
    split
    · rfl
    · split <;> simp [hs]
  | beginTurn s' r =>
    obtain rfl : s' = t := by simpa [RegistryOp.target] using ht
    simp only [RegistryOp.run, beginTurn]
    split
    · rfl
    · split_ifs <;> simp [hs]
  | endTurn s' r =>
    obtain rfl : s' = t := by simpa [RegistryOp.target] using ht
    simp only [RegistryOp.run, endTurn]
    split
    · rfl
    · split_ifs <;> simp [hs]
  | cancelActiveTurn s' =>
    exact congrArg (AList.lookup s) (cancelActiveTurn_spec reg s').2.2.2
  | bufferReserve s' b =>
    obtain rfl : s' = t := by simpa [RegistryOp.target] using ht
    simp only [RegistryOp.run, bufferReserve]
    split
    · split_ifs <;> simp [hs]
    · rfl
  | bufferWritten s' =>
    obtain rfl : s' = t := by simpa [RegistryOp.target] using ht
    simp only [RegistryOp.run, bufferWritten]
    split
    · split <;> simp [hs]
    · rfl

/-- Outside the buffer operations a turn is kept as it was, or begun empty under a new token. -/
theorem run_turn_of_not_buffer {reg : SessionRegistry} {op : RegistryOp}
    (hb : op.isBuffer = false) {s : String} {t : TurnState} (ht : (op.run reg).turn s = some t) :
    reg.turn s = some t ∨ ∃ r, op = .beginTurn s r ∧ t = { handle := ⟨r, reg.tokens.next⟩ } ∧
      (op.run reg).tokens.next = reg.tokens.next + 1 := by
  cases op with
  | bufferReserve | bufferWritten => simp [RegistryOp.isBuffer] at hb
  | create id cwd =>
    simp only [RegistryOp.run, create_turn] at ht
    split_ifs at ht
    exact .inl ht
  | resume s' cwd => exact .inl (by simpa only [RegistryOp.run, resume_turn] using ht)
  | remove s' =>
    simp only [RegistryOp.run, (remove_spec reg s').2.2.2] at ht
    split_ifs at ht
    exact .inl ht
  | beginTurn s' r =>
    simp only [RegistryOp.run] at ht
    cases hr : (reg.beginTurn s' r).1 with
    | error e => exact .inl (by simpa only [beginTurn_error reg s' r hr] using ht)
    | ok token =>
      obtain ⟨rfl, _, _, _, htok, _, hturn⟩ := beginTurn_ok reg s' r hr
      rw [hturn] at ht
      split_ifs at ht with hs
      · subst hs
        exact .inr ⟨r, rfl, (Option.some.inj ht).symm, by rw [RegistryOp.run, htok]⟩
      · exact .inl ht
  | endTurn s' r =>
    simp only [RegistryOp.run, endTurn_turn] at ht
    split_ifs at ht
    exact .inl ht
  | cancelActiveTurn s' =>
    exact .inl (by simpa only [RegistryOp.run, cancelActiveTurn_turn] using ht)
  | drainActiveTurns => simp [RegistryOp.run] at ht

theorem run_tokens_next (reg : SessionRegistry) (op : RegistryOp) :
    reg.tokens.next ≤ (op.run reg).tokens.next := by
  cases op with
  | create id cwd => exact (congrArg _ (create_tokens reg id cwd)).ge
  | resume s cwd => exact (congrArg _ (resume_tokens reg s cwd)).ge
  | remove s => rw [RegistryOp.run, (remove_spec reg s).2.1, elim_cancel_next]
  | beginTurn s r =>
    simp only [RegistryOp.run]
    cases hr : (reg.beginTurn s r).1 with
    | error e => rw [beginTurn_error reg s r hr]
    | ok token => rw [(beginTurn_ok reg s r hr).2.2.2.2.1]; exact Nat.le_succ _
  | endTurn s r => exact (congrArg _ (endTurn_tokens reg s r)).ge
  | cancelActiveTurn s => rw [RegistryOp.run, (cancelActiveTurn_spec reg s).2.1, elim_cancel_next]
  | bufferReserve s b => exact (congrArg _ (bufferReserve_tokens reg s b)).ge
  | bufferWritten s => exact (congrArg _ (bufferWritten_tokens reg s)).ge
  | drainActiveTurns => exact (drainActiveTurns_tokens reg).1.ge

/-- Sessions and turns within the configured caps. -/
structure Capped (reg : SessionRegistry) : Prop where
  sessions : reg.inner.len ≤ reg.limits.maxSessions.val
  turns : reg.inFlight ≤ reg.limits.maxConcurrentTurns.val

theorem mem_of_lookup {reg : SessionRegistry} {s : String} {entry : SessionEntry}
    (h : reg.inner.lookup s = some entry) : s ∈ reg.inner :=
  AList.lookup_isSome.mp (by rw [h]; rfl)

/-- Replacing a live entry keeps the caps when it activates no turn. -/
theorem Capped.insert_live {reg : SessionRegistry} {s : String} {entry entry' : SessionEntry}
    {tokens : CancellationTokens} (hc : reg.Capped) (h : reg.inner.lookup s = some entry)
    (ha : entry'.activeTurn.isSome = true → entry.activeTurn.isSome = true) :
    Capped { reg with inner := reg.inner.insert s entry', tokens := tokens } := by
  have hcount := KeyMap.countValues_insert (fun e : SessionEntry => e.activeTurn.isSome) s entry'
    reg.inner
  have ht := hc.turns
  simp only [h, Option.elim_some] at hcount
  refine ⟨(KeyMap.len_insert_of_mem (mem_of_lookup h)).trans_le hc.sessions, ?_⟩
  simp only [inFlight] at ht ⊢
  cases h1 : entry'.activeTurn.isSome <;> cases h2 : entry.activeTurn.isSome
  all_goals simp_all
  omega

theorem Capped.insert_idle {reg : SessionRegistry} {s cwd : String} (hc : reg.Capped)
    (hlen : ¬ reg.inner.len ≥ reg.limits.maxSessions.val) :
    Capped { reg with inner := reg.inner.insert s { cwd := cwd } } := by
  have hcount := KeyMap.countValues_insert (fun e : SessionEntry => e.activeTurn.isSome) s
    { cwd := cwd } reg.inner
  have hl := KeyMap.len_insert_le s { cwd := cwd } reg.inner
  have ht := hc.turns
  refine ⟨by dsimp only; omega, ?_⟩
  simp only [inFlight, Option.isSome_none, Bool.toNat_false] at ht hcount ⊢
  omega

theorem Capped.run {reg : SessionRegistry} (hc : reg.Capped) (op : RegistryOp) :
    (op.run reg).Capped := by
  cases op with
  | create id cwd =>
    simp only [RegistryOp.run, SessionRegistry.create]
    split_ifs with hlen
    · exact hc
    · exact hc.insert_idle hlen
  | resume s cwd =>
    simp only [RegistryOp.run, SessionRegistry.resume]
    split
    · rename_i entry h
      exact hc.insert_live h id
    · split_ifs with hlen
      · exact hc
      · exact hc.insert_idle hlen
  | remove s =>
    have hcount :=
      KeyMap.countValues_erase (fun e : SessionEntry => e.activeTurn.isSome) s reg.inner
    have hlen := KeyMap.len_erase_le s reg.inner
    have hs := hc.sessions
    have ht := hc.turns
    simp only [RegistryOp.run, SessionRegistry.remove]
    simp only [inFlight] at ht
    split
    · exact hc
    · split <;> exact ⟨by dsimp only; omega, by simp only [inFlight]; omega⟩
  | beginTurn s r =>
    simp only [RegistryOp.run, SessionRegistry.beginTurn]
    split
    · exact hc
    · rename_i entry h
      split_ifs with ha hcap
      · exact hc
      · exact hc
      · have hcount := KeyMap.countValues_insert (fun e : SessionEntry => e.activeTurn.isSome) s
          { entry with activeTurn := some { handle := ⟨r, reg.tokens.new.1⟩ } } reg.inner
        have hidle : entry.activeTurn.isSome = false := by simpa using ha
        refine ⟨(KeyMap.len_insert_of_mem (mem_of_lookup h)).trans_le hc.sessions, ?_⟩
        simp only [h, Option.elim_some, hidle, Option.isSome_some] at hcount
        simp only [inFlight] at hcap ⊢
        simp at hcount
        omega
  | endTurn s r =>
    simp only [RegistryOp.run, SessionRegistry.endTurn]
    split
    · exact hc
    · rename_i entry h
      split_ifs
      · exact hc.insert_live h (by simp)
      · exact hc
  | cancelActiveTurn s =>
    obtain ⟨_, _, hl, hi⟩ := cancelActiveTurn_spec reg s
    exact ⟨by simpa only [RegistryOp.run, hi, hl] using hc.sessions,
      by simpa only [RegistryOp.run, inFlight, hi, hl] using hc.turns⟩
  | bufferReserve s b =>
    simp only [RegistryOp.run, SessionRegistry.bufferReserve]
    split
    · rename_i cwd t h
      split_ifs
      · exact hc
      · exact hc.insert_live h (by simp)
    · exact hc
  | bufferWritten s =>
    simp only [RegistryOp.run, SessionRegistry.bufferWritten]
    split
    · rename_i cwd t h
      split
      · exact hc
      · exact hc.insert_live h (by simp)
    · exact hc
  | drainActiveTurns =>
    refine ⟨(KeyMap.len_mapValues _ _).trans_le hc.sessions, ?_⟩
    have hzero : (RegistryOp.run reg .drainActiveTurns).inFlight = 0 :=
      KeyMap.countValues_mapValues_false (fun _ => rfl) reg.inner
    omega

theorem Capped.new (limits : Limits) : (SessionRegistry.new limits).Capped :=
  ⟨Nat.zero_le _, Nat.zero_le _⟩

theorem reachable_capped {limits : Limits} {reg : SessionRegistry}
    (h : (registrySystem limits).Reachable reg) : reg.limits = limits ∧ reg.Capped :=
  TransitionSystem.Reachable.invariant (P := fun reg => reg.limits = limits ∧ reg.Capped)
    ⟨rfl, Capped.new limits⟩
    (fun reg op _ hi _ => ⟨(run_limits reg op).trans hi.1, hi.2.run op⟩) h

/-- Only the buffer accounting may differ. -/
def SameTurns (reg reg' : SessionRegistry) : Prop :=
  ∃ ops : List RegistryOp, (∀ op ∈ ops, op.isBuffer = true) ∧ reg' = RegistryOp.runAll reg ops

namespace SameTurns
variable {a b c : SessionRegistry}

theorem refl (reg : SessionRegistry) : reg.SameTurns reg := ⟨[], by simp, rfl⟩

theorem trans (h : a.SameTurns b) (h' : b.SameTurns c) : a.SameTurns c := by
  obtain ⟨ops, hb, rfl⟩ := h
  obtain ⟨ops', hb', rfl⟩ := h'
  exact ⟨ops ++ ops', fun op hop => (List.mem_append.mp hop).elim (hb op) (hb' op),
    by simp [RegistryOp.runAll]⟩

theorem bufferReserve (reg : SessionRegistry) (s : String) (bytes : Usize) :
    reg.SameTurns (reg.bufferReserve s bytes).2 :=
  ⟨[.bufferReserve s bytes], by simp [RegistryOp.isBuffer], rfl⟩

theorem bufferWritten (reg : SessionRegistry) (s : String) :
    reg.SameTurns (reg.bufferWritten s) := ⟨[.bufferWritten s], by simp [RegistryOp.isBuffer], rfl⟩

theorem run_buffer (reg : SessionRegistry) {op : RegistryOp} (h : op.isBuffer = true) :
    (∀ s, (op.run reg).active s = reg.active s) ∧ (op.run reg).tokens = reg.tokens := by
  cases op with
  | bufferReserve s b => exact ⟨bufferReserve_active reg s b, bufferReserve_tokens reg s b⟩
  | bufferWritten s => exact ⟨bufferWritten_active reg s, bufferWritten_tokens reg s⟩
  | create | resume | remove | beginTurn | endTurn | cancelActiveTurn | drainActiveTurns =>
    simp [RegistryOp.isBuffer] at h

theorem spec (h : a.SameTurns b) : (∀ s, b.active s = a.active s) ∧ b.tokens = a.tokens := by
  obtain ⟨ops, hb, rfl⟩ := h
  induction ops generalizing a with
  | nil => exact ⟨fun _ => rfl, rfl⟩
  | cons op ops ih =>
    rw [List.forall_mem_cons] at hb
    obtain ⟨ha, ht⟩ := run_buffer a hb.1
    obtain ⟨ha', ht'⟩ := ih (a := op.run a) hb.2
    exact ⟨fun s => (ha' s).trans (ha s), ht'.trans ht⟩

end SameTurns

end SessionRegistry
end AcpBridge
