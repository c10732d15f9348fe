import AcpBridge.Lib.Listing
import AcpBridge.Lib.Replay
import AcpBridge.Session.Accounting
import Mathlib.Data.Finset.Card
import Mathlib.Data.String.Basic

/-! The session list against the history of the registry: the registrations and removals
that were carried out, in order, whatever the turns and the buffers did in between. -/
namespace AcpBridge

/-- What an operation writes into the list when it is carried out: a working directory for a
session, or none any more. -/
def RegistryOp.entry : RegistryOp → Option (String × Option String)
  | create id cwd => some (id, some cwd)
  | resume s cwd => some (s, some cwd)
  | remove s => some (s, none)
  | _ => none

namespace SessionRegistry

/-- The entries of the operations that a run carries out. -/
def history (reg : SessionRegistry) : List RegistryOp → List (String × Option String)
  | [] => []
  | op :: rest => (if op.fails reg then [] else op.entry.toList) ++ history (op.run reg) rest

/-- The working directory of a session. -/
def cwdOf (reg : SessionRegistry) (id : String) : Option String :=
  (reg.inner.lookup id).map (·.cwd)

theorem list_eq_listing (reg : SessionRegistry) :
    reg.list = KeyMap.listing SessionEntry.cwd reg.inner := rfl

theorem mem_list {reg : SessionRegistry} {id cwd : String} :
    (id, cwd) ∈ reg.list ↔ reg.cwdOf id = some cwd := by
  rw [list_eq_listing, KeyMap.mem_listing]
  rfl

theorem list_congr {reg reg' : SessionRegistry} (h : reg.cwdOf = reg'.cwdOf) :
    reg.list = reg'.list := by
  rw [list_eq_listing, list_eq_listing]
  exact KeyMap.listing_congr SessionEntry.cwd reg.inner (congrFun h)

section Steps
variable {reg : SessionRegistry}

theorem cwdOf_insert (s : String) (entry : SessionEntry) :
    ({ reg with inner := reg.inner.insert s entry } : SessionRegistry).cwdOf =
      Function.update reg.cwdOf s (some entry.cwd) := by
  funext id
  rcases eq_or_ne id s with rfl | hs <;> simp [cwdOf, *]

theorem cwdOf_insert_live {s : String} {entry entry' : SessionEntry}
    (h : reg.inner.lookup s = some entry) (hcwd : entry'.cwd = entry.cwd) :
    ({ reg with inner := reg.inner.insert s entry' } : SessionRegistry).cwdOf = reg.cwdOf := by
  have hsame : reg.cwdOf s = some entry.cwd := by simp [cwdOf, h]
  rw [cwdOf_insert, hcwd, ← hsame, Function.update_eq_self]

theorem remove_cwdOf (s : String) :
    (reg.remove s).2.cwdOf = Function.update reg.cwdOf s none := by
  funext id
  unfold remove
  cases h : reg.inner.lookup s with
  | none =>
    rcases eq_or_ne id s with rfl | hs
    · simp [cwdOf, h]
    · simp [hs]
  | some entry =>
    obtain ⟨cwd, t⟩ := entry
    cases t <;> rcases eq_or_ne id s with rfl | hs <;> simp [cwdOf, *]

theorem create_cwdOf {id cwd : String} (h : (RegistryOp.create id cwd).fails reg = false) :
    (reg.create id cwd).2.cwdOf = Function.update reg.cwdOf id (some cwd) := by
  simp only [RegistryOp.fails, create] at h
  unfold create
  split_ifs at h ⊢
  · simp [Except.isOk, Except.toBool] at h
  · exact cwdOf_insert id ⟨cwd, none⟩

theorem resume_cwdOf {s cwd : String} (h : (RegistryOp.resume s cwd).fails reg = false) :
    (reg.resume s cwd).2.cwdOf = Function.update reg.cwdOf s (some cwd) := by
  simp only [RegistryOp.fails, resume] at h
  unfold resume
  cases hl : reg.inner.lookup s with
  | some entry => exact cwdOf_insert s { entry with cwd := cwd }
  | none =>
    simp only [hl] at h ⊢
    split_ifs at h ⊢
    · simp [Except.isOk, Except.toBool] at h
    · exact cwdOf_insert s ⟨cwd, none⟩

theorem run_cwdOf_of_entry_none {op : RegistryOp} (h : op.entry = none) :
    (op.run reg).cwdOf = reg.cwdOf := by
  cases op with
  | create | resume | remove => simp [RegistryOp.entry] at h
  | beginTurn s r =>
    simp only [RegistryOp.run, beginTurn]
    split
    · rfl
    · rename_i entry hl
      split_ifs
      · rfl
      · rfl
      · exact cwdOf_insert_live hl rfl
  | endTurn s r =>
    simp only [RegistryOp.run, endTurn]
    split
    · rfl
    · rename_i entry hl
      split_ifs
      · exact cwdOf_insert_live hl rfl
      · rfl
  | cancelActiveTurn s =>
    funext id
    simp only [RegistryOp.run, cwdOf, (cancelActiveTurn_spec reg s).2.2.2]
  | bufferReserve s b =>
    simp only [RegistryOp.run, bufferReserve]
    split
    · rename_i cwd turn hl
      split_ifs
      · rfl
      · exact cwdOf_insert_live hl rfl
    · rfl
  | bufferWritten s =>
    simp only [RegistryOp.run, bufferWritten]
    split
    · rename_i cwd turn hl
      split
      · rfl
      · exact cwdOf_insert_live hl rfl
    · rfl
  | drainActiveTurns =>
    funext id
    simp only [RegistryOp.run, drainActiveTurns, cwdOf, KeyMap.lookup_mapValues, Option.map_map]
    rfl

/-- One operation replays its own entry, if it is carried out. -/
theorem run_cwdOf (op : RegistryOp) :
    (op.run reg).cwdOf =
      Replay.replay reg.cwdOf (if op.fails reg then [] else op.entry.toList) := by
  cases hf : op.fails reg with
  | true => rw [run_of_fails hf, if_pos rfl, Replay.replay_nil]
  | false =>
    rw [if_neg (by decide)]
    cases op with
    | create id cwd => exact create_cwdOf hf
    | resume s cwd => exact resume_cwdOf hf
    | remove s => exact remove_cwdOf s
    | _ => exact run_cwdOf_of_entry_none rfl

end Steps

theorem runAll_cwdOf (reg : SessionRegistry) (ops : List RegistryOp) :
    (RegistryOp.runAll reg ops).cwdOf = Replay.replay reg.cwdOf (reg.history ops) := by
  induction ops generalizing reg with
  | nil => rfl
  | cons op rest ih =>
    rw [history, Replay.replay_append, ← run_cwdOf, ← ih]
    rfl

end SessionRegistry

section Chronicle
variable (limits : Limits)

/-- Whether a registration or removal is carried out, told from the log alone: only one that
adds a session needs room for it. -/
def RegistryOp.carriedOut (log : List (String × Option String)) : RegistryOp → Bool
  | create _ _ => (Replay.live log).card < limits.maxSessions.val
  | resume s _ => s ∈ Replay.live log || (Replay.live log).card < limits.maxSessions.val
  | _ => true

/-- The log that the calls alone determine, with no registry to ask. -/
def chronicle (log : List (String × Option String)) :
    List RegistryOp → List (String × Option String)
  | [] => log
  | op :: rest =>
    chronicle (if op.carriedOut limits log then log ++ op.entry.toList else log) rest

end Chronicle

namespace SessionRegistry
variable {reg : SessionRegistry} {log : List (String × Option String)}

theorem len_of_replay (h : reg.cwdOf = Replay.replay (fun _ => none) log) :
    reg.inner.len = (Replay.live log).card := by
  have hkeys : (reg.list.map Prod.fst).Nodup := by
    have hlt := KeyMap.listing_pairwise SessionEntry.cwd reg.inner
    exact List.pairwise_map.mpr (hlt.imp fun hlt => ne_of_lt hlt)
  have hlive : (reg.list.map Prod.fst).toFinset = Replay.live log := by
    ext id
    rw [List.mem_toFinset, List.mem_map, Replay.mem_live, ← h, Option.isSome_iff_exists]
    constructor
    · rintro ⟨⟨id', cwd⟩, hmem, rfl⟩
      exact ⟨cwd, mem_list.mp hmem⟩
    · rintro ⟨cwd, hcwd⟩
      exact ⟨(id, cwd), mem_list.mpr hcwd, rfl⟩
  rw [← hlive, List.toFinset_card_of_nodup hkeys, List.length_map, list_eq_listing,
    KeyMap.length_listing]

theorem create_fails_of_replay (h : reg.cwdOf = Replay.replay (fun _ => none) log)
    (id cwd : String) : (RegistryOp.create id cwd).fails reg =
      !(RegistryOp.create id cwd).carriedOut reg.limits log := by
  simp only [RegistryOp.fails, RegistryOp.carriedOut, create, len_of_replay h]
  split_ifs with hfull
  · simp [Except.isOk, Except.toBool, hfull]
  · simp [Except.isOk, Except.toBool, Nat.lt_of_not_ge hfull]

theorem resume_fails_of_replay (h : reg.cwdOf = Replay.replay (fun _ => none) log)
    (s cwd : String) : (RegistryOp.resume s cwd).fails reg =
      !(RegistryOp.resume s cwd).carriedOut reg.limits log := by
  have hlive : s ∈ Replay.live log ↔ (reg.inner.lookup s).isSome = true := by
    rw [Replay.mem_live, ← h, cwdOf, Option.isSome_map]
  simp only [RegistryOp.fails, RegistryOp.carriedOut, resume, len_of_replay h, hlive]
  cases hl : reg.inner.lookup s with
  | some entry => rfl
  | none =>
    dsimp only
    split_ifs with hfull
    · simp [Except.isOk, Except.toBool, hfull]
    · simp [Except.isOk, Except.toBool, Nat.lt_of_not_ge hfull]

/-- The registry carries out what the log says it should, so its history is the chronicle. -/
theorem history_eq_chronicle (h : reg.cwdOf = Replay.replay (fun _ => none) log)
    (ops : List RegistryOp) : log ++ reg.history ops = chronicle reg.limits log ops := by
  induction ops generalizing reg log with
  | nil => exact List.append_nil log
  | cons op rest ih =>
    have hentries : log ++ (if op.fails reg then [] else op.entry.toList) =
        if op.carriedOut reg.limits log then log ++ op.entry.toList else log := by
      cases op with
      | create id cwd =>
        rw [create_fails_of_replay h]
        cases (RegistryOp.create id cwd).carriedOut reg.limits log <;> simp
      | resume s cwd =>
        rw [resume_fails_of_replay h]
        cases (RegistryOp.resume s cwd).carriedOut reg.limits log <;> simp
      | _ => simp [RegistryOp.fails, RegistryOp.carriedOut, RegistryOp.entry]
    have hnext : (op.run reg).cwdOf = Replay.replay (fun _ => none)
        (log ++ if op.fails reg then [] else op.entry.toList) := by
      rw [run_cwdOf, h, Replay.replay_append]
    rw [history, ← List.append_assoc, ih hnext, run_limits, hentries]
    rfl

/-- The session list is the history of the run. It is strictly ascending, and a session is
listed with a directory exactly when its last entry is a registration with that directory. No
other operation and no rejected one changes it, and resuming never touches a turn. -/
theorem list_is_history (limits : Limits) (ops : List RegistryOp) :
    (RegistryOp.runAll (new limits) ops).list.Pairwise (·.1 < ·.1) ∧
      (∀ id cwd, (id, cwd) ∈ (RegistryOp.runAll (new limits) ops).list ↔
        ∃ before after, (new limits).history ops = before ++ (id, some cwd) :: after ∧
          ∀ e ∈ after, e.1 ≠ id) ∧
      (∀ (reg : SessionRegistry) (op : RegistryOp), op.entry = none ∨ op.fails reg = true →
        (op.run reg).list = reg.list) ∧
      ∀ (reg : SessionRegistry) (s cwd : String),
        (reg.resume s cwd).2.turn = reg.turn ∧ (reg.resume s cwd).2.tokens = reg.tokens := by
  refine ⟨KeyMap.listing_pairwise _ _, fun id cwd => ?_, fun reg op h => ?_, fun reg s cwd => ?_⟩
  · have hnew : (new limits).cwdOf = fun _ => none := rfl
    rw [mem_list, runAll_cwdOf, hnew, Replay.replay_eq_some_iff]
  · rcases h with hentry | hfails
    · exact list_congr (run_cwdOf_of_entry_none hentry)
    · rw [run_of_fails hfails]
  · exact ⟨funext (resume_turn reg s cwd), resume_tokens reg s cwd⟩

end SessionRegistry
end AcpBridge
