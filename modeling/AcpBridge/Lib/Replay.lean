import Mathlib.Data.Finset.Dedup
import Mathlib.Data.Finset.Filter
import Mathlib.Data.List.Induction
import Mathlib.Logic.Function.Basic

/-! Logs of entries that give a key a value or take it away, replayed onto a map: what a key
holds in the end is what its last entry says. -/
namespace Replay
variable {κ β : Type*} [DecidableEq κ] (start : κ → Option β) (log : List (κ × Option β))

/-- What every key holds after the entries of the log, taken in order. -/
def replay : κ → Option β := log.foldl (fun held e => Function.update held e.1 e.2) start

@[simp] theorem replay_nil : replay start [] = start := rfl

@[simp] theorem replay_cons (e : κ × Option β) :
    replay start (e :: log) = replay (Function.update start e.1 e.2) log := rfl

theorem replay_append (later : List (κ × Option β)) :
    replay start (log ++ later) = replay (replay start log) later := List.foldl_append

variable {start log} {key : κ}

theorem replay_of_forall_ne (h : ∀ e ∈ log, e.1 ≠ key) : replay start log key = start key := by
  induction log generalizing start with
  | nil => rfl
  | cons e rest ih =>
    rw [List.forall_mem_cons] at h
    rw [replay_cons, ih h.2, Function.update_of_ne (Ne.symm h.1)]

/-- A key holds a value exactly when its last entry gave it that value. -/
theorem replay_eq_some_iff {v : β} :
    replay (fun _ => none) log key = some v ↔
      ∃ before after, log = before ++ (key, some v) :: after ∧ ∀ e ∈ after, e.1 ≠ key := by
  constructor
  · intro h
    induction log using List.reverseRecOn with
    | nil => simp at h
    | append_singleton rest e ih =>
      rw [replay_append, replay_cons, replay_nil] at h
      by_cases he : e.1 = key
      · obtain ⟨key', w⟩ := e
        obtain rfl : key' = key := he
        obtain rfl : w = some v := by simpa using h
        exact ⟨rest, [], rfl, by simp⟩
      · rw [Function.update_of_ne (Ne.symm he)] at h
        obtain ⟨before, after, rfl, hafter⟩ := ih h
        refine ⟨before, after ++ [e], by simp, fun e' he' => ?_⟩
        rcases List.mem_append.mp he' with he' | he'
        · exact hafter e' he'
        · obtain rfl := List.mem_singleton.mp he'
          exact he
  · rintro ⟨before, after, rfl, hafter⟩
    rw [replay_append, replay_cons, replay_of_forall_ne hafter, Function.update_self]

/-- The keys that hold a value after the log, from nothing. -/
def live (log : List (κ × Option β)) : Finset κ :=
  (log.map Prod.fst).toFinset.filter fun key => (replay (fun _ => none) log key).isSome

theorem mem_live : key ∈ live log ↔ (replay (fun _ => none) log key).isSome = true := by
  unfold live
  rw [Finset.mem_filter, List.mem_toFinset]
  refine ⟨fun h => h.2, fun h => ⟨?_, h⟩⟩
  by_contra hnot
  have hne : ∀ e ∈ log, e.1 ≠ key := fun e he hkey => hnot (List.mem_map.mpr ⟨e, he, hkey⟩)
  rw [replay_of_forall_ne hne] at h
  simp at h

end Replay
