import Mathlib.Data.List.Basic

/-! Reading the first of several optional fields: the first that is there, the first that can
be read, and when a field that is there but unreadable hides a readable one. -/
namespace FirstField
variable {κ α β : Type*} (get : κ → Option α) (read : α → Option β) {keys : List κ}

/-- The first field that is there. -/
def present (keys : List κ) : Option α := keys.findSome? get

/-- The first field that can be read. -/
def readable (keys : List κ) : Option β := keys.findSome? fun key => (get key).bind read

/-- The first field there cannot be read, while a later one reads other than the fallback. -/
def Hidden (keys : List κ) (fallback : β) : Prop :=
  ∃ v b, present get keys = some v ∧ read v = none ∧ readable get read keys = some b ∧ b ≠ fallback

variable {get read}

theorem readable_of_present_none (h : present get keys = none) :
    readable get read keys = none := by
  simp only [present, List.findSome?_eq_none_iff] at h
  simp only [readable, List.findSome?_eq_none_iff]
  intro key hkey
  rw [h key hkey, Option.bind_none]

theorem readable_of_present_some {v : α} {b : β} (hv : present get keys = some v)
    (hb : read v = some b) : readable get read keys = some b := by
  induction keys with
  | nil => simp [present] at hv
  | cons key rest ih =>
    simp only [present, readable, List.findSome?_cons] at hv ih ⊢
    cases hk : get key with
    | none =>
      rw [hk] at hv
      simpa using ih hv
    | some w =>
      obtain rfl : w = v := by simpa [hk] using hv
      simp [hb]

/-- Testing the first field there finds the first readable one unless that one is hidden. -/
theorem read_present_eq_iff (fallback : β) :
    ((present get keys).bind read).getD fallback = (readable get read keys).getD fallback ↔
      ¬Hidden get read keys fallback := by
  unfold Hidden
  cases hv : present get keys with
  | none => simp [readable_of_present_none hv]
  | some v =>
    cases hr : read v with
    | some b => simp [readable_of_present_some hv hr, hr]
    | none =>
      cases hb : readable get read keys with
      | none => simp [hr]
      | some b => simp [hr, eq_comm]

end FirstField
