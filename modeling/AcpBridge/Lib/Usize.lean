import Mathlib.Algebra.GroupWithZero.Nat
import Mathlib.Data.Fin.Basic

/-! Unsigned 64-bit machine words with saturating arithmetic. -/

/-- A pointer-sized word on a 64-bit target. -/
abbrev Usize := Fin (2 ^ 64)

namespace Usize

instance neZero : NeZero (2 ^ 64) := ⟨by decide⟩

def MAX : ℕ := 2 ^ 64 - 1

theorem le_max (a : Usize) : a.val ≤ MAX := by
  have h := a.isLt
  unfold MAX
  omega

def saturatingAdd (a b : Usize) : Usize :=
  ⟨min (a.val + b.val) MAX, by unfold MAX; omega⟩

def saturatingSub (a b : Usize) : Usize :=
  ⟨a.val - b.val, by have h := a.isLt; omega⟩

@[simp] theorem saturatingAdd_val (a b : Usize) :
    (saturatingAdd a b).val = min (a.val + b.val) MAX := rfl

@[simp] theorem saturatingSub_val (a b : Usize) :
    (saturatingSub a b).val = a.val - b.val := rfl

/-- Exact totals of a list of sizes are taken in the naturals. -/
def total : List Usize → ℕ
  | [] => 0
  | a :: sizes => a.val + total sizes

@[simp] theorem total_nil : total [] = 0 := rfl

@[simp] theorem total_cons (a : Usize) (sizes : List Usize) :
    total (a :: sizes) = a.val + total sizes := rfl

@[simp] theorem total_append (xs ys : List Usize) :
    total (xs ++ ys) = total xs + total ys := by
  induction xs with
  | nil => simp
  | cons a xs ih => simp [ih, Nat.add_assoc]

/-- A saturating sum below the top of the range did not saturate. -/
theorem saturatingAdd_eq_of_lt {a b : Usize} {limit : ℕ} (hl : limit < MAX)
    (h : (saturatingAdd a b).val ≤ limit) : (saturatingAdd a b).val = a.val + b.val := by
  rw [saturatingAdd_val] at h ⊢
  omega

theorem saturatingAdd_eq_of_le {a b : Usize} (h : a.val + b.val ≤ MAX) :
    (saturatingAdd a b).val = a.val + b.val := by
  rw [saturatingAdd_val]
  omega

end Usize
