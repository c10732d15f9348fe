import Mathlib.Data.List.Forall2

/-! Two computations side by side: fallible results with the same errors and related values,
and lists related element by element. -/

/-- Two fallible results: the same error, or related values. -/
inductive Alike {ε α β : Type} (R : α → β → Prop) : Except ε α → Except ε β → Prop
  | error (err : ε) : Alike R (.error err) (.error err)
  | ok {x : α} {y : β} (h : R x y) : Alike R (.ok x) (.ok y)

namespace Alike
variable {ε δ α β γ κ : Type} {R : α → β → Prop} {Q : γ → κ → Prop} {x : Except ε α}
  {y : Except ε β}

theorem mapError (h : Alike R x y) (f : ε → δ) : Alike R (x.mapError f) (y.mapError f) := by
  cases h with
  | error err => exact .error (f err)
  | ok h => exact .ok h

theorem bind (h : Alike R x y) {f : α → Except ε γ} {g : β → Except ε κ}
    (hfg : ∀ x y, R x y → Alike Q (f x) (g y)) : Alike Q (x.bind f) (y.bind g) := by
  cases h with
  | error err => exact .error err
  | ok h => exact hfg _ _ h

theorem map (h : Alike R x y) {f : α → γ} {g : β → κ} (hfg : ∀ x y, R x y → Q (f x) (g y)) :
    Alike Q (x.map f) (y.map g) := by
  cases h with
  | error err => exact .error err
  | ok h => exact .ok (hfg _ _ h)

theorem refl (x : Except ε α) : Alike Eq x x := by
  cases x with
  | error err => exact .error err
  | ok value => exact .ok rfl

theorem mono {R' : α → β → Prop} (h : Alike R x y) (hR : ∀ x y, R x y → R' x y) :
    Alike R' x y := by
  cases h with
  | error err => exact .error err
  | ok h => exact .ok (hR _ _ h)

/-- Alike up to the values. -/
theorem map_eq (h : Alike R x y) : (x.map fun _ => ()) = y.map fun _ => () := by
  cases h <;> rfl

end Alike

namespace List
variable {α β : Type*} {R : α → β → Prop} {p : α → Bool} {q : β → Bool} {l : List α} {l' : List β}

/-- A test that sees no difference cuts both lists at the same place. -/
theorem Forall₂.takeWhile (h : Forall₂ R l l') (hpq : ∀ a b, R a b → p a = q b) :
    Forall₂ R (l.takeWhile p) (l'.takeWhile q) := by
  induction h with
  | nil => exact .nil
  | @cons a b l l' hab _ ih =>
    rw [List.takeWhile_cons, List.takeWhile_cons, ← hpq a b hab]
    split_ifs
    · exact .cons hab ih
    · exact .nil

theorem Forall₂.dropWhile (h : Forall₂ R l l') (hpq : ∀ a b, R a b → p a = q b) :
    Forall₂ R (l.dropWhile p) (l'.dropWhile q) := by
  induction h with
  | nil => exact .nil
  | @cons a b l l' hab hl ih =>
    rw [List.dropWhile_cons, List.dropWhile_cons, ← hpq a b hab]
    split_ifs
    · exact ih
    · exact .cons hab hl

theorem Forall₂.find? (h : Forall₂ R l l') (hpq : ∀ a b, R a b → p a = q b) :
    Option.Rel R (l.find? p) (l'.find? q) := by
  induction h with
  | nil => exact .none
  | @cons a b l l' hab _ ih =>
    rw [List.find?_cons, List.find?_cons, ← hpq a b hab]
    cases p a with
    | false => exact ih
    | true => exact .some hab

theorem Forall₂.getElem? (h : Forall₂ R l l') (i : ℕ) : Option.Rel R l[i]? l'[i]? := by
  induction h generalizing i with
  | nil => exact .none
  | cons hab _ ih =>
    cases i with
    | zero => exact .some hab
    | succ i => exact ih i

theorem Forall₂.set (h : Forall₂ R l l') (i : ℕ) {a : α} {b : β} (hab : R a b) :
    Forall₂ R (l.set i a) (l'.set i b) := by
  induction h generalizing i with
  | nil => exact .nil
  | cons hcd hl ih =>
    cases i with
    | zero => exact .cons hab hl
    | succ i => exact .cons hcd (ih i)

end List
