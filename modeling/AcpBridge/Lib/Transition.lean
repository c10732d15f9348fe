import Mathlib.Data.List.Basic

/-! Deterministic transition systems driven by labels, with the induction rules for
runs: invariants, conditions met along a run, and their exact agreement. -/

/-- Labels may be taken in a state where they are enabled; `next` is total. -/
structure TransitionSystem (σ ι : Type*) where
  init : σ
  enabled : σ → ι → Prop
  next : σ → ι → σ

namespace TransitionSystem
variable {σ ι : Type*} (S : TransitionSystem σ ι)

/-- State after a run. -/
def exec (s : σ) (ls : List ι) : σ := ls.foldl S.next s

/-- Every step of the run meets the condition `c` in the state it starts from. -/
def Along (c : σ → ι → Prop) : σ → List ι → Prop
  | _, [] => True
  | s, l :: ls => c s l ∧ Along c (S.next s l) ls

/-- `P` holds in every state of the run, the first and the last included. -/
def Always (P : σ → Prop) : σ → List ι → Prop
  | s, [] => P s
  | s, l :: ls => P s ∧ Always P (S.next s l) ls

instance decidableAlong (c : σ → ι → Prop) [∀ s l, Decidable (c s l)] :
    ∀ (s : σ) (ls : List ι), Decidable (S.Along c s ls)
  | _, [] => isTrue trivial
  | s, l :: ls =>
    have := decidableAlong c (S.next s l) ls
    inferInstanceAs (Decidable (c s l ∧ S.Along c (S.next s l) ls))

def Reachable (s : σ) : Prop := ∃ ls, S.Along S.enabled S.init ls ∧ S.exec S.init ls = s

/-- `P` holds after every run from `s`. -/
def Henceforth (P : σ → Prop) (s : σ) : Prop := ∀ ls, S.Along S.enabled s ls → P (S.exec s ls)

@[simp] theorem exec_nil (s : σ) : S.exec s [] = s := rfl

@[simp] theorem exec_cons (s : σ) (l : ι) (ls : List ι) :
    S.exec s (l :: ls) = S.exec (S.next s l) ls := rfl

theorem exec_append (s : σ) (ls ks : List ι) :
    S.exec s (ls ++ ks) = S.exec (S.exec s ls) ks := List.foldl_append

variable {S}

theorem along_append {c : σ → ι → Prop} {s : σ} {ls ks : List ι} :
    S.Along c s (ls ++ ks) ↔ S.Along c s ls ∧ S.Along c (S.exec s ls) ks := by
  induction ls generalizing s with
  | nil => simp [Along]
  | cons l ls ih => simp [Along, ih, and_assoc]

theorem along_and {c d : σ → ι → Prop} {s : σ} {ls : List ι} :
    S.Along (fun s l => c s l ∧ d s l) s ls ↔ S.Along c s ls ∧ S.Along d s ls := by
  induction ls generalizing s with
  | nil => simp [Along]
  | cons l ls ih => simp only [Along, ih]; tauto

/-- A condition on labels alone may be checked on the list of labels. -/
theorem along_and_forall_mem {c : σ → ι → Prop} {d : ι → Prop} {s : σ} {ls : List ι}
    (hr : S.Along c s ls) (h : ∀ l ∈ ls, d l) : S.Along (fun s l => c s l ∧ d l) s ls := by
  induction ls generalizing s with
  | nil => trivial
  | cons l ls ih =>
    exact ⟨⟨hr.1, h l List.mem_cons_self⟩, ih hr.2 fun k hk => h k (List.mem_cons_of_mem _ hk)⟩

theorem along_of_forall {c : σ → ι → Prop} (h : ∀ s l, c s l) (s : σ) (ls : List ι) :
    S.Along c s ls := by
  induction ls generalizing s with
  | nil => trivial
  | cons l ls ih => exact ⟨h s l, ih _⟩

/-- Step lemma to run lemma: an invariant kept by every step that meets `c`. -/
theorem exec_invariant {P : σ → Prop} {c : σ → ι → Prop}
    (hstep : ∀ s l, P s → c s l → P (S.next s l)) {s : σ} {ls : List ι} (h : P s)
    (hr : S.Along c s ls) : P (S.exec s ls) := by
  induction ls generalizing s with
  | nil => exact h
  | cons l ls ih => exact ih (hstep s l h hr.1) hr.2

theorem always_invariant {P : σ → Prop} {c : σ → ι → Prop}
    (hstep : ∀ s l, P s → c s l → P (S.next s l)) {s : σ} {ls : List ι} (h : P s)
    (hr : S.Along c s ls) : S.Always P s ls := by
  induction ls generalizing s with
  | nil => exact h
  | cons l ls ih => exact ⟨h, ih (hstep s l h hr.1) hr.2⟩

theorem Always.mono {P Q : σ → Prop} (h : ∀ s, P s → Q s) {s : σ} {ls : List ι}
    (hr : S.Always P s ls) : S.Always Q s ls := by
  induction ls generalizing s with
  | nil => exact h s hr
  | cons l ls ih => exact ⟨h s hr.1, ih hr.2⟩

theorem Always.head {P : σ → Prop} {s : σ} {ls : List ι} (hr : S.Always P s ls) : P s := by
  cases ls with
  | nil => exact hr
  | cons l ls => exact hr.1

/-- `P` holds throughout a run exactly when every step meets `c`, provided `c` keeps an
invariant `I` that implies `P` and a step that breaks `c` destroys `P` at once. -/
theorem always_iff_along {I P : σ → Prop} {c e : σ → ι → Prop} (hIP : ∀ s, I s → P s)
    (hkeep : ∀ s l, I s → e s l → c s l → I (S.next s l))
    (hbreak : ∀ s l, I s → e s l → ¬ c s l → ¬ P (S.next s l))
    {s : σ} {ls : List ι} (h : I s) (hr : S.Along e s ls) :
    S.Always P s ls ↔ S.Along c s ls := by
  induction ls generalizing s with
  | nil => exact ⟨fun _ => trivial, fun _ => hIP s h⟩
  | cons l ls ih =>
    constructor
    · intro hp
      have hc : c s l := by
        by_contra hn
        exact hbreak s l h hr.1 hn hp.2.head
      exact ⟨hc, (ih (hkeep s l h hr.1 hc) hr.2).mp hp.2⟩
    · intro hc
      exact ⟨hIP s h, (ih (hkeep s l h hr.1 hc.1) hr.2).mpr hc.2⟩

theorem Reachable.start : S.Reachable S.init := ⟨[], trivial, rfl⟩

theorem Reachable.exec {s : σ} (h : S.Reachable s) {ls : List ι}
    (hr : S.Along S.enabled s ls) : S.Reachable (S.exec s ls) := by
  obtain ⟨ks, hk, rfl⟩ := h
  exact ⟨ks ++ ls, along_append.mpr ⟨hk, hr⟩, S.exec_append _ _ _⟩

theorem Reachable.next {s : σ} (h : S.Reachable s) {l : ι} (hl : S.enabled s l) :
    S.Reachable (S.next s l) :=
  h.exec (show S.Along S.enabled s [l] from ⟨hl, trivial⟩)

/-- What steps between reachable states keep holds from then on. -/
theorem Reachable.henceforth {P : σ → Prop}
    (hstep : ∀ s l, S.Reachable s → P s → S.enabled s l → P (S.next s l))
    {s : σ} (h : S.Reachable s) (hp : P s) : S.Henceforth P s := by
  intro ls hr
  let Q (s : σ) : Prop := S.Reachable s ∧ P s
  have hkeep : ∀ s l, Q s → S.enabled s l → Q (S.next s l) := fun s l hs hl =>
    ⟨hs.1.next hl, hstep s l hs.1 hs.2 hl⟩
  have hq : Q s := ⟨h, hp⟩
  exact (exec_invariant hkeep hq hr).2

/-- What an invariant implies of every step is met along every run. -/
theorem Reachable.along {P : σ → Prop} {c : σ → ι → Prop}
    (hstep : ∀ s l, S.Reachable s → P s → S.enabled s l → P (S.next s l))
    (hc : ∀ s l, S.Reachable s → P s → S.enabled s l → c s l)
    {s : σ} (h : S.Reachable s) (hp : P s) {ls : List ι} (hr : S.Along S.enabled s ls) :
    S.Along c s ls := by
  induction ls generalizing s with
  | nil => trivial
  | cons l ls ih => exact ⟨hc s l h hp hr.1, ih (h.next hr.1) (hstep s l h hp hr.1) hr.2⟩

theorem Henceforth.mono {P Q : σ → Prop} {s : σ} (hp : S.Henceforth P s) (h : S.Reachable s)
    (hPQ : ∀ s, S.Reachable s → P s → Q s) : S.Henceforth Q s :=
  fun ls hr => hPQ _ (h.exec hr) (hp ls hr)

/-- An invariant holds of every reachable state; the step may use that it is reachable. -/
theorem Reachable.invariant {P : σ → Prop} (h0 : P S.init)
    (hstep : ∀ s l, S.Reachable s → P s → S.enabled s l → P (S.next s l))
    {s : σ} (h : S.Reachable s) : P s := by
  obtain ⟨ls, hr, rfl⟩ := h
  exact Reachable.start.henceforth hstep h0 ls hr

end TransitionSystem
