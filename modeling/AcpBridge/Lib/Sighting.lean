import AcpBridge.Lib.Mealy
import Mathlib.Data.Finset.Insert

/-! Keys met one after another, each marked when it is met for the first time. -/
namespace Sighting
variable {κ : Type*} [DecidableEq κ] {met : Finset κ} {key : κ}

/-- An input shows at most one key, which is remembered from then on. -/
def step (met : Finset κ) : Option κ → List (κ × Bool) × Finset κ
  | none => ([], met)
  | some key => ([(key, decide (key ∉ met))], insert key met)

/-- The keys of the inputs in order, each with its mark. -/
def marks (met : Finset κ) (inputs : List (Option κ)) : List (κ × Bool) :=
  (Mealy.run step met inputs).1.flatten

@[simp] theorem marks_nil : marks met [] = [] := rfl

@[simp] theorem marks_none (inputs : List (Option κ)) :
    marks met (none :: inputs) = marks met inputs := by
  simp [marks, step]

@[simp] theorem marks_some (inputs : List (Option κ)) :
    marks met (some key :: inputs) =
      (key, decide (key ∉ met)) :: marks (insert key met) inputs := by
  simp [marks, step]

theorem marks_of_mem {inputs : List (Option κ)} (h : key ∈ met) {m : κ × Bool}
    (hm : m ∈ marks met inputs) (hkey : m.1 = key) : m.2 = false := by
  induction inputs generalizing met with
  | nil => simp at hm
  | cons input rest ih =>
    cases input with
    | none => exact ih h (by simpa using hm)
    | some other =>
      rw [marks_some] at hm
      rcases List.mem_cons.mp hm with hfirst | hlater
      · subst m
        subst hkey
        simp [h]
      · exact ih (Finset.mem_insert_of_mem h) hlater

/-- A key not met before is marked the first time it is met and never again. -/
theorem marks_filter (inputs : List (Option κ)) (h : key ∉ met) :
    (marks met inputs).filter (·.1 = key) = [] ∨
      ∃ later, (marks met inputs).filter (·.1 = key) = (key, true) :: later ∧
        ∀ m ∈ later, m.2 = false := by
  induction inputs generalizing met with
  | nil => exact .inl rfl
  | cons input rest ih =>
    cases input with
    | none => simpa using ih h
    | some other =>
      rw [marks_some]
      by_cases ho : other = key
      · subst other
        right
        refine ⟨(marks (insert key met) rest).filter (·.1 = key), by simp [h], ?_⟩
        intro m hm
        rw [List.mem_filter, decide_eq_true_eq] at hm
        exact marks_of_mem (Finset.mem_insert_self key met) hm.1 hm.2
      · have hnew : key ∉ insert other met := by simp [Ne.symm ho, h]
        simpa [ho] using ih hnew

end Sighting
