import Mathlib.Data.List.Forall2

/-! Transducers run input by input, and the maps of states that carry the runs of one to
the runs of another. -/
namespace Mealy
variable {σ σ' ι ι' ο ο' : Type*}

/-- Outputs input by input and the state they leave. -/
def run (step : σ → ι → ο × σ) (s : σ) : List ι → List ο × σ
  | [] => ([], s)
  | i :: rest =>
    let first := step s i
    let later := run step first.2 rest
    (first.1 :: later.1, later.2)

@[simp] theorem run_nil (step : σ → ι → ο × σ) (s : σ) : run step s [] = ([], s) := rfl

@[simp] theorem run_cons (step : σ → ι → ο × σ) (s : σ) (i : ι) (rest : List ι) :
    run step s (i :: rest) =
      ((step s i).1 :: (run step (step s i).2 rest).1, (run step (step s i).2 rest).2) := rfl

/-- A map of states that commutes with every step commutes with every run. -/
theorem run_map {step : σ → ι → ο × σ} {step' : σ' → ι' → ο' × σ'} (φ : σ → σ') (γ : ι → ι')
    (ω : ο → ο') (h : ∀ s i, step' (φ s) (γ i) = (ω (step s i).1, φ (step s i).2)) (s : σ)
    (inputs : List ι) :
    run step' (φ s) (inputs.map γ) =
      ((run step s inputs).1.map ω, φ (run step s inputs).2) := by
  induction inputs generalizing s with
  | nil => rfl
  | cons i rest ih => simp only [List.map_cons, run_cons, h, ih]

/-- Two transducers that answer related inputs alike in related states answer runs alike. -/
theorem run_related {step : σ → ι → ο × σ} {step' : σ' → ι' → ο × σ'} {R : σ → σ' → Prop}
    {I : ι → ι' → Prop} (h : ∀ s s' i i', R s s' → I i i' →
      (step s i).1 = (step' s' i').1 ∧ R (step s i).2 (step' s' i').2) {s : σ} {s' : σ'}
    (hs : R s s') {inputs : List ι} {inputs' : List ι'} (hi : List.Forall₂ I inputs inputs') :
    (run step s inputs).1 = (run step' s' inputs').1 ∧
      R (run step s inputs).2 (run step' s' inputs').2 := by
  induction hi generalizing s s' with
  | nil => exact ⟨rfl, hs⟩
  | cons hij _ ih =>
    obtain ⟨hout, hnext⟩ := h _ _ _ _ hs hij
    obtain ⟨hlater, hfinal⟩ := ih hnext
    simp only [run_cons]
    exact ⟨by rw [hout, hlater], hfinal⟩

end Mealy
