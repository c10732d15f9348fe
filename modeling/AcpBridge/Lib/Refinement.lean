import AcpBridge.Lib.Transition

/-! Refinement of transition systems: every step of the concrete system is matched by a run,
perhaps an empty one, of the abstract system. Recording the labels of a run makes its history
part of the state, so that a refinement can speak of traces. -/
namespace TransitionSystem
variable {σ ι τ κ : Type*}

/-- An enabled run leads from one state to the other. -/
def Leads (T : TransitionSystem τ κ) (t t' : τ) : Prop :=
  ∃ ks, T.Along T.enabled t ks ∧ T.exec t ks = t'

/-- `R` is a forward simulation of the concrete system by the abstract one. -/
structure Refines (S : TransitionSystem σ ι) (T : TransitionSystem τ κ) (R : σ → τ → Prop) :
    Prop where
  start : R S.init T.init
  step : ∀ s t l, S.Reachable s → R s t → S.enabled s l → ∃ t', T.Leads t t' ∧ R (S.next s l) t'

/-- The system together with the labels taken so far. -/
def recorded (S : TransitionSystem σ ι) : TransitionSystem (σ × List ι) ι where
  init := (S.init, [])
  enabled s l := S.enabled s.1 l
  next s l := (S.next s.1 l, s.2 ++ [l])

/-- The same moves under another condition. -/
def guarded (S : TransitionSystem σ ι) (c : σ → ι → Prop) : TransitionSystem σ ι :=
  { S with enabled := c }

section Leads
variable {T : TransitionSystem τ κ} {t t' t'' : τ} {l : κ}

theorem Leads.refl (t : τ) : T.Leads t t := ⟨[], trivial, rfl⟩

theorem Leads.single (h : T.enabled t l) : T.Leads t (T.next t l) := ⟨[l], ⟨h, trivial⟩, rfl⟩

theorem Leads.trans (h : T.Leads t t') (h' : T.Leads t' t'') : T.Leads t t'' := by
  obtain ⟨ks, hk, rfl⟩ := h
  obtain ⟨ks', hk', rfl⟩ := h'
  exact ⟨ks ++ ks', along_append.mpr ⟨hk, hk'⟩, T.exec_append _ _ _⟩

theorem Leads.snoc (h : T.Leads t t') (hl : T.enabled t' l) : T.Leads t (T.next t' l) :=
  h.trans (.single hl)

theorem Leads.reachable (h : T.Leads t t') (ht : T.Reachable t) : T.Reachable t' := by
  obtain ⟨ks, hk, rfl⟩ := h
  exact ht.exec hk

end Leads

section Refines
variable {S : TransitionSystem σ ι} {T : TransitionSystem τ κ} {R : σ → τ → Prop} {s : σ}

/-- Every reachable concrete state is related to a reachable abstract one. -/
theorem Refines.reachable (h : S.Refines T R) (hs : S.Reachable s) :
    ∃ t, T.Reachable t ∧ R s t := by
  let P (s : σ) : Prop := ∃ t, T.Reachable t ∧ R s t
  have hstep : ∀ s l, S.Reachable s → P s → S.enabled s l → P (S.next s l) := by
    rintro s l hs ⟨t, ht, hr⟩ hl
    obtain ⟨t', hlead, hr'⟩ := h.step s t l hs hr hl
    exact ⟨t', hlead.reachable ht, hr'⟩
  exact hs.invariant (P := P) ⟨T.init, .start, h.start⟩ hstep

end Refines

/-- Two systems under the same labels stay related when every step keeps them related. -/
theorem Reachable.lockstep {S : TransitionSystem σ ι} {T : TransitionSystem τ ι}
    {R : σ → τ → Prop} (h0 : R S.init T.init)
    (hstep : ∀ s t l, S.Reachable s → R s t → S.enabled s l → R (S.next s l) (T.next t l))
    {ls : List ι} (hr : S.Along S.enabled S.init ls) : R (S.exec S.init ls) (T.exec T.init ls) := by
  suffices h : ∀ s t, S.Reachable s → R s t → S.Along S.enabled s ls →
      R (S.exec s ls) (T.exec t ls) from h _ _ .start h0 hr
  clear h0 hr
  induction ls with
  | nil => exact fun _ _ _ h _ => h
  | cons l ls ih =>
    intro s t hs hst hr
    exact ih _ _ (hs.next hr.1) (hstep s t l hs hst hr.1) hr.2

section Guarded
variable {S : TransitionSystem σ ι} {c d : σ → ι → Prop} {s s' : σ} {ls : List ι}

theorem guarded_along : (S.guarded c).Along d s ls ↔ S.Along d s ls := by
  induction ls generalizing s with
  | nil => exact Iff.rfl
  | cons l ls ih => exact and_congr_right fun _ => ih

theorem Along.mono (h : ∀ s l, c s l → d s l) (hr : S.Along c s ls) : S.Along d s ls := by
  induction ls generalizing s with
  | nil => trivial
  | cons l ls ih => exact ⟨h s l hr.1, ih hr.2⟩

theorem Leads.weaken (h : ∀ s l, c s l → d s l) (hl : (S.guarded c).Leads s s') :
    (S.guarded d).Leads s s' := by
  obtain ⟨ls, hr, rfl⟩ := hl
  exact ⟨ls, guarded_along.mpr (Along.mono h (guarded_along.mp hr)), rfl⟩

/-- What every guarded move keeps is kept by guarded runs. -/
theorem Leads.keeps {P : σ → Prop} (hstep : ∀ s l, P s → c s l → P (S.next s l))
    (hl : (S.guarded c).Leads s s') (h : P s) : P s' := by
  obtain ⟨ls, hr, rfl⟩ := hl
  exact exec_invariant hstep h (guarded_along.mp hr)

end Guarded

section Recorded
variable {S : TransitionSystem σ ι}

theorem recorded_exec (s : σ) (past ls : List ι) :
    S.recorded.exec (s, past) ls = (S.exec s ls, past ++ ls) := by
  induction ls generalizing s past with
  | nil => simp
  | cons l ls ih =>
    rw [exec_cons, exec_cons]
    exact (ih _ _).trans (by simp)

theorem recorded_along {s : σ} {past ls : List ι} :
    S.recorded.Along S.recorded.enabled (s, past) ls ↔ S.Along S.enabled s ls := by
  induction ls generalizing s past with
  | nil => exact Iff.rfl
  | cons l ls ih => exact and_congr_right fun _ => ih

theorem recorded_reachable {ls : List ι} (h : S.Along S.enabled S.init ls) :
    S.recorded.Reachable (S.exec S.init ls, ls) :=
  ⟨ls, recorded_along.mpr h, recorded_exec S.init [] ls⟩

/-- Forgetting the history of a reachable recorded state leaves a reachable state. -/
theorem Reachable.forget {s : σ × List ι} (h : S.recorded.Reachable s) : S.Reachable s.1 := by
  obtain ⟨ls, hr, rfl⟩ := h
  rw [show S.recorded.init = (S.init, []) from rfl, recorded_exec]
  exact ⟨ls, recorded_along.mp hr, rfl⟩

end Recorded
end TransitionSystem
