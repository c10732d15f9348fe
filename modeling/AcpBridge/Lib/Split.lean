import Mathlib.Data.List.TakeWhile
import AcpBridge.Lib.Alike

/-! Splitting a list at the elements a test picks out, by their positions: the positions closed
by the length of the list, and the slices between each position and the next. -/
namespace Split
variable {α : Type*} (p : α → Bool)

/-- Positions of the separators, closed by the end of the list. -/
def bounds (l : List α) : List ℕ :=
  (l.zipIdx.filterMap fun e => if p e.1 then some e.2 else none) ++ [l.length]

/-- The slice between each bound and the next, without the separator itself. -/
def slices (l : List α) : List (List α) :=
  ((bounds p l).zip (bounds p l).tail).map fun pair => (l.take pair.2).drop (pair.1 + 1)

section Bounds
variable {p} (a : α) (l : List α)

/-- One more element in front moves every bound, and adds one if it is a separator. -/
theorem bounds_cons :
    bounds p (a :: l) = (if p a then [0] else []) ++ (bounds p l).map (· + 1) := by
  have hshift : (l.zipIdx.filterMap fun e => if p e.1 then some (e.2 + 1) else none) =
      (l.zipIdx.filterMap fun e => if p e.1 then some e.2 else none).map (· + 1) := by
    rw [List.map_filterMap]
    congr 1
    funext e
    split_ifs <;> rfl
  simp only [bounds, List.zipIdx_cons', List.filterMap_cons, List.filterMap_map,
    List.length_cons, List.map_append, List.map_cons, List.map_nil, ← hshift]
  split_ifs <;> rfl

/-- The first bound is where the elements in front of the first separator end. -/
theorem bounds_head : ∃ later, bounds p l = (l.takeWhile (!p ·)).length :: later := by
  induction l with
  | nil => exact ⟨[], rfl⟩
  | cons a l ih =>
    obtain ⟨later, hb⟩ := ih
    rw [bounds_cons, hb]
    by_cases hs : p a <;> simp [hs]

theorem bounds_pairwise : (bounds p l).Pairwise (· < ·) := by
  induction l with
  | nil => exact List.pairwise_singleton _ _
  | cons a l ih =>
    have hmoved : ((bounds p l).map (· + 1)).Pairwise (· < ·) := by
      rw [List.pairwise_map]
      exact ih.imp fun h => by omega
    rw [bounds_cons]
    split_ifs
    · refine List.pairwise_cons.mpr ⟨fun b hb => ?_, hmoved⟩
      obtain ⟨c, -, rfl⟩ := List.mem_map.mp hb
      omega
    · exact hmoved

theorem bounds_le {b : ℕ} (h : b ∈ bounds p l) : b ≤ l.length := by
  induction l generalizing b with
  | nil =>
    obtain rfl : b = 0 := by simpa [bounds] using h
    exact Nat.le_refl 0
  | cons a l ih =>
    rw [bounds_cons, List.mem_append] at h
    rcases h with h | h
    · split_ifs at h
      · obtain rfl : b = 0 := by simpa using h
        omega
      · simp at h
    · obtain ⟨c, hc, rfl⟩ := List.mem_map.mp h
      have hle := ih hc
      rw [List.length_cons]
      omega

private theorem slices_succ (bs : List ℕ) :
    (((bs.map (· + 1)).zip (bs.map (· + 1)).tail).map fun pair =>
      ((a :: l).take pair.2).drop (pair.1 + 1)) =
    (bs.zip bs.tail).map fun pair => (l.take pair.2).drop (pair.1 + 1) := by
  rw [← List.map_tail, List.zip_map, List.map_map]
  rfl

theorem slices_cons_of_neg (h : p a = false) : slices p (a :: l) = slices p l := by
  simp only [slices, bounds_cons, h, Bool.false_eq_true, if_false, List.nil_append]
  exact slices_succ a l (bounds p l)

theorem slices_cons_of_pos (h : p a = true) :
    slices p (a :: l) = l.takeWhile (!p ·) :: slices p l := by
  obtain ⟨later, hb⟩ := bounds_head (p := p) l
  have htake : l.take (l.takeWhile (!p ·)).length = l.takeWhile (!p ·) :=
    (List.prefix_iff_eq_take.mp (List.takeWhile_prefix (!p ·))).symm
  have hrest := slices_succ a l (bounds p l)
  simp only [slices, bounds_cons, h, if_true, List.singleton_append, List.tail_cons]
  rw [hb] at hrest ⊢
  simp only [List.map_cons, List.zip_cons_cons, List.tail_cons] at hrest ⊢
  simp [hrest, htake]

end Bounds

theorem pairwise_zip_tail {β : Type*} {r : β → β → Prop} {l : List β} (h : l.Pairwise r)
    {pair : β × β} (hp : pair ∈ l.zip l.tail) : r pair.1 pair.2 := by
  induction l with
  | nil => simp at hp
  | cons a l ih =>
    rw [List.pairwise_cons] at h
    cases l with
    | nil => simp at hp
    | cons b l =>
      rcases List.mem_cons.mp hp with hp | hp
      · subst hp
        exact h.1 b List.mem_cons_self
      · exact ih h.2 hp

section Slices
variable {p} (l : List α)

theorem slices_in_range {pair : ℕ × ℕ} (h : pair ∈ (bounds p l).zip (bounds p l).tail) :
    pair.1 + 1 ≤ pair.2 ∧ pair.2 ≤ l.length :=
  ⟨pairwise_zip_tail (bounds_pairwise l) h,
    bounds_le l (List.mem_of_mem_tail (List.of_mem_zip h).2)⟩

theorem slices_length : (slices p l).length = l.countP p := by
  induction l with
  | nil => rfl
  | cons a l ih =>
    cases h : p a with
    | false => rw [slices_cons_of_neg a l h, ih, List.countP_cons_of_neg (by simp [h])]
    | true => rw [slices_cons_of_pos a l h, List.length_cons, ih, List.countP_cons_of_pos h]

theorem slices_plain {s : List α} (hs : s ∈ slices p l) {a : α} (ha : a ∈ s) : p a = false := by
  induction l with
  | nil => simp [slices, bounds] at hs
  | cons b l ih =>
    cases h : p b with
    | false => exact ih (by rwa [slices_cons_of_neg b l h] at hs)
    | true =>
      rw [slices_cons_of_pos b l h] at hs
      rcases List.mem_cons.mp hs with hs | hs
      · subst hs
        simpa using List.mem_takeWhile_imp ha
      · exact ih hs

/-- What comes before the first separator, then each separator and its slice, is the list. -/
theorem slices_rebuild :
    l.takeWhile (!p ·) ++ (List.zipWith List.cons (l.filter p) (slices p l)).flatten = l := by
  induction l with
  | nil => rfl
  | cons a l ih =>
    cases h : p a with
    | false => simp [slices_cons_of_neg a l h, h, ih]
    | true => simp [slices_cons_of_pos a l h, h, ih]

theorem slices_append_of_neg {gap : List α} (h : ∀ a ∈ gap, p a = false) :
    slices p (gap ++ l) = slices p l := by
  induction gap with
  | nil => rfl
  | cons a gap ih =>
    rw [List.forall_mem_cons] at h
    rw [List.cons_append, slices_cons_of_neg _ _ h.1, ih h.2]

/-- Separators followed by plain elements are split back into those elements. -/
theorem slices_blocks {blocks : List (α × List α)} (hsep : ∀ b ∈ blocks, p b.1 = true)
    (hplain : ∀ b ∈ blocks, ∀ a ∈ b.2, p a = false) :
    slices p (blocks.flatMap fun b => b.1 :: b.2) = blocks.map (·.2) := by
  induction blocks with
  | nil => rfl
  | cons b blocks ih =>
    rw [List.forall_mem_cons] at hsep hplain
    have hstop : (blocks.flatMap fun b => b.1 :: b.2).takeWhile (!p ·) = [] := by
      cases blocks with
      | nil => rfl
      | cons c rest => simp [hsep.2 c List.mem_cons_self]
    have hall : ∀ a ∈ b.2, (!p a) = true := fun a ha => by simp [hplain.1 a ha]
    rw [List.flatMap_cons, List.cons_append, slices_cons_of_pos _ _ hsep.1,
      List.takeWhile_append_of_pos hall, hstop, slices_append_of_neg _ hplain.1, List.append_nil,
      ih hsep.2 hplain.2, List.map_cons]

/-- The slices, joined, are what stands behind the first separator, without the separators. -/
theorem slices_flatten : (slices p l).flatten = (l.dropWhile (!p ·)).filter (!p ·) := by
  induction l with
  | nil => rfl
  | cons a l ih =>
    cases h : p a with
    | false =>
      rw [slices_cons_of_neg a l h, List.dropWhile_cons_of_pos (by rw [h]; rfl)]
      exact ih
    | true =>
      have hbefore : (l.takeWhile (!p ·)).filter (!p ·) = l.takeWhile (!p ·) :=
        List.filter_eq_self.mpr fun b hb => by simpa using List.mem_takeWhile_imp hb
      have hjoin := congrArg (List.filter (!p ·)) (List.takeWhile_append_dropWhile (p := (!p ·))
        (l := l))
      rw [List.filter_append, hbefore] at hjoin
      rw [slices_cons_of_pos a l h, List.flatten_cons, ih, hjoin,
        List.dropWhile_cons_of_neg (by rw [h]; decide), List.filter_cons_of_neg (by rw [h]; decide)]

theorem slices_getLast? (init : List α) {a : α} {rest : List α} (ha : p a = true)
    (hrest : ∀ b ∈ rest, p b = false) : (slices p (init ++ a :: rest)).getLast? = some rest := by
  induction init with
  | nil =>
    have hnone : slices p rest = [] := by
      rw [← List.length_eq_zero_iff, slices_length, List.countP_eq_zero]
      exact fun b hb => by simp [hrest b hb]
    have hall : ∀ b ∈ rest, (!p b) = true := fun b hb => by simp [hrest b hb]
    rw [List.nil_append, slices_cons_of_pos a rest ha, hnone, List.getLast?_singleton,
      List.takeWhile_eq_self_iff.mpr hall]
  | cons b init ih =>
    rw [List.cons_append]
    cases hb : p b with
    | false => rw [slices_cons_of_neg _ _ hb, ih]
    | true => rw [slices_cons_of_pos _ _ hb, List.getLast?_cons, ih, Option.getD_some]

theorem plain_or_last : (∀ a ∈ l, p a = false) ∨ ∃ init a rest, l = init ++ a :: rest ∧
    p a = true ∧ ∀ b ∈ rest, p b = false := by
  induction l with
  | nil => exact .inl (by simp)
  | cons a l ih =>
    rcases ih with hplain | ⟨init, b, rest, rfl, hb, hrest⟩
    · cases h : p a with
      | false => exact .inl (List.forall_mem_cons.mpr ⟨h, hplain⟩)
      | true => exact .inr ⟨[], a, l, rfl, h, hplain⟩
    · exact .inr ⟨a :: init, b, rest, rfl, hb, hrest⟩

theorem slices_forall₂ {β : Type*} {q : β → Bool} {R : α → β → Prop} {l' : List β}
    (hpq : ∀ a b, R a b → p a = q b) (h : List.Forall₂ R l l') :
    List.Forall₂ (List.Forall₂ R) (slices p l) (slices q l') := by
  induction h with
  | nil => exact .nil
  | @cons a b l l' hab hl ih =>
    have hq := hpq a b hab
    cases hp : p a with
    | false =>
      rw [slices_cons_of_neg a l hp, slices_cons_of_neg b l' (hq.symm.trans hp)]
      exact ih
    | true =>
      rw [slices_cons_of_pos a l hp, slices_cons_of_pos b l' (hq.symm.trans hp)]
      exact .cons (hl.takeWhile fun c d hcd => by rw [hpq c d hcd]) ih

end Slices
end Split
