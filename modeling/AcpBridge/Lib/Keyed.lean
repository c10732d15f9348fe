import Mathlib.Data.List.Nodup

/-! Lists of records with distinct keys, where a record is replaced by one of the same key
or a record of a new key is added at the end. -/

/-- No two entries of the list have the same key. -/
def Keyed {α κ : Type*} (key : α → κ) (l : List α) : Prop := (l.map key).Nodup

namespace Keyed
variable {α κ : Type*} {key : α → κ} {l : List α} {i : ℕ} {a a' x : α}

theorem nil : Keyed key [] := List.nodup_nil

theorem eq (h : Keyed key l) (ha : a ∈ l) (hx : x ∈ l) (hk : key a = key x) : a = x :=
  List.inj_on_of_nodup_map h ha hx hk

theorem append (h : Keyed key l) (hfresh : ∀ x ∈ l, key x ≠ key a) : Keyed key (l ++ [a]) := by
  rw [Keyed, List.map_append, List.map_singleton, List.nodup_append]
  refine ⟨h, List.nodup_singleton _, fun k hk k' hk' => ?_⟩
  obtain ⟨x, hx, rfl⟩ := List.mem_map.mp hk
  rw [List.mem_singleton.mp hk']
  exact hfresh x hx

theorem map_set (hi : l[i]? = some a) (hk : key a' = key a) : (l.set i a').map key = l.map key := by
  apply List.ext_getElem?
  intro j
  rw [List.map_set, List.getElem?_set]
  split_ifs with hij hlen
  · subst hij
    rw [List.getElem?_map, hi, hk]
    rfl
  · subst hij
    rw [List.getElem?_eq_none (Nat.le_of_not_lt hlen)]
  · rfl

theorem set (h : Keyed key l) (hi : l[i]? = some a) (hk : key a' = key a) :
    Keyed key (l.set i a') := by
  rw [Keyed, map_set hi hk]
  exact h

theorem ne (h : Keyed key l) {j : ℕ} (hi : l[i]? = some a) (hj : l[j]? = some x) (hij : i ≠ j) :
    key x ≠ key a := by
  intro hk
  obtain ⟨hil, rfl⟩ := List.getElem?_eq_some_iff.mp hi
  obtain ⟨hjl, rfl⟩ := List.getElem?_eq_some_iff.mp hj
  have hi' : i < (l.map key).length := by rwa [List.length_map]
  have hj' : j < (l.map key).length := by rwa [List.length_map]
  have hkeys : (l.map key)[i] = (l.map key)[j] := by
    rw [List.getElem_map, List.getElem_map, hk]
  exact hij (h.getElem_inj_iff.mp hkeys)

/-- After a replacement an entry is the new one or an old one of another key. -/
theorem mem_set (h : Keyed key l) (hi : l[i]? = some a) (hx : x ∈ l.set i a') :
    x = a' ∨ x ∈ l ∧ key x ≠ key a := by
  obtain ⟨j, hj, rfl⟩ := List.getElem_of_mem hx
  rw [List.getElem_set]
  split_ifs with hij
  · exact .inl rfl
  · rw [List.length_set] at hj
    exact .inr ⟨List.getElem_mem hj, h.ne hi (List.getElem?_eq_getElem hj) hij⟩

theorem mem_set_of_ne (hi : l[i]? = some a) (hx : x ∈ l) (hne : x ≠ a) : x ∈ l.set i a' := by
  obtain ⟨j, hj, rfl⟩ := List.getElem_of_mem hx
  refine List.mem_iff_getElem?.mpr ⟨j, ?_⟩
  rw [List.getElem?_set_ne, List.getElem?_eq_getElem hj]
  rintro rfl
  rw [List.getElem?_eq_getElem hj] at hi
  exact hne (Option.some.inj hi)

/-- An entry that is filtered out can be replaced by another such entry. -/
theorem filter_set {p : α → Bool} (hi : l[i]? = some a) (ha : p a = false) (ha' : p a' = false) :
    (l.set i a').filter p = l.filter p := by
  induction l generalizing i with
  | nil => rfl
  | cons x l ih =>
    cases i with
    | zero =>
      obtain rfl : x = a := by simpa using hi
      rw [List.set_cons_zero, List.filter_cons_of_neg (by simp [ha']),
        List.filter_cons_of_neg (by simp [ha])]
    | succ i =>
      rw [List.set_cons_succ, List.filter_cons, List.filter_cons, ih (by simpa using hi)]

theorem self_mem_set (hi : l[i]? = some a) : a' ∈ l.set i a' :=
  List.mem_set (List.getElem?_eq_some_iff.mp hi).1 a'

end Keyed
