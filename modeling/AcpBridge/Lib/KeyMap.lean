import Mathlib.Data.List.AList

/-! Finite maps with unique keys: sizes, counts of values and value-wise updates,
on top of association lists without duplicate keys. -/

/-- A finite map from `α` to `β`. -/
abbrev KeyMap (α β : Type*) := AList fun _ : α => β

namespace KeyMap
variable {α β : Type*}

def len (m : KeyMap α β) : ℕ := m.keys.length

def values (m : KeyMap α β) : List β := m.entries.map (·.2)

/-- Apply `f` to every value, leaving the keys as they are. -/
def mapValues (f : β → β) (m : KeyMap α β) : KeyMap α β :=
  ⟨m.entries.map fun e => ⟨e.1, f e.2⟩, by
    have h : (m.entries.map fun e => (⟨e.1, f e.2⟩ : (_ : α) × β)).keys = m.entries.keys := by
      simp [List.keys, Function.comp_def]
    unfold List.NodupKeys
    rw [h]
    exact m.nodupKeys⟩

theorem keys_mapValues (f : β → β) (m : KeyMap α β) : (mapValues f m).keys = m.keys := by
  simp [mapValues, AList.keys, List.keys, Function.comp_def]

theorem values_mapValues (f : β → β) (m : KeyMap α β) :
    values (mapValues f m) = (values m).map f := by
  simp [values, mapValues, Function.comp_def]

theorem len_mapValues (f : β → β) (m : KeyMap α β) : len (mapValues f m) = len m := by
  simp only [len, keys_mapValues]

/-- Number of values satisfying `p`. -/
def countValues (p : β → Bool) (m : KeyMap α β) : ℕ := (values m).countP p

theorem countValues_mapValues_false {p : β → Bool} {f : β → β} (h : ∀ v, p (f v) = false)
    (m : KeyMap α β) : countValues p (mapValues f m) = 0 := by
  simp [countValues, values_mapValues, List.countP_eq_zero, h]

variable [DecidableEq α]

theorem lookup_mapValues (f : β → β) (k : α) (m : KeyMap α β) :
    (mapValues f m).lookup k = (m.lookup k).map f := by
  obtain ⟨l, h⟩ := m
  induction l with
  | nil => rfl
  | cons e l ih =>
    obtain ⟨a, b⟩ := e
    have ih := ih (List.nodupKeys_cons.mp h).2
    by_cases hk : a = k
    · subst hk; simp [mapValues, AList.lookup]
    · have hk' : k ≠ a := Ne.symm hk
      simp only [mapValues, AList.lookup, List.map_cons] at ih ⊢
      rw [List.dlookup_cons_ne _ (⟨a, f b⟩ : (_ : α) × β) hk',
        List.dlookup_cons_ne _ (⟨a, b⟩ : (_ : α) × β) hk']
      exact ih

theorem len_insert_of_mem {k : α} {v : β} {m : KeyMap α β} (h : k ∈ m) :
    len (m.insert k v) = len m := by
  have hk : k ∈ m.keys := AList.mem_keys.mp h
  have hp := List.length_pos_of_mem hk
  simp only [len, AList.keys_insert, List.length_cons, List.length_erase_of_mem hk]
  omega

theorem len_insert_of_notMem {k : α} {v : β} {m : KeyMap α β} (h : k ∉ m) :
    len (m.insert k v) = len m + 1 := by
  have hk : k ∉ m.keys := fun hm => h (AList.mem_keys.mpr hm)
  simp [len, List.erase_of_not_mem hk]

theorem len_insert_le (k : α) (v : β) (m : KeyMap α β) : len (m.insert k v) ≤ len m + 1 := by
  by_cases h : k ∈ m
  · rw [len_insert_of_mem h]; omega
  · rw [len_insert_of_notMem h]

theorem len_erase_le (k : α) (m : KeyMap α β) : len (m.erase k) ≤ len m := by
  simp only [len, AList.keys_erase]
  exact List.length_erase_le

private theorem countP_kerase (p : β → Bool) (k : α) (l : List ((_ : α) × β)) :
    ((l.kerase k).map (·.2)).countP p + ((l.dlookup k).elim 0 fun v => (p v).toNat) =
      (l.map (·.2)).countP p := by
  induction l with
  | nil => rfl
  | cons e l ih =>
    obtain ⟨a, b⟩ := e
    by_cases hk : k = a
    · subst hk
      simp only [List.kerase_cons_eq, List.dlookup_cons_eq, List.map_cons, List.countP_cons]
      cases hp : p b <;> simp [hp]
    · rw [List.kerase_cons_ne hk, List.dlookup_cons_ne _ _ hk]
      simp only [List.map_cons, List.countP_cons]
      omega

/-- Erasing a key gives back exactly the count its value held. -/
theorem countValues_erase (p : β → Bool) (k : α) (m : KeyMap α β) :
    countValues p (m.erase k) + ((m.lookup k).elim 0 fun v => (p v).toNat) = countValues p m :=
  countP_kerase p k m.entries

/-- Inserting a key exchanges the count of the old value for that of the new one. -/
theorem countValues_insert (p : β → Bool) (k : α) (v : β) (m : KeyMap α β) :
    countValues p (m.insert k v) + ((m.lookup k).elim 0 fun v => (p v).toNat) =
      countValues p m + (p v).toNat := by
  have h := countP_kerase p k m.entries
  have hi : countValues p (m.insert k v) =
      ((m.entries.kerase k).map (·.2)).countP p + (p v).toNat := by
    simp only [countValues, values, AList.entries_insert, List.map_cons, List.countP_cons]
    cases p v <;> simp
  change _ + ((m.entries.dlookup k).elim 0 fun v => (p v).toNat) =
    (m.entries.map (·.2)).countP p + _
  omega

/-- Distinct keys whose values satisfy `p` are at most as many as such values. -/
theorem length_le_countValues {p : β → Bool} {m : KeyMap α β} {ks : List α} (hn : ks.Nodup)
    (h : ∀ k ∈ ks, ∃ v, m.lookup k = some v ∧ p v = true) : ks.length ≤ countValues p m := by
  have hsub : ks ⊆ (m.entries.filter fun e => p e.2).map (·.1) := by
    intro k hk
    obtain ⟨v, hv, hp⟩ := h k hk
    have hmem : (⟨k, v⟩ : (_ : α) × β) ∈ m.entries := AList.mem_lookup_iff.mp hv
    exact List.mem_map.mpr ⟨⟨k, v⟩, List.mem_filter.mpr ⟨hmem, hp⟩, rfl⟩
  have hle := (List.subperm_of_subset hn hsub).length_le
  rw [List.length_map, ← List.countP_eq_length_filter] at hle
  rw [countValues, values, List.countP_map]
  exact hle

/-- Values satisfying `p` are at most as many as a list that has all of their keys. -/
theorem countValues_le_length {p : β → Bool} {m : KeyMap α β} {ks : List α}
    (h : ∀ k v, m.lookup k = some v → p v = true → k ∈ ks) : countValues p m ≤ ks.length := by
  have hnodup : ((m.entries.filter fun e => p e.2).map (·.1)).Nodup :=
    m.nodupKeys.sublist List.filter_sublist
  have hsub : (m.entries.filter fun e => p e.2).map (·.1) ⊆ ks := by
    intro k hk
    obtain ⟨⟨k', v⟩, he, rfl⟩ := List.mem_map.mp hk
    obtain ⟨hmem, hp⟩ := List.mem_filter.mp he
    exact h k' v (AList.mem_lookup_iff.mpr hmem) hp
  have hle := (List.subperm_of_subset hnodup hsub).length_le
  rw [List.length_map, ← List.countP_eq_length_filter] at hle
  rw [countValues, values, List.countP_map]
  exact hle

end KeyMap
