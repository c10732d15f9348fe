import AcpBridge.Lib.KeyMap
import Mathlib.Data.List.Sort

/-! Listing a finite map in the order of its keys, with one reading of each value. -/
namespace KeyMap
variable {α β γ : Type*} [LinearOrder α] (f : β → γ) (m : KeyMap α β)

/-- The keys in ascending order, each with what is read off its value. -/
def listing : List (α × γ) := (m.entries.map fun e => (e.1, f e.2)).insertionSort (·.1 ≤ ·.1)

theorem mem_listing {k : α} {v : γ} :
    (k, v) ∈ listing f m ↔ (m.lookup k).map f = some v := by
  have hmem : ∀ entry, (⟨k, entry⟩ : (_ : α) × β) ∈ m.entries ↔ m.lookup k = some entry :=
    fun entry => AList.mem_lookup_iff.symm
  simp only [listing, List.mem_insertionSort, List.mem_map, Prod.mk.injEq, Option.map_eq_some_iff]
  constructor
  · rintro ⟨⟨k', entry⟩, he, rfl, rfl⟩
    exact ⟨entry, (hmem entry).mp he, rfl⟩
  · rintro ⟨entry, he, rfl⟩
    exact ⟨⟨k, entry⟩, (hmem entry).mpr he, rfl, rfl⟩

theorem listing_pairwise : (listing f m).Pairwise (·.1 < ·.1) := by
  have : Std.Total fun a b : α × γ => a.1 ≤ b.1 := ⟨fun a b => le_total a.1 b.1⟩
  have : IsTrans (α × γ) fun a b => a.1 ≤ b.1 := ⟨fun a b c => le_trans⟩
  have hle := List.pairwise_insertionSort (fun a b : α × γ => a.1 ≤ b.1)
    (m.entries.map fun e => (e.1, f e.2))
  have hkeys : ((m.entries.map fun e => (e.1, f e.2)).map Prod.fst).Nodup := by
    have h := m.nodupKeys
    simpa [List.NodupKeys, List.keys, Function.comp_def] using h
  have hne : (listing f m).Pairwise (·.1 ≠ ·.1) := by
    have hperm := List.perm_insertionSort (fun a b : α × γ => a.1 ≤ b.1)
      (m.entries.map fun e => (e.1, f e.2))
    exact List.pairwise_map.mp ((hperm.map Prod.fst).nodup_iff.mpr hkeys)
  exact hle.imp₂ (fun a b => lt_of_le_of_ne) hne

theorem length_listing : (listing f m).length = len m := by
  simp [listing, len, AList.keys, List.keys]

theorem listing_congr {m' : KeyMap α β} (h : ∀ k, (m.lookup k).map f = (m'.lookup k).map f) :
    listing f m = listing f m' := by
  have hnodup : ∀ m : KeyMap α β, (listing f m).Nodup := fun m =>
    (listing_pairwise f m).imp fun hlt => by
      rintro rfl
      exact lt_irrefl _ hlt
  have hperm : (listing f m).Perm (listing f m') := by
    rw [List.perm_ext_iff_of_nodup (hnodup m) (hnodup m')]
    rintro ⟨k, v⟩
    rw [mem_listing, mem_listing, h k]
  refine hperm.eq_of_pairwise (fun a b _ _ hab hba => ?_) (listing_pairwise f m)
    (listing_pairwise f m')
  exact absurd hab hba.asymm

end KeyMap
