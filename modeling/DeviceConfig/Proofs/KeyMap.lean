import DeviceConfig.KeyMap
import Mathlib.Data.List.Nodup
import Mathlib.Data.List.Perm.Subperm

/-!
# Looking up and comparing key maps

Since the keys of a map are distinct, a lookup finds exactly the entry of its key. Maps
with the same entries are the same, and they have the same sorted view.
-/

namespace DeviceConfig

namespace KeyMap

/-! ## Lookup -/

theorem lookup_eq_some_iff_mem {pairs : List (String × String)} {key value : String}
    (hn : (pairs.map Prod.fst).Nodup) :
    pairs.lookup key = some value ↔ (key, value) ∈ pairs := by
  induction pairs with
  | nil => simp
  | cons pair pairs ih =>
      obtain ⟨first, kept⟩ := pair
      obtain ⟨hnew, hn⟩ := List.nodup_cons.mp hn
      by_cases h : key = first
      · subst h
        have habsent : (key, value) ∉ pairs := fun hm =>
          hnew (List.mem_map.mpr ⟨(key, value), hm, rfl⟩)
        simp [habsent, eq_comm]
      · have hb : (key == first) = false := by simpa using h
        simp [List.lookup_cons, hb, h, ih hn]

theorem get?_eq_some_iff {map : KeyMap} {key value : String} :
    map.get? key = some value ↔ (key, value) ∈ map.entries :=
  lookup_eq_some_iff_mem map.nodup_keys

theorem nodup_entries (map : KeyMap) : map.entries.Nodup :=
  map.nodup_keys.of_map Prod.fst

theorem eq_of_mem_of_key_eq {map : KeyMap} {a b : String × String} (ha : a ∈ map.entries)
    (hb : b ∈ map.entries) (h : a.1 = b.1) : a = b := by
  obtain ⟨key, value⟩ := a
  obtain ⟨key', value'⟩ := b
  obtain rfl : key = key' := h
  have hvalue := (get?_eq_some_iff.mpr ha).symm.trans (get?_eq_some_iff.mpr hb)
  rw [Option.some.inj hvalue]

/-! ## Sameness -/

/-- Two maps are the same exactly if their entries are the same up to order. -/
theorem same_iff_perm {a b : KeyMap} : a.same b = true ↔ a.entries.Perm b.entries := by
  have hall : (a.entries.all fun entry => b.get? entry.1 == some entry.2) = true ↔
      a.entries ⊆ b.entries := by
    simp only [List.all_eq_true, beq_iff_eq, get?_eq_some_iff]
    rfl
  rw [same, Bool.and_eq_true, hall, beq_iff_eq]
  constructor
  · rintro ⟨hsize, hsub⟩
    exact (a.nodup_entries.subperm hsub).perm_of_length_le (Nat.le_of_eq hsize.symm)
  · intro h
    exact ⟨h.length_eq, h.subset⟩

/-! ## The sorted view -/

theorem sorted_pairwise (map : KeyMap) : map.sorted.Pairwise fun a b => a.1 ≤ b.1 := by
  have h : map.sorted.Pairwise fun a b => decide (a.1 ≤ b.1) = true := by
    apply List.pairwise_mergeSort
    · intro a b c hab hbc
      simp only [decide_eq_true_eq] at hab hbc ⊢
      exact String.le_trans hab hbc
    · intro a b
      simpa using String.le_total a.1 b.1
  simpa using h

theorem sorted_strict (map : KeyMap) : map.sorted.Pairwise fun a b => a.1 < b.1 := by
  have hkeys : (map.sorted.map Prod.fst).Nodup :=
    (map.sorted_perm.map Prod.fst).nodup_iff.mpr map.nodup_keys
  have hne : map.sorted.Pairwise fun a b => a.1 ≠ b.1 := List.pairwise_map.mp hkeys
  exact (map.sorted_pairwise.and hne).imp fun ⟨hle, hne⟩ => Std.lt_of_le_of_ne hle hne

/-- The entries of a map can be brought into the order of their keys in one way only. -/
theorem eq_sorted_of_perm {map : KeyMap} {view : List (String × String)}
    (hperm : view.Perm map.entries) (hview : view.Pairwise fun a b => a.1 ≤ b.1) :
    view = map.sorted := by
  apply List.Perm.eq_of_pairwise ?_ hview map.sorted_pairwise (hperm.trans map.sorted_perm.symm)
  intro x y hx hy hxy hyx
  exact eq_of_mem_of_key_eq (hperm.mem_iff.mp hx) (map.sorted_perm.mem_iff.mp hy)
    (String.le_antisymm hxy hyx)

theorem sorted_eq_of_perm {a b : KeyMap} (h : a.entries.Perm b.entries) :
    a.sorted = b.sorted :=
  eq_sorted_of_perm (a.sorted_perm.trans h) a.sorted_pairwise

theorem same_iff_sorted_eq {a b : KeyMap} : a.same b = true ↔ a.sorted = b.sorted := by
  rw [same_iff_perm]
  constructor
  · exact sorted_eq_of_perm
  · intro h
    exact (h ▸ a.sorted_perm.symm).trans b.sorted_perm

end KeyMap

end DeviceConfig
