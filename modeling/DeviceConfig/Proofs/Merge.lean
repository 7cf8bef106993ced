import DeviceConfig.Proofs.Collection
import DeviceConfig.Proofs.KeyMap

/-!
# Collections of parts, merged

A module is collected with one ledger for all of its sections, and a package with one for
all of its modules, so a part meets the keys of the parts before it. The outcome is still
that of collecting each part on its own and merging what the collections return.
-/

namespace DeviceConfig

open List

/-! ## Merged maps -/

/-- The entries of maps, in order, that are chosen in view of the maps before their own. -/
def chooseByEarlier (choose : List KeyMap → String × String → Bool) (maps : List KeyMap) :
    List (String × String) :=
  maps.zipIdx.flatMap fun (map, i) => map.entries.filter (choose (maps.take i))

/-- The entries of maps whose key is in no earlier map. -/
def mergedEntries (maps : List KeyMap) : List (String × String) :=
  chooseByEarlier (fun earlier entry => ∀ map ∈ earlier, entry.1 ∉ map.keys) maps

/-- The entries of maps whose key is in an earlier map already. -/
def droppedEntries (maps : List KeyMap) : List (String × String) :=
  chooseByEarlier (fun earlier entry => ∃ map ∈ earlier, entry.1 ∈ map.keys) maps

theorem chooseByEarlier_concat (choose : List KeyMap → String × String → Bool)
    (maps : List KeyMap) (map : KeyMap) :
    chooseByEarlier choose (maps ++ [map]) =
      chooseByEarlier choose maps ++ map.entries.filter (choose maps) := by
  have hleft : (maps.zipIdx.flatMap fun (m, i) =>
        m.entries.filter (choose ((maps ++ [map]).take i))) = chooseByEarlier choose maps := by
    apply List.flatMap_congr
    rintro ⟨m, i⟩ hm
    have hi : i < maps.length := by simpa using List.snd_lt_of_mem_zipIdx hm
    simp [List.take_append_of_le_length (Nat.le_of_lt hi)]
  rw [chooseByEarlier, List.zipIdx_append, List.flatMap_append, hleft]
  simp

section Parts

variable {α : Type*} {generate : α → List (String × String)} {collected : α → KeyMap}

theorem mem_keys_flatMap_iff (h : ∀ x, (collected x).entries = firstPairs (generate x))
    {parts : List α} {key : String} :
    key ∈ (parts.flatMap generate).map Prod.fst ↔ ∃ map ∈ parts.map collected, key ∈ map.keys := by
  have hkeys : ∀ x, key ∈ (collected x).keys ↔ key ∈ (generate x).map Prod.fst := by
    intro x
    rw [KeyMap.keys, h, mem_keys_firstPairs]
  simp only [List.map_flatMap, List.mem_flatMap, List.mem_map, exists_exists_and_eq_and, hkeys]

/-- The first pairs of all parts are those of each part, merged. -/
theorem firstPairs_flatMap (h : ∀ x, (collected x).entries = firstPairs (generate x))
    (parts : List α) :
    firstPairs (parts.flatMap generate) = mergedEntries (parts.map collected) := by
  induction parts using List.reverseRecOn with
  | nil => rfl
  | append_singleton parts x ih =>
      rw [List.flatMap_append, List.flatMap_singleton, firstPairs_append, ih, List.map_append,
        List.map_singleton, mergedEntries, mergedEntries, chooseByEarlier_concat, h]
      congr 1
      apply List.filter_congr
      intro pair _
      simp only [decide_eq_decide, mem_keys_flatMap_iff h]
      push Not
      rfl

/-- A key is repeated over all parts within a part, or because an earlier part has taken
the key of a first pair. -/
theorem repeatedKeys_flatMap_perm (h : ∀ x, (collected x).entries = firstPairs (generate x))
    (parts : List α) :
    repeatedKeys (parts.flatMap generate) ~
      parts.flatMap (fun x => repeatedKeys (generate x)) ++
        (droppedEntries (parts.map collected)).map Prod.fst := by
  induction parts using List.reverseRecOn with
  | nil => simp [droppedEntries, chooseByEarlier]
  | append_singleton parts x ih =>
      have hdropped : droppedEntries ((parts ++ [x]).map collected) =
          droppedEntries (parts.map collected) ++ (firstPairs (generate x)).filter
            fun pair => pair.1 ∈ (parts.flatMap generate).map Prod.fst := by
        rw [List.map_append, List.map_singleton, droppedEntries, droppedEntries,
          chooseByEarlier_concat, h]
        congr 1
        apply List.filter_congr
        intro pair _
        simp only [mem_keys_flatMap_iff h]
      rw [List.flatMap_append, List.flatMap_singleton, hdropped, List.flatMap_append,
        List.flatMap_singleton, List.map_append]
      refine (repeatedKeys_append_perm _ _).trans ((ih.append_right _).trans ?_)
      rw [List.append_assoc, List.append_assoc]
      exact (perm_append_comm_assoc _ _ _).append_left _

end Parts

/-! ## Merged collections -/

/-- What a collection returns. -/
abbrev Collected := Except Conflict KeyMap

namespace Collected

/-- The map, complete or as far as it was kept. -/
def kept : Collected → KeyMap
  | .ok map => map
  | .error conflict => conflict.kept

/-- The duplicates, none if the collection succeeded. -/
def duplicates : Collected → DuplicateKeys
  | .ok _ => {}
  | .error conflict => conflict.duplicates

/-- A collection that returns what its parts return together. Of an entry whose key an
earlier part has kept, only the key is left, as a duplicate. -/
structure Merges (whole : Collected) (parts : List Collected) : Prop where
  entries : whole.kept.entries = mergedEntries (parts.map kept)
  duplicates : whole.duplicates.keys ~ parts.flatMap (fun part => part.duplicates.keys) ++
    (droppedEntries (parts.map kept)).map Prod.fst
  isOk_iff : whole.isOk = true ↔ (∀ part ∈ parts, part.isOk = true) ∧
    parts.Pairwise fun a b => a.kept.keys.Disjoint b.kept.keys

end Collected

theorem Ledger.kept_result (ledger : Ledger) : Collected.kept ledger.result = ledger.kept := by
  rw [result]
  split <;> rfl

theorem Ledger.duplicates_result (ledger : Ledger) :
    Collected.duplicates ledger.result = ledger.duplicates := by
  rw [result]
  split
  · next h =>
      obtain ⟨_, ⟨keys⟩, _⟩ := ledger
      obtain rfl : keys = [] := List.isEmpty_iff.mp h
      rfl
  · rfl

theorem Ledger.isOk_result (ledger : Ledger) :
    ledger.result.isOk = ledger.duplicates.isEmpty := by
  rw [result]
  split
  · next h => rw [h]; rfl
  · next h => rw [Bool.eq_false_iff.mpr h]; rfl

/-- A source that generates what its parts generate, one after the other, is collected as
the parts are, merged. -/
theorem Source.collect_merges {α : Type} {kind : CollectionKind} {whole : Source}
    {part : α → Source} {parts : List α}
    (h : whole.generated kind = parts.flatMap fun x => (part x).generated kind) :
    Collected.Merges (whole.collect kind).result
      (parts.map fun x => ((part x).collect kind).result) := by
  have hwhole := whole.collect_accounts kind
  have hpart := fun x => (part x).collect_accounts kind
  have hkept : (parts.map fun x => ((part x).collect kind).result).map Collected.kept =
      parts.map fun x => ((part x).collect kind).kept := by
    rw [List.map_map]
    exact List.map_congr_left fun x _ => Ledger.kept_result _
  constructor
  · rw [Ledger.kept_result, hwhole.kept, h, hkept]
    exact firstPairs_flatMap (fun x => (hpart x).kept) parts
  · rw [Ledger.duplicates_result, hwhole.duplicates, h, hkept, List.flatMap_map]
    simp only [Ledger.duplicates_result, (hpart _).duplicates]
    exact repeatedKeys_flatMap_perm (fun x => (hpart x).kept) parts
  · rw [Ledger.isOk_result, hwhole.isEmpty_iff, h, List.map_flatMap, List.nodup_flatMap,
      List.pairwise_map]
    simp only [List.forall_mem_map, Ledger.isOk_result, (hpart _).isEmpty_iff, Ledger.kept_result]
    refine and_congr_right fun _ => ?_
    have hdisjoint : ∀ x y, (Function.onFun Disjoint fun x =>
          ((part x).generated kind).map Prod.fst) x y ↔
        ((part x).collect kind).kept.keys.Disjoint ((part y).collect kind).kept.keys := by
      intro x y
      simp only [Function.onFun, List.Disjoint, (hpart _).mem_keys_iff]
    exact ⟨fun hp => hp.imp fun h => (hdisjoint _ _).mp h,
      fun hp => hp.imp fun h => (hdisjoint _ _).mpr h⟩

/-- A package is collected as its modules are, merged, and a module is collected as its
sections are, merged. -/
theorem collect_eq_merge (kind : CollectionKind) :
    (∀ package : Package, Collected.Merges (package.collect kind).result
      (package.modules.map fun module => (module.collect kind package.name.text).result)) ∧
    (∀ (scope : String) (module : Module), Collected.Merges (module.collect kind scope).result
      (module.sections.map fun part => (part.collect kind (module.fullName scope)).result)) := by
  constructor
  · intro package
    have hgenerated : (Source.ofPackage package).generated kind =
        package.modules.flatMap fun module =>
          (Source.ofModule package.name.text module).generated kind := List.flatMap_assoc
    exact Source.collect_merges hgenerated
  · intro scope module
    have hgenerated : (Source.ofModule scope module).generated kind =
        module.sections.flatMap fun part =>
          (Source.ofSection (module.fullName scope) part).generated kind := List.flatMap_assoc
    exact Source.collect_merges hgenerated

end DeviceConfig
