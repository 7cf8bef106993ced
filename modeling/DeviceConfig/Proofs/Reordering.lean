import DeviceConfig.Proofs.KeyMap
import DeviceConfig.Proofs.Passes
import DeviceConfig.Proofs.Promotion
import Mathlib.Data.List.Perm.Basic

/-!
# The order of declarations

Two packages may declare the same parts in different orders, at every level at once.
Which of two values with one key is kept may depend on the order. Nothing else does:
neither whether the package compiles, nor the maps it compiles to, nor the keys that a
refused package keeps and reports.
-/

namespace DeviceConfig

open List

/-! ## Reordered packages -/

/-- One list is another one with its members in some order and related one by one. -/
def Rearranged {α : Type*} (related : α → α → Prop) (xs ys : List α) : Prop :=
  ∃ zs, xs ~ zs ∧ Forall₂ related zs ys

/-- Two elements that differ in the order of their fields only. -/
structure Element.Reordered (a b : Element) : Prop where
  name : a.name = b.name
  fields : a.fields ~ b.fields
  expressions : a.expressions = b.expressions

/-- Two sections that differ in the order of elements and within these only. -/
structure Section.Reordered (a b : Section) : Prop where
  name : a.name = b.name
  elements : Rearranged Element.Reordered a.elements b.elements

/-- Two modules that differ in the order of sections and within these only. -/
structure Module.Reordered (a b : Module) : Prop where
  name : a.name = b.name
  sections : Rearranged Section.Reordered a.sections b.sections

/-- Two packages that differ in the order of modules and within these only. -/
structure Package.Reordered (a b : Package) : Prop where
  name : a.name = b.name
  modules : Rearranged Module.Reordered a.modules b.modules

/-! ## Generated pairs -/

/-- Members that generate the same up to order do so in any order. -/
theorem Rearranged.flatMap_perm {α β : Type*} {related : α → α → Prop} {xs ys : List α}
    {f : α → List β} (h : Rearranged related xs ys)
    (hf : ∀ x y, related x y → f x ~ f y) : xs.flatMap f ~ ys.flatMap f := by
  obtain ⟨zs, hperm, hrelated⟩ := h
  have hmembers : Forall₂ (· ~ ·) (zs.map f) (ys.map f) := by
    rw [List.forall₂_map_left_iff, List.forall₂_map_right_iff]
    exact hrelated.imp hf
  exact (hperm.flatMap_right f).trans (Perm.flatten_congr hmembers)

theorem Element.Reordered.pairs_perm {a b : Element} (h : a.Reordered b) (kind : CollectionKind)
    (scope : String) (part : SectionName) :
    (⟨scope, part, a⟩ : Declaration).pairs kind ~ (⟨scope, part, b⟩ : Declaration).pairs kind := by
  have hkey : (⟨scope, part, a⟩ : Declaration).key = (⟨scope, part, b⟩ : Declaration).key := by
    simp only [Declaration.key, h.name]
  cases kind with
  | fields =>
      rw [Declaration.pairs_fields, Declaration.pairs_fields, hkey]
      exact h.fields.map _
  | expressions kind =>
      have hids : ∀ id, id ∈ a.fieldIds ↔ id ∈ b.fieldIds := fun id =>
        (h.fields.map Field.id).mem_iff
      have hresolved : (⟨scope, part, a⟩ : Declaration).resolved kind =
          (⟨scope, part, b⟩ : Declaration).resolved kind := by
        simp only [Declaration.resolved, hkey, h.expressions]
        exact promote_congr hids _ _
      rw [Declaration.pairs_expressions, Declaration.pairs_expressions, hkey, hresolved]

theorem Section.Reordered.pairs_perm {a b : Section} (h : a.Reordered b) (kind : CollectionKind)
    (scope : String) :
    (a.declarations scope).flatMap (Declaration.pairs kind) ~
      (b.declarations scope).flatMap (Declaration.pairs kind) := by
  rw [Section.declarations, Section.declarations, List.flatMap_map, List.flatMap_map, h.name]
  exact h.elements.flatMap_perm fun _ _ hxy => hxy.pairs_perm kind scope b.name

theorem Module.Reordered.pairs_perm {a b : Module} (h : a.Reordered b) (kind : CollectionKind)
    (scope : String) :
    (a.declarations scope).flatMap (Declaration.pairs kind) ~
      (b.declarations scope).flatMap (Declaration.pairs kind) := by
  have hscope : a.fullName scope = b.fullName scope := by
    simp only [Module.fullName, h.name]
  rw [Module.declarations, Module.declarations, List.flatMap_assoc, List.flatMap_assoc, hscope]
  exact h.sections.flatMap_perm fun _ _ hxy => hxy.pairs_perm kind (b.fullName scope)

/-- Reordered packages generate the same pairs up to order. -/
theorem Package.Reordered.generated_perm {a b : Package} (h : a.Reordered b)
    (kind : CollectionKind) :
    (Source.ofPackage a).generated kind ~ (Source.ofPackage b).generated kind := by
  simp only [Source.generated, Source.declarations, Package.declarations, List.flatMap_assoc,
    h.name]
  exact h.modules.flatMap_perm fun _ _ hxy => hxy.pairs_perm kind b.name.text

/-! ## Compilations -/

/-- The order of declarations does not matter to a compilation. Reordered packages both
compile, to the same maps, or are both refused, with the same keys kept and the same
duplicates up to order in every pass. -/
theorem Package.compile_reordered {a b : Package} (h : a.Reordered b) :
    ((∃ set, a.compile.result = .ok set) ↔ ∃ set, b.compile.result = .ok set) ∧
    (∀ set set', a.compile.result = .ok set → b.compile.result = .ok set' → ∀ kind,
      (set.ofPass kind).same (set'.ofPass kind) = true ∧
      (set.ofPass kind).sorted = (set'.ofPass kind).sorted) ∧
    (∀ error error', a.compile.result = .error error → b.compile.result = .error error' →
      ∀ kind,
        (∀ key, key ∈ (error.kept.ofPass kind).keys ↔ key ∈ (error'.kept.ofPass kind).keys) ∧
        (error.ofPass kind).keys ~ (error'.ofPass kind).keys) := by
  have ha := a.compile_accounts
  have hb := b.compile_accounts
  refine ⟨?_, ?_, ?_⟩
  · rw [ha.ok_iff, hb.ok_iff]
    exact forall_congr' fun kind => ((h.generated_perm kind).map Prod.fst).nodup_iff
  · intro set set' hset hset' kind
    have hperm : (set.ofPass kind).entries ~ (set'.ofPass kind).entries := by
      rw [(ha.ok hset kind).2, (hb.ok hset' kind).2]
      exact h.generated_perm kind
    exact ⟨KeyMap.same_iff_perm.mpr hperm, KeyMap.sorted_eq_of_perm hperm⟩
  · intro error error' herror herror' kind
    obtain ⟨hkept, hduplicates⟩ := (ha.error herror).2 kind
    obtain ⟨hkept', hduplicates'⟩ := (hb.error herror').2 kind
    constructor
    · intro key
      rw [KeyMap.keys, KeyMap.keys, hkept, hkept']
      exact (keys_firstPairs_perm (h.generated_perm kind)).mem_iff
    · rw [hduplicates, hduplicates']
      exact repeatedKeys_perm (h.generated_perm kind)

/-- An element whose declared placeholders overlap at the start of its template. -/
def overlappingElement (fields : List Field) : Element where
  name := ⟨"e"⟩
  fields := fields
  expressions := { install := "\x7b\x7ba\x7d\x7db\x7d\x7d" }

def declaredForward : Package where
  name := ⟨"p"⟩
  modules :=
    [⟨⟨"m"⟩, []⟩,
      ⟨⟨"n"⟩,
        [⟨⟨"s"⟩, []⟩,
          ⟨⟨"t"⟩,
            [⟨⟨"d"⟩, [], {}⟩,
              overlappingElement [⟨⟨"a"⟩, "1"⟩, ⟨⟨"a\x7d\x7db"⟩, "2"⟩]]⟩]⟩]

/-- The same parts declared in the opposite order at every level. -/
def declaredBackward : Package where
  name := ⟨"p"⟩
  modules :=
    [⟨⟨"n"⟩,
        [⟨⟨"t"⟩,
            [overlappingElement [⟨⟨"a\x7d\x7db"⟩, "2"⟩, ⟨⟨"a"⟩, "1"⟩],
              ⟨⟨"d"⟩, [], {}⟩]⟩,
          ⟨⟨"s"⟩, []⟩]⟩,
      ⟨⟨"m"⟩, []⟩]

theorem compile_reordered_overlapping :
    declaredForward.Reordered declaredBackward ∧
    ∃ set set', declaredForward.compile.result = .ok set ∧
      declaredBackward.compile.result = .ok set' ∧
      set.fields.entries ≠ set'.fields.entries ∧ set.fields.sorted = set'.fields.sorted := by
  have h : declaredForward.Reordered declaredBackward := by
    refine ⟨rfl, _, Perm.swap _ _ _, .cons ⟨rfl, _, Perm.swap _ _ _, ?_⟩ ?_⟩
    · refine .cons ⟨rfl, _, Perm.swap _ _ _, ?_⟩ (.cons ⟨rfl, [], .refl _, .nil⟩ .nil)
      exact .cons ⟨rfl, Perm.swap _ _ _, rfl⟩ (.cons ⟨rfl, .refl _, rfl⟩ .nil)
    · exact .cons ⟨rfl, [], .refl _, .nil⟩ .nil
  obtain ⟨hiff, hok, _⟩ := Package.compile_reordered h
  have hforward : ∃ set, declaredForward.compile.result = .ok set :=
    declaredForward.compile_accounts.ok_iff.mpr (CollectionKind.forall_iff.mpr (by decide +kernel))
  obtain ⟨set, hset⟩ := hforward
  obtain ⟨set', hset'⟩ := hiff.mp ⟨set, hset⟩
  refine ⟨h, set, set', hset, hset', ?_, (hok set set' hset hset' .fields).2⟩
  have hentries := (declaredForward.compile_accounts.ok hset .fields).2
  have hentries' := (declaredBackward.compile_accounts.ok hset' .fields).2
  simp only [CommandSet.ofPass] at hentries hentries'
  rw [hentries, hentries']
  decide +kernel

end DeviceConfig
