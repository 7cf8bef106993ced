import DeviceConfig.Collection.Ledger
import Mathlib.Data.List.Nodup

/-!
# Generated pairs

A package, a module or a section is a tree of element declarations. Each declaration
generates pairs of a key and a value, and a walk over the tree generates them in the
order of the declarations, whether or not their keys are distinct.
-/

namespace DeviceConfig

/-- What can be collected: a package, a module resolved in a scope, or a section
resolved in a scope. -/
inductive Source where
  | ofPackage (package : Package)
  | ofModule (scope : String) (module : Module)
  | ofSection (scope : String) (part : Section)

/-- Collects a source. -/
def Source.collect (kind : CollectionKind) : Source → Ledger
  | .ofPackage package => package.collect kind
  | .ofModule scope module => module.collect kind scope
  | .ofSection scope part => part.collect kind scope

/-! ## Declarations -/

/-- An element in its place: the section that declares it, and the scope in which that
section is resolved. -/
structure Declaration where
  scope : String
  part : SectionName
  element : Element

/-- The declarations of a section that is resolved in a scope. -/
def Section.declarations (scope : String) (part : Section) : List Declaration :=
  part.elements.map fun element => ⟨scope, part.name, element⟩

/-- The declarations of a module. Its sections are resolved in its own qualified name. -/
def Module.declarations (scope : String) (module : Module) : List Declaration :=
  module.sections.flatMap (Section.declarations (module.fullName scope))

/-- The declarations of a package. Its modules are resolved in its name. -/
def Package.declarations (package : Package) : List Declaration :=
  package.modules.flatMap (Module.declarations package.name.text)

/-- The declarations of a source, in the order of a walk over it. -/
def Source.declarations : Source → List Declaration
  | .ofPackage package => package.declarations
  | .ofModule scope module => module.declarations scope
  | .ofSection scope part => part.declarations scope

theorem Package.mem_declarations {package : Package} {module : Module} {part : Section}
    {element : Element} (hmodule : module ∈ package.modules) (hpart : part ∈ module.sections)
    (helement : element ∈ part.elements) :
    ⟨module.fullName package.name.text, part.name, element⟩ ∈ package.declarations :=
  List.mem_flatMap.mpr ⟨module, hmodule, List.mem_flatMap.mpr
    ⟨part, hpart, List.mem_map.mpr ⟨element, helement, rfl⟩⟩⟩

theorem Module.mem_declarations {scope : String} {module : Module} {part : Section}
    {element : Element} (hpart : part ∈ module.sections) (helement : element ∈ part.elements) :
    ⟨module.fullName scope, part.name, element⟩ ∈ module.declarations scope :=
  List.mem_flatMap.mpr ⟨part, hpart, List.mem_map.mpr ⟨element, helement, rfl⟩⟩

/-! ## Pairs -/

namespace Declaration

/-- The key of the declared element. -/
def key (declaration : Declaration) : String :=
  elementKey declaration.scope declaration.part declaration.element.name

/-- The template of the declared element for one use, resolved against its own fields. -/
def resolved (kind : ExpressionKind) (declaration : Declaration) : Resolved :=
  promote declaration.element.fieldIds (fieldKey declaration.key)
    (declaration.element.expressions.get kind)

/-- The pairs of a declaration: one for each field, with its data expanded, or one for
the resolved template. -/
def pairs (kind : CollectionKind) (declaration : Declaration) : List (String × String) :=
  match kind with
  | .fields => declaration.element.fields.map fun field =>
      (fieldKey declaration.key field.id, expandSection declaration.part field.data)
  | .expressions kind => [(declaration.key, (declaration.resolved kind).text)]

@[simp] theorem pairs_fields (declaration : Declaration) :
    declaration.pairs .fields = declaration.element.fields.map fun field =>
      (fieldKey declaration.key field.id, expandSection declaration.part field.data) :=
  rfl

@[simp] theorem pairs_expressions (kind : ExpressionKind) (declaration : Declaration) :
    declaration.pairs (.expressions kind) = [(declaration.key, (declaration.resolved kind).text)] :=
  rfl

theorem map_pair_entries (kind : CollectionKind) (declaration : Declaration) :
    (declaration.element.entries kind declaration.scope declaration.part).map Entry.pair =
      declaration.pairs kind := by
  cases kind with
  | fields => simp [Element.entries, Element.fieldEntries, Entry.pair, key, Function.comp_def]
  | expressions kind => rfl

end Declaration

/-- The pairs that a source generates. -/
def Source.generated (kind : CollectionKind) (source : Source) : List (String × String) :=
  source.declarations.flatMap (Declaration.pairs kind)

theorem Source.mem_generated_fields {source : Source} {declaration : Declaration} {field : Field}
    (hd : declaration ∈ source.declarations) (hfield : field ∈ declaration.element.fields) :
    (fieldKey declaration.key field.id, expandSection declaration.part field.data) ∈
      source.generated .fields :=
  List.mem_flatMap.mpr ⟨declaration, hd, List.mem_map.mpr ⟨field, hfield, rfl⟩⟩

/-- Distinct field keys leave no id that an element declares twice. -/
theorem Source.fieldIds_nodup {source : Source} {declaration : Declaration}
    (hn : ((source.generated .fields).map Prod.fst).Nodup)
    (h : declaration ∈ source.declarations) : declaration.element.fieldIds.Nodup := by
  rw [Source.generated, List.map_flatMap, List.nodup_flatMap] at hn
  have hkeys := hn.1 declaration h
  rw [Declaration.pairs_fields, List.map_map] at hkeys
  apply List.Nodup.of_map (fieldKey declaration.key)
  rw [Element.fieldIds, List.map_map]
  exact hkeys

theorem Section.map_pair_entries (kind : CollectionKind) (scope : String) (part : Section) :
    (part.entries kind scope).map Entry.pair =
      (part.declarations scope).flatMap (Declaration.pairs kind) := by
  rw [Section.entries, Section.declarations, List.map_flatMap, List.flatMap_map]
  congr 1
  funext element
  exact Declaration.map_pair_entries kind ⟨scope, part.name, element⟩

end DeviceConfig
