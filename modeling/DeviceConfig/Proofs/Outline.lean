import DeviceConfig.Proofs.Merge
import DeviceConfig.Proofs.Passes

/-!
# The outline of a model

The outline of a model is its names, without fields and templates. It alone decides which
keys of commands are kept and which are rejected, so the install and the uninstall pass
always agree, and a refused compilation shows both of them or neither.
-/

namespace DeviceConfig

/-! ## Outlines -/

/-- An element without its fields and templates. -/
def Element.outline (element : Element) : Element where
  name := element.name

/-- A section whose elements have no fields and templates. -/
def Section.outline (part : Section) : Section :=
  { part with elements := part.elements.map Element.outline }

/-- A module whose elements have no fields and templates. -/
def Module.outline (module : Module) : Module :=
  { module with sections := module.sections.map Section.outline }

/-- A package whose elements have no fields and templates. -/
def Package.outline (package : Package) : Package :=
  { package with modules := package.modules.map Module.outline }

/-- A source whose elements have no fields and templates. -/
def Source.outline : Source → Source
  | .ofPackage package => .ofPackage package.outline
  | .ofModule scope module => .ofModule scope module.outline
  | .ofSection scope part => .ofSection scope part.outline

theorem Section.keys_outline (scope : String) (part : Section) :
    (part.outline.declarations scope).map Declaration.key =
      (part.declarations scope).map Declaration.key := by
  simp only [declarations, outline, List.map_map]
  rfl

theorem Module.keys_outline (scope : String) (module : Module) :
    (module.outline.declarations scope).map Declaration.key =
      (module.declarations scope).map Declaration.key := by
  have hscope : module.outline.fullName scope = module.fullName scope := rfl
  simp only [declarations, hscope, List.map_flatMap]
  simp only [outline, List.flatMap_map, Section.keys_outline]

theorem Package.keys_outline (package : Package) :
    package.outline.declarations.map Declaration.key =
      package.declarations.map Declaration.key := by
  simp only [declarations, List.map_flatMap]
  simp only [outline, List.flatMap_map, Module.keys_outline]

theorem Source.keys_outline (source : Source) :
    source.outline.declarations.map Declaration.key =
      source.declarations.map Declaration.key := by
  cases source with
  | ofPackage package => exact package.keys_outline
  | ofModule scope module => exact module.keys_outline scope
  | ofSection scope part => exact part.keys_outline scope

/-! ## Collected commands -/

theorem Source.keys_generated_expressions (source : Source) (use : ExpressionKind) :
    (source.generated (.expressions use)).map Prod.fst =
      source.declarations.map Declaration.key := by
  rw [generated, List.map_flatMap, List.map_eq_flatMap]
  rfl

/-- Two collections that succeed or fail together, with the same keys kept and rejected. -/
structure Collected.SameKeys (a b : Collected) : Prop where
  isOk_eq : a.isOk = b.isOk
  keys : a.kept.keys = b.kept.keys
  duplicates : a.duplicates = b.duplicates

/-- Sources of one outline generate the same keys of commands, for either use. -/
theorem Source.keys_generated_of_outline_eq {a b : Source} (h : a.outline = b.outline)
    (use use' : ExpressionKind) :
    (a.generated (.expressions use)).map Prod.fst =
      (b.generated (.expressions use')).map Prod.fst :=
  calc
    (a.generated (.expressions use)).map Prod.fst = a.declarations.map Declaration.key :=
      a.keys_generated_expressions use
    _ = a.outline.declarations.map Declaration.key := a.keys_outline.symm
    _ = b.outline.declarations.map Declaration.key := by rw [h]
    _ = b.declarations.map Declaration.key := b.keys_outline
    _ = (b.generated (.expressions use')).map Prod.fst :=
      (b.keys_generated_expressions use').symm

theorem DuplicateKeys.eq_of_keys_eq {a b : DuplicateKeys} (h : a.keys = b.keys) : a = b := by
  cases a
  cases b
  exact congrArg DuplicateKeys.mk h

theorem Ledger.Accounts.sameKeys {a b : Ledger} {xs ys : List (String × String)}
    (ha : a.Accounts xs) (hb : b.Accounts ys) (h : xs.map Prod.fst = ys.map Prod.fst) :
    Collected.SameKeys a.result b.result := by
  have hduplicates : a.duplicates = b.duplicates := by
    apply DuplicateKeys.eq_of_keys_eq
    rw [ha.duplicates, hb.duplicates, repeatedKeys_congr h]
  constructor
  · rw [isOk_result, isOk_result, hduplicates]
  · rw [kept_result, kept_result, KeyMap.keys, KeyMap.keys, ha.kept, hb.kept]
    exact keys_firstPairs_congr h
  · rw [duplicates_result, duplicates_result, hduplicates]

/-! ## Refused compilations -/

/-- An error in which the two passes over commands agree and every part says the same. -/
structure CompileError.Coherent (error : CompileError) : Prop where
  install_eq_uninstall : error.installDuplicates = error.uninstallDuplicates
  first : match error.fieldDuplicates.keys, error.installDuplicates.keys with
    | key :: _, _ => error.first? = some ⟨key⟩
    | [], key :: _ => error.first? = some ⟨key⟩
    | [], [] => False
  kept : ∀ kind, ∀ key ∈ (error.ofPass kind).keys, key ∈ (error.kept.ofPass kind).keys
  message : error.message = "compilation failed with duplicate keys - " ++ "; ".intercalate
    ((if error.fieldDuplicates.isEmpty then []
      else ["field pass: " ++ error.fieldDuplicates.message]) ++
    (if error.installDuplicates.isEmpty then []
      else ["install pass: " ++ error.installDuplicates.message,
        "uninstall pass: " ++ error.installDuplicates.message]))

/-- A compilation that succeeds exactly if its field pass and its install pass do, with a
coherent error otherwise. -/
structure Compilation.Coherent (compilation : Compilation) (pass : CollectionKind → Collected) :
    Prop where
  ok_iff : (∃ set, compilation.result = .ok set) ↔
    (pass .fields).isOk = true ∧ (pass (.expressions .install)).isOk = true
  keys : compilation.kept.install.keys = compilation.kept.uninstall.keys
  error : ∀ error, compilation.result = .error error → error.Coherent

theorem DuplicateKeys.first?_of_keys_eq {duplicates : DuplicateKeys} {key : String}
    {more : List String} (h : duplicates.keys = key :: more) : duplicates.first? = some ⟨key⟩ := by
  rw [first?, h]
  rfl

theorem DuplicateKeys.first?_of_keys_eq_nil {duplicates : DuplicateKeys}
    (h : duplicates.keys = []) : duplicates.first? = none := by
  rw [first?, h]
  rfl

theorem CompileError.failedPasses_eq {error : CompileError}
    (h : error.installDuplicates = error.uninstallDuplicates) :
    error.failedPasses =
      (if error.fieldDuplicates.isEmpty then [] else [("field", error.fieldDuplicates)]) ++
      (if error.installDuplicates.isEmpty then []
        else [("install", error.installDuplicates), ("uninstall", error.installDuplicates)]) := by
  rw [failedPasses, ← h]
  cases hfield : error.fieldDuplicates.isEmpty <;>
    cases hinstall : error.installDuplicates.isEmpty <;>
    simp only [List.filter_cons, List.filter_nil, hfield, hinstall] <;> rfl

theorem CompileError.message_eq {error : CompileError}
    (h : error.installDuplicates = error.uninstallDuplicates) :
    error.message = "compilation failed with duplicate keys - " ++ "; ".intercalate
      ((if error.fieldDuplicates.isEmpty then []
        else ["field pass: " ++ error.fieldDuplicates.message]) ++
      (if error.installDuplicates.isEmpty then []
        else ["install pass: " ++ error.installDuplicates.message,
          "uninstall pass: " ++ error.installDuplicates.message])) := by
  have hfield : "field" ++ " pass: " = "field pass: " := by decide
  have hinstall : "install" ++ " pass: " = "install pass: " := by decide
  have huninstall : "uninstall" ++ " pass: " = "uninstall pass: " := by decide
  have hmessage : error.message = "compilation failed with duplicate keys - " ++
      "; ".intercalate (error.failedPasses.map fun pass =>
        pass.1 ++ " pass: " ++ pass.2.message) := rfl
  rw [hmessage, failedPasses_eq h, List.map_append]
  cases error.fieldDuplicates.isEmpty <;> cases error.installDuplicates.isEmpty <;>
    simp only [Bool.false_eq_true, if_true, if_false, List.map_cons, List.map_nil, hfield,
      hinstall, huninstall]

/-- An error is coherent if the passes over commands met the same duplicates, some pass met
one, and no duplicate is absent from the map of its pass. -/
theorem CompileError.coherent {error : CompileError}
    (hpasses : error.installDuplicates = error.uninstallDuplicates)
    (hsome : error.fieldDuplicates.keys ≠ [] ∨ error.installDuplicates.keys ≠ [])
    (hkept : ∀ kind, ∀ key ∈ (error.ofPass kind).keys, key ∈ (error.kept.ofPass kind).keys) :
    error.Coherent := by
  refine ⟨hpasses, ?_, hkept, message_eq hpasses⟩
  cases hfield : error.fieldDuplicates.keys with
  | cons key more =>
      simp only [first?, DuplicateKeys.first?_of_keys_eq hfield]
      rfl
  | nil =>
      cases hinstall : error.installDuplicates.keys with
      | cons key more =>
          simp only [first?, DuplicateKeys.first?_of_keys_eq_nil hfield,
            DuplicateKeys.first?_of_keys_eq hinstall]
          rfl
      | nil => simp [hfield, hinstall] at hsome

/-! ## Compilations -/

theorem Source.isOk_collect_iff (source : Source) (kind : CollectionKind) :
    (source.collect kind).result.isOk = true ↔ ((source.generated kind).map Prod.fst).Nodup := by
  rw [Ledger.isOk_result, (source.collect_accounts kind).isEmpty_iff]

theorem Compilation.Accounts.coherent {compilation : Compilation} {source : Source}
    (h : compilation.Accounts fun kind => source.generated kind) :
    compilation.Coherent fun kind => (source.collect kind).result := by
  have huses := source.keys_generated_of_outline_eq rfl .install .uninstall
  constructor
  · rw [h.ok_iff, CollectionKind.forall_iff, ← huses, and_self, source.isOk_collect_iff,
      source.isOk_collect_iff]
  · have hinstall := h.kept (.expressions .install)
    have huninstall := h.kept (.expressions .uninstall)
    simp only [CommandSet.ofPass] at hinstall huninstall
    rw [KeyMap.keys, KeyMap.keys, hinstall, huninstall, keys_firstPairs_congr huses]
  · intro error herror
    obtain ⟨hrefused, hpasses⟩ := h.error herror
    have hinstall := (hpasses (.expressions .install)).2
    have huninstall := (hpasses (.expressions .uninstall)).2
    simp only [CompileError.ofPass] at hinstall huninstall
    apply CompileError.coherent
    · apply DuplicateKeys.eq_of_keys_eq
      rw [hinstall, huninstall, repeatedKeys_congr huses]
    · have hfields := (hpasses .fields).2
      simp only [CompileError.ofPass] at hfields
      by_contra hnone
      push Not at hnone
      rw [hfields, hinstall, repeatedKeys_eq_nil_iff, repeatedKeys_eq_nil_iff] at hnone
      apply hrefused
      rw [CollectionKind.forall_iff, ← huses, and_self]
      exact hnone
    · intro kind key hkey
      rw [(hpasses kind).2] at hkey
      rw [KeyMap.keys, (hpasses kind).1, mem_keys_firstPairs]
      exact mem_keys_of_mem_repeatedKeys hkey

/-- The outline of a model decides which keys of commands are kept and which are rejected, for
either use. So a compilation succeeds exactly if its field pass and its install pass do, and
every error of a compilation is coherent. -/
theorem compile_coherent :
    (∀ a b : Source, a.outline = b.outline → ∀ use use', Collected.SameKeys
      (a.collect (.expressions use)).result (b.collect (.expressions use')).result) ∧
    (∀ package : Package,
      package.compile.Coherent fun kind => (package.collect kind).result) ∧
    (∀ (scope : String) (module : Module),
      (module.compile scope).Coherent fun kind => (module.collect kind scope).result) := by
  refine ⟨?_, ?_, ?_⟩
  · intro a b h use use'
    exact (a.collect_accounts _).sameKeys (b.collect_accounts _)
      (Source.keys_generated_of_outline_eq h use use')
  · exact fun package => package.compile_accounts.coherent
  · exact fun scope module => (module.compile_accounts scope).coherent

/-- A package with two elements of one name in one section. -/
def twinPackage (fields : List Field) (install : String) : Package where
  name := ⟨"p"⟩
  modules :=
    [⟨⟨"m"⟩, [⟨⟨"s"⟩, [⟨⟨"e"⟩, fields, { install }⟩, ⟨⟨"e"⟩, [], {}⟩, ⟨⟨"d"⟩, fields, {}⟩]⟩]⟩]

theorem compile_coherent_twins :
    (Source.ofPackage (twinPackage [] "")).outline =
      (Source.ofPackage (twinPackage [⟨⟨"a"⟩, "1"⟩, ⟨⟨"a"⟩, "2"⟩] "set {{a}}")).outline ∧
    Collected.SameKeys
      ((Source.ofPackage (twinPackage [] "")).collect (.expressions .uninstall)).result
      ((Source.ofPackage (twinPackage [⟨⟨"a"⟩, "1"⟩, ⟨⟨"a"⟩, "2"⟩] "set {{a}}")).collect
        (.expressions .install)).result ∧
    ∃ error, (twinPackage [⟨⟨"a"⟩, "1"⟩] "set {{a}}").compile.result = .error error ∧
      error.first? = some ⟨"p.m.s.e"⟩ ∧
      error.message = "compilation failed with duplicate keys - " ++
        "install pass: 1 duplicate key(s): `p.m.s.e`; " ++
        "uninstall pass: 1 duplicate key(s): `p.m.s.e`" := by
  have houtline : (Source.ofPackage (twinPackage [] "")).outline =
      (Source.ofPackage (twinPackage [⟨⟨"a"⟩, "1"⟩, ⟨⟨"a"⟩, "2"⟩] "set {{a}}")).outline := rfl
  refine ⟨houtline, compile_coherent.1 _ _ houtline _ _, ?_⟩
  let package := twinPackage [⟨⟨"a"⟩, "1"⟩] "set {{a}}"
  have hfields : package.compile.duplicates .fields = ⟨[]⟩ := by decide +kernel
  have hinstall : package.compile.duplicates (.expressions .install) = ⟨["p.m.s.e"]⟩ := by
    decide +kernel
  cases hresult : package.compile.result with
  | ok set => simp [Compilation.duplicates, hresult] at hinstall
  | error error =>
      have hcoherent := (compile_coherent.2.1 package).error error hresult
      simp only [Compilation.duplicates, hresult, CompileError.ofPass] at hfields hinstall
      have hfirst := hcoherent.first
      rw [hfields, hinstall] at hfirst
      refine ⟨error, rfl, hfirst, ?_⟩
      rw [hcoherent.message, hfields, hinstall]
      decide +kernel

end DeviceConfig
