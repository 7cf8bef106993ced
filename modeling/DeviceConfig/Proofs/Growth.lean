import DeviceConfig.Compilation.Growth
import DeviceConfig.Proofs.KeyMap
import DeviceConfig.Proofs.Passes
import DeviceConfig.Proofs.Promotion

/-!
# What a growing package keeps

A package grows at its end. A new module, section or element only adds declarations, so
every pass keeps what it has collected and reported. A new field changes the declaration
of the last element, whose command may change with it, and adds one field at the end.
-/

namespace DeviceConfig

/-! ## The last member -/

/-- A change of the last member splits the list in front of it. -/
theorem exists_of_onLast? {α : Type} {change : α → Option α} {xs ys : List α}
    (h : onLast? change xs = some ys) :
    ∃ init x y, xs = init ++ [x] ∧ change x = some y ∧ ys = init ++ [y] := by
  fun_induction onLast? change xs generalizing ys with
  | case1 => simp at h
  | case2 x =>
      obtain ⟨y, hy, rfl⟩ := Option.map_eq_some_iff.mp h
      exact ⟨[], x, y, rfl, hy, rfl⟩
  | case3 first second rest ih =>
      obtain ⟨changed, hchanged, rfl⟩ := Option.map_eq_some_iff.mp h
      obtain ⟨init, x, y, hxs, hy, rfl⟩ := ih hchanged
      exact ⟨first :: init, x, y, by rw [hxs]; rfl, hy, rfl⟩

theorem Package.exists_of_changeLast? {package grown : Package}
    {change : Module → Option Module} (h : package.changeLast? change = some grown) :
    ∃ init module changed, package.modules = init ++ [module] ∧ change module = some changed ∧
      grown = { package with modules := init ++ [changed] } := by
  obtain ⟨modules, hmodules, rfl⟩ := Option.map_eq_some_iff.mp h
  obtain ⟨init, module, changed, hold, hchange, rfl⟩ := exists_of_onLast? hmodules
  exact ⟨init, module, changed, hold, hchange, rfl⟩

theorem Module.exists_of_changeLast? {module grown : Module}
    {change : Section → Option Section} (h : module.changeLast? change = some grown) :
    ∃ init part changed, module.sections = init ++ [part] ∧ change part = some changed ∧
      grown = { module with sections := init ++ [changed] } := by
  obtain ⟨sections, hsections, rfl⟩ := Option.map_eq_some_iff.mp h
  obtain ⟨init, part, changed, hold, hchange, rfl⟩ := exists_of_onLast? hsections
  exact ⟨init, part, changed, hold, hchange, rfl⟩

theorem Section.exists_of_addField? {part grown : Section} {field : Field}
    (h : part.addField? field = some grown) :
    ∃ init element, part.elements = init ++ [element] ∧
      grown = { part with elements := init ++ [element.addField field] } := by
  obtain ⟨elements, helements, rfl⟩ := Option.map_eq_some_iff.mp h
  obtain ⟨init, element, changed, hold, hchange, rfl⟩ := exists_of_onLast? helements
  obtain rfl := Option.some.inj hchange
  exact ⟨init, element, hold, rfl⟩

/-! ## Declarations of a grown package -/

/-- The declaration of the last element of the last section of the last module. -/
def Package.lastDeclaration? (package : Package) : Option Declaration := do
  let module ← package.modules.getLast?
  let part ← module.sections.getLast?
  let element ← part.elements.getLast?
  return ⟨module.fullName package.name.text, part.name, element⟩

/-- A declaration whose element declares a further field. -/
def Declaration.addField (field : Field) (declaration : Declaration) : Declaration :=
  { declaration with element := declaration.element.addField field }

theorem Package.declarations_addModule (package : Package) (module : Module) :
    (package.addModule module).declarations =
      package.declarations ++ module.declarations package.name.text := by
  simp [addModule, declarations]

theorem Module.declarations_addSection (scope : String) (module : Module) (part : Section) :
    (module.addSection part).declarations scope =
      module.declarations scope ++ part.declarations (module.fullName scope) := by
  simp [addSection, declarations, fullName]

theorem Section.declarations_addElement (scope : String) (part : Section) (element : Element) :
    (part.addElement element).declarations scope =
      part.declarations scope ++ [⟨scope, part.name, element⟩] := by
  simp [addElement, declarations]

/-- A change that adds declarations to the last module adds them to the package. -/
theorem Package.declarations_prefix_of_changeLast? {package grown : Package}
    {change : Module → Option Module} (h : package.changeLast? change = some grown)
    (hchange : ∀ module changed scope, change module = some changed →
      module.declarations scope <+: changed.declarations scope) :
    package.declarations <+: grown.declarations := by
  obtain ⟨init, module, changed, hmodules, hchanged, rfl⟩ := exists_of_changeLast? h
  simp only [declarations, hmodules, List.flatMap_append, List.flatMap_singleton]
  exact (List.prefix_append_right_inj _).mpr (hchange module changed _ hchanged)

theorem Module.declarations_prefix_of_changeLast? {module grown : Module}
    {change : Section → Option Section} (h : module.changeLast? change = some grown)
    (hchange : ∀ part changed scope, change part = some changed →
      part.declarations scope <+: changed.declarations scope) (scope : String) :
    module.declarations scope <+: grown.declarations scope := by
  obtain ⟨init, part, changed, hsections, hchanged, rfl⟩ := exists_of_changeLast? h
  simp only [declarations, fullName, hsections, List.flatMap_append, List.flatMap_singleton]
  exact (List.prefix_append_right_inj _).mpr (hchange part changed _ hchanged)

/-- A new field changes the last declaration and no other. -/
theorem Package.declarations_newField {package grown : Package} {field : Field}
    (h : package.add? (.newField field) = some grown) :
    ∃ init last, package.lastDeclaration? = some last ∧ package.declarations = init ++ [last] ∧
      grown.declarations = init ++ [last.addField field] := by
  obtain ⟨modules, module, _, hmodules, hmodule, rfl⟩ := Package.exists_of_changeLast? h
  obtain ⟨sections, part, _, hsections, hpart, rfl⟩ := Module.exists_of_changeLast? hmodule
  obtain ⟨elements, element, helements, rfl⟩ := Section.exists_of_addField? hpart
  let scope := module.fullName package.name.text
  refine ⟨modules.flatMap (Module.declarations package.name.text) ++
      (sections.flatMap (Section.declarations scope) ++
        elements.map fun element => ⟨scope, part.name, element⟩),
    ⟨scope, part.name, element⟩, ?_, ?_, ?_⟩
  · simp [lastDeclaration?, hmodules, hsections, helements, scope]
  · simp [declarations, Module.declarations, Section.declarations, hmodules, hsections, helements,
      scope]
  · simp [declarations, Module.declarations, Section.declarations, Module.fullName,
      Declaration.addField, scope]

/-! ## Compilations of a grown package -/

/-- A compilation that another one only adds to: every pass goes on behind its entries and
duplicates, and what is refused stays refused. -/
structure Compilation.ExtendedBy (old new : Compilation) : Prop where
  entries : ∀ kind, (old.kept.ofPass kind).entries <+: (new.kept.ofPass kind).entries
  duplicates : ∀ kind, (old.duplicates kind).keys <+: (new.duplicates kind).keys
  refused : (∃ error, old.result = .error error) → ∃ error, new.result = .error error

/-- A compilation and the one with a further field of the given declaration. The field is
kept or rejected behind all others. No command changes but the one that is kept for the
declared element, and that one only if its template is resolved against a further id. -/
structure Compilation.GainsField (old new : Compilation) (declaration : Declaration)
    (field : Field) : Prop where
  fields : let key := fieldKey declaration.key field.id
    (new.kept.fields.entries =
        old.kept.fields.entries ++ [(key, expandSection declaration.part field.data)] ∧
      (new.duplicates .fields).keys = (old.duplicates .fields).keys) ∨
    (new.kept.fields.entries = old.kept.fields.entries ∧
      (new.duplicates .fields).keys = (old.duplicates .fields).keys ++ [key])
  keys : ∀ kind, (new.kept.ofPass (.expressions kind)).keys =
    (old.kept.ofPass (.expressions kind)).keys
  duplicates : ∀ kind, (new.duplicates (.expressions kind)).keys =
    (old.duplicates (.expressions kind)).keys
  others : ∀ kind key, key ≠ declaration.key →
    (new.kept.ofPass (.expressions kind)).get? key = (old.kept.ofPass (.expressions kind)).get? key
  unchanged : ∀ kind, declaration.key ∈ (old.duplicates (.expressions kind)).keys ∨
      field.id ∈ declaration.element.fieldIds →
    (new.kept.ofPass (.expressions kind)).get? declaration.key =
      (old.kept.ofPass (.expressions kind)).get? declaration.key

theorem Compilation.Accounts.extendedBy {old new : Compilation}
    {generated generated' : CollectionKind → List (String × String)}
    (hold : old.Accounts generated) (hnew : new.Accounts generated')
    (h : ∀ kind, generated kind <+: generated' kind) : old.ExtendedBy new := by
  constructor
  · intro kind
    obtain ⟨more, hmore⟩ := h kind
    rw [hold.kept, hnew.kept, ← hmore, firstPairs_append]
    exact List.prefix_append _ _
  · intro kind
    obtain ⟨more, hmore⟩ := h kind
    rw [hold.duplicates, hnew.duplicates, ← hmore]
    exact repeatedKeys_prefix_append _ _
  · rintro ⟨error, herror⟩
    cases hresult : new.result with
    | error error' => exact ⟨error', rfl⟩
    | ok set =>
        have hn := hnew.ok_iff.mp ⟨set, hresult⟩
        exact absurd (fun kind => ((h kind).sublist.map Prod.fst).nodup (hn kind))
          (hold.error herror).1

namespace Declaration

variable {field : Field} {declaration : Declaration}

theorem pairs_fields_addField :
    (declaration.addField field).pairs .fields = declaration.pairs .fields ++
      [(fieldKey declaration.key field.id, expandSection declaration.part field.data)] := by
  rw [pairs_fields, pairs_fields, addField, Element.addField, List.map_append]
  rfl

/-- A further field with a declared id resolves no template otherwise. -/
theorem resolved_addField_of_mem (h : field.id ∈ declaration.element.fieldIds)
    (kind : ExpressionKind) :
    (declaration.addField field).resolved kind = declaration.resolved kind := by
  apply promote_congr
  intro id
  simp only [addField, Element.addField, Element.fieldIds, List.map_append, List.mem_append,
    List.map_singleton, List.mem_singleton]
  constructor
  · rintro (hid | rfl)
    · exact hid
    · exact h
  · exact Or.inl

end Declaration

@[simp] theorem Declaration.key_addField (field : Field) (declaration : Declaration) :
    (declaration.addField field).key = declaration.key :=
  rfl

theorem Package.compile_gainsField {package grown : Package} {init : List Declaration}
    {last : Declaration} {field : Field} (hold : package.declarations = init ++ [last])
    (hnew : grown.declarations = init ++ [last.addField field]) :
    package.compile.GainsField grown.compile last field := by
  have ha := package.compile_accounts
  have hb := grown.compile_accounts
  simp only [Source.generated, Source.declarations, hold, hnew, List.flatMap_append,
    List.flatMap_singleton] at ha hb
  have hkeys : ∀ kind, (init.flatMap (Declaration.pairs (.expressions kind)) ++
        last.pairs (.expressions kind)).map Prod.fst =
      (init.flatMap (Declaration.pairs (.expressions kind)) ++
        (last.addField field).pairs (.expressions kind)).map Prod.fst := by
    intro kind
    simp
  constructor
  · have hkept := hb.kept .fields
    have hduplicates := hb.duplicates .fields
    rw [Declaration.pairs_fields_addField, ← List.append_assoc] at hkept hduplicates
    rw [firstPairs_concat, ← ha.kept .fields] at hkept
    rw [repeatedKeys_concat, ← ha.duplicates .fields] at hduplicates
    split at hkept
    · next hmem =>
        rw [if_pos hmem] at hduplicates
        rw [List.append_nil] at hkept
        exact .inr ⟨hkept, hduplicates⟩
    · next hmem =>
        rw [if_neg hmem, List.append_nil] at hduplicates
        exact .inl ⟨hkept, hduplicates⟩
  · intro kind
    rw [KeyMap.keys, KeyMap.keys, ha.kept, hb.kept]
    exact (keys_firstPairs_congr (hkeys kind)).symm
  · intro kind
    rw [ha.duplicates, hb.duplicates]
    exact (repeatedKeys_congr (hkeys kind)).symm
  · intro kind key hkey
    rw [ha.get?, hb.get?, Declaration.pairs_expressions, Declaration.pairs_expressions,
      Declaration.key_addField, lookup_concat_of_ne hkey, lookup_concat_of_ne hkey]
  · rintro kind (hrejected | hid)
    · rw [ha.duplicates] at hrejected
      have hrejected' := hrejected
      rw [repeatedKeys_congr (hkeys kind)] at hrejected'
      rw [Declaration.pairs_expressions] at hrejected hrejected'
      rw [Declaration.key_addField] at hrejected'
      rw [KeyMap.get?, KeyMap.get?, ha.kept, hb.kept, Declaration.pairs_expressions,
        Declaration.pairs_expressions, Declaration.key_addField,
        firstPairs_concat_of_mem_repeatedKeys hrejected,
        firstPairs_concat_of_mem_repeatedKeys hrejected']
    · rw [ha.get?, hb.get?, Declaration.pairs_expressions, Declaration.pairs_expressions,
        Declaration.key_addField, Declaration.resolved_addField_of_mem hid]

/-- A new module, section or element only extends a compilation. A new field is gained by the
last element. -/
theorem Package.compile_add? {package grown : Package} {addition : Addition}
    (h : package.add? addition = some grown) :
    match addition with
    | .newField field => ∃ last, package.lastDeclaration? = some last ∧
        package.compile.GainsField grown.compile last field
    | _ => package.compile.ExtendedBy grown.compile := by
  have hextended (hdeclarations : package.declarations <+: grown.declarations) :
      package.compile.ExtendedBy grown.compile := by
    apply package.compile_accounts.extendedBy grown.compile_accounts
    intro kind
    obtain ⟨more, hmore⟩ := hdeclarations
    rw [Source.generated, Source.generated, Source.declarations, Source.declarations, ← hmore,
      List.flatMap_append]
    exact List.prefix_append _ _
  cases addition with
  | newModule module =>
      obtain rfl := Option.some.inj h
      apply hextended
      rw [package.declarations_addModule]
      exact List.prefix_append _ _
  | newSection part =>
      apply hextended
      apply Package.declarations_prefix_of_changeLast? h
      intro module changed scope hchange
      obtain rfl := Option.some.inj hchange
      rw [module.declarations_addSection]
      exact List.prefix_append _ _
  | newElement element =>
      apply hextended
      apply Package.declarations_prefix_of_changeLast? h
      intro module changed scope hchange
      apply Module.declarations_prefix_of_changeLast? hchange
      intro part changed scope hchange
      obtain rfl := Option.some.inj hchange
      rw [part.declarations_addElement]
      exact List.prefix_append _ _
  | newField field =>
      obtain ⟨init, last, hlast, hold, hnew⟩ := Package.declarations_newField h
      exact ⟨last, hlast, Package.compile_gainsField hold hnew⟩

/-- A package with two elements of one key, the later one without a field of its own. -/
def collidingPackage : Package where
  name := ⟨"p"⟩
  modules :=
    [⟨⟨"m.s"⟩, [⟨⟨"t"⟩, [⟨⟨"e"⟩, [⟨⟨"a"⟩, "1"⟩], { install := "set {{a}}" }⟩]⟩]⟩,
      ⟨⟨"m"⟩, [⟨⟨"s.t"⟩, [⟨⟨"e"⟩, [], { install := "get {{a}}" }⟩]⟩]⟩]

theorem compile_add?_colliding :
    (∃ grown, collidingPackage.add? (.newField ⟨⟨"a"⟩, "2"⟩) = some grown ∧
      ∃ last, collidingPackage.lastDeclaration? = some last ∧
        collidingPackage.compile.GainsField grown.compile last ⟨⟨"a"⟩, "2"⟩) ∧
    ∃ grown, collidingPackage.add? (.newElement ⟨⟨"e"⟩, [⟨⟨"b"⟩, ""⟩], {}⟩) = some grown ∧
      collidingPackage.compile.ExtendedBy grown.compile := by
  have hfield : collidingPackage.add? (.newField ⟨⟨"a"⟩, "2"⟩) = some _ := rfl
  have helement : collidingPackage.add? (.newElement ⟨⟨"e"⟩, [⟨⟨"b"⟩, ""⟩], {}⟩) = some _ := rfl
  exact ⟨⟨_, hfield, Package.compile_add? hfield⟩, _, helement, Package.compile_add? helement⟩

end DeviceConfig
