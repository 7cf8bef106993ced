import DeviceConfig.Proofs.Passes
import DeviceConfig.Proofs.Separator

/-!
# Names from which keys can be read back

A key only joins names with dots and a slash, so in general it does not tell where one
name ends and the next begins. It does if module names hold no dot, section names no
slash and element names neither. Under this discipline a package compiles exactly if its
declarations are distinct.
-/

namespace DeviceConfig

/-! ## Addresses -/

/-- The names that lead to an element of a package. -/
@[ext] structure Address where
  module : ModuleName
  part : SectionName
  element : ElementName
  deriving DecidableEq, Repr

/-- An element of a package with the names of its module and its section. -/
structure Placement where
  module : ModuleName
  part : SectionName
  element : Element

/-- The address of a placed element. -/
def Placement.address (placement : Placement) : Address :=
  ⟨placement.module, placement.part, placement.element.name⟩

/-- A placed element as a declaration in the scope of its module. -/
def Placement.declaration (package : PackageName) (placement : Placement) : Declaration :=
  ⟨qualify package.text placement.module.text, placement.part, placement.element⟩

/-- The elements of a package in the order of declaration. -/
def Package.placements (package : Package) : List Placement :=
  package.modules.flatMap fun module => module.sections.flatMap fun part =>
    part.elements.map fun element => ⟨module.name, part.name, element⟩

/-- The addresses of all elements of a package, with repetitions. -/
def Package.addresses (package : Package) : List Address :=
  package.placements.map Placement.address

/-- What the name of a scope puts in front of the names in it. -/
def leading (scope : String) : List Char :=
  if scope = "" then [] else scope.toList ++ ['.']

theorem toList_qualify (scope name : String) :
    (qualify scope name).toList = leading scope ++ name.toList := by
  by_cases h : scope = ""
  · simp [leading, h]
  · simp [leading, h, qualify_of_ne]

/-- The names of a section and an element can be read back in front of a slash: the first
slash ends the element name, and the last dot in front of it ends the section name. -/
theorem names_append_slash_inj {part part' element element' xs ys : List Char}
    (hpart : '/' ∉ part) (helement : '.' ∉ element ∧ '/' ∉ element) (hpart' : '/' ∉ part')
    (helement' : '.' ∉ element' ∧ '/' ∉ element')
    (h : (part ++ '.' :: element) ++ '/' :: xs = (part' ++ '.' :: element') ++ '/' :: ys) :
    part = part' ∧ element = element' ∧ xs = ys := by
  obtain ⟨hnames, hxs⟩ := eq_and_eq_of_append_cons_left (by simp [hpart, helement])
    (by simp [hpart', helement']) h
  obtain ⟨hparts, helements⟩ :=
    eq_and_eq_of_append_cons_right helement.1 helement'.1 hnames
  exact ⟨hparts, helements, hxs⟩

namespace Address

/-- The key of the element at an address of a package. -/
def key (package : PackageName) (address : Address) : String :=
  elementKey (qualify package.text address.module.text) address.part address.element

/-- The part of a key behind the name of the package. -/
def path (address : Address) : List Char :=
  address.module.text.toList ++
    '.' :: (address.part.text.toList ++ '.' :: address.element.text.toList)

/-- The names of an address can be told apart in a key. -/
structure Readable (package : PackageName) (address : Address) : Prop where
  scope : package.text ≠ "" ∨ address.module.text ≠ ""
  module : '.' ∉ address.module.text.toList
  part : '/' ∉ address.part.text.toList
  element : '.' ∉ address.element.text.toList ∧ '/' ∉ address.element.text.toList

variable {package : PackageName} {a b : Address}

theorem path_append_slash_inj {xs ys : List Char} (ha : a.Readable package)
    (hb : b.Readable package) (h : a.path ++ '/' :: xs = b.path ++ '/' :: ys) :
    a = b ∧ xs = ys := by
  -- The first dot ends the module name.
  simp only [path, List.append_assoc, List.cons_append] at h
  obtain ⟨hmodule, h⟩ := eq_and_eq_of_append_cons_left ha.module hb.module h
  rw [← List.cons_append, ← List.append_assoc, ← List.cons_append, ← List.append_assoc] at h
  obtain ⟨hpart, helement, hxs⟩ :=
    names_append_slash_inj ha.part ha.element hb.part hb.element h
  have hab : a = b := by
    ext1
    · exact Name.eq_of_toList_eq hmodule
    · exact Name.eq_of_toList_eq hpart
    · exact Name.eq_of_toList_eq helement
  exact ⟨hab, hxs⟩

theorem Readable.toList_key (h : a.Readable package) :
    (a.key package).toList = leading package.text ++ a.path := by
  have hscope : qualify package.text a.module.text ≠ "" := by
    intro hempty
    have hchars := congrArg String.toList hempty
    rw [toList_qualify] at hchars
    rcases h.scope with hpackage | hmodule
    · simp [leading, hpackage] at hchars
    · simp [hmodule] at hchars
  have hpart : qualify (qualify package.text a.module.text) a.part.text ≠ "" := by
    simp [qualify_of_ne _ hscope]
  rw [key, elementKey, qualify_of_ne _ hpart, qualify_of_ne _ hscope]
  simp [toList_qualify, path]

/-- A field key can be read back as the address of its element and the id. -/
theorem fieldKey_inj {i j : FieldId} (ha : a.Readable package) (hb : b.Readable package)
    (h : fieldKey (a.key package) i = fieldKey (b.key package) j) : a = b ∧ i = j := by
  have hchars := congrArg String.toList h
  simp only [fieldKey, String.toList_append, ha.toList_key, hb.toList_key, List.append_assoc,
    List.append_cancel_left_eq] at hchars
  obtain ⟨hab, hij⟩ := path_append_slash_inj ha hb hchars
  exact ⟨hab, Name.eq_of_toList_eq hij⟩

theorem key_inj (ha : a.Readable package) (hb : b.Readable package)
    (h : a.key package = b.key package) : a = b :=
  (fieldKey_inj ha hb (congrArg (fun key => fieldKey key ⟨""⟩) h)).1

end Address

/-! ## Generated keys -/

theorem Package.declarations_eq (package : Package) :
    package.declarations = package.placements.map (Placement.declaration package.name) := by
  simp only [placements, List.map_flatMap, List.map_map]
  rfl

theorem Package.keys_generated_expressions (package : Package) (kind : ExpressionKind) :
    ((Source.ofPackage package).generated (.expressions kind)).map Prod.fst =
      package.addresses.map (Address.key package.name) := by
  rw [Source.generated, Source.declarations, package.declarations_eq, addresses,
    List.map_map, List.flatMap_map, List.map_flatMap, List.map_eq_flatMap]
  rfl

theorem Package.keys_generated_fields (package : Package) :
    ((Source.ofPackage package).generated .fields).map Prod.fst =
      package.placements.flatMap fun placement =>
        placement.element.fieldIds.map (fieldKey (placement.address.key package.name)) := by
  rw [Source.generated, Source.declarations, package.declarations_eq, List.flatMap_map,
    List.map_flatMap]
  simp only [Declaration.pairs_fields, Element.fieldIds, List.map_map]
  rfl

/-! ## Disciplined packages -/

/-- No module name holds a dot, no section name a slash and no element name either of them,
and no module is without a name in a package without a name. Nothing is asked of the name
of the package or of the ids of fields. -/
structure Package.Disciplined (package : Package) : Prop where
  scope : package.name.text ≠ "" ∨ ∀ module ∈ package.modules, module.name.text ≠ ""
  module : ∀ module ∈ package.modules, '.' ∉ module.name.text.toList
  part : ∀ module ∈ package.modules, ∀ part ∈ module.sections, '/' ∉ part.name.text.toList
  element : ∀ module ∈ package.modules, ∀ part ∈ module.sections, ∀ element ∈ part.elements,
    '.' ∉ element.name.text.toList ∧ '/' ∉ element.name.text.toList

theorem Package.mem_placements {package : Package} {placement : Placement} :
    placement ∈ package.placements ↔
      ∃ module ∈ package.modules, ∃ part ∈ module.sections, ∃ element ∈ part.elements,
        ⟨module.name, part.name, element⟩ = placement := by
  simp only [placements, List.mem_flatMap, List.mem_map]

namespace Package.Disciplined

variable {package : Package}

theorem readable (h : package.Disciplined) {placement : Placement}
    (hp : placement ∈ package.placements) : placement.address.Readable package.name := by
  obtain ⟨module, hmodule, part, hpart, element, helement, rfl⟩ := mem_placements.mp hp
  constructor
  · exact h.scope.imp_right fun hscope => hscope module hmodule
  · exact h.module module hmodule
  · exact h.part module hmodule part hpart
  · exact h.element module hmodule part hpart element helement

theorem elementKeys_nodup_iff (h : package.Disciplined) :
    (package.addresses.map (Address.key package.name)).Nodup ↔ package.addresses.Nodup := by
  constructor
  · exact List.Nodup.of_map _
  · intro hn
    apply hn.map_on
    intro a ha b hb hab
    obtain ⟨p, hp, rfl⟩ := List.mem_map.mp ha
    obtain ⟨q, hq, rfl⟩ := List.mem_map.mp hb
    exact Address.key_inj (h.readable hp) (h.readable hq) hab

/-- Different placements have no field key in common. -/
theorem fieldKeys_nodup (h : package.Disciplined) (hn : package.addresses.Nodup)
    (hids : ∀ placement ∈ package.placements, placement.element.fieldIds.Nodup) :
    (package.placements.flatMap fun placement =>
      placement.element.fieldIds.map (fieldKey (placement.address.key package.name))).Nodup := by
  rw [List.nodup_flatMap]
  constructor
  · intro placement hp
    apply (hids placement hp).map_on
    intro i _ j _ hij
    exact (Address.fieldKey_inj (h.readable hp) (h.readable hp) hij).2
  · have hpairwise := List.pairwise_map.mp hn
    refine hpairwise.imp_of_mem ?_
    intro p q hp hq hne key hkp hkq
    obtain ⟨i, _, rfl⟩ := List.mem_map.mp hkp
    obtain ⟨j, _, hij⟩ := List.mem_map.mp hkq
    exact hne (Address.fieldKey_inj (h.readable hq) (h.readable hp) hij).1.symm

end Package.Disciplined

/-- A disciplined package compiles exactly if no two of its elements have the same names
on the way to them and no element declares an id twice. -/
theorem Package.compile_ok_iff_distinct {package : Package} (h : package.Disciplined) :
    (∃ set, package.compile.result = .ok set) ↔
      package.addresses.Nodup ∧
      ∀ module ∈ package.modules, ∀ part ∈ module.sections, ∀ element ∈ part.elements,
        element.fieldIds.Nodup := by
  rw [package.compile_accounts.ok_iff]
  constructor
  · intro hn
    constructor
    · rw [← h.elementKeys_nodup_iff, ← package.keys_generated_expressions .install]
      exact hn (.expressions .install)
    · intro module hmodule part hpart element helement
      exact Source.fieldIds_nodup (hn .fields) (mem_declarations hmodule hpart helement)
  · rintro ⟨haddresses, hids⟩ kind
    cases kind with
    | fields =>
        rw [package.keys_generated_fields]
        apply h.fieldKeys_nodup haddresses
        intro placement hp
        obtain ⟨module, hmodule, part, hpart, element, helement, rfl⟩ := mem_placements.mp hp
        exact hids module hmodule part hpart element helement
    | expressions kind =>
        rw [package.keys_generated_expressions]
        exact h.elementKeys_nodup_iff.mpr haddresses

/-- A disciplined package whose own name, module names, section names and ids hold
separators. -/
def slashedPackage : Package where
  name := ⟨"a/b."⟩
  modules :=
    [⟨⟨"m/s"⟩, [⟨⟨"s.t"⟩, [⟨⟨"e"⟩, [⟨⟨"x"⟩, ""⟩, ⟨⟨"x/y"⟩, ""⟩], {}⟩]⟩,
        ⟨⟨"s"⟩, [⟨⟨"e"⟩, [⟨⟨"x"⟩, ""⟩], {}⟩, ⟨⟨"t"⟩, [], {}⟩]⟩]⟩,
      ⟨⟨"m"⟩, [⟨⟨""⟩, [⟨⟨"e"⟩, [⟨⟨"x"⟩, ""⟩], {}⟩]⟩]⟩]

theorem compile_ok_iff_distinct_slashed :
    slashedPackage.Disciplined ∧ ∃ set, slashedPackage.compile.result = .ok set := by
  have h : slashedPackage.Disciplined := by
    constructor <;> decide +kernel
  exact ⟨h, (Package.compile_ok_iff_distinct h).mpr (by decide +kernel)⟩

end DeviceConfig
