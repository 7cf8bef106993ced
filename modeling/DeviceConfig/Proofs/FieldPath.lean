import DeviceConfig.Proofs.Discipline
import Mathlib.Logic.Relation

/-!
# When field keys collide

The key of a field spells the names that lead to it, with a dot and a slash between them.
Names may hold dots and slashes as well, so the same key can be spelled by different names:
exactly by those that differ in where the dot and the slash are taken to stand.
-/

namespace DeviceConfig

/-! ## Paths -/

/-- The names that lead to a field of a module. -/
structure FieldPath where
  part : SectionName
  element : ElementName
  id : FieldId
  deriving DecidableEq, Repr

/-- The paths of the fields that a module declares, in order and with repetitions. -/
def Module.fieldPaths (module : Module) : List FieldPath :=
  module.sections.flatMap fun part => part.elements.flatMap fun element =>
    element.fieldIds.map fun id => ⟨part.name, element.name, id⟩

namespace FieldPath

/-- The key of the field at a path in the scope of its module. -/
def key (scope : String) (path : FieldPath) : String :=
  fieldKey (elementKey scope path.part path.element) path.id

/-- The names of a path with the separators between them. -/
def spelling (path : FieldPath) : String :=
  path.part.text ++ "." ++ path.element.text ++ "/" ++ path.id.text

/-- The first name of a path takes in a piece of the second one up to a dot, or the second
name takes in a piece of the last one up to a slash. -/
inductive Moved : FieldPath → FieldPath → Prop where
  | dot (part piece element : String) (id : FieldId) :
      Moved ⟨⟨part⟩, ⟨piece ++ "." ++ element⟩, id⟩ ⟨⟨part ++ "." ++ piece⟩, ⟨element⟩, id⟩
  | slash (part : SectionName) (element piece id : String) :
      Moved ⟨part, ⟨element⟩, ⟨piece ++ "/" ++ id⟩⟩ ⟨part, ⟨element ++ "/" ++ piece⟩, ⟨id⟩⟩

theorem key_eq_qualify {path : FieldPath} (h : path.part.text ≠ "") (scope : String) :
    path.key scope = qualify scope path.spelling := by
  by_cases hscope : scope = ""
  · rw [key, elementKey, hscope, qualify_empty, qualify_empty, qualify_of_ne _ h]
    rfl
  · have hpart : scope ++ "." ++ path.part.text ≠ "" := by simp
    rw [key, elementKey, qualify_of_ne _ hscope, qualify_of_ne _ hscope, qualify_of_ne _ hpart]
    simp only [fieldKey, spelling, String.append_assoc]

/-! ## Different paths with one spelling -/

theorem append_separator_eq {separator : String} {x : Char} (hx : separator.toList = [x])
    {a b c d : String} (h : a ++ separator ++ b = c ++ separator ++ d) :
    (a = c ∧ b = d) ∨
    (∃ middle, c = a ++ separator ++ middle ∧ b = middle ++ separator ++ d) ∨
      ∃ middle, a = c ++ separator ++ middle ∧ d = middle ++ separator ++ b := by
  have hchars : a.toList ++ x :: b.toList = c.toList ++ x :: d.toList := by
    simpa [hx] using congrArg String.toList h
  rcases append_cons_eq_append_cons hchars with
    ⟨hac, hbd⟩ | ⟨middle, hc, hb⟩ | ⟨middle, ha, hd⟩
  · exact .inl ⟨String.toList_inj.mp hac, String.toList_inj.mp hbd⟩
  · refine .inr (.inl ⟨String.ofList middle, ?_, ?_⟩) <;> rw [← String.toList_inj] <;>
      simpa [hx]
  · refine .inr (.inr ⟨String.ofList middle, ?_, ?_⟩) <;> rw [← String.toList_inj] <;>
      simpa [hx]

theorem eqvGen_moved_of_name_eq {part part' element element' : String} {id : FieldId}
    (h : part ++ "." ++ element = part' ++ "." ++ element') :
    Relation.EqvGen Moved ⟨⟨part⟩, ⟨element⟩, id⟩ ⟨⟨part'⟩, ⟨element'⟩, id⟩ := by
  rcases append_separator_eq (x := '.') (by decide) h with
    ⟨rfl, rfl⟩ | ⟨piece, rfl, rfl⟩ | ⟨piece, rfl, rfl⟩
  · exact .refl _
  · exact .rel _ _ (.dot part piece element' id)
  · exact .symm _ _ (.rel _ _ (.dot part' piece element id))

/-- A slash that is taken to stand further behind has moved, and the dot may have moved then. -/
theorem eqvGen_moved_of_slash_behind {part part' element element' piece id : String}
    (h : part' ++ "." ++ element' = part ++ "." ++ element ++ "/" ++ piece) :
    Relation.EqvGen Moved ⟨⟨part⟩, ⟨element⟩, ⟨piece ++ "/" ++ id⟩⟩
      ⟨⟨part'⟩, ⟨element'⟩, ⟨id⟩⟩ := by
  have hname : part ++ "." ++ (element ++ "/" ++ piece) = part' ++ "." ++ element' := by
    rw [h]
    simp only [String.append_assoc]
  exact .trans _ _ _ (.rel _ _ (.slash ⟨part⟩ element piece id)) (eqvGen_moved_of_name_eq hname)

theorem eqvGen_moved_of_spelling_eq {a b : FieldPath} (h : a.spelling = b.spelling) :
    Relation.EqvGen Moved a b := by
  obtain ⟨⟨part⟩, ⟨element⟩, ⟨id⟩⟩ := a
  obtain ⟨⟨part'⟩, ⟨element'⟩, ⟨id'⟩⟩ := b
  -- The slashes are compared first, so that in front of them one dot is left to compare.
  rcases append_separator_eq (x := '/') (by decide) h with
    ⟨hname, rfl⟩ | ⟨piece, hname, rfl⟩ | ⟨piece, hname, rfl⟩
  · exact eqvGen_moved_of_name_eq hname
  · exact eqvGen_moved_of_slash_behind hname
  · exact .symm _ _ (eqvGen_moved_of_slash_behind hname)

theorem Moved.spelling_eq {a b : FieldPath} (h : Moved a b) : a.spelling = b.spelling := by
  cases h with
  | dot => simp only [spelling, String.append_assoc]
  | slash => simp only [spelling, String.append_assoc]

/-- Paths have one spelling exactly if they differ in moved separators. -/
theorem spelling_eq_iff {a b : FieldPath} :
    a.spelling = b.spelling ↔ Relation.EqvGen Moved a b := by
  constructor
  · exact eqvGen_moved_of_spelling_eq
  · intro h
    induction h with
    | rel _ _ h => exact h.spelling_eq
    | refl _ => rfl
    | symm _ _ _ ih => exact ih.symm
    | trans _ _ _ _ _ ih ih' => exact ih.trans ih'

end FieldPath

/-! ## Collected fields -/

theorem qualify_injective (scope : String) : Function.Injective (qualify scope) := by
  intro a b h
  have hchars := congrArg String.toList h
  rw [toList_qualify, toList_qualify] at hchars
  exact String.toList_inj.mp (List.append_cancel_left hchars)

namespace Module

variable {module : Module} {scope : String}

theorem keys_generated_fields (module : Module) (scope : String) :
    ((Source.ofModule scope module).generated .fields).map Prod.fst =
      module.fieldPaths.map (FieldPath.key (module.fullName scope)) := by
  simp only [Source.generated, Source.declarations, declarations, Section.declarations, fieldPaths,
    List.flatMap_assoc, List.flatMap_map, List.map_flatMap, Declaration.pairs_fields,
    Element.fieldIds, List.map_map]
  rfl

/-- The fields of a module are collected without a conflict, with exactly one entry for each
field that it declares. -/
def CollectsEveryField (scope : String) (module : Module) : Prop :=
  ∃ map, (module.collect .fields scope).result = .ok map ∧
    map.entries = (Source.ofModule scope module).generated .fields ∧
    map.size = module.fieldPaths.length

theorem collectsEveryField_iff : module.CollectsEveryField scope ↔
    (module.fieldPaths.map (FieldPath.key (module.fullName scope))).Nodup := by
  have h : (module.collect .fields scope).Accounts
      ((Source.ofModule scope module).generated .fields) :=
    (Source.ofModule scope module).collect_accounts .fields
  rw [← keys_generated_fields, ← h.isEmpty_iff]
  constructor
  · rintro ⟨map, hresult, -, -⟩
    by_contra hempty
    rw [Ledger.result, if_neg hempty] at hresult
    cases hresult
  · intro hempty
    have hentries : (module.collect .fields scope).kept.entries =
        (Source.ofModule scope module).generated .fields := by
      rw [h.kept, firstPairs_of_nodup (h.isEmpty_iff.mp hempty)]
    refine ⟨_, if_pos hempty, hentries, ?_⟩
    rw [KeyMap.size, hentries, ← List.length_map Prod.fst, keys_generated_fields, List.length_map]

/-- No section name holds a slash and no element name a dot or a slash, so that no separator
can be moved. -/
structure SeparatorsFixed (module : Module) : Prop where
  part : ∀ part ∈ module.sections, '/' ∉ part.name.text.toList
  element : ∀ part ∈ module.sections, ∀ element ∈ part.elements,
    '.' ∉ element.name.text.toList ∧ '/' ∉ element.name.text.toList

theorem mem_fieldPaths {path : FieldPath} : path ∈ module.fieldPaths ↔
    ∃ part ∈ module.sections, ∃ element ∈ part.elements, ∃ id ∈ element.fieldIds,
      ⟨part.name, element.name, id⟩ = path := by
  simp only [fieldPaths, List.mem_flatMap, List.mem_map]

theorem keys_nodup_iff (h : ∀ part ∈ module.sections, part.name.text ≠ "") :
    (module.fieldPaths.map (FieldPath.key scope)).Nodup ↔
      module.fieldPaths.Nodup ∧
      ∀ a ∈ module.fieldPaths, ∀ b ∈ module.fieldPaths, a.spelling = b.spelling → a = b := by
  have hkey : ∀ path ∈ module.fieldPaths, path.key scope = qualify scope path.spelling := by
    intro path hpath
    obtain ⟨part, hpart, element, _, id, _, rfl⟩ := mem_fieldPaths.mp hpath
    exact FieldPath.key_eq_qualify (h part hpart) scope
  constructor
  · intro hn
    refine ⟨hn.of_map, fun a ha b hb hab => ?_⟩
    apply List.inj_on_of_nodup_map hn ha hb
    rw [hkey a ha, hkey b hb, hab]
  · rintro ⟨hn, hinj⟩
    apply hn.map_on
    intro a ha b hb hab
    rw [hkey a ha, hkey b hb] at hab
    exact hinj a ha b hb (qualify_injective scope hab)

theorem SeparatorsFixed.eq_of_spelling_eq (h : module.SeparatorsFixed) {a b : FieldPath}
    (ha : a ∈ module.fieldPaths) (hb : b ∈ module.fieldPaths) (hab : a.spelling = b.spelling) :
    a = b := by
  obtain ⟨part, hpart, element, helement, id, _, rfl⟩ := mem_fieldPaths.mp ha
  obtain ⟨part', hpart', element', helement', id', _, rfl⟩ := mem_fieldPaths.mp hb
  have hchars : (part.name.text.toList ++ '.' :: element.name.text.toList) ++
        '/' :: id.text.toList =
      (part'.name.text.toList ++ '.' :: element'.name.text.toList) ++ '/' :: id'.text.toList := by
    simpa [FieldPath.spelling] using congrArg String.toList hab
  obtain ⟨hparts, helements, hids⟩ := names_append_slash_inj (h.part part hpart)
    (h.element part hpart element helement) (h.part part' hpart')
    (h.element part' hpart' element' helement') hchars
  rw [Name.eq_of_toList_eq hparts, Name.eq_of_toList_eq helements, Name.eq_of_toList_eq hids]

end Module

/-- The fields of a module with section names are collected into one entry each exactly if
their paths are distinct and no two paths differ in moved separators only. No separator can
be moved if section names hold no slash and element names neither a dot nor a slash. -/
theorem Module.collectsEveryField_iff_distinct {module : Module}
    (h : ∀ part ∈ module.sections, part.name.text ≠ "") (scope : String) :
    (module.CollectsEveryField scope ↔
      module.fieldPaths.Nodup ∧ ∀ a ∈ module.fieldPaths, ∀ b ∈ module.fieldPaths,
        Relation.EqvGen FieldPath.Moved a b → a = b) ∧
    (module.SeparatorsFixed → (module.CollectsEveryField scope ↔ module.fieldPaths.Nodup)) := by
  rw [collectsEveryField_iff, keys_nodup_iff h]
  simp only [← FieldPath.spelling_eq_iff, true_and]
  intro hfixed
  exact and_iff_left fun a ha b hb hab => hfixed.eq_of_spelling_eq ha hb hab

/-- A module whose names of every kind hold separators, none of which can be moved from one
declared path to another. -/
def crowdedModule : Module where
  name := ⟨""⟩
  sections :=
    [⟨⟨"a"⟩, [⟨⟨"b.c"⟩, [⟨⟨"x"⟩, "1"⟩, ⟨⟨"x/y"⟩, "2"⟩], {}⟩, ⟨⟨"b/"⟩, [⟨⟨"x"⟩, "3"⟩], {}⟩]⟩,
      ⟨⟨"a.b"⟩, [⟨⟨"d"⟩, [⟨⟨"x"⟩, "4"⟩], {}⟩]⟩, ⟨⟨"a/b"⟩, [⟨⟨"c"⟩, [⟨⟨"x"⟩, "5"⟩], {}⟩]⟩]

/-- A module with dots in section names and separators of both kinds in ids. -/
def orderlyModule : Module where
  name := ⟨"m/."⟩
  sections :=
    [⟨⟨"a.b"⟩, [⟨⟨"c"⟩, [⟨⟨"x"⟩, "1"⟩, ⟨⟨"x/y.z"⟩, "2"⟩], {}⟩]⟩,
      ⟨⟨"a"⟩, [⟨⟨"b"⟩, [⟨⟨"c/x"⟩, "3"⟩], {}⟩]⟩]

theorem collectsEveryField_iff_distinct_crowded :
    ((∀ part ∈ crowdedModule.sections, part.name.text ≠ "") ∧
      crowdedModule.CollectsEveryField "") ∧
    (∀ part ∈ orderlyModule.sections, part.name.text ≠ "") ∧ orderlyModule.SeparatorsFixed ∧
      orderlyModule.CollectsEveryField "p" := by
  have hcrowded : ∀ part ∈ crowdedModule.sections, part.name.text ≠ "" := by decide
  have horderly : ∀ part ∈ orderlyModule.sections, part.name.text ≠ "" := by decide
  have hfixed : orderlyModule.SeparatorsFixed := by
    constructor <;> decide +kernel
  have hspelling : ∀ a ∈ crowdedModule.fieldPaths, ∀ b ∈ crowdedModule.fieldPaths,
      a.spelling = b.spelling → a = b := by
    decide +kernel
  refine ⟨⟨hcrowded, ?_⟩, horderly, hfixed, ?_⟩
  · exact (Module.collectsEveryField_iff_distinct hcrowded "").1.mpr
      ⟨by decide +kernel, fun a ha b hb hab =>
        hspelling a ha b hb (FieldPath.spelling_eq_iff.mpr hab)⟩
  · exact ((Module.collectsEveryField_iff_distinct horderly "p").2 hfixed).mpr (by decide +kernel)

/-- A module with a dot in a section name and one in an element name. -/
def dottedModule : Module where
  name := ⟨"m"⟩
  sections :=
    [⟨⟨"a"⟩, [⟨⟨"b.c"⟩, [⟨⟨"x"⟩, "1"⟩], {}⟩]⟩, ⟨⟨"a.b"⟩, [⟨⟨"c"⟩, [⟨⟨"x"⟩, "2"⟩], {}⟩]⟩]

/-- Non-empty names and distinct paths are not enough: a dot that can be moved makes one key
of two. -/
theorem dottedModule_not_collectsEveryField :
    (∀ part ∈ dottedModule.sections, part.name.text ≠ "" ∧ ∀ element ∈ part.elements,
      element.name.text ≠ "" ∧ ∀ id ∈ element.fieldIds, id.text ≠ "") ∧
    dottedModule.fieldPaths.Nodup ∧ ¬ dottedModule.CollectsEveryField "p" ∧
    (dottedModule.collect .fields "p").duplicates.keys = ["p.m.a.b.c/x"] := by
  refine ⟨by decide, by decide, ?_, by decide +kernel⟩
  rw [Module.collectsEveryField_iff]
  decide +kernel

end DeviceConfig
