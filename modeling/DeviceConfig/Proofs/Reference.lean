import DeviceConfig.Proofs.KeyMap
import DeviceConfig.Proofs.Log
import DeviceConfig.Proofs.Passes
import DeviceConfig.Proofs.Promotion

/-!
# Promoted references

A command refers to the fields of its element by the keys that promotion puts into the
template. Commands and fields are collected in passes of their own; a compiled unit
nevertheless holds the field that each of these keys is meant for. This is said of the
promotions in the templates, and of those that the log of the compilation shows.
-/

namespace DeviceConfig

/-- A promotion made in the template of an element is backed by the field map. In a
compiled unit its key belongs to the one field of the element that has the promoted id; in
a refused unit the key is taken. -/
def Compilation.Resolves (compilation : Compilation) (part : SectionName) (element : Element)
    (promotion : Promotion) : Prop :=
  match compilation.result with
  | .ok set => ∃ field,
      element.fields.filter (fun other => other.id = promotion.id) = [field] ∧
      set.fields.get? promotion.key = some (expandSection part field.data)
  | .error error => promotion.key ∈ error.kept.fields.keys

/-- A compilation that promotes what the templates of its declarations call for and nothing
else, and whose field map backs every promotion that its log shows. -/
structure Compilation.ResolvesLogged (compilation : Compilation)
    (declarations : List Declaration) : Prop where
  promotions : compilation.promotions = templatePromotions declarations
  resolves : ∀ p ∈ compilation.promotions, ∃ declaration ∈ declarations, ∃ use,
    p ∈ (declaration.resolved use).promotions ∧
      compilation.Resolves declaration.part declaration.element p

/-! ## Fields of one element -/

theorem filter_id_eq_singleton {fields : List Field} {field : Field}
    (hn : (fields.map Field.id).Nodup) (h : field ∈ fields) :
    fields.filter (fun other => other.id = field.id) = [field] := by
  induction fields with
  | nil => simp at h
  | cons first fields ih =>
      obtain ⟨hnew, hn⟩ := List.nodup_cons.mp hn
      rcases List.mem_cons.mp h with rfl | h
      · have hrest : fields.filter (fun other => other.id = field.id) = [] := by
          rw [List.filter_eq_nil_iff]
          intro other hother
          simp only [decide_eq_true_eq]
          intro heq
          exact hnew (heq ▸ List.mem_map_of_mem hother)
        simp [hrest]
      · have hne : first.id ≠ field.id := by
          intro heq
          exact hnew (heq ▸ List.mem_map_of_mem h)
        simpa [hne] using ih hn h

/-- A promotion stands for a declared field, and its key is the key of that field. -/
theorem Declaration.exists_field_of_promotion {declaration : Declaration}
    {kind : ExpressionKind} {p : Promotion}
    (h : p ∈ (declaration.resolved kind).promotions) :
    ∃ field ∈ declaration.element.fields, field.id = p.id ∧
      p.key = fieldKey declaration.key field.id := by
  obtain ⟨hid, hkey⟩ := mem_promotions h
  obtain ⟨field, hfield, hfid⟩ := List.mem_map.mp hid
  exact ⟨field, hfield, hfid, by rw [hkey, hfid]⟩

/-! ## Promotions in a compilation -/

theorem Compilation.Accounts.resolves {compilation : Compilation} {source : Source}
    (hc : compilation.Accounts fun kind => source.generated kind) {declaration : Declaration}
    (hd : declaration ∈ source.declarations) {kind : ExpressionKind} {p : Promotion}
    (hp : p ∈ (declaration.resolved kind).promotions) :
    compilation.Resolves declaration.part declaration.element p := by
  obtain ⟨field, hfield, hid, hkey⟩ := Declaration.exists_field_of_promotion hp
  have hpair : (p.key, expandSection declaration.part field.data) ∈ source.generated .fields := by
    rw [hkey]
    exact Source.mem_generated_fields hd hfield
  unfold Compilation.Resolves
  cases hresult : compilation.result with
  | ok set =>
      obtain ⟨hn, hentries⟩ := hc.ok hresult .fields
      refine ⟨field, ?_, ?_⟩
      · rw [← hid]
        exact filter_id_eq_singleton (Source.fieldIds_nodup hn hd) hfield
      · rw [← hentries] at hpair
        exact KeyMap.get?_eq_some_iff.mpr hpair
  | error error =>
      have hkept := ((hc.error hresult).2 .fields).1
      have hmem : p.key ∈ (firstPairs (source.generated .fields)).map Prod.fst :=
        mem_keys_firstPairs.mpr (List.mem_map.mpr ⟨_, hpair, rfl⟩)
      rw [← hkept] at hmem
      exact hmem

theorem Compilation.Accounts.resolvesLogged {compilation : Compilation} {source : Source}
    (hc : compilation.Accounts fun kind => source.generated kind)
    (hpromotions : compilation.promotions = templatePromotions source.declarations) :
    compilation.ResolvesLogged source.declarations := by
  refine ⟨hpromotions, ?_⟩
  intro p hp
  rw [hpromotions] at hp
  obtain ⟨declaration, hd, use, hp⟩ := mem_templatePromotions.mp hp
  exact ⟨declaration, hd, use, hp, hc.resolves hd hp⟩

/-- Every placeholder that is promoted in a package or a module refers to the field of its
own element. The log of a compilation shows all of these promotions and no others. -/
theorem compile_resolves_promotions :
    (∀ (package : Package), ∀ module ∈ package.modules, ∀ part ∈ module.sections,
      ∀ element ∈ part.elements, ∀ kind,
      ∀ p ∈ (element.commandEntry (module.fullName package.name.text) part.name kind).promotions,
        package.compile.Resolves part.name element p) ∧
    (∀ (scope : String) (module : Module), ∀ part ∈ module.sections,
      ∀ element ∈ part.elements, ∀ kind,
      ∀ p ∈ (element.commandEntry (module.fullName scope) part.name kind).promotions,
        (module.compile scope).Resolves part.name element p) ∧
    (∀ package : Package, package.compile.ResolvesLogged package.declarations) ∧
    (∀ (scope : String) (module : Module),
      (module.compile scope).ResolvesLogged (module.declarations scope)) := by
  refine ⟨?_, ?_, ?_, ?_⟩
  · intro package module hmodule part hpart element helement kind p hp
    exact package.compile_accounts.resolves
      (Package.mem_declarations hmodule hpart helement) hp
  · intro scope module part hpart element helement kind p hp
    exact (module.compile_accounts scope).resolves
      (Module.mem_declarations hpart helement) hp
  · intro package
    exact package.compile_accounts.resolvesLogged package.promotions_compile
  · intro scope module
    exact (module.compile_accounts scope).resolvesLogged (module.promotions_compile scope)

/-- An element whose names hold braces and dots, and whose template holds a declared
placeholder within further braces. -/
def bracedElement : Element where
  name := ⟨"{x}"⟩
  fields := [⟨⟨"a"⟩, String.ofList selfReference ++ "!"⟩, ⟨⟨"b.c"⟩, "1"⟩]
  expressions := { install := "set {{{a}}} {{d}} {{b.c}}" }

/-- A module without a name that declares the braced element in a section. -/
def bracedModule : Module where
  name := ⟨""⟩
  sections := [⟨⟨"s."⟩, [bracedElement]⟩]

theorem compile_resolves_promotions_braced :
    (⟨⟨"a"⟩, "s..{x}/a"⟩ ∈ (bracedElement.commandEntry (bracedModule.fullName "") ⟨"s."⟩
        .install).promotions ∧
      Compilation.Resolves (Package.compile ⟨⟨""⟩, [bracedModule]⟩) ⟨"s."⟩ bracedElement
        ⟨⟨"a"⟩, "s..{x}/a"⟩) ∧
    (⟨⟨"b.c"⟩, "p..s..{x}/b.c"⟩ ∈ (bracedElement.commandEntry (bracedModule.fullName "p") ⟨"s."⟩
        .install).promotions ∧
      (bracedModule.compile "p").Resolves ⟨"s."⟩ bracedElement ⟨⟨"b.c"⟩, "p..s..{x}/b.c"⟩) ∧
    (bracedModule.compile "p").promotions =
      [⟨⟨"a"⟩, "p..s..{x}/a"⟩, ⟨⟨"b.c"⟩, "p..s..{x}/b.c"⟩] := by
  have hpackage : ⟨⟨"a"⟩, "s..{x}/a"⟩ ∈
      (bracedElement.commandEntry (bracedModule.fullName "") ⟨"s."⟩ .install).promotions := by
    decide +kernel
  have hmodule : ⟨⟨"b.c"⟩, "p..s..{x}/b.c"⟩ ∈
      (bracedElement.commandEntry (bracedModule.fullName "p") ⟨"s."⟩ .install).promotions := by
    decide +kernel
  refine ⟨⟨hpackage, ?_⟩, ⟨hmodule, ?_⟩, ?_⟩
  · exact compile_resolves_promotions.1 ⟨⟨""⟩, [bracedModule]⟩ bracedModule (by simp)
      ⟨⟨"s."⟩, [bracedElement]⟩ (by simp [bracedModule]) bracedElement (by simp) .install _ hpackage
  · exact compile_resolves_promotions.2.1 "p" bracedModule
      ⟨⟨"s."⟩, [bracedElement]⟩ (by simp [bracedModule]) bracedElement (by simp) .install _ hmodule
  · rw [(compile_resolves_promotions.2.2.2 "p" bracedModule).promotions]
    decide +kernel

end DeviceConfig
