import DeviceConfig.Proofs.CommandPlaceholders

/-!
# Modules in other scopes

A module can be compiled on its own or in the scope of a package. The scope is put in front
of every key, of the keys inside the commands too. Nothing else depends on it: the same
declarations are kept and rejected, and they keep their data and their templates.
-/

namespace DeviceConfig

open List

/-! ## Keys below a scope -/

theorem below_injective (scope : String) : Function.Injective (scope ++ "." ++ ·) := by
  intro a b h
  have hchars := congrArg String.toList h
  simp only [String.toList_append, List.append_cancel_left_eq] at hchars
  exact String.toList_inj.mp hchars

theorem qualify_qualify {scope inner : String} (hscope : scope ≠ "") (hinner : inner ≠ "")
    (name : String) : qualify (qualify scope inner) name = scope ++ "." ++ qualify inner name := by
  have hjoined : scope ++ "." ++ inner ≠ "" := by simp
  rw [qualify_of_ne inner hscope, qualify_of_ne name hjoined, qualify_of_ne name hinner]
  simp only [String.append_assoc]

theorem fieldKey_below (scope key : String) (id : FieldId) :
    fieldKey (scope ++ "." ++ key) id = scope ++ "." ++ fieldKey key id := by
  simp only [fieldKey, String.append_assoc]

/-! ## Declarations below a scope -/

namespace Declaration

/-- A declaration that is resolved below a further scope. -/
def below (scope : String) (declaration : Declaration) : Declaration :=
  { declaration with scope := qualify scope declaration.scope }

variable {scope : String} {declaration : Declaration}

theorem key_below (hscope : scope ≠ "") (hinner : declaration.scope ≠ "") :
    (declaration.below scope).key = scope ++ "." ++ declaration.key := by
  have hpart : qualify declaration.scope declaration.part.text ≠ "" := by
    simp [qualify_of_ne _ hinner]
  rw [key, elementKey, below, qualify_qualify hscope hinner]
  rw [← qualify_of_ne _ hscope, qualify_qualify hscope hpart]
  rfl

/-- An entry of a command, and the entry that it becomes below a further scope. The same
places of the same template are promoted, and each key that is put there has the scope in
front of it. -/
structure CommandBelow (kind : ExpressionKind) (scope : String) (declaration : Declaration)
    (old new : String × String) : Prop where
  old_key : old.1 = declaration.key
  new_key : new.1 = scope ++ "." ++ declaration.key
  template : (declaration.segmentation kind).template = declaration.template kind
  old_command : old.2.toList = (declaration.segmentation kind).command (fieldKey declaration.key)
  new_command : new.2.toList = (declaration.segmentation kind).command fun id =>
    scope ++ "." ++ fieldKey declaration.key id
  old_promotions : (declaration.resolved kind).promotions =
    (declaration.segmentation kind).stretches.map fun stretch =>
      ⟨stretch.id, fieldKey declaration.key stretch.id⟩
  new_promotions : ((declaration.below scope).resolved kind).promotions =
    (declaration.segmentation kind).stretches.map fun stretch =>
      ⟨stretch.id, scope ++ "." ++ fieldKey declaration.key stretch.id⟩

theorem commandBelow (hscope : scope ≠ "") (hinner : declaration.scope ≠ "")
    (kind : ExpressionKind) :
    declaration.CommandBelow kind scope (declaration.key, (declaration.resolved kind).text)
      ((declaration.below scope).key, ((declaration.below scope).resolved kind).text) := by
  have hkeys : fieldKey (declaration.below scope).key =
      fun id => scope ++ "." ++ fieldKey declaration.key id := by
    funext id
    rw [key_below hscope hinner, fieldKey_below]
  constructor
  · rfl
  · exact key_below hscope hinner
  · exact template_segmentation _ _
  · exact command_segmentation.symm
  · rw [← hkeys]
    exact command_segmentation.symm
  · exact (Scan.promotions_segmentation (fieldKey declaration.key) _).symm
  · simp only [← congrFun hkeys]
    exact (Scan.promotions_segmentation (fieldKey (declaration.below scope).key) _).symm

end Declaration

theorem Module.declarations_below (scope : String) (module : Module) :
    module.declarations scope = (module.declarations "").map (Declaration.below scope) := by
  have hscope : module.fullName scope = qualify scope (module.fullName "") := by
    simp [fullName]
  simp only [declarations, Section.declarations, List.map_flatMap, List.map_map, hscope]
  rfl

theorem Module.scope_ne_empty {module : Module} (hname : module.name.text ≠ "")
    {declaration : Declaration} (h : declaration ∈ module.declarations "") :
    declaration.scope ≠ "" := by
  obtain ⟨part, _, hpart⟩ := List.mem_flatMap.mp h
  obtain ⟨element, _, rfl⟩ := List.mem_map.mp hpart
  simpa [fullName] using hname

/-! ## Generated pairs -/

theorem forall₂_flatMap_of_mem {α β γ : Type*} {related : β → γ → Prop} {xs : List α}
    {f : α → List β} {g : α → List γ} (h : ∀ x ∈ xs, Forall₂ related (f x) (g x)) :
    Forall₂ related (xs.flatMap f) (xs.flatMap g) := by
  induction xs with
  | nil => exact .nil
  | cons x xs ih =>
      rw [List.forall_mem_cons] at h
      exact List.rel_append h.1 (ih h.2)

section Generated

variable {module : Module} {scope : String}

theorem Module.generated_fields_below (hname : module.name.text ≠ "") (hscope : scope ≠ "") :
    Forall₂ (fun old new => new.1 = scope ++ "." ++ old.1 ∧ new.2 = old.2)
      ((Source.ofModule "" module).generated .fields)
      ((Source.ofModule scope module).generated .fields) := by
  simp only [Source.generated, Source.declarations, module.declarations_below scope,
    List.flatMap_map]
  apply forall₂_flatMap_of_mem
  intro declaration hd
  have hkey := Declaration.key_below hscope (Module.scope_ne_empty hname hd)
  rw [Declaration.pairs_fields, Declaration.pairs_fields, forall₂_map_left_iff,
    forall₂_map_right_iff, hkey]
  exact forall₂_same.mpr fun field _ => ⟨fieldKey_below _ _ _, rfl⟩

theorem Module.generated_expressions_below (hname : module.name.text ≠ "") (hscope : scope ≠ "")
    (kind : ExpressionKind) :
    Forall₂ (fun old new =>
        ∃ declaration ∈ module.declarations "", declaration.CommandBelow kind scope old new)
      ((Source.ofModule "" module).generated (.expressions kind))
      ((Source.ofModule scope module).generated (.expressions kind)) := by
  simp only [Source.generated, Source.declarations, module.declarations_below scope,
    List.flatMap_map]
  apply forall₂_flatMap_of_mem
  intro declaration hd
  have hinner := Module.scope_ne_empty hname hd
  exact .cons ⟨declaration, hd, Declaration.commandBelow hscope hinner kind⟩ .nil

theorem Module.key_eq_of_commandBelow {kind : ExpressionKind} {old new : String × String}
    (h : ∃ declaration ∈ module.declarations "", declaration.CommandBelow kind scope old new) :
    new.1 = scope ++ "." ++ old.1 := by
  obtain ⟨declaration, _, h⟩ := h
  rw [h.new_key, h.old_key]

end Generated

/-! ## Compilations -/

/-- A compilation of a module on its own, and one of the same module below a scope. Both
keep and reject the same entries in the same order, with the scope in front of every key of
the second one. -/
structure Compilation.MovedBelow (scope : String) (module : Module) (old new : Compilation) :
    Prop where
  ok_iff : (∃ set, old.result = .ok set) ↔ ∃ set, new.result = .ok set
  fields : Forall₂ (fun old new => new.1 = scope ++ "." ++ old.1 ∧ new.2 = old.2)
    old.kept.fields.entries new.kept.fields.entries
  commands : ∀ kind, Forall₂ (fun old new =>
      ∃ declaration ∈ module.declarations "", declaration.CommandBelow kind scope old new)
    (old.kept.ofPass (.expressions kind)).entries (new.kept.ofPass (.expressions kind)).entries
  duplicates : ∀ kind,
    (new.duplicates kind).keys = (old.duplicates kind).keys.map (scope ++ "." ++ ·)

/-- A named module that is compiled in a scope has the scope in front of every key, and
differs in nothing else from the module compiled on its own. -/
theorem Module.compile_below {module : Module} {scope : String} (hname : module.name.text ≠ "")
    (hscope : scope ≠ "") :
    Compilation.MovedBelow scope module (module.compile "") (module.compile scope) := by
  have hold := module.compile_accounts ""
  have hnew := module.compile_accounts scope
  have hfields := Module.generated_fields_below hname hscope
  have hcommands := Module.generated_expressions_below hname hscope
  have hrepeated : ∀ kind, repeatedKeys ((Source.ofModule scope module).generated kind) =
      (repeatedKeys ((Source.ofModule "" module).generated kind)).map (scope ++ "." ++ ·) := by
    intro kind
    cases kind with
    | fields =>
        exact repeatedKeys_eq_map_of_forall₂ (below_injective scope) (fun _ _ h => h.1) hfields
    | expressions kind =>
        exact repeatedKeys_eq_map_of_forall₂ (below_injective scope)
          (fun _ _ h => Module.key_eq_of_commandBelow h) (hcommands kind)
  constructor
  · rw [hold.ok_iff, hnew.ok_iff]
    apply forall_congr'
    intro kind
    rw [← repeatedKeys_eq_nil_iff, ← repeatedKeys_eq_nil_iff, hrepeated, List.map_eq_nil_iff]
  · have hkept := forall₂_firstPairs (below_injective scope) (fun _ _ h => h.1) hfields
    rw [← hold.kept, ← hnew.kept] at hkept
    exact hkept
  · intro kind
    rw [hold.kept, hnew.kept]
    exact forall₂_firstPairs (below_injective scope)
      (fun _ _ h => Module.key_eq_of_commandBelow h) (hcommands kind)
  · intro kind
    rw [hold.duplicates, hnew.duplicates, hrepeated]

/-- A module with two elements of one key. In the template of the first one a declared
placeholder stands within braces and starts a longer one. -/
def crossingModule : Module where
  name := ⟨"m"⟩
  sections :=
    [⟨⟨"s"⟩, [⟨⟨"t.u"⟩, [⟨⟨"a"⟩, "1"⟩, ⟨⟨"a\x7d\x7db"⟩, "2"⟩],
        { install := "set \x7b\x7b\x7ba\x7d\x7db\x7d\x7d {{c}}" }⟩]⟩,
      ⟨⟨"s.t"⟩, [⟨⟨"u"⟩, [], {}⟩]⟩]

theorem compile_below_crossing :
    crossingModule.name.text ≠ "" ∧ "p" ≠ "" ∧
    Compilation.MovedBelow "p" crossingModule (crossingModule.compile "")
      (crossingModule.compile "p") ∧
    ((crossingModule.compile "p").duplicates (.expressions .install)).keys = ["p.m.s.t.u"] ∧
    (crossingModule.compile "p").kept.install.entries =
      [("p.m.s.t.u", "set \x7b\x7b\x7bp.m.s.t.u/a\x7d\x7db\x7d\x7d {{c}}")] := by
  have hname : crossingModule.name.text ≠ "" := by decide
  have hscope : "p" ≠ "" := by decide
  have h := Module.compile_below hname hscope
  have hduplicates : ((crossingModule.compile "").duplicates (.expressions .install)).keys =
      ["m.s.t.u"] := by
    decide +kernel
  refine ⟨hname, hscope, h, ?_, by decide +kernel⟩
  rw [h.duplicates, hduplicates]
  rfl

end DeviceConfig
