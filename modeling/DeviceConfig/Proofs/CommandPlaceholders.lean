import DeviceConfig.Proofs.KeyMap
import DeviceConfig.Proofs.Occurrence
import DeviceConfig.Proofs.Passes

/-!
# The placeholders of a command

A command holds the placeholders that promotion puts into it and those that it copies from
its template. If no name holds a brace there are no others, each of the first kind names a
collected field, and none of the second kind names a field of its own element.
-/

namespace DeviceConfig

/-! ## Names without braces -/

theorem BraceFree.append {a b : List Char} (ha : BraceFree a) (hb : BraceFree b) :
    BraceFree (a ++ b) :=
  ⟨by simp [ha.opening, hb.opening], by simp [ha.closing, hb.closing]⟩

theorem braceFree_qualify {scope name : String} (hscope : BraceFree scope.toList)
    (hname : BraceFree name.toList) : BraceFree (qualify scope name).toList := by
  by_cases h : scope = ""
  · rwa [h, qualify_empty]
  · rw [qualify_of_ne name h, String.toList_append, String.toList_append]
    exact (hscope.append ⟨by decide, by decide⟩).append hname

theorem braceFree_fieldKey {key : String} {id : FieldId} (hkey : BraceFree key.toList)
    (hid : BraceFree id.text.toList) : BraceFree (fieldKey key id).toList := by
  rw [fieldKey, String.toList_append, String.toList_append]
  exact (hkey.append ⟨by decide, by decide⟩).append hid

/-- No name of a package and no id in it holds a brace. -/
structure Package.NamesBraceFree (package : Package) : Prop where
  scope : BraceFree package.name.text.toList
  module : ∀ module ∈ package.modules, BraceFree module.name.text.toList
  part : ∀ module ∈ package.modules, ∀ part ∈ module.sections, BraceFree part.name.text.toList
  element : ∀ module ∈ package.modules, ∀ part ∈ module.sections, ∀ element ∈ part.elements,
    BraceFree element.name.text.toList
  id : ∀ module ∈ package.modules, ∀ part ∈ module.sections, ∀ element ∈ part.elements,
    ∀ id ∈ element.fieldIds, BraceFree id.text.toList

theorem Package.NamesBraceFree.fieldKey {package : Package} (h : package.NamesBraceFree)
    {declaration : Declaration} (hd : declaration ∈ package.declarations) {id : FieldId}
    (hid : id ∈ declaration.element.fieldIds) :
    BraceFree (fieldKey declaration.key id).toList := by
  obtain ⟨module, hmodule, hd⟩ := List.mem_flatMap.mp hd
  obtain ⟨part, hpart, hd⟩ := List.mem_flatMap.mp hd
  obtain ⟨element, helement, rfl⟩ := List.mem_map.mp hd
  have hscope : BraceFree (module.fullName package.name.text).toList :=
    braceFree_qualify h.scope (h.module module hmodule)
  have hkey := braceFree_qualify (braceFree_qualify hscope (h.part module hmodule part hpart))
    (h.element module hmodule part hpart element helement)
  exact braceFree_fieldKey hkey (h.id module hmodule part hpart element helement id hid)

/-! ## The command of a declaration -/

namespace Declaration

def template (kind : ExpressionKind) (declaration : Declaration) : List Char :=
  (declaration.element.expressions.get kind).toList

/-- The template of the declared element, cut at the placeholders of its own ids. -/
def segmentation (kind : ExpressionKind) (declaration : Declaration) : Segmentation :=
  DeviceConfig.segmentation declaration.element.fieldIds (declaration.template kind)

/-- The content of the placeholder that is put in the place of a declared id. -/
def keyContent (declaration : Declaration) (id : FieldId) : List Char :=
  (fieldKey declaration.key id).toList

/-- A command that consists of copied parts of a template and promoted placeholders, with
every placeholder in it accounted for: it was promoted to a key of the given fields, or it
lies in a copied part and names no field of the element. -/
structure AccountsFor (declaration : Declaration) (kind : ExpressionKind) (fields : KeyMap)
    (command : String) : Prop where
  template : (declaration.segmentation kind).template = declaration.template kind
  rendered : (declaration.segmentation kind).render declaration.keyContent = command.toList
  promotions : ((declaration.segmentation kind).stretches.map fun stretch =>
      ⟨stretch.id, fieldKey declaration.key stretch.id⟩) = (declaration.resolved kind).promotions
  placeholders : ∀ (content : String) (before after : List Char), BraceFree content.toList →
    command.toList = before ++ (placeholder content.toList ++ after) →
    ((∃ id, (declaration.segmentation kind).Inserts declaration.keyContent before id ∧
        content = fieldKey declaration.key id) ∧ content ∈ fields.keys) ∨
    ((declaration.segmentation kind).Copies declaration.keyContent before
        (placeholder content.toList) ∧ ⟨content⟩ ∉ declaration.element.fieldIds)

variable {declaration : Declaration} {kind : ExpressionKind}

theorem command_segmentation :
    (declaration.segmentation kind).render declaration.keyContent =
      (declaration.resolved kind).text.toList := by
  rw [resolved, promote, String.toList_ofList]
  exact Scan.command_segmentation (fieldKey declaration.key) _

theorem accountsFor {fields : KeyMap}
    (hfree : ∀ id ∈ declaration.element.fieldIds, BraceFree (declaration.keyContent id))
    (hfields : ∀ id ∈ declaration.element.fieldIds, fieldKey declaration.key id ∈ fields.keys) :
    declaration.AccountsFor kind fields (declaration.resolved kind).text := by
  constructor
  · exact template_segmentation _ _
  · exact command_segmentation
  · exact Scan.promotions_segmentation (fieldKey declaration.key) _
  · intro content before after hcontent h
    rw [← command_segmentation] at h
    have hstretches : ∀ stretch ∈ (declaration.segmentation kind).stretches,
        BraceFree (declaration.keyContent stretch.id) := fun stretch hstretch =>
      hfree _ (mem_ids_of_mem_stretches hstretch)
    rcases Segmentation.inserts_or_copies hstretches hcontent h with ⟨id, hinserts, hid⟩ | hcopies
    · obtain rfl := String.toList_inj.mp hid
      exact .inl ⟨⟨id, hinserts, rfl⟩, hfields id (mem_ids_of_inserts hinserts)⟩
    · exact .inr ⟨hcopies, not_mem_ids_of_copies hcopies⟩

/-- If a template holds placeholders of declared ids only, its command holds placeholders of
collected fields only. -/
theorem AccountsFor.mem_keys {fields : KeyMap} {command : String}
    (h : declaration.AccountsFor kind fields command)
    (hdeclared : ∀ content : String, BraceFree content.toList →
      placeholder content.toList <:+: declaration.template kind →
        ⟨content⟩ ∈ declaration.element.fieldIds)
    {content : String} (hcontent : BraceFree content.toList)
    (hinside : placeholder content.toList <:+: command.toList) : content ∈ fields.keys := by
  obtain ⟨before, after, hcommand⟩ := hinside
  rw [List.append_assoc] at hcommand
  rcases h.placeholders content before after hcontent hcommand.symm with
    ⟨-, hkey⟩ | ⟨⟨earlier, front, back, hbehind, -⟩, hundeclared⟩
  · exact hkey
  · have hcopied := Segmentation.infix_render_of_mem_copies (fun id => id.text.toList)
      hbehind.mem_copies
    rw [← Segmentation.template, h.template] at hcopied
    have htemplate : placeholder content.toList <:+: declaration.template kind :=
      List.IsInfix.trans ⟨front, back, List.append_assoc _ _ _⟩ hcopied
    exact absurd (hdeclared content hcontent htemplate) hundeclared

end Declaration

/-! ## Commands of a compilation -/

/-- What is looked up in a list of pairs comes from the first member with the key. -/
theorem exists_find?_of_lookup_map {α : Type} {key value : α → String} {xs : List α}
    {found text : String} (h : (xs.map fun x => (key x, value x)).lookup found = some text) :
    ∃ x, xs.find? (fun x => key x = found) = some x ∧ value x = text := by
  induction xs with
  | nil => simp at h
  | cons x xs ih =>
      rw [List.map_cons, List.lookup_cons] at h
      by_cases hkey : key x = found
      · refine ⟨x, by simp [hkey], ?_⟩
        simpa [hkey] using h
      · have hb : (found == key x) = false := by simpa using Ne.symm hkey
        rw [hb] at h
        obtain ⟨first, hfirst, htext⟩ := ih h
        exact ⟨first, by simpa [hkey] using hfirst, htext⟩

namespace Package

variable {package : Package}

theorem fieldKey_mem_keys {declaration : Declaration} (hd : declaration ∈ package.declarations)
    {id : FieldId} (hid : id ∈ declaration.element.fieldIds) :
    fieldKey declaration.key id ∈ package.compile.kept.fields.keys := by
  obtain ⟨field, hfield, rfl⟩ := List.mem_map.mp hid
  have hpair : (fieldKey declaration.key field.id, expandSection declaration.part field.data) ∈
      (Source.ofPackage package).generated .fields := Source.mem_generated_fields hd hfield
  exact (package.compile_accounts.mem_keys_iff .fields).mpr (List.mem_map_of_mem hpair)

/-- The command under a key is that of the first declaration of the key. -/
theorem exists_declaration_of_mem_entries {kind : ExpressionKind} {entry : String × String}
    (h : entry ∈ (package.compile.kept.ofPass (.expressions kind)).entries) :
    ∃ declaration, package.declarations.find? (fun other => other.key = entry.1) =
      some declaration ∧ (declaration.resolved kind).text = entry.2 := by
  have hfound := KeyMap.get?_eq_some_iff.mpr h
  have hgenerated : (Source.ofPackage package).generated (.expressions kind) =
      package.declarations.map fun other => (other.key, (other.resolved kind).text) :=
    List.map_eq_flatMap.symm
  rw [package.compile_accounts.get?, hgenerated] at hfound
  exact exists_find?_of_lookup_map hfound

end Package

/-- In a package without braces in its names every placeholder of a command is accounted for
by the first declaration of its key. If all placeholders in the templates name declared
fields, all placeholders in the commands are keys of collected fields. -/
theorem Package.commands_accounted_for {package : Package} (h : package.NamesBraceFree)
    (kind : ExpressionKind) :
    (∀ entry ∈ (package.compile.kept.ofPass (.expressions kind)).entries, ∃ declaration,
      package.declarations.find? (fun other => other.key = entry.1) = some declaration ∧
      declaration.AccountsFor kind package.compile.kept.fields entry.2) ∧
    ((∀ declaration ∈ package.declarations, ∀ content : String, BraceFree content.toList →
        placeholder content.toList <:+: declaration.template kind →
          ⟨content⟩ ∈ declaration.element.fieldIds) →
      ∀ entry ∈ (package.compile.kept.ofPass (.expressions kind)).entries, ∀ content : String,
        BraceFree content.toList → placeholder content.toList <:+: entry.2.toList →
          content ∈ package.compile.kept.fields.keys) := by
  have haccounted : ∀ entry ∈ (package.compile.kept.ofPass (.expressions kind)).entries,
      ∃ declaration, package.declarations.find? (fun other => other.key = entry.1) =
        some declaration ∧ declaration.AccountsFor kind package.compile.kept.fields entry.2 := by
    intro entry hentry
    obtain ⟨declaration, hfind, htext⟩ := Package.exists_declaration_of_mem_entries hentry
    have hd := List.mem_of_find?_eq_some hfind
    rw [← htext]
    exact ⟨declaration, hfind, Declaration.accountsFor (fun id hid => h.fieldKey hd hid)
      fun id hid => Package.fieldKey_mem_keys hd hid⟩
  refine ⟨haccounted, fun hdeclared entry hentry content hcontent hinside => ?_⟩
  obtain ⟨declaration, hfind, haccounts⟩ := haccounted entry hentry
  exact haccounts.mem_keys (hdeclared declaration (List.mem_of_find?_eq_some hfind)) hcontent hinside

/-- A package with two elements of one key, whose templates hold declared placeholders,
undeclared ones and further braces. -/
def shadowingPackage : Package where
  name := ⟨"p"⟩
  modules :=
    [⟨⟨"m.s"⟩, [⟨⟨"t"⟩, [⟨⟨"e"⟩, [⟨⟨"a"⟩, "1"⟩],
        { install := "set {{{a}}} {{d}}", uninstall := "{{a}}" }⟩]⟩]⟩,
      ⟨⟨"m"⟩, [⟨⟨"s.t"⟩, [⟨⟨"e"⟩, [⟨⟨"d"⟩, "2"⟩], { install := "{{d}}" }⟩]⟩]⟩]

theorem commands_accounted_for_shadowing :
    shadowingPackage.NamesBraceFree ∧
    (∃ declaration, shadowingPackage.declarations.find? (fun other => other.key = "p.m.s.t.e") =
        some declaration ∧
      declaration.AccountsFor .install shadowingPackage.compile.kept.fields
        "set {{{p.m.s.t.e/a}}} {{d}}") ∧
    ∀ content : String, BraceFree content.toList →
      placeholder content.toList <:+: "{{p.m.s.t.e/a}}".toList →
        content ∈ shadowingPackage.compile.kept.fields.keys := by
  have h : shadowingPackage.NamesBraceFree := by
    constructor <;> decide +kernel
  have hdeclared : ∀ declaration ∈ shadowingPackage.declarations, ∀ content : String,
      BraceFree content.toList → placeholder content.toList <:+: declaration.template .uninstall →
        ⟨content⟩ ∈ declaration.element.fieldIds := by
    have htemplates : ∀ declaration ∈ shadowingPackage.declarations,
        declaration.template .uninstall = [] ∨
        declaration.template .uninstall = placeholder ['a'] ∧
          ⟨"a"⟩ ∈ declaration.element.fieldIds := by
      decide +kernel
    intro declaration hd content hcontent hinside
    rcases htemplates declaration hd with htemplate | ⟨htemplate, hid⟩ <;>
      rw [htemplate] at hinside
    · exact absurd (List.infix_nil.mp hinside) (placeholder_ne_nil _)
    · have hname := eq_of_infix_placeholder ⟨by decide, by decide⟩ hcontent hinside
      rwa [show (⟨content⟩ : FieldId) = ⟨"a"⟩ from Name.eq_of_toList_eq hname]
  refine ⟨h, ?_, ?_⟩
  · exact (Package.commands_accounted_for h .install).1
      ("p.m.s.t.e", "set {{{p.m.s.t.e/a}}} {{d}}") (by decide +kernel)
  · exact (Package.commands_accounted_for h .uninstall).2 hdeclared
      ("p.m.s.t.e", "{{p.m.s.t.e/a}}") (by decide +kernel)

end DeviceConfig
