import DeviceConfig.Proofs.Passes
import DeviceConfig.Proofs.Replacement

/-!
# References to the section

Expanding field data is promotion with one declared id, whose key is the name of the
section. So everything that is known of promotion holds of it; in particular no reference
is left, nor does one come about, if the name holds no brace and is not the word that refers.
-/

namespace DeviceConfig

/-! ## One declared id -/

/-- Where one id only is declared, replacing its placeholders is promotion, whatever braces
the id and its key hold. -/
theorem replaceId_eq_command (key : FieldId → String) (text : List Char) (id : FieldId) :
    replaceId key text id = (segmentation [id] text).command key := by
  induction text using segmentation_induction [id] with
  | nil =>
      rw [segmentation_nil]
      exact Text.replaceAll_nil _ _
  | copy c rest hnone ih =>
      have habsent : ¬ placeholder id.text.toList <+: c :: rest :=
        matchingIds_eq_nil_iff.mp hnone id (List.mem_singleton_self id)
      rw [segmentation_cons hnone, Segmentation.command, Segmentation.render_copyBefore,
        ← Segmentation.command, ← ih]
      exact Text.replaceAll_cons habsent _
  | promote other rest hlongest ih =>
      obtain rfl : other = id := List.mem_singleton.mp (longestAt_of_longestId hlongest).declared
      rw [segmentation_placeholder hlongest, Segmentation.command,
        Segmentation.render_promoteBefore, ← Segmentation.command, ← ih]
      exact Text.replaceAll_append (placeholder_ne_nil _) _ _

/-- The id whose placeholder is the reference to the section. -/
def selfId : FieldId :=
  ⟨"prefix"⟩

theorem toList_expandSection (part : SectionName) (data : String) :
    (expandSection part data).toList =
      (segmentation [selfId] data.toList).command fun _ => part.text := by
  rw [expandSection, String.toList_ofList]
  exact replaceId_eq_command (fun _ => part.text) data.toList selfId

/-- Field data is expanded as a template is resolved in which the word that refers to the
section is the one declared id and the name of the section is its key. -/
theorem expandSection_eq_promote (part : SectionName) (data : String) :
    expandSection part data = (promote [⟨"prefix"⟩] (fun _ => part.text) data).text := by
  rw [← String.toList_inj, toList_expandSection, toList_text_promote]
  rfl

/-! ## References that are left -/

/-- A name that makes no reference when it stands in a placeholder: it holds no braces and is
not the word that refers to the section. -/
structure Name.Inert {kind : NameKind} (name : Name kind) : Prop where
  braceFree : BraceFree name.text.toList
  ne_word : name.text ≠ "prefix"

instance {kind : NameKind} (name : Name kind) : Decidable name.Inert :=
  decidable_of_iff (BraceFree name.text.toList ∧ name.text ≠ "prefix")
    ⟨fun h => ⟨h.1, h.2⟩, fun h => ⟨h.braceFree, h.ne_word⟩⟩

theorem Name.Inert.keysApart {part : SectionName} (h : part.Inert) :
    KeysApart [selfId] fun _ => part.text := by
  constructor
  · intro id hid
    obtain rfl := List.mem_singleton.mp hid
    exact ⟨by decide, by decide⟩
  · exact fun _ _ => h.braceFree
  · intro _ _ hid
    exact h.ne_word (Name.mk.inj (List.mem_singleton.mp hid))

theorem Name.Inert.not_infix_expandSection {part : SectionName} (h : part.Inert)
    (data : String) : ¬ selfReference <:+: (expandSection part data).toList := by
  rw [toList_expandSection]
  exact h.keysApart.not_infix_command data.toList (List.mem_singleton_self selfId)

theorem expandSection_of_absent {data : String} (h : ¬ selfReference <:+: data.toList)
    (part : SectionName) : expandSection part data = data := by
  rw [expandSection, replaceAll_of_absent h, String.ofList_toList]

theorem Source.not_infix_of_mem_generated_fields {source : Source}
    (h : ∀ declaration ∈ source.declarations, declaration.part.Inert) :
    ∀ pair ∈ source.generated .fields, ¬ selfReference <:+: pair.2.toList := by
  intro pair hpair
  obtain ⟨declaration, hd, hpair⟩ := List.mem_flatMap.mp hpair
  rw [Declaration.pairs_fields] at hpair
  obtain ⟨field, -, rfl⟩ := List.mem_map.mp hpair
  exact (h declaration hd).not_infix_expandSection field.data

theorem Package.inert_of_mem_declarations {package : Package}
    (h : ∀ module ∈ package.modules, ∀ part ∈ module.sections, part.name.Inert) :
    ∀ declaration ∈ package.declarations, declaration.part.Inert := by
  intro declaration hd
  obtain ⟨module, hmodule, hd⟩ := List.mem_flatMap.mp hd
  obtain ⟨part, hpart, hd⟩ := List.mem_flatMap.mp hd
  obtain ⟨element, -, rfl⟩ := List.mem_map.mp hd
  exact h module hmodule part hpart

/-- Under an inert name expansion leaves no reference to the section, so there is nothing left
to expand under any name. If all sections of a package have such names, no field value of its
compilation refers to a section. -/
theorem expandSection_leaves_no_selfReference :
    (∀ part : SectionName, part.Inert → ∀ data : String,
      ¬ selfReference <:+: (expandSection part data).toList ∧
      ∀ other : SectionName,
        expandSection other (expandSection part data) = expandSection part data) ∧
    ∀ package : Package,
      (∀ module ∈ package.modules, ∀ part ∈ module.sections, part.name.Inert) →
        ∀ entry ∈ package.compile.kept.fields.entries, ¬ selfReference <:+: entry.2.toList := by
  constructor
  · intro part h data
    have habsent := h.not_infix_expandSection data
    exact ⟨habsent, expandSection_of_absent habsent⟩
  · intro package h entry hentry
    have hkept : package.compile.kept.fields.entries =
        firstPairs ((Source.ofPackage package).generated .fields) :=
      package.compile_accounts.kept .fields
    have hgenerated : entry ∈ (Source.ofPackage package).generated .fields :=
      (filterByEarlier_sublist _ _).subset (hkept ▸ hentry)
    have hinert : ∀ declaration ∈ (Source.ofPackage package).declarations,
        declaration.part.Inert := Package.inert_of_mem_declarations h
    exact Source.not_infix_of_mem_generated_fields hinert entry hgenerated

/-- Data with a reference among further braces and one within a placeholder. -/
def nestedData : String :=
  String.ofList ('{' :: selfReference ++ '}' ::
    placeholder ("pre".toList ++ selfReference ++ "fix".toList))

/-- A package that keeps this data and refuses other data with the same key. -/
def nestedPackage : Package where
  name := ⟨"p"⟩
  modules :=
    [⟨⟨"m.s"⟩, [⟨⟨"t"⟩, [⟨⟨"e"⟩, [⟨⟨"a"⟩, nestedData⟩], {}⟩]⟩]⟩,
      ⟨⟨"m"⟩, [⟨⟨"s.t"⟩, [⟨⟨"e"⟩, [⟨⟨"a"⟩, "2"⟩], {}⟩]⟩]⟩]

theorem expandSection_leaves_no_selfReference_nested :
    (nestedPackage.compile.duplicates .fields).keys = ["p.m.s.t.e/a"] ∧
    nestedPackage.compile.kept.fields.entries = [("p.m.s.t.e/a", "{{{t}}}{{pre{{t}}fix}}")] ∧
    (∀ entry ∈ nestedPackage.compile.kept.fields.entries, ¬ selfReference <:+: entry.2.toList) ∧
    expandSection ⟨"u"⟩ (expandSection ⟨"t"⟩ nestedData) = "{{{t}}}{{pre{{t}}fix}}" := by
  obtain ⟨hexpansions, hpackages⟩ := expandSection_leaves_no_selfReference
  have hexpanded : expandSection ⟨"t"⟩ nestedData = "{{{t}}}{{pre{{t}}fix}}" := by
    decide +kernel
  have hagain := (hexpansions ⟨"t"⟩ (by decide) nestedData).2 ⟨"u"⟩
  exact ⟨by decide +kernel, by decide +kernel, hpackages nestedPackage (by decide +kernel),
    hagain.trans hexpanded⟩

end DeviceConfig
