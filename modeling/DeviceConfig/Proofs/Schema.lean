import DeviceConfig.Model
import DeviceConfig.Proofs.Json.Grammar
import Mathlib.Data.List.Forall2

/-!
# The schema of the model

A schema says of the values that a text can spell which of them conform to a type, and what
they denote. The schema of a record lists its members, with their defaults; it does not say
in which order they come, nor what else a record may hold.
-/

namespace DeviceConfig

open Json (Value)

/-- Which values conform to a type, and what they denote. Values agree if they do not differ
in anything that is looked at, so values that agree denote the same. -/
structure Schema (α : Type) where
  denotes : Value → α → Prop
  agree : Value → Value → Prop
  agree_refl : ∀ value, agree value value
  denotes_congr : ∀ {value value'}, agree value value' → ∀ a, denotes value a ↔ denotes value' a

namespace Schema

variable {α β ρ : Type}

/-! ## Strings and lists -/

/-- Strings. -/
def string : Schema String where
  denotes value text := value = .string text
  agree value value' := value = value'
  agree_refl _ := rfl
  denotes_congr := by
    rintro value _ rfl text
    exact Iff.rfl

/-- Values that are built from others. -/
def map (pack : α → β) (schema : Schema α) : Schema β where
  denotes value b := ∃ a, schema.denotes value a ∧ pack a = b
  agree := schema.agree
  agree_refl := schema.agree_refl
  denotes_congr hagree b := by simp only [schema.denotes_congr hagree]

/-- Names, as strings. -/
def name (kind : NameKind) : Schema (Name kind) :=
  string.map Name.mk

theorem forall₂_denotes_congr {schema : Schema α} {items items' : List Value}
    (h : List.Forall₂ schema.agree items items') (values : List α) :
    List.Forall₂ schema.denotes items values ↔ List.Forall₂ schema.denotes items' values := by
  induction h generalizing values with
  | nil => rfl
  | cons hitem _ ih => simp only [List.forall₂_cons_left_iff, schema.denotes_congr hitem, ih]

/-- Lists, as arrays of items. -/
def list (schema : Schema α) : Schema (List α) where
  denotes value values := ∃ items, value = .array items ∧
    List.Forall₂ schema.denotes items values
  agree value value' := value = value' ∨ ∃ items items', value = .array items ∧
    value' = .array items' ∧ List.Forall₂ schema.agree items items'
  agree_refl _ := .inl rfl
  denotes_congr := by
    rintro _ _ (rfl | ⟨items, items', rfl, rfl, hagree⟩) values
    · exact Iff.rfl
    · simp [forall₂_denotes_congr hagree]

/-! ## Members -/

/-- The members of a record whose values form a tuple. -/
inductive Members : (ρ : Type) → Type 1 where
  | done : Members Unit
  | member {α ρ : Type} (label : String) (default : Option α) (schema : Schema α)
      (more : Members ρ) : Members (α × ρ)

/-- What a member takes from the values that it is given: the default from none, what the
value denotes from a single one, and nothing from more. -/
def takes (schema : Schema α) (default : Option α) : List Value → α → Prop
  | [], a => default = some a
  | [value], a => schema.denotes value a
  | _, _ => False

/-- The order of the values does not matter, since only a single one counts. -/
theorem takes_congr {schema : Schema α} (default : Option α) {given same given' : List Value}
    (hperm : given.Perm same) (hagree : List.Forall₂ schema.agree same given') (a : α) :
    schema.takes default given a ↔ schema.takes default given' a := by
  match given with
  | [] =>
      obtain rfl := hperm.symm.eq_nil
      cases hagree
      exact Iff.rfl
  | [value] =>
      obtain rfl := List.perm_singleton.mp hperm.symm
      obtain ⟨value', _, hvalue, hnil, rfl⟩ := List.forall₂_cons_left_iff.mp hagree
      cases hnil
      exact schema.denotes_congr hvalue a
  | first :: second :: rest =>
      have hlength : given'.length = rest.length + 2 := by
        rw [← hagree.length_eq, ← hperm.length_eq, List.length_cons, List.length_cons]
      match given' with
      | _ :: _ :: _ => exact Iff.rfl

namespace Members

/-- The labels of the members. -/
def labels : {ρ : Type} → Members ρ → List String
  | _, .done => []
  | _, .member label _ _ more => label :: more.labels

/-- The tuple that members take from the values that they are given. -/
def take : {ρ : Type} → Members ρ → (String → List Value) → ρ → Prop
  | _, .done, _, _ => True
  | _, .member label default schema more, given, (a, as) =>
      schema.takes default (given label) a ∧ more.take given as

/-- Every member is given values that agree, in whatever order. -/
def agree : {ρ : Type} → Members ρ → (String → List Value) → (String → List Value) → Prop
  | _, .done, _, _ => True
  | _, .member label _ schema more, given, given' =>
      (∃ same, (given label).Perm same ∧ List.Forall₂ schema.agree same (given' label)) ∧
        more.agree given given'

variable {members : Members ρ} {given given' : String → List Value}

theorem take_congr (h : members.agree given given') (values : ρ) :
    members.take given values ↔ members.take given' values := by
  induction members with
  | done => exact Iff.rfl
  | member label default schema more ih =>
      obtain ⟨⟨same, hperm, hslot⟩, hmore⟩ := h
      rw [take, take, takes_congr default hperm hslot, ih hmore]

/-- Members look at nothing but what is given to them. -/
theorem agree_of_perm (h : ∀ label ∈ members.labels, (given label).Perm (given' label)) :
    members.agree given given' := by
  induction members with
  | done => trivial
  | member label default schema more ih =>
      rw [labels, List.forall_mem_cons] at h
      exact ⟨⟨_, h.1, List.forall₂_same.mpr fun value _ => schema.agree_refl value⟩, ih h.2⟩

end Members

end Schema

/-! ## Records -/

/-- The values of the members of an object with one label. -/
def Json.valuesUnder (label : String) (members : List (String × Value)) : List Value :=
  (members.filter fun member => member.1 = label).map Prod.snd

theorem Json.valuesUnder_cons_self (label : String) (value : Value)
    (members : List (String × Value)) :
    valuesUnder label ((label, value) :: members) = value :: valuesUnder label members := by
  simp [valuesUnder]

theorem Json.valuesUnder_cons_of_ne {label found : String} (h : found ≠ label) (value : Value)
    (members : List (String × Value)) :
    valuesUnder label ((found, value) :: members) = valuesUnder label members := by
  simp [valuesUnder, h]

/-- The values that a record gives to its members, which have the given labels: those under
the label of a member in an object, or the item at the place of the member in an array. An
array must not be longer than the record. -/
def Json.Value.given? (labels : List String) : Value → Option (String → List Value)
  | .object members => some fun label => Json.valuesUnder label members
  | .array items =>
      if items.length ≤ labels.length then
        some fun label => items[labels.idxOf label]?.toList
      else
        none
  | _ => none

/-- Items under distinct labels are found at the places of the labels. -/
theorem Json.valuesUnder_zip {labels : List String} (hnodup : labels.Nodup) {label : String}
    (hlabel : label ∈ labels) (items : List Value) :
    valuesUnder label (labels.zip items) = items[labels.idxOf label]?.toList := by
  induction labels generalizing items with
  | nil => simp at hlabel
  | cons first labels ih =>
      obtain ⟨hfirst, hnodup⟩ := List.nodup_cons.mp hnodup
      cases items with
      | nil => rfl
      | cons item items =>
          by_cases h : label = first
          · subst h
            have hrest : (labels.zip items).filter (fun member => member.1 = label) = [] := by
              refine List.filter_eq_nil_iff.mpr fun member hmember => ?_
              have hne : member.1 ≠ label := fun heq => hfirst (heq ▸ (List.of_mem_zip hmember).1)
              simpa using hne
            rw [List.zip_cons_cons, valuesUnder_cons_self, valuesUnder, hrest, List.idxOf_cons_self]
            rfl
          · have hmem : label ∈ labels := (List.mem_cons.mp hlabel).resolve_left h
            rw [List.idxOf_cons_ne _ (Ne.symm h), List.getElem?_cons_succ, ← ih hnodup hmem,
              List.zip_cons_cons, valuesUnder_cons_of_ne (Ne.symm h)]

namespace Schema

variable {ρ : Type}

/-- Records with the given members. -/
def record (members : Members ρ) : Schema ρ where
  denotes value values := ∃ given, value.given? members.labels = some given ∧
    members.take given values
  agree value value' := value = value' ∨ ∃ given given',
    value.given? members.labels = some given ∧ value'.given? members.labels = some given' ∧
    members.agree given given'
  agree_refl _ := .inl rfl
  denotes_congr := by
    rintro value value' (rfl | ⟨given, given', hgiven, hgiven', hagree⟩) values
    · exact Iff.rfl
    · simp [hgiven, hgiven', Members.take_congr hagree]

/-- What does not matter about a record: the order of the members of an object, members of
other labels, and whether it is an object or an array. -/
structure Members.Lenient (members : Members ρ) : Prop where
  order : ∀ {given given'}, given.Perm given' →
    (record members).agree (.object given) (.object given')
  unknown : ∀ {label}, label ∉ members.labels → ∀ value before behind,
    (record members).agree (.object (before ++ (label, value) :: behind))
      (.object (before ++ behind))
  form : members.labels.Nodup → ∀ {items}, items.length ≤ members.labels.length →
    (record members).agree (.array items) (.object (members.labels.zip items))

theorem Members.lenient (members : Members ρ) : members.Lenient := by
  constructor
  · intro given given' hperm
    exact .inr ⟨_, _, rfl, rfl, agree_of_perm fun label _ => (hperm.filter _).map _⟩
  · intro label hlabel value before behind
    refine .inr ⟨_, _, rfl, rfl, agree_of_perm fun other hother => ?_⟩
    have hne : label ≠ other := fun heq => hlabel (heq ▸ hother)
    simp [Json.valuesUnder, hne]
  · intro hnodup items hlength
    refine .inr ⟨_, _, if_pos hlength, rfl, agree_of_perm fun label hlabel => ?_⟩
    rw [Json.valuesUnder_zip hnodup hlabel]

end Schema

/-! ## The model -/

/-- Two texts that have to be given. -/
def Field.schema : Schema Field :=
  (Schema.record (.member "id" none (.name .fieldId) <| .member "data" none .string .done)).map
    fun (id, data, ()) => { id, data }

/-- Two templates, empty if they are not given. -/
def Expressions.schema : Schema Expressions :=
  (Schema.record (.member "install" (some "") .string <|
    .member "uninstall" (some "") .string .done)).map
    fun (install, uninstall, ()) => { install, uninstall }

def Element.schema : Schema Element :=
  (Schema.record (.member "name" none (.name .elementName) <|
    .member "fields" (some []) Field.schema.list <|
      .member "expressions" (some ⟨"", ""⟩) Expressions.schema .done)).map
    fun (name, fields, expressions, ()) => { name, fields, expressions }

def Section.schema : Schema Section :=
  (Schema.record (.member "name" none (.name .sectionName) <|
    .member "elements" (some []) Element.schema.list .done)).map
    fun (name, elements, ()) => { name, elements }

def Module.schema : Schema Module :=
  (Schema.record (.member "name" none (.name .moduleName) <|
    .member "sections" (some []) Section.schema.list .done)).map
    fun (name, sections, ()) => { name, sections }

def Package.schema : Schema Package :=
  (Schema.record (.member "name" none (.name .packageName) <|
    .member "modules" (some []) Module.schema.list .done)).map
    fun (name, modules, ()) => { name, modules }

end DeviceConfig
