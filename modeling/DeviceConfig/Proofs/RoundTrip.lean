import DeviceConfig.Codec.Model
import DeviceConfig.Proofs.Json.Document

/-!
# Saving and loading

Every part of the model is loaded from the text it is saved as, whatever its names and
texts are and however many children it has. The law is one of single codecs; it passes
from the members of a record to the record and from the items of a list to the list.
-/

namespace DeviceConfig

namespace Codec

open Json (Document Member)

/-! ## Lawful codecs -/

/-- A codec that reads what it writes, from documents that can be read back as texts. -/
structure Lawful {α : Type} (codec : Codec α) : Prop where
  read_write : ∀ value, codec.read (codec.write value) = .ok value
  legible : ∀ value, (codec.write value).Legible

variable {α β : Type}

theorem Lawful.string : string.Lawful :=
  ⟨fun _ => rfl, Document.legible_string⟩

theorem Lawful.map {codec : Codec α} (h : codec.Lawful) {pack : α → β} {unpack : β → α}
    (hinverse : ∀ value, pack (unpack value) = value) : (codec.map pack unpack).Lawful := by
  constructor
  · intro value
    simp only [Codec.map, h.read_write, Except.map, hinverse]
  · exact fun value => h.legible (unpack value)

theorem Lawful.name (kind : NameKind) : (name kind).Lawful :=
  Lawful.string.map fun _ => rfl

theorem readItems_map_write {codec : Codec α} (h : codec.Lawful) (values : List α) :
    readItems codec.read (values.map codec.write) = .ok values := by
  induction values with
  | nil => rfl
  | cons value values ih =>
      rw [List.map_cons, readItems, h.read_write, ih]
      rfl

theorem Lawful.list {codec : Codec α} (h : codec.Lawful) : codec.list.Lawful := by
  constructor
  · intro values
    simp only [Codec.list, readList, readItems_map_write h]
    rfl
  · intro values
    apply Document.legible_array
    simp only [List.forall_mem_map]
    exact fun value _ => h.legible value

/-! ## Records -/

namespace Layout

/-- The labels of the members. -/
def labels : {ρ σ : Type} → Layout ρ σ → List String
  | _, _, .done => []
  | _, _, .member label _ _ more => label :: more.labels

/-- The members have lawful codecs and labels of their own. -/
inductive Lawful : {ρ σ : Type} → Layout ρ σ → Prop
  | done : Lawful .done
  | member {α ρ σ : Type} {label : String} {default : Option α} {codec : Codec α}
      {more : Layout ρ σ} (hcodec : codec.Lawful) (hlabel : label ∉ more.labels)
      (hmore : more.Lawful) : Lawful (.member label default codec more)

variable {ρ σ : Type}

theorem labels_writeMembers (layout : Layout ρ σ) (values : ρ) :
    (layout.writeMembers values).map Prod.fst = layout.labels.map some := by
  induction layout with
  | done => rfl
  | member label _ codec more ih =>
      rw [writeMembers, List.map_cons, ih, labels, List.map_cons]

theorem fill?_of_ne {label found : String} (h : found ≠ label) (default : Option α)
    (codec : Codec α) (more : Layout ρ σ) (value : Document) (slot : Option α) (slots : σ) :
    fill? (.member label default codec more) found value (slot, slots) =
      (more.fill? found value slots).map fun filled => filled.map fun slots => (slot, slots) :=
  if_neg h

theorem fill?_of_eq (label : String) (default : Option α) (codec : Codec α) (more : Layout ρ σ)
    (value : Document) (slots : σ) :
    fill? (.member label default codec more) label value (none, slots) =
      some ((codec.read value).map fun v => (some v, slots)) :=
  if_pos rfl

/-- Members of other labels are read as if a member were not there. -/
theorem readMembers_member {label : String} {default : Option α} {codec : Codec α}
    {more : Layout ρ σ} {members : List Member} (h : some label ∉ members.map Prod.fst)
    (slot : Option α) (slots : σ) :
    readMembers (.member label default codec more) (slot, slots) members =
      (more.readMembers slots members).map fun slots => (slot, slots) := by
  induction members generalizing slots with
  | nil => rfl
  | cons member members ih =>
      obtain ⟨found, value⟩ := member
      rw [List.map_cons, List.mem_cons, not_or] at h
      cases found with
      | none => rfl
      | some found =>
          have hne : found ≠ label := fun heq => h.1 (by rw [heq])
          rw [readMembers, readMembers, fill?_of_ne hne]
          cases more.fill? found value slots with
          | none =>
              simp only [Option.map_none]
              split
              · exact ih h.2 slots
              · rfl
          | some filled =>
              cases filled with
              | error fault => rfl
              | ok slots => exact ih h.2 slots

/-- All slots are filled by the written members, and they hold the written values. -/
theorem Lawful.exists_readMembers_writeMembers {layout : Layout ρ σ} (h : layout.Lawful)
    (values : ρ) :
    ∃ slots, layout.readMembers layout.blank (layout.writeMembers values) = .ok slots ∧
      layout.complete slots = .ok values := by
  induction h with
  | done => exact ⟨(), rfl, rfl⟩
  | @member _ _ _ label default codec more hcodec hlabel _ ih =>
      obtain ⟨value, values⟩ := values
      obtain ⟨slots, hread, hcomplete⟩ := ih values
      have hother : some label ∉ (more.writeMembers values).map Prod.fst := by
        simpa [labels_writeMembers] using hlabel
      refine ⟨(some value, slots), ?_, ?_⟩
      · rw [writeMembers, readMembers, blank, fill?_of_eq, hcodec.read_write]
        exact (readMembers_member hother (some value) more.blank).trans (by rw [hread]; rfl)
      · have hslot : complete (.member label default codec more) (some value, slots) =
            (more.complete slots).map fun values => (value, values) := rfl
        rw [hslot, hcomplete]
        rfl

theorem Lawful.legible_writeMembers {layout : Layout ρ σ} (h : layout.Lawful) (values : ρ) :
    ∀ member ∈ layout.writeMembers values,
      (∃ label, member.1 = some label) ∧ member.2.Legible := by
  induction h with
  | done => simp [writeMembers]
  | @member _ _ _ label _ _ _ hcodec _ _ ih =>
      obtain ⟨value, values⟩ := values
      rw [writeMembers, List.forall_mem_cons]
      exact ⟨⟨⟨label, rfl⟩, hcodec.legible value⟩, ih values⟩

end Layout

theorem Lawful.record {ρ σ : Type} {layout : Layout ρ σ} (h : layout.Lawful) (title : String) :
    (record title layout).Lawful := by
  constructor
  · intro values
    obtain ⟨slots, hread, hcomplete⟩ := h.exists_readMembers_writeMembers values
    have hrecord : (Codec.record title layout).read ((Codec.record title layout).write values) =
        (layout.readMembers layout.blank (layout.writeMembers values)).bind layout.complete := rfl
    rw [hrecord, hread]
    exact hcomplete
  · exact fun values => Document.legible_object (h.legible_writeMembers values)

end Codec

/-! ## The codecs of the model -/

open Codec

theorem Field.codec_lawful : Field.codec.Lawful :=
  (Lawful.record (.member (.name _) (by decide) <| .member .string (by decide) .done) _).map
    fun _ => rfl

theorem Expressions.codec_lawful : Expressions.codec.Lawful :=
  (Lawful.record (.member .string (by decide) <| .member .string (by decide) .done) _).map
    fun _ => rfl

theorem Element.codec_lawful : Element.codec.Lawful :=
  (Lawful.record (.member (.name _) (by decide) <|
    .member Field.codec_lawful.list (by decide) <|
      .member Expressions.codec_lawful (by decide) .done) _).map fun _ => rfl

theorem Section.codec_lawful : Section.codec.Lawful :=
  (Lawful.record (.member (.name _) (by decide) <|
    .member Element.codec_lawful.list (by decide) .done) _).map fun _ => rfl

theorem Module.codec_lawful : Module.codec.Lawful :=
  (Lawful.record (.member (.name _) (by decide) <|
    .member Section.codec_lawful.list (by decide) .done) _).map fun _ => rfl

theorem Package.codec_lawful : Package.codec.Lawful :=
  (Lawful.record (.member (.name _) (by decide) <|
    .member Module.codec_lawful.list (by decide) .done) _).map fun _ => rfl

/-! ## Texts -/

/-- A codec that loads what it saves, so that saving what was loaded from a text gives a
text that is kept from then on. -/
structure Codec.RoundTrips {α : Type} (codec : Codec α) : Prop where
  load_save : ∀ value, codec.load (codec.save value) = .ok value
  reload_reload : ∀ text saved, codec.reload text = .ok saved → codec.reload saved = .ok saved

theorem Codec.Lawful.roundTrips {α : Type} {codec : Codec α} (h : codec.Lawful) :
    codec.RoundTrips := by
  have hload : ∀ value, codec.load (codec.save value) = .ok value := by
    intro value
    rw [load, save, String.toList_ofList, (h.legible value).ofText_write]
    simp only [h.read_write]
    rfl
  refine ⟨hload, ?_⟩
  intro text saved hreload
  rw [reload] at hreload
  cases hvalue : codec.load text with
  | error fault =>
      rw [hvalue] at hreload
      cases hreload
  | ok value =>
      rw [hvalue] at hreload
      obtain rfl : codec.save value = saved := Except.ok.inj hreload
      rw [reload, hload]
      rfl

/-- Every part of the model and every name is loaded from the text it is saved as. -/
theorem codecs_roundTrip :
    Package.codec.RoundTrips ∧ Module.codec.RoundTrips ∧ Section.codec.RoundTrips ∧
    Element.codec.RoundTrips ∧ Expressions.codec.RoundTrips ∧ Field.codec.RoundTrips ∧
    ∀ kind, (Codec.name kind).RoundTrips :=
  ⟨Package.codec_lawful.roundTrips, Module.codec_lawful.roundTrips,
    Section.codec_lawful.roundTrips, Element.codec_lawful.roundTrips,
    Expressions.codec_lawful.roundTrips, Field.codec_lawful.roundTrips,
    fun kind => (Codec.Lawful.name kind).roundTrips⟩

end DeviceConfig
