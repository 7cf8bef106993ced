import DeviceConfig.Proofs.Json.Reading
import DeviceConfig.Proofs.RoundTrip
import DeviceConfig.Proofs.Schema

/-!
# Loading by a schema

Codecs load exactly what the schemas of their types say. The law is one of single codecs; a
record follows its schema since each of its slots is filled by the values of its own label,
as if the other members were not there.
-/

namespace DeviceConfig

open Json (Value Document Member Spells)

/-! ## Results of reading -/

section Except

variable {ε α β : Type} {x : Except ε α}

theorem bind_eq_ok_iff {f : α → Except ε β} {b : β} :
    (do let a ← x; f a) = .ok b ↔ ∃ a, x = .ok a ∧ f a = .ok b := by
  cases x <;> simp [bind, Except.bind]

theorem pair_eq_ok_iff {a : α} {b b' : β} :
    (do let a ← x; return (b, a)) = .ok (b', a) ↔ b = b' ∧ x = .ok a := by
  cases x <;> simp [bind, Except.bind, pure, Except.pure]

theorem map_eq_ok_iff {f : α → β} {b : β} : x.map f = .ok b ↔ ∃ a, x = .ok a ∧ f a = b := by
  cases x <;> simp [Except.map]

end Except

/-! ## Strings and lists -/

namespace Codec

variable {α β : Type}

/-- A codec that reads what conforms to a schema, as what it denotes, and nothing else. -/
def Follows (codec : Codec α) (schema : Schema α) : Prop :=
  ∀ value a, codec.read value.document = .ok a ↔ schema.denotes value a

theorem Follows.string : Codec.string.Follows .string := by
  intro value text
  cases value with
  | string content => simp [Codec.string, readString, Value.document, Schema.string]
  | _ => simp [Codec.string, readString, Value.document, Schema.string]

theorem Follows.map {codec : Codec α} {schema : Schema α} (h : codec.Follows schema)
    (pack : α → β) (unpack : β → α) : (codec.map pack unpack).Follows (schema.map pack) := by
  intro value b
  have hread : (codec.map pack unpack).read value.document =
      (codec.read value.document).map pack := rfl
  simp only [hread, map_eq_ok_iff, h value, Schema.map]

theorem Follows.name (kind : NameKind) : (name kind).Follows (.name kind) :=
  Follows.string.map _ _

theorem Follows.readItems {codec : Codec α} {schema : Schema α} (h : codec.Follows schema)
    (items : List Value) (values : List α) :
    readItems codec.read (items.map Value.document) = .ok values ↔
      List.Forall₂ schema.denotes items values := by
  induction items generalizing values with
  | nil => simp [Codec.readItems, List.forall₂_nil_left_iff, eq_comm]
  | cons item items ih =>
      rw [List.map_cons, Codec.readItems, bind_eq_ok_iff, List.forall₂_cons_left_iff]
      constructor
      · rintro ⟨a, hitem, hrest⟩
        obtain ⟨as, hitems, hvalues⟩ := bind_eq_ok_iff.mp hrest
        exact ⟨a, as, (h item a).mp hitem, (ih as).mp hitems, (Except.ok.inj hvalues).symm⟩
      · rintro ⟨a, as, hitem, hitems, rfl⟩
        exact ⟨a, (h item a).mpr hitem, bind_eq_ok_iff.mpr ⟨as, (ih as).mpr hitems, rfl⟩⟩

theorem Follows.list {codec : Codec α} {schema : Schema α} (h : codec.Follows schema) :
    codec.list.Follows schema.list := by
  intro value values
  cases value with
  | array items =>
      have hread : codec.list.read (Value.array items).document =
          (Codec.readItems codec.read (items.map Value.document) >>= fun values => .ok values) := by
        rw [Value.document, Json.itemDocuments_eq_map]
        rfl
      rw [hread, bind_eq_ok_iff]
      simp [h.readItems, Schema.list]
  | _ => simp [Codec.list, readList, Value.document, Schema.list]

/-! ## Records -/

/-- A layout whose codecs follow the schemas of the given members, under labels of their
own. -/
inductive Layout.Follows : {ρ σ : Type} → Layout ρ σ → Schema.Members ρ → Prop
  | done : Follows .done .done
  | member {α ρ σ : Type} {label : String} {default : Option α} {codec : Codec α}
      {schema : Schema α} {layout : Layout ρ σ} {members : Schema.Members ρ}
      (hcodec : codec.Follows schema) (hlabel : label ∉ members.labels)
      (hmore : layout.Follows members) :
      Follows (.member label default codec layout) (.member label default schema members)

/-- What a slot holds after the values of its label, given what it held before. -/
def fills (schema : Schema α) : List Value → Option α → Option α → Prop
  | [], slot, slot' => slot = slot'
  | value :: values, none, slot' => ∃ a, schema.denotes value a ∧ fills schema values (some a) slot'
  | _ :: _, some _, _ => False

/-- A slot that was empty takes what its member takes, but for the default. -/
theorem exists_fills_iff {schema : Schema α} {default : Option α} {values : List Value} {a : α} :
    (∃ slot, fills schema values none slot ∧ (slot <|> default) = some a) ↔
      schema.takes default values a := by
  match values with
  | [] => simp [fills, Schema.takes]
  | [value] => simp [fills, Schema.takes]
  | _ :: _ :: _ => simp [fills, Schema.takes]

namespace Layout

variable {ρ σ : Type} {layout : Layout ρ σ} {members : Schema.Members ρ}

theorem Follows.labels_eq (h : layout.Follows members) : layout.labels = members.labels := by
  induction h with
  | done => rfl
  | member _ _ _ ih => rw [labels, Schema.Members.labels, ih]

theorem fill?_of_not_mem {found : String} (h : found ∉ layout.labels) (value : Document)
    (slots : σ) :
    layout.fill? found value slots = none := by
  induction layout with
  | done => rfl
  | member label default codec more ih =>
      rw [Layout.labels, List.mem_cons, not_or] at h
      obtain ⟨slot, slots⟩ := slots
      rw [fill?_of_ne h.1, ih h.2, Option.map_none]

/-- A member of no slot is passed over. -/
theorem readMembers_unknown {found : String} (h : found ∉ layout.labels) (value : Value)
    (given : List Member) (slots : σ) :
    layout.readMembers slots (Json.memberDocument (found, value) :: given) =
      layout.readMembers slots given := by
  rw [Json.memberDocument, readMembers, fill?_of_not_mem h]
  simp [value.intact_document]

theorem readMembers_done (given : List (String × Value)) :
    readMembers .done () (given.map Json.memberDocument) = .ok () := by
  induction given with
  | nil => rfl
  | cons member given ih => rw [List.map_cons, readMembers_unknown List.not_mem_nil, ih]

/-- One slot is filled by the values of its label, and the others as if they were not
there. -/
theorem readMembers_member_iff {label : String} (default : Option α) {codec : Codec α}
    {schema : Schema α} (hcodec : codec.Follows schema) (hlabel : label ∉ layout.labels)
    (given : List (String × Value)) (slot slot' : Option α) (slots slots' : σ) :
    readMembers (.member label default codec layout) (slot, slots)
        (given.map Json.memberDocument) = .ok (slot', slots') ↔
      fills schema (Json.valuesUnder label given) slot slot' ∧
        layout.readMembers slots (given.map Json.memberDocument) = .ok slots' := by
  induction given generalizing slot slots with
  | nil => simp [readMembers, Json.valuesUnder, fills]
  | cons member given ih =>
      obtain ⟨found, value⟩ := member
      rw [List.map_cons]
      by_cases h : found = label
      · subst h
        rw [readMembers_unknown hlabel, Json.valuesUnder_cons_self]
        cases slot with
        | none =>
            have hread : readMembers (.member found default codec layout) (none, slots)
                  (Json.memberDocument (found, value) :: given.map Json.memberDocument) =
                (codec.read value.document).map (fun a => (some a, slots)) >>=
                  fun filled => readMembers (.member found default codec layout) filled
                    (given.map Json.memberDocument) := by
              rw [Json.memberDocument, readMembers, fill?_of_eq]
            rw [hread, bind_eq_ok_iff]
            constructor
            · rintro ⟨filled, hfilled, hrest⟩
              obtain ⟨a, ha, rfl⟩ := map_eq_ok_iff.mp hfilled
              obtain ⟨hfills, hslots⟩ := (ih _ _).mp hrest
              exact ⟨⟨a, (hcodec value a).mp ha, hfills⟩, hslots⟩
            · rintro ⟨⟨a, ha, hfills⟩, hslots⟩
              exact ⟨_, map_eq_ok_iff.mpr ⟨a, (hcodec value a).mpr ha, rfl⟩,
                (ih _ _).mpr ⟨hfills, hslots⟩⟩
        | some a => simp [Json.memberDocument, readMembers, fill?, fills, bind, Except.bind]
      · rw [Json.valuesUnder_cons_of_ne h, Json.memberDocument, readMembers, readMembers,
          fill?_of_ne h]
        cases layout.fill? found value.document slots with
        | none => simpa [value.intact_document] using ih slot slots
        | some filled =>
            cases filled with
            | error fault => simp [Except.map, bind, Except.bind]
            | ok slots => exact ih slot slots

theorem complete_member_iff {label : String} {default slot : Option α} {codec : Codec α}
    {slots : σ} {a : α} {as : ρ} :
    complete (.member label default codec layout) (slot, slots) = .ok (a, as) ↔
      (slot <|> default) = some a ∧ layout.complete slots = .ok as := by
  rw [complete]
  split
  · next heq => rw [map_eq_ok_iff, heq]; simp [and_comm]
  · next heq => rw [heq]; simp

/-- An object is read as its members take the values under their labels. -/
theorem Follows.readMembers_iff (h : layout.Follows members) (given : List (String × Value))
    (values : ρ) :
    (∃ slots, layout.readMembers layout.blank (given.map Json.memberDocument) = .ok slots ∧
        layout.complete slots = .ok values) ↔
      members.take (fun label => Json.valuesUnder label given) values := by
  induction h with
  | done =>
      exact iff_of_true ⟨(), readMembers_done given, rfl⟩ trivial
  | @member _ _ _ label default codec schema layout members hcodec hlabel hmore ih =>
      obtain ⟨a, as⟩ := values
      have hother : label ∉ layout.labels := by rwa [hmore.labels_eq]
      rw [Schema.Members.take, ← ih, ← exists_fills_iff]
      constructor
      · rintro ⟨⟨slot, slots⟩, hread, hvalues⟩
        obtain ⟨hfills, hslots⟩ := (readMembers_member_iff _ hcodec hother _ _ _ _ _).mp hread
        obtain ⟨ha, has⟩ := complete_member_iff.mp hvalues
        exact ⟨⟨slot, hfills, ha⟩, slots, hslots, has⟩
      · rintro ⟨⟨slot, hfills, ha⟩, slots, hslots, has⟩
        have hread := (readMembers_member_iff default hcodec hother _ _ _ _ _).mpr ⟨hfills, hslots⟩
        exact ⟨(slot, slots), hread, complete_member_iff.mpr ⟨ha, has⟩⟩

/-- An array is read as its members take the items at their places. -/
theorem Follows.readItems_iff (h : layout.Follows members) (cutOff : Nat → Fault) (index : Nat)
    (items : List Value) (values : ρ) :
    layout.readItems cutOff true index (items.map Value.document) = .ok values ↔
      items.length ≤ members.labels.length ∧
        members.take (fun label => items[members.labels.idxOf label]?.toList) values := by
  induction h generalizing index items with
  | done =>
      cases items with
      | nil => simp [readItems, Schema.Members.labels, Schema.Members.take]
      | cons item items => simp [readItems, Schema.Members.labels]
  | @member _ _ _ label default codec schema layout members hcodec hlabel hmore ih =>
      obtain ⟨a, as⟩ := values
      have hplace : ∀ other ∈ members.labels,
          (label :: members.labels).idxOf other = members.labels.idxOf other + 1 := by
        intro other hother
        exact List.idxOf_cons_ne _ fun heq => hlabel (heq ▸ hother)
      rw [Schema.Members.labels, List.length_cons, Schema.Members.take, List.idxOf_cons_self]
      cases items with
      | nil =>
          cases default with
          | none => simp [readItems, Schema.takes]
          | some value =>
              have hmembers := ih (index + 1) [] as
              rw [List.map_nil, readItems, if_pos rfl, pair_eq_ok_iff]
              simpa [Schema.takes] using fun _ => hmembers
      | cons item items =>
          have hgiven : members.take (fun other =>
                (item :: items)[(label :: members.labels).idxOf other]?.toList) as ↔
              members.take (fun other => items[members.labels.idxOf other]?.toList) as :=
            Schema.Members.take_congr (Schema.Members.agree_of_perm fun other hother => by
              rw [hplace other hother, List.getElem?_cons_succ]) as
          rw [List.map_cons, readItems, bind_eq_ok_iff, hgiven]
          constructor
          · rintro ⟨value, hitem, hrest⟩
            obtain ⟨rfl, hitems⟩ := pair_eq_ok_iff.mp hrest
            obtain ⟨hlength, hmembers⟩ := (ih _ _ _).mp hitems
            exact ⟨Nat.succ_le_succ hlength, (hcodec item value).mp hitem, hmembers⟩
          · rintro ⟨hlength, hitem, hmembers⟩
            have hitems := (ih (index + 1) items as).mpr ⟨Nat.le_of_succ_le_succ hlength, hmembers⟩
            exact ⟨a, (hcodec item a).mpr hitem, pair_eq_ok_iff.mpr ⟨rfl, hitems⟩⟩

end Layout

theorem Follows.record {ρ σ : Type} {layout : Layout ρ σ} {members : Schema.Members ρ}
    (h : layout.Follows members) (title : String) :
    (record title layout).Follows (.record members) := by
  intro value values
  cases value with
  | object given =>
      have hread : (Codec.record title layout).read (Value.object given).document =
          (layout.readMembers layout.blank (given.map Json.memberDocument) >>=
            layout.complete) := by
        rw [Value.document, Json.memberDocuments_eq_map]
        rfl
      rw [hread, bind_eq_ok_iff, h.readMembers_iff]
      simp [Schema.record, Value.given?]
  | array items =>
      have hread : (Codec.record title layout).read (Value.array items).document =
          layout.readItems (fun index => .mismatch (.tooShort index title layout.size)) true 0
            (items.map Value.document) := by
        rw [Value.document, Json.itemDocuments_eq_map]
        rfl
      rw [hread, h.readItems_iff]
      simp [Schema.record, Value.given?]
  | _ => simp [Codec.record, readRecord, Value.document, Schema.record, Value.given?]

/-- A text is loaded as what the value that it spells denotes. -/
theorem Follows.load_iff {codec : Codec α} {schema : Schema α} (h : codec.Follows schema)
    {text : String} {value : Value} (hspells : Spells text value) (a : α) :
    codec.load text = .ok a ↔ schema.denotes value a := by
  have hload : codec.load text = codec.read value.document >>= fun a => .ok a := by
    rw [load, hspells.ofText]
    rfl
  rw [hload, bind_eq_ok_iff]
  simp [h value]

end Codec

/-! ## Loading the model -/

/-- A codec that loads a text if the value that it spells conforms to a schema, as what that
value denotes. Texts are loaded as the same if all that the schema looks at is the same. -/
structure Codec.Decodes {α : Type} (codec : Codec α) (schema : Schema α) : Prop where
  load_iff : ∀ text value, Spells text value → ∀ a,
    codec.load text = .ok a ↔ schema.denotes value a
  load_congr : ∀ text text' value value', Spells text value → Spells text' value' →
    schema.agree value value' → ∀ a, codec.load text = .ok a ↔ codec.load text' = .ok a

theorem Codec.Follows.decodes {α : Type} {codec : Codec α} {schema : Schema α}
    (h : codec.Follows schema) : codec.Decodes schema := by
  refine ⟨fun text value hspells => h.load_iff hspells, ?_⟩
  intro text text' value value' hspells hspells' hagree a
  rw [h.load_iff hspells, h.load_iff hspells', schema.denotes_congr hagree]

theorem Field.codec_follows : Field.codec.Follows Field.schema :=
  .map (.record (.member (.name _) (by decide) <| .member .string (by decide) .done) _) _ _

theorem Expressions.codec_follows : Expressions.codec.Follows Expressions.schema :=
  .map (.record (.member .string (by decide) <| .member .string (by decide) .done) _) _ _

theorem Element.codec_follows : Element.codec.Follows Element.schema :=
  .map (.record (.member (.name _) (by decide) <| .member (.list Field.codec_follows) (by decide) <|
    .member Expressions.codec_follows (by decide) .done) _) _ _

theorem Section.codec_follows : Section.codec.Follows Section.schema :=
  .map (.record (.member (.name _) (by decide) <|
    .member (.list Element.codec_follows) (by decide) .done) _) _ _

theorem Module.codec_follows : Module.codec.Follows Module.schema :=
  .map (.record (.member (.name _) (by decide) <|
    .member (.list Section.codec_follows) (by decide) .done) _) _ _

theorem Package.codec_follows : Package.codec.Follows Package.schema :=
  .map (.record (.member (.name _) (by decide) <|
    .member (.list Module.codec_follows) (by decide) .done) _) _ _

/-- Every part of the model and every name is loaded from exactly the texts that spell what
conforms to its schema. It is the same for every order of the members of a record, any members
of other labels, and either form of a record. -/
theorem codecs_decode :
    (Package.codec.Decodes Package.schema ∧ Module.codec.Decodes Module.schema ∧
      Section.codec.Decodes Section.schema ∧ Element.codec.Decodes Element.schema ∧
      Expressions.codec.Decodes Expressions.schema ∧ Field.codec.Decodes Field.schema ∧
      ∀ kind, (Codec.name kind).Decodes (.name kind)) ∧
    ∀ {ρ : Type} (members : Schema.Members ρ), members.Lenient :=
  ⟨⟨Package.codec_follows.decodes, Module.codec_follows.decodes, Section.codec_follows.decodes,
    Element.codec_follows.decodes, Expressions.codec_follows.decodes, Field.codec_follows.decodes,
    fun kind => (Codec.Follows.name kind).decodes⟩, fun members => members.lenient⟩

/-- A field with its members the other way round, an escape in a label, and a member of another
label. -/
def scrambledField : String :=
  "\x7b\"x\":[-1.5E+2], \"dat\\u0061\" :\"\",\"id\": \"a\" \x7d"

theorem spells_scrambledField :
    Spells scrambledField (.object [("x", .array [.number
      { negative := true, whole := [1], fraction := [5], exponent := some ⟨false, [2]⟩ }]),
      ("data", .string ""), ("id", .string "a")]) := by
  have hnumber : ∀ rest, Json.SpellsNumber ('-' :: '1' :: '.' :: '5' :: 'E' :: '+' :: '2' :: rest)
      { negative := true, whole := [1], fraction := [5], exponent := some ⟨false, [2]⟩ } rest :=
    fun rest => .parts .minus (.digits (by decide) (.last 1 (by decide)))
      (.digits (.last 5 (by decide))) (.power (.inr rfl) .plus (.last 2 (by decide)))
  have hunit : ∀ rest, Json.SpellsUnit ('\\' :: 'u' :: '0' :: '0' :: '6' :: '1' :: rest)
      'a'.toNat rest :=
    fun rest => @Json.SpellsUnit.digits '0' '0' '6' '1' 0 0 6 1 rest (.inl rfl) (.inl rfl)
      (.inl rfl) (.inl rfl)
  have hplain : ∀ {text content rest : List Char} (c : Char), 0x20 ≤ c.toNat ∧ c ≠ '"' ∧ c ≠ '\\' →
      Json.SpellsCharacters text content rest →
      Json.SpellsCharacters (c :: text) (c :: content) rest :=
    fun c hc h => .plain hc.1 hc.2.1 hc.2.2 h
  refine .object (.more (.string (hplain 'x' (by decide) .quote))
    (.array (.last (.number (hnumber _)))) (.more (.before (by decide) (.after (by decide)
      (.string (hplain 'd' (by decide) (hplain 'a' (by decide) (hplain 't' (by decide)
        (.unit (hunit _) .quote))))))) (.string .quote)
      (.last (.string (hplain 'i' (by decide) (hplain 'd' (by decide) .quote)))
        (.before (by decide) (.after (by decide) (.string (hplain 'a' (by decide) .quote)))))))

theorem codecs_decode_scrambled :
    Field.codec.load scrambledField = .ok ⟨⟨"a"⟩, ""⟩ := by
  refine (codecs_decode.1.2.2.2.2.2.1.load_iff _ _ spells_scrambledField _).mpr ?_
  exact ⟨(⟨"a"⟩, "", ()), ⟨_, rfl, ⟨⟨"a", rfl, rfl⟩, rfl, trivial⟩⟩, rfl⟩

end DeviceConfig
