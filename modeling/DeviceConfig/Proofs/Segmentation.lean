import DeviceConfig.Proofs.Promotion

/-!
# Copied and promoted parts of a template

A scan cuts a template into texts that are copied and placeholders that are promoted. The
template and the resolved command are the same copied texts, with ids or with keys between
them. Character by character the cut is made thus: where no declared placeholder starts
one character is copied, and elsewhere the longest one is promoted.
-/

namespace DeviceConfig

/-! ## Segmentations -/

/-- Text that is copied, up to a placeholder that is promoted. -/
structure Stretch where
  copied : List Char
  id : FieldId

/-- A template cut behind each promoted placeholder, with the text behind the last one. -/
structure Segmentation where
  stretches : List Stretch := []
  tail : List Char

namespace Segmentation

/-- The copied texts with placeholders of the given contents between them. -/
def render (content : FieldId → List Char) (cut : Segmentation) : List Char :=
  cut.stretches.flatMap (fun stretch => stretch.copied ++ placeholder (content stretch.id)) ++
    cut.tail

def template (cut : Segmentation) : List Char :=
  cut.render fun id => id.text.toList

def command (key : FieldId → String) (cut : Segmentation) : List Char :=
  cut.render fun id => (key id).toList

/-- Further text is copied in front. -/
def copyBefore (text : List Char) : Segmentation → Segmentation
  | ⟨[], tail⟩ => ⟨[], text ++ tail⟩
  | ⟨stretch :: stretches, tail⟩ => ⟨⟨text ++ stretch.copied, stretch.id⟩ :: stretches, tail⟩

/-- A further placeholder is promoted in front. -/
def promoteBefore (id : FieldId) (cut : Segmentation) : Segmentation :=
  ⟨⟨[], id⟩ :: cut.stretches, cut.tail⟩

def copies (cut : Segmentation) : List (List Char) :=
  cut.stretches.map Stretch.copied ++ [cut.tail]

@[simp] theorem render_nil (content : FieldId → List Char) (tail : List Char) :
    render content ⟨[], tail⟩ = tail :=
  rfl

@[simp] theorem render_cons (content : FieldId → List Char) (stretch : Stretch)
    (stretches : List Stretch) (tail : List Char) :
    render content ⟨stretch :: stretches, tail⟩ =
      stretch.copied ++ (placeholder (content stretch.id) ++ render content ⟨stretches, tail⟩) := by
  simp [render]

@[simp] theorem render_copyBefore (content : FieldId → List Char) (text : List Char)
    (cut : Segmentation) : (cut.copyBefore text).render content = text ++ cut.render content := by
  obtain ⟨_ | ⟨stretch, stretches⟩, tail⟩ := cut <;> simp [copyBefore]

@[simp] theorem render_promoteBefore (content : FieldId → List Char) (id : FieldId)
    (cut : Segmentation) :
    (cut.promoteBefore id).render content = placeholder (content id) ++ cut.render content := by
  simp [promoteBefore]

@[simp] theorem stretches_ids_copyBefore (text : List Char) (cut : Segmentation) :
    (cut.copyBefore text).stretches.map Stretch.id = cut.stretches.map Stretch.id := by
  obtain ⟨_ | ⟨stretch, stretches⟩, tail⟩ := cut <;> simp [copyBefore]

@[simp] theorem copyBefore_nil (cut : Segmentation) : cut.copyBefore [] = cut := by
  obtain ⟨_ | ⟨stretch, stretches⟩, tail⟩ := cut <;> rfl

theorem copyBefore_append (text more : List Char) (cut : Segmentation) :
    cut.copyBefore (text ++ more) = (cut.copyBefore more).copyBefore text := by
  obtain ⟨_ | ⟨stretch, stretches⟩, tail⟩ := cut <;> simp [copyBefore]

/-- Only the first copied text grows, with which every rendering starts. -/
theorem exists_copies_copyBefore (content : FieldId → List Char) (text : List Char)
    (cut : Segmentation) :
    ∃ first others, cut.copies = first :: others ∧ first <+: cut.render content ∧
      (cut.copyBefore text).copies = (text ++ first) :: others := by
  obtain ⟨_ | ⟨stretch, stretches⟩, tail⟩ := cut
  · exact ⟨tail, [], rfl, List.prefix_rfl, rfl⟩
  · refine ⟨stretch.copied, stretches.map Stretch.copied ++ [tail], rfl, ?_, rfl⟩
    rw [render_cons]
    exact List.prefix_append _ _

end Segmentation

/-! ## The segmentation of a scan -/

/-- What a turn passes over is copied, and so is the brace that it takes without an id. -/
def Turn.prepend (turn : Turn) (cut : Segmentation) : Segmentation :=
  match turn.found with
  | some id => (cut.promoteBefore id).copyBefore turn.before
  | none => cut.copyBefore (turn.before ++ ['{'])

/-- A scanned template with its copied and its promoted parts. -/
def Scan.segmentation (scan : Scan) : Segmentation :=
  scan.turns.foldr Turn.prepend ⟨[], scan.tail⟩

/-- A template cut at the placeholders of the declared ids. -/
def segmentation (ids : List FieldId) (text : List Char) : Segmentation :=
  (scan ids text).segmentation

theorem Scan.command_segmentation (key : FieldId → String) (scan : Scan) :
    scan.segmentation.command key = scan.resolve key := by
  obtain ⟨turns, tail⟩ := scan
  induction turns with
  | nil => rfl
  | cons turn turns ih =>
      simp only [segmentation, resolve, Segmentation.command, List.foldr_cons, List.flatMap_cons,
        List.append_assoc] at ih ⊢
      rw [← ih, Turn.prepend, Turn.written]
      cases turn.found with
      | none => simp
      | some id => simp

theorem Scan.ids_segmentation (scan : Scan) :
    scan.segmentation.stretches.map Stretch.id = scan.turns.filterMap Turn.found := by
  obtain ⟨turns, tail⟩ := scan
  induction turns with
  | nil => rfl
  | cons turn turns ih =>
      simp only [segmentation, List.foldr_cons, List.filterMap_cons, Turn.prepend] at ih ⊢
      cases turn.found with
      | none => simpa using ih
      | some id => simpa [Segmentation.promoteBefore] using ih

theorem Scan.promotions_segmentation (key : FieldId → String) (scan : Scan) :
    (scan.segmentation.stretches.map fun stretch => ⟨stretch.id, key stretch.id⟩) =
      scan.promotions key := by
  rw [promotions, ← List.map_filterMap, ← ids_segmentation, List.map_map]
  rfl

theorem mem_ids_of_mem_stretches {ids : List FieldId} {text : List Char} {stretch : Stretch}
    (h : stretch ∈ (segmentation ids text).stretches) : stretch.id ∈ ids := by
  have hid : stretch.id ∈ (segmentation ids text).stretches.map Stretch.id :=
    List.mem_map_of_mem h
  rw [segmentation, Scan.ids_segmentation] at hid
  obtain ⟨turn, hturn, hfound⟩ := List.mem_filterMap.mp hid
  exact mem_of_mem_turns hturn hfound

/-! ## The cut at one place -/

theorem opening_prefix_of_placeholder_prefix {content text : List Char}
    (h : placeholder content <+: text) : opening <+: text := by
  rw [placeholder, List.append_assoc] at h
  exact (List.prefix_append _ _).trans h

theorem splitAtOpening_of_prefix {text : List Char} (h : opening <+: text) :
    splitAtOpening text = some ([], text) := by
  cases text with
  | nil => simp [opening] at h
  | cons c rest => rw [splitAtOpening, if_pos (List.isPrefixOf_iff_prefix.mpr h)]

theorem splitAtOpening_cons {c : Char} {rest : List Char} (h : ¬ opening <+: c :: rest) :
    splitAtOpening (c :: rest) = (splitAtOpening rest).map (Prod.map (c :: ·) id) := by
  rw [splitAtOpening, if_neg (by simpa [List.isPrefixOf_iff_prefix] using h)]
  rfl

/-- Where no opening stands a character is passed over. -/
theorem turn?_cons {c : Char} {rest : List Char} (ids : List FieldId)
    (h : ¬ opening <+: c :: rest) :
    turn? ids (c :: rest) =
      (turn? ids rest).map fun turn => { turn with before := c :: turn.before } := by
  rw [turn?, turn?, splitAtOpening_cons h]
  cases splitAtOpening rest with
  | none => rfl
  | some found =>
      obtain ⟨before, candidate⟩ := found
      simp only [Option.map_some, Prod.map_apply, id_eq]
      cases longestId (matchingIds ids candidate) <;> rfl

theorem segmentation_nil (ids : List FieldId) : segmentation ids [] = ⟨[], []⟩ := by
  have hturn : turn? ids [] = none := by rw [turn?, splitAtOpening]
  rw [segmentation, scan_of_none hturn]
  rfl

/-- Where no declared placeholder starts a character is copied. -/
theorem segmentation_cons {ids : List FieldId} {c : Char} {rest : List Char}
    (h : matchingIds ids (c :: rest) = []) :
    segmentation ids (c :: rest) = (segmentation ids rest).copyBefore [c] := by
  by_cases hopen : opening <+: c :: rest
  · have hturn : turn? ids (c :: rest) = some ⟨[], none, rest⟩ := by
      rw [turn?, splitAtOpening_of_prefix hopen]
      simp [h, longestId]
    obtain rfl : c = '{' := by
      obtain ⟨more, hmore⟩ := hopen
      exact (List.cons.inj hmore).1.symm
    rw [segmentation, scan_of_some hturn]
    rfl
  · have hturn := turn?_cons ids hopen
    cases hrest : turn? ids rest with
    | none =>
        rw [hrest, Option.map_none] at hturn
        rw [segmentation, segmentation, scan_of_none hturn, scan_of_none hrest]
        rfl
    | some turn =>
        rw [hrest, Option.map_some] at hturn
        rw [segmentation, segmentation, scan_of_some hturn, scan_of_some hrest]
        simp only [Scan.segmentation, List.foldr_cons, Turn.prepend]
        cases turn.found with
        | none => exact Segmentation.copyBefore_append [c] (turn.before ++ ['{']) _
        | some id => exact Segmentation.copyBefore_append [c] turn.before _

/-- Where declared placeholders start the longest one is promoted. -/
theorem segmentation_placeholder {ids : List FieldId} {id : FieldId} {rest : List Char}
    (h : longestId (matchingIds ids (placeholder id.text.toList ++ rest)) = some id) :
    segmentation ids (placeholder id.text.toList ++ rest) =
      (segmentation ids rest).promoteBefore id := by
  have hopen : opening <+: placeholder id.text.toList ++ rest :=
    opening_prefix_of_placeholder_prefix (List.prefix_append _ _)
  have hturn : turn? ids (placeholder id.text.toList ++ rest) = some ⟨[], some id, rest⟩ := by
    rw [turn?, splitAtOpening_of_prefix hopen]
    simp only [h]
    rw [List.drop_left]
  rw [segmentation, scan_of_some hturn]
  simp only [Scan.segmentation, List.foldr_cons, Turn.prepend, Segmentation.copyBefore_nil]
  rfl

/-- A property of templates holds if it passes over every copied character and over every
promoted placeholder. -/
@[elab_as_elim] theorem segmentation_induction (ids : List FieldId) {motive : List Char → Prop}
    (nil : motive [])
    (copy : ∀ c rest, matchingIds ids (c :: rest) = [] → motive rest → motive (c :: rest))
    (promote : ∀ id rest,
      longestId (matchingIds ids (placeholder id.text.toList ++ rest)) = some id → motive rest →
        motive (placeholder id.text.toList ++ rest))
    (text : List Char) : motive text := by
  induction hlength : text.length using Nat.strongRecOn generalizing text with
  | ind n ih =>
      subst hlength
      cases text with
      | nil => exact nil
      | cons c rest =>
          cases hlongest : longestId (matchingIds ids (c :: rest)) with
          | none =>
              exact copy c rest (longestId_eq_none_iff.mp hlongest) (ih _ (by simp) rest rfl)
          | some id =>
              obtain ⟨more, hmore⟩ := (mem_matchingIds.mp (mem_of_longestId hlongest)).2
              rw [← hmore] at hlongest ih ⊢
              exact promote id more hlongest (ih _ (by simp) more rfl)

/-! ## What a template is cut into -/

theorem template_segmentation (ids : List FieldId) (text : List Char) :
    (segmentation ids text).template = text := by
  induction text using segmentation_induction ids with
  | nil => rw [segmentation_nil]; rfl
  | copy c rest hnone ih =>
      rw [segmentation_cons hnone, Segmentation.template, Segmentation.render_copyBefore]
      exact congrArg (c :: ·) ih
  | promote id rest hlongest ih =>
      rw [segmentation_placeholder hlongest, Segmentation.template,
        Segmentation.render_promoteBefore]
      exact congrArg (placeholder id.text.toList ++ ·) ih

/-- No declared placeholder is left in a copied text. -/
theorem not_infix_of_mem_copies {ids : List FieldId} {id : FieldId} (hid : id ∈ ids)
    (text : List Char) :
    ∀ copied ∈ (segmentation ids text).copies, ¬ placeholder id.text.toList <:+: copied := by
  induction text using segmentation_induction ids with
  | nil =>
      rw [segmentation_nil]
      simp [Segmentation.copies, placeholder_ne_nil]
  | copy c rest hnone ih =>
      obtain ⟨first, others, hcopies, hfirst, hgrown⟩ :=
        (segmentation ids rest).exists_copies_copyBefore (fun id => id.text.toList) [c]
      rw [hcopies, List.forall_mem_cons] at ih
      rw [segmentation_cons hnone, hgrown, List.forall_mem_cons]
      refine ⟨fun hinside => ?_, ih.2⟩
      -- Only the first copied text has grown, and a placeholder at its new start would be a
      -- placeholder in the template.
      rcases List.infix_cons_iff.mp hinside with hstart | hinside
      · change first <+: (segmentation ids rest).template at hfirst
        rw [template_segmentation] at hfirst
        exact matchingIds_eq_nil_iff.mp hnone id hid
          (hstart.trans ((List.prefix_cons_inj c).mpr hfirst))
      · exact ih.1 hinside
  | promote other rest hlongest ih =>
      rw [segmentation_placeholder hlongest]
      refine List.forall_mem_cons.mpr ⟨?_, ih⟩
      simp [placeholder_ne_nil]

end DeviceConfig
