import DeviceConfig.Proofs.Occurrence

/-!
# Leftmost and longest

Promotion is a substitution in one pass: from left to right, at the first place where
placeholders of declared ids start, the longest of them is promoted. There is one way only
to cut a template like that, so the result depends on the set of the ids and on their keys
and on nothing else.
-/

namespace DeviceConfig

/-! ## The id at one place -/

/-- Of the declared ids whose placeholders start a text this one has the most bytes. -/
structure LongestAt (ids : List FieldId) (text : List Char) (id : FieldId) : Prop where
  declared : id ∈ ids
  starts : placeholder id.text.toList <+: text
  longest : ∀ other ∈ ids, placeholder other.text.toList <+: text → other.byteSize ≤ id.byteSize

theorem LongestAt.eq {ids : List FieldId} {text : List Char} {a b : FieldId}
    (ha : LongestAt ids text a) (hb : LongestAt ids text b) : a = b :=
  eq_of_placeholder_prefix ha.starts hb.starts
    (Nat.le_antisymm (hb.longest a ha.declared ha.starts) (ha.longest b hb.declared hb.starts))

theorem longestAt_of_longestId {ids : List FieldId} {text : List Char} {id : FieldId}
    (h : longestId (matchingIds ids text) = some id) : LongestAt ids text id := by
  obtain ⟨hdeclared, hstarts⟩ := mem_matchingIds.mp (mem_of_longestId h)
  refine ⟨hdeclared, hstarts, fun other hother hprefix => ?_⟩
  exact byteSize_le_of_longestId h other (mem_matchingIds.mpr ⟨hother, hprefix⟩)

theorem LongestAt.longestId_eq {ids : List FieldId} {text : List Char} {id : FieldId}
    (h : LongestAt ids text id) : longestId (matchingIds ids text) = some id := by
  cases hlongest : longestId (matchingIds ids text) with
  | none =>
      have hnone := matchingIds_eq_nil_iff.mp (longestId_eq_none_iff.mp hlongest)
      exact absurd h.starts (hnone id h.declared)
  | some best => rw [(longestAt_of_longestId hlongest).eq h]

/-! ## The leftmost and longest segmentation -/

namespace Segmentation

/-- A template cut at the leftmost and longest placeholders of the declared ids: from the
place of each promoted placeholder it is the longest one, and from no place in a copied
text does any of them start. -/
structure LeftmostLongest (ids : List FieldId) (text : List Char) (cut : Segmentation) : Prop where
  template : cut.template = text
  promoted : ∀ before after id, text = before ++ after →
    cut.Inserts (fun id => id.text.toList) before id → LongestAt ids after id
  copied : ∀ before c after, text = before ++ c :: after →
    cut.Copies (fun id => id.text.toList) before [c] →
      ∀ id ∈ ids, ¬ placeholder id.text.toList <+: c :: after

variable {ids : List FieldId} {text tail : List Char} {stretch : Stretch}
  {stretches : List Stretch}

theorem leftmostLongest_nil_iff :
    LeftmostLongest ids text ⟨[], tail⟩ ↔
      tail = text ∧ ∀ id ∈ ids, StartsNowhere (placeholder id.text.toList) text [] := by
  constructor
  · rintro ⟨htemplate, -, hcopied⟩
    obtain rfl : tail = text := htemplate
    refine ⟨rfl, fun id hid before back htext hback => ?_⟩
    obtain ⟨c, back, rfl⟩ := List.exists_cons_of_ne_nil hback
    rw [List.append_nil]
    exact hcopied before c back htext (copies_nil_iff.mpr ⟨back, htext⟩) id hid
  · rintro ⟨rfl, hnowhere⟩
    constructor
    · rfl
    · intro before after id _ hinserts
      exact absurd hinserts not_inserts_nil
    · intro before c after htext _ id hid
      have hstart := hnowhere id hid before (c :: after) htext (List.cons_ne_nil _ _)
      rwa [List.append_nil] at hstart

namespace LeftmostLongest

/-- In front of a segmentation further text is copied and the longest placeholder promoted. -/
theorem cons (stretch : Stretch) {rest : List Char}
    (h : LeftmostLongest ids rest ⟨stretches, tail⟩)
    (hnowhere : ∀ id ∈ ids, StartsNowhere (placeholder id.text.toList) stretch.copied
      (placeholder stretch.id.text.toList ++ rest))
    (hlongest : LongestAt ids (placeholder stretch.id.text.toList ++ rest) stretch.id) :
    LeftmostLongest ids (stretch.copied ++ (placeholder stretch.id.text.toList ++ rest))
      ⟨stretch :: stretches, tail⟩ := by
  constructor
  · rw [Segmentation.template, render_cons]
    exact congrArg (fun more => stretch.copied ++ (placeholder stretch.id.text.toList ++ more))
      h.template
  · intro before after id htext hinserts
    rcases inserts_cons_iff.mp hinserts with ⟨rfl, rfl⟩ | ⟨more, rfl, hmore⟩
    · rwa [← List.append_cancel_left htext]
    · rw [List.append_assoc, List.append_assoc] at htext
      exact h.promoted more after id
        (List.append_cancel_left (List.append_cancel_left htext)) hmore
  · intro before c after htext hcopies
    rcases copies_cons_iff.mp hcopies with ⟨back, hback⟩ | ⟨more, rfl, hmore⟩
    · intro id hid
      have hstart := hnowhere id hid before ([c] ++ back) hback (List.cons_ne_nil _ _)
      rw [hback, List.append_assoc] at htext
      rwa [List.append_cancel_left htext] at hstart
    · rw [List.append_assoc, List.append_assoc] at htext
      exact h.copied more c after
        (List.append_cancel_left (List.append_cancel_left htext)) hmore

/-- A segmentation stays leftmost and longest behind its first promoted placeholder. -/
theorem exists_rest (h : LeftmostLongest ids text ⟨stretch :: stretches, tail⟩) :
    ∃ rest, text = stretch.copied ++ (placeholder stretch.id.text.toList ++ rest) ∧
      (∀ id ∈ ids, StartsNowhere (placeholder id.text.toList) stretch.copied
        (placeholder stretch.id.text.toList ++ rest)) ∧
      LongestAt ids (placeholder stretch.id.text.toList ++ rest) stretch.id ∧
      LeftmostLongest ids rest ⟨stretches, tail⟩ := by
  obtain ⟨rfl, hpromoted, hcopied⟩ := h
  rw [Segmentation.template, render_cons] at hpromoted hcopied ⊢
  refine ⟨_, rfl, ?_, ?_, rfl, ?_, ?_⟩
  · intro id hid before back hback hne
    obtain ⟨c, back, rfl⟩ := List.exists_cons_of_ne_nil hne
    refine hcopied before c _ ?_ (copies_cons_iff.mpr (.inl ⟨back, hback⟩)) id hid
    rw [hback, List.append_assoc]
    rfl
  · exact hpromoted stretch.copied _ stretch.id rfl (inserts_cons_iff.mpr (.inl ⟨rfl, rfl⟩))
  · intro before after id hrest hinserts
    refine hpromoted _ after id ?_ (inserts_cons_iff.mpr (.inr ⟨before, rfl, hinserts⟩))
    rw [hrest, List.append_assoc, List.append_assoc]
  · intro before c after hrest hcopies
    refine hcopied _ c after ?_ (copies_cons_iff.mpr (.inr ⟨before, rfl, hcopies⟩))
    rw [hrest, List.append_assoc, List.append_assoc]

theorem copyBefore {cut : Segmentation} {c : Char} {rest : List Char}
    (h : cut.LeftmostLongest ids rest) (hnone : matchingIds ids (c :: rest) = []) :
    (cut.copyBefore [c]).LeftmostLongest ids (c :: rest) := by
  have hfirst := matchingIds_eq_nil_iff.mp hnone
  obtain ⟨_ | ⟨stretch, stretches⟩, tail⟩ := cut
  · obtain ⟨rfl, hnowhere⟩ := leftmostLongest_nil_iff.mp h
    refine leftmostLongest_nil_iff.mpr ⟨rfl, fun id hid => ?_⟩
    exact startsNowhere_cons_iff.mpr ⟨by simpa using hfirst id hid, hnowhere id hid⟩
  · -- The first copied text grows at its start, so the segmentation is put together anew.
    obtain ⟨more, rfl, hnowhere, hlongest, hmore⟩ := h.exists_rest
    exact hmore.cons ⟨c :: stretch.copied, stretch.id⟩
      (fun id hid => startsNowhere_cons_iff.mpr ⟨hfirst id hid, hnowhere id hid⟩) hlongest

theorem promoteBefore {cut : Segmentation} {id : FieldId} {rest : List Char}
    (h : cut.LeftmostLongest ids rest)
    (hlongest : LongestAt ids (placeholder id.text.toList ++ rest) id) :
    (cut.promoteBefore id).LeftmostLongest ids (placeholder id.text.toList ++ rest) :=
  h.cons ⟨[], id⟩ (fun _ _ => startsNowhere_nil _ _) hlongest

end LeftmostLongest

end Segmentation

/-! ## Scanning -/

theorem segmentation_leftmostLongest (ids : List FieldId) (text : List Char) :
    (segmentation ids text).LeftmostLongest ids text := by
  induction text using segmentation_induction ids with
  | nil =>
      rw [segmentation_nil]
      exact Segmentation.leftmostLongest_nil_iff.mpr ⟨rfl, fun _ _ => startsNowhere_nil _ _⟩
  | copy c rest hnone ih =>
      rw [segmentation_cons hnone]
      exact ih.copyBefore hnone
  | promote id rest hlongest ih =>
      rw [segmentation_placeholder hlongest]
      exact ih.promoteBefore (longestAt_of_longestId hlongest)

theorem segmentation_append {ids : List FieldId} {front rest : List Char}
    (h : ∀ id ∈ ids, StartsNowhere (placeholder id.text.toList) front rest) :
    segmentation ids (front ++ rest) = (segmentation ids rest).copyBefore front := by
  induction front with
  | nil => rw [List.nil_append, Segmentation.copyBefore_nil]
  | cons c front ih =>
      have hnone : matchingIds ids (c :: (front ++ rest)) = [] :=
        matchingIds_eq_nil_iff.mpr fun id hid => (startsNowhere_cons_iff.mp (h id hid)).1
      have hlater := ih fun id hid => (startsNowhere_cons_iff.mp (h id hid)).2
      rw [List.cons_append, segmentation_cons hnone, hlater]
      exact (Segmentation.copyBefore_append [c] front _).symm

/-- A template can be cut at the leftmost and longest placeholders in one way only. -/
theorem Segmentation.LeftmostLongest.eq_segmentation {ids : List FieldId} {text : List Char}
    {cut : Segmentation} (h : cut.LeftmostLongest ids text) : cut = segmentation ids text := by
  obtain ⟨stretches, tail⟩ := cut
  -- The scan follows the cut: it passes over the copied text and takes the same placeholder.
  induction stretches generalizing text with
  | nil =>
      obtain ⟨rfl, hnowhere⟩ := leftmostLongest_nil_iff.mp h
      have htext := segmentation_append hnowhere
      rw [List.append_nil, segmentation_nil] at htext
      rw [htext, Segmentation.copyBefore, List.append_nil]
  | cons stretch stretches ih =>
      obtain ⟨rest, rfl, hnowhere, hlongest, hrest⟩ := h.exists_rest
      rw [segmentation_append hnowhere, segmentation_placeholder hlongest.longestId_eq, ← ih hrest]
      simp only [Segmentation.promoteBefore, Segmentation.copyBefore, List.append_nil]

theorem segmentation_of_absent {ids : List FieldId} {text : List Char}
    (h : ∀ id ∈ ids, ¬ placeholder id.text.toList <:+: text) :
    segmentation ids text = ⟨[], text⟩ := by
  have hcut : (⟨[], text⟩ : Segmentation).LeftmostLongest ids text :=
    Segmentation.leftmostLongest_nil_iff.mpr
      ⟨rfl, fun id hid => startsNowhere_of_absent (h id hid)⟩
  exact hcut.eq_segmentation.symm

/-! ## Promotion -/

namespace Segmentation

theorem render_congr {cut : Segmentation} {content content' : FieldId → List Char}
    (h : ∀ stretch ∈ cut.stretches, content stretch.id = content' stretch.id) :
    cut.render content = cut.render content' := by
  have hstretches : cut.stretches.flatMap (fun stretch =>
        stretch.copied ++ placeholder (content stretch.id)) =
      cut.stretches.flatMap fun stretch => stretch.copied ++ placeholder (content' stretch.id) :=
    List.flatMap_congr fun stretch hstretch => by rw [h stretch hstretch]
  rw [render, render, hstretches]

/-- The template that a segmentation resolves, with its promotions from left to right. -/
def resolved (key : FieldId → String) (cut : Segmentation) : Resolved :=
  ⟨String.ofList (cut.command key), cut.stretches.map fun stretch => ⟨stretch.id, key stretch.id⟩⟩

theorem resolved_congr {cut : Segmentation} {key key' : FieldId → String}
    (h : ∀ stretch ∈ cut.stretches, key stretch.id = key' stretch.id) :
    cut.resolved key = cut.resolved key' := by
  have hcommand : cut.command key = cut.command key' :=
    render_congr fun stretch hstretch => by rw [h stretch hstretch]
  have hpromotions : (cut.stretches.map fun stretch => (⟨stretch.id, key stretch.id⟩ : Promotion)) =
      cut.stretches.map fun stretch => ⟨stretch.id, key' stretch.id⟩ :=
    List.map_congr_left fun stretch hstretch => by rw [h stretch hstretch]
  rw [resolved, resolved, hcommand, hpromotions]

end Segmentation

theorem promote_eq_resolved (ids : List FieldId) (key : FieldId → String) (template : String) :
    promote ids key template = (segmentation ids template.toList).resolved key := by
  rw [Segmentation.resolved, segmentation, Scan.command_segmentation, Scan.promotions_segmentation]
  rfl

theorem toList_text_promote (ids : List FieldId) (key : FieldId → String) (template : String) :
    (promote ids key template).text.toList = (segmentation ids template.toList).command key := by
  rw [promote_eq_resolved, Segmentation.resolved, String.toList_ofList]

theorem promote_of_absent {ids : List FieldId} {template : String}
    (h : ∀ id ∈ ids, ¬ placeholder id.text.toList <:+: template.toList) (key : FieldId → String) :
    promote ids key template = ⟨template, []⟩ := by
  rw [promote_eq_resolved, segmentation_of_absent h]
  simp [Segmentation.resolved, Segmentation.command]

/-- A template can be cut at the leftmost and longest placeholders of the declared ids in
exactly one way, and promotion puts the keys in the place of these placeholders. Without ids
it leaves the template as it is. -/
theorem promote_leftmost_longest (ids : List FieldId) (key : FieldId → String)
    (template : String) :
    (∃ cut : Segmentation, cut.LeftmostLongest ids template.toList ∧
      (∀ other : Segmentation, other.LeftmostLongest ids template.toList → other = cut) ∧
      promote ids key template = cut.resolved key) ∧
    promote [] key template = ⟨template, []⟩ := by
  constructor
  · exact ⟨segmentation ids template.toList, segmentation_leftmostLongest _ _,
      fun _ hother => hother.eq_segmentation, promote_eq_resolved ids key template⟩
  · exact promote_of_absent (by simp) key

/-- Promotion depends on the declared ids as a set of texts and on the keys of these ids. In
which order and how often the ids are declared has no influence. -/
theorem promote_eq_of_same_ids {ids ids' : List FieldId} {key key' : FieldId → String}
    (hids : ∀ text : String, (⟨text⟩ : FieldId) ∈ ids ↔ ⟨text⟩ ∈ ids')
    (hkey : ∀ id ∈ ids, key id = key' id) (template : String) :
    promote ids key template = promote ids' key' template := by
  have hmem : ∀ id, id ∈ ids ↔ id ∈ ids' := fun id => hids id.text
  rw [← promote_congr hmem, promote_eq_resolved, promote_eq_resolved]
  exact Segmentation.resolved_congr fun stretch hstretch =>
    hkey stretch.id (mem_ids_of_mem_stretches hstretch)

/-- Ids whose placeholders start at one place: one is a part of the other, which holds braces.
A further one is empty, and one is declared twice. -/
def overlappingIds : List FieldId :=
  [⟨""⟩, ⟨"é"⟩, ⟨"é\x7d\x7db"⟩, ⟨"é"⟩]

/-- A template with a placeholder of each of them. -/
def overlappingTemplate : String :=
  String.ofList ('{' :: placeholder "é\x7d\x7db".toList) ++ " {{é}} {{}}"

theorem promote_eq_of_same_ids_overlapping :
    (∀ text : String, (⟨text⟩ : FieldId) ∈ overlappingIds ↔
      ⟨text⟩ ∈ overlappingIds.reverse ++ [⟨""⟩]) ∧
    promote overlappingIds (fun id => "k/" ++ id.text) overlappingTemplate =
      promote (overlappingIds.reverse ++ [⟨""⟩]) (fun id => "k/" ++ id.text)
        overlappingTemplate ∧
    (promote overlappingIds (fun id => "k/" ++ id.text) overlappingTemplate).promotions.map
      Promotion.key = ["k/é\x7d\x7db", "k/é", "k/"] := by
  have hids : ∀ text : String, (⟨text⟩ : FieldId) ∈ overlappingIds ↔
      ⟨text⟩ ∈ overlappingIds.reverse ++ [⟨""⟩] := by
    intro text
    simp only [overlappingIds, List.reverse_cons, List.reverse_nil, List.mem_append,
      List.mem_cons, List.not_mem_nil]
    tauto
  exact ⟨hids, promote_eq_of_same_ids hids (fun _ _ => rfl) _, by decide +kernel⟩

end DeviceConfig
