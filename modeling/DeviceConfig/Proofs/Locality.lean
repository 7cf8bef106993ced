import DeviceConfig.Proofs.LeftmostLongest

/-!
# Promotion in parts

Two texts are promoted apart if no placeholder of a declared id starts in the first one and
ends in the second. Up to the seam the same ids are found with and without the second text,
and behind it the scan starts afresh.
-/

namespace DeviceConfig

/-! ## Across a seam -/

/-- The target starts in a text and ends in the one behind it. -/
def Crosses (target text rest : List Char) : Prop :=
  ∃ front back, front ≠ [] ∧ back ≠ [] ∧ target = front ++ back ∧ front <:+ text ∧ back <+: rest

theorem crosses_iff {target text rest : List Char} :
    Crosses target text rest ↔ ∃ size ∈ List.range target.length,
      0 < size ∧ target.take size <:+ text ∧ target.drop size <+: rest := by
  constructor
  · rintro ⟨front, back, hfront, hback, rfl, hsuffix, hprefix⟩
    refine ⟨front.length, ?_, List.length_pos_iff.mpr hfront, ?_, ?_⟩
    · simpa [List.length_pos_iff] using hback
    · rwa [List.take_left]
    · rwa [List.drop_left]
  · rintro ⟨size, hsize, hpos, hsuffix, hprefix⟩
    have hlt := List.mem_range.mp hsize
    refine ⟨target.take size, target.drop size, ?_, ?_, (List.take_append_drop _ _).symm,
      hsuffix, hprefix⟩
    · exact List.length_pos_iff.mp (by rw [List.length_take]; omega)
    · exact List.length_pos_iff.mp (by rw [List.length_drop]; omega)

instance (target text rest : List Char) : Decidable (Crosses target text rest) :=
  decidable_of_iff _ crosses_iff.symm

theorem Crosses.append_left {target text rest : List Char} (h : Crosses target text rest)
    (before : List Char) : Crosses target (before ++ text) rest := by
  obtain ⟨front, back, hfront, hback, htarget, hsuffix, hprefix⟩ := h
  exact ⟨front, back, hfront, hback, htarget, hsuffix.trans (List.suffix_append _ _), hprefix⟩

theorem prefix_append_iff_of_not_crosses {target text rest : List Char} (htext : text ≠ [])
    (h : ¬ Crosses target text rest) : target <+: text ++ rest ↔ target <+: text := by
  constructor
  · rintro ⟨after, hafter⟩
    -- The target ends within the text or reaches over it, by a part that must be empty.
    rcases List.append_eq_append_iff.mp hafter with ⟨gap, rfl, -⟩ | ⟨gap, rfl, rfl⟩
    · exact List.prefix_append _ _
    · by_cases hgap : gap = []
      · simp [hgap]
      · exact absurd ⟨text, gap, htext, hgap, rfl, List.suffix_rfl, List.prefix_append _ _⟩ h
  · exact fun hprefix => hprefix.trans (List.prefix_append _ _)

/-- Up to the seam the text behind it is of no influence. -/
theorem matchingIds_append {ids : List FieldId} {text rest : List Char} (htext : text ≠ [])
    (h : ∀ id ∈ ids, ¬ Crosses (placeholder id.text.toList) text rest) :
    matchingIds ids (text ++ rest) = matchingIds ids text := by
  apply List.filter_congr
  intro id hid
  rw [Bool.eq_iff_iff, List.isPrefixOf_iff_prefix, List.isPrefixOf_iff_prefix,
    prefix_append_iff_of_not_crosses htext (h id hid)]

/-! ## Segmentations one behind the other -/

namespace Segmentation

/-- Two segmentations one behind the other; at the seam the copied texts grow together. -/
def followedBy (cut other : Segmentation) : Segmentation :=
  let joined := other.copyBefore cut.tail
  ⟨cut.stretches ++ joined.stretches, joined.tail⟩

theorem followedBy_of_nil (tail : List Char) (other : Segmentation) :
    followedBy ⟨[], tail⟩ other = other.copyBefore tail :=
  rfl

theorem copyBefore_followedBy (text : List Char) (cut other : Segmentation) :
    (cut.copyBefore text).followedBy other = (cut.followedBy other).copyBefore text := by
  obtain ⟨_ | ⟨stretch, stretches⟩, tail⟩ := cut
  · exact copyBefore_append text tail other
  · rfl

theorem promoteBefore_followedBy (id : FieldId) (cut other : Segmentation) :
    (cut.promoteBefore id).followedBy other = (cut.followedBy other).promoteBefore id :=
  rfl

theorem render_followedBy (content : FieldId → List Char) (cut other : Segmentation) :
    (cut.followedBy other).render content = cut.render content ++ other.render content := by
  obtain ⟨_ | ⟨stretch, stretches⟩, tail⟩ := other <;> simp [followedBy, copyBefore, render]

theorem resolved_followedBy (key : FieldId → String) (cut other : Segmentation) :
    (cut.followedBy other).resolved key =
      ⟨(cut.resolved key).text ++ (other.resolved key).text,
        (cut.resolved key).promotions ++ (other.resolved key).promotions⟩ := by
  have hcommand : (cut.followedBy other).command key = cut.command key ++ other.command key :=
    render_followedBy _ cut other
  have hpromotions : ((cut.followedBy other).stretches.map fun stretch =>
      (⟨stretch.id, key stretch.id⟩ : Promotion)) =
        (cut.resolved key).promotions ++ (other.resolved key).promotions := by
    obtain ⟨_ | ⟨stretch, stretches⟩, tail⟩ := other <;> simp [followedBy, copyBefore, resolved]
  rw [resolved, hcommand, hpromotions, String.ofList_append]
  rfl

end Segmentation

theorem segmentation_append_of_not_crosses {ids : List FieldId} {text rest : List Char}
    (h : ∀ id ∈ ids, ¬ Crosses (placeholder id.text.toList) text rest) :
    segmentation ids (text ++ rest) = (segmentation ids text).followedBy (segmentation ids rest) := by
  -- Both scans copy and promote the same up to the seam, where the first text is used up.
  induction text using segmentation_induction ids with
  | nil =>
      rw [List.nil_append, segmentation_nil, Segmentation.followedBy_of_nil,
        Segmentation.copyBefore_nil]
  | copy c more hnone ih =>
      have hmatch := matchingIds_append (List.cons_ne_nil c more) h
      have hlater := ih fun id hid hcrosses => h id hid (hcrosses.append_left [c])
      rw [hnone, List.cons_append] at hmatch
      rw [List.cons_append, segmentation_cons hmatch, hlater, segmentation_cons hnone,
        Segmentation.copyBefore_followedBy]
  | promote found more hlongest ih =>
      have hmatch := matchingIds_append (by simp [placeholder_ne_nil]) h
      have hlater := ih fun id hid hcrosses => h id hid (hcrosses.append_left _)
      have hlonger := hlongest
      rw [← hmatch, List.append_assoc] at hlonger
      rw [List.append_assoc, segmentation_placeholder hlonger, hlater,
        segmentation_placeholder hlongest, Segmentation.promoteBefore_followedBy]

/-! ## Promotion -/

theorem longestAt_placeholder {ids : List FieldId} {id : FieldId} (hid : id ∈ ids) :
    LongestAt ids (placeholder id.text.toList) id := by
  refine ⟨hid, List.prefix_rfl, fun other _ hprefix => ?_⟩
  have hlength := hprefix.length_le
  rw [length_placeholder, length_placeholder] at hlength
  have hcontent : opening ++ other.text.toList <+: opening ++ id.text.toList :=
    List.prefix_of_prefix_length_le ((List.prefix_append _ closing).trans hprefix)
      (List.prefix_append _ closing) (by simp only [List.length_append]; omega)
  obtain ⟨more, hmore⟩ := (List.prefix_append_right_inj _).mp hcontent
  have hsize := byteSize_of_append hmore
  omega

theorem promote_placeholder {ids : List FieldId} {id : FieldId} (hid : id ∈ ids)
    (key : FieldId → String) :
    promote ids key (String.ofList (placeholder id.text.toList)) =
      ⟨String.ofList (placeholder (key id).toList), [⟨id, key id⟩]⟩ := by
  have hlongest := (longestAt_placeholder hid).longestId_eq
  rw [← List.append_nil (placeholder _)] at hlongest
  have hcut := segmentation_placeholder hlongest
  rw [List.append_nil, segmentation_nil] at hcut
  rw [promote_eq_resolved, String.toList_ofList, hcut]
  simp [Segmentation.resolved, Segmentation.command, Segmentation.promoteBefore]

/-- Texts across whose seam no placeholder of a declared id stands are promoted one by one.
On its own every placeholder of a declared id becomes the placeholder of its key. -/
theorem promote_local (ids : List FieldId) (key : FieldId → String) :
    (∀ text rest : String,
      (∀ id ∈ ids, ¬ Crosses (placeholder id.text.toList) text.toList rest.toList) →
        promote ids key (text ++ rest) =
          ⟨(promote ids key text).text ++ (promote ids key rest).text,
            (promote ids key text).promotions ++ (promote ids key rest).promotions⟩) ∧
    ∀ id ∈ ids, promote ids key (String.ofList (placeholder id.text.toList)) =
      ⟨String.ofList (placeholder (key id).toList), [⟨id, key id⟩]⟩ := by
  constructor
  · intro text rest h
    rw [promote_eq_resolved, promote_eq_resolved, promote_eq_resolved, String.toList_append,
      segmentation_append_of_not_crosses h, Segmentation.resolved_followedBy]
  · exact fun id hid => promote_placeholder hid key

/-- Ids of which one is empty and one would reach over the seam if it ended otherwise. -/
def reachingIds : List FieldId :=
  [⟨""⟩, ⟨"é"⟩, ⟨"é\x7d\x7d\x7b\x7by"⟩]

theorem promote_local_reaching :
    (∀ id ∈ reachingIds, ¬ Crosses (placeholder id.text.toList)
      "q\x7b{{é}}\x7b".toList "\x7bx\x7d\x7d{{}}".toList) ∧
    promote reachingIds (fun id => "k/" ++ id.text) ("q\x7b{{é}}\x7b" ++ "\x7bx\x7d\x7d{{}}") =
      ⟨"q\x7b{{k/é}}{{x}}{{k/}}", [⟨⟨"é"⟩, "k/é"⟩, ⟨⟨""⟩, "k/"⟩]⟩ := by
  have h : ∀ id ∈ reachingIds, ¬ Crosses (placeholder id.text.toList)
      "q\x7b{{é}}\x7b".toList "\x7bx\x7d\x7d{{}}".toList := by
    decide +kernel
  have hparts := (promote_local reachingIds fun id => "k/" ++ id.text).1 _ _ h
  have hfirst : promote reachingIds (fun id => "k/" ++ id.text) "q\x7b{{é}}\x7b" =
      ⟨"q\x7b{{k/é}}\x7b", [⟨⟨"é"⟩, "k/é"⟩]⟩ := by
    decide +kernel
  have hsecond : promote reachingIds (fun id => "k/" ++ id.text) "\x7bx\x7d\x7d{{}}" =
      ⟨"\x7bx\x7d\x7d{{k/}}", [⟨⟨""⟩, "k/"⟩]⟩ := by
    decide +kernel
  rw [hfirst, hsecond] at hparts
  exact ⟨h, hparts⟩

end DeviceConfig
