import DeviceConfig.Proofs.CommandPlaceholders
import DeviceConfig.Proofs.Replacement

/-!
# Undoing a promotion

A command shows where keys were put in: promoting it back, with the keys as declared ids and
the ids as their keys, finds the same parts again and gives the template. This needs keys
without braces, and a template that held none of their placeholders before.
-/

namespace DeviceConfig

/-! ## Other ids in the same parts -/

namespace Segmentation

/-- The same parts, promoted for other ids. -/
def relabel (other : FieldId → FieldId) (cut : Segmentation) : Segmentation :=
  ⟨cut.stretches.map fun stretch => ⟨stretch.copied, other stretch.id⟩, cut.tail⟩

theorem render_relabel (content : FieldId → List Char) (other : FieldId → FieldId)
    (cut : Segmentation) :
    (cut.relabel other).render content = cut.render fun id => content (other id) := by
  simp [render, relabel, List.flatMap_map]

end Segmentation

section Commands

variable {ids : List FieldId}

/-- Of ids without braces only one can be found at one place. -/
theorem longestAt_placeholder_append (hids : ∀ id ∈ ids, BraceFree id.text.toList)
    {id : FieldId} (hid : id ∈ ids) (rest : List Char) :
    LongestAt ids (placeholder id.text.toList ++ rest) id := by
  refine ⟨hid, List.prefix_append _ _, fun other hother hstarts => ?_⟩
  obtain ⟨after, hafter⟩ := hstarts
  obtain ⟨hsame, -⟩ := eq_and_eq_of_placeholder_append (hids other hother) (hids id hid) hafter
  exact Nat.le_of_eq (congrArg Name.byteSize (Name.eq_of_toList_eq hsame))

/-- If the keys of a command hold no brace and its copied texts none of their placeholders,
the command is cut at these keys as its template was at the ids. -/
theorem segmentation_command {cut : Segmentation} {key : FieldId → String}
    (hids : ∀ id ∈ ids, BraceFree id.text.toList)
    (hkeys : ∀ stretch ∈ cut.stretches, ⟨key stretch.id⟩ ∈ ids)
    (hcopies : ∀ copied ∈ cut.copies, ∀ id ∈ ids, ¬ placeholder id.text.toList <:+: copied) :
    segmentation ids (cut.command key) = cut.relabel fun id => ⟨key id⟩ := by
  -- The parts of the cut are leftmost and longest for the keys, and there is one such cut only.
  symm
  apply Segmentation.LeftmostLongest.eq_segmentation
  obtain ⟨stretches, tail⟩ := cut
  induction stretches with
  | nil =>
      have htail := hcopies tail (by simp [Segmentation.copies])
      exact Segmentation.leftmostLongest_nil_iff.mpr
        ⟨rfl, fun id hid => startsNowhere_of_absent (htail id hid)⟩
  | cons stretch stretches ih =>
      obtain ⟨hkey, hlater⟩ := List.forall_mem_cons.mp hkeys
      obtain ⟨hcopied, hothers⟩ := List.forall_mem_cons.mp hcopies
      have hnowhere : ∀ id ∈ ids, StartsNowhere (placeholder id.text.toList) stretch.copied
          (placeholder (key stretch.id).toList ++
            Segmentation.command key ⟨stretches, tail⟩) := fun id hid =>
        startsNowhere_before_placeholder (hids _ hkey) (hids id hid) (hcopied id hid)
      rw [Segmentation.command, Segmentation.render_cons]
      exact (ih hlater hothers).cons ⟨stretch.copied, ⟨key stretch.id⟩⟩ hnowhere
        (longestAt_placeholder_append hids hkey _)

end Commands

/-! ## Back from keys to ids -/

/-- The promotion that puts the id in the place of its key. -/
def Promotion.reverse (promotion : Promotion) : Promotion :=
  ⟨⟨promotion.key⟩, promotion.id.text⟩

/-- The same parts, resolved with the ids for their keys, are the template. -/
theorem Segmentation.resolved_relabel {cut : Segmentation} {key back : FieldId → String}
    (hback : ∀ stretch ∈ cut.stretches, back ⟨key stretch.id⟩ = stretch.id.text) :
    (cut.relabel fun id => ⟨key id⟩).resolved back =
      ⟨String.ofList cut.template, (cut.resolved key).promotions.map Promotion.reverse⟩ := by
  have hcommand : (cut.relabel fun id => ⟨key id⟩).command back = cut.template := by
    rw [command, render_relabel, template]
    apply render_congr
    intro stretch hstretch
    rw [hback stretch hstretch]
  have hpromotions : ((cut.relabel fun id => ⟨key id⟩).stretches.map fun stretch =>
      (⟨stretch.id, back stretch.id⟩ : Promotion)) =
        (cut.resolved key).promotions.map Promotion.reverse := by
    simp only [relabel, resolved, List.map_map]
    apply List.map_congr_left
    intro stretch hstretch
    simp [Promotion.reverse, hback stretch hstretch]
  rw [resolved, hcommand, hpromotions]

/-- The keys of ids, as ids of their own. -/
def keyIds (key : FieldId → String) (ids : List FieldId) : List FieldId :=
  ids.map fun id => ⟨key id⟩

/-- A template in which no placeholder of a key stands. -/
def KeysAbsent (key : FieldId → String) (ids : List FieldId) (template : String) : Prop :=
  ∀ id ∈ ids, ¬ placeholder (key id).toList <:+: template.toList

instance (key : FieldId → String) (ids : List FieldId) (template : String) :
    Decidable (KeysAbsent key ids template) :=
  inferInstanceAs (Decidable (∀ id ∈ ids, ¬ placeholder (key id).toList <:+: template.toList))

/-- Promotion to keys without braces is undone by promotion back to the ids. -/
theorem promote_back {ids : List FieldId} {key back : FieldId → String} {template : String}
    (hfree : ∀ id ∈ ids, BraceFree (key id).toList) (habsent : KeysAbsent key ids template)
    (hback : ∀ id ∈ ids, back ⟨key id⟩ = id.text) :
    promote (keyIds key ids) back (promote ids key template).text =
      ⟨template, (promote ids key template).promotions.map Promotion.reverse⟩ := by
  have hcopies : ∀ copied ∈ (segmentation ids template.toList).copies, ∀ id ∈ keyIds key ids,
      ¬ placeholder id.text.toList <:+: copied := by
    intro copied hcopied
    have hinside : copied <:+: (segmentation ids template.toList).template :=
      Segmentation.infix_render_of_mem_copies _ hcopied
    rw [template_segmentation] at hinside
    exact List.forall_mem_map.mpr fun id hid hkey => habsent id hid (hkey.trans hinside)
  have hcut : segmentation (keyIds key ids) ((segmentation ids template.toList).command key) =
      (segmentation ids template.toList).relabel fun id => ⟨key id⟩ :=
    segmentation_command (List.forall_mem_map.mpr hfree)
      (fun _ hstretch => List.mem_map_of_mem (mem_ids_of_mem_stretches hstretch)) hcopies
  have hstretches : ∀ stretch ∈ (segmentation ids template.toList).stretches,
      back ⟨key stretch.id⟩ = stretch.id.text := fun stretch hstretch =>
    hback stretch.id (mem_ids_of_mem_stretches hstretch)
  have hresolved := Segmentation.resolved_relabel hstretches
  rw [template_segmentation, String.ofList_toList] at hresolved
  rw [promote_eq_resolved (keyIds key ids), toList_text_promote, hcut, hresolved,
    ← promote_eq_resolved]

/-! ## Keys of fields -/

/-- The id of a field, read off its key. -/
def idInKey (elementKey : String) (key : FieldId) : String :=
  String.ofList (key.text.toList.drop (elementKey ++ "/").length)

theorem idInKey_fieldKey (elementKey : String) (id : FieldId) :
    idInKey elementKey ⟨fieldKey elementKey id⟩ = id.text := by
  rw [idInKey, fieldKey, String.toList_append, ← String.length_toList, List.drop_left,
    String.ofList_toList]

/-- If neither the key of an element nor the ids of its fields hold braces, then from every
command the template can be had back that held no placeholder of a key: what was promoted
is promoted back, at the same places. So different templates of this kind have different
commands. -/
theorem promote_undone {elementKey : String} {ids : List FieldId}
    (hkey : BraceFree elementKey.toList) (hids : ∀ id ∈ ids, BraceFree id.text.toList) :
    (∀ back : FieldId → String, (∀ id ∈ ids, back ⟨fieldKey elementKey id⟩ = id.text) →
      ∀ template : String, KeysAbsent (fieldKey elementKey) ids template →
        promote (keyIds (fieldKey elementKey) ids) back
            (promote ids (fieldKey elementKey) template).text =
          ⟨template, (promote ids (fieldKey elementKey) template).promotions.map
            Promotion.reverse⟩) ∧
    ∀ template other : String, KeysAbsent (fieldKey elementKey) ids template →
      KeysAbsent (fieldKey elementKey) ids other →
        (promote ids (fieldKey elementKey) template).text =
          (promote ids (fieldKey elementKey) other).text → template = other := by
  have hfree : ∀ id ∈ ids, BraceFree (fieldKey elementKey id).toList := fun id hid =>
    braceFree_fieldKey hkey (hids id hid)
  constructor
  · intro back hback template habsent
    exact promote_back hfree habsent hback
  · intro template other htemplate hother hcommand
    have hback : ∀ id ∈ ids, idInKey elementKey ⟨fieldKey elementKey id⟩ = id.text :=
      fun id _ => idInKey_fieldKey elementKey id
    have hone := congrArg Resolved.text (promote_back hfree htemplate hback)
    have htwo := congrArg Resolved.text (promote_back hfree hother hback)
    rw [hcommand] at hone
    exact hone.symm.trans htwo

/-- Ids of which one is empty and one looks like the key of another. -/
def keyLikeIds : List FieldId :=
  [⟨"a"⟩, ⟨"e/a"⟩, ⟨""⟩]

theorem promote_undone_keyLike :
    BraceFree "e".toList ∧ KeysAbsent (fieldKey "e") keyLikeIds "q{{{a}}} {{}}{{x}}" ∧
    (promote keyLikeIds (fieldKey "e") "q{{{a}}} {{}}{{x}}").text = "q{{{e/a}}} {{e/}}{{x}}" ∧
    promote [⟨"e/a"⟩, ⟨"e/e/a"⟩, ⟨"e/"⟩] (idInKey "e") "q{{{e/a}}} {{e/}}{{x}}" =
      ⟨"q{{{a}}} {{}}{{x}}", [⟨⟨"e/a"⟩, "a"⟩, ⟨⟨"e/"⟩, ""⟩]⟩ := by
  have hkey : BraceFree "e".toList := ⟨by decide, by decide⟩
  have hids : ∀ id ∈ keyLikeIds, BraceFree id.text.toList := by decide +kernel
  have habsent : KeysAbsent (fieldKey "e") keyLikeIds "q{{{a}}} {{}}{{x}}" := by decide +kernel
  have hcommand : promote keyLikeIds (fieldKey "e") "q{{{a}}} {{}}{{x}}" =
      ⟨"q{{{e/a}}} {{e/}}{{x}}", [⟨⟨"a"⟩, "e/a"⟩, ⟨⟨""⟩, "e/"⟩]⟩ := by
    decide +kernel
  have hundone := (promote_undone hkey hids).1 (idInKey "e")
    (fun id _ => idInKey_fieldKey "e" id) _ habsent
  rw [hcommand] at hundone
  exact ⟨hkey, habsent, congrArg Resolved.text hcommand, hundone⟩

end DeviceConfig
