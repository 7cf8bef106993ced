import DeviceConfig.Proofs.LeftmostLongest
import DeviceConfig.Text.Replace

/-!
# Replacing one id after the other

If neither ids nor keys hold braces and no key is itself a declared id, promotion in one
pass does what replacing the ids one after the other does, in whatever order. Between two
passes the text has the same segmentation, in which some ids stand and some keys.
-/

namespace DeviceConfig

/-! ## One replacement -/

/-- A text in which the target starts nowhere is passed over. -/
theorem replaceAll_append_of_startsNowhere {target text rest : List Char}
    (h : StartsNowhere target text rest) (replacement : List Char) :
    Text.replaceAll target replacement (text ++ rest) =
      text ++ Text.replaceAll target replacement rest := by
  induction text with
  | nil => rfl
  | cons c text ih =>
      obtain ⟨hfirst, hlater⟩ := startsNowhere_cons_iff.mp h
      rw [List.cons_append, Text.replaceAll_cons hfirst, ih hlater, List.cons_append]

theorem replaceAll_of_absent {target text : List Char} (h : ¬ target <:+: text)
    (replacement : List Char) : Text.replaceAll target replacement text = text := by
  have htext := replaceAll_append_of_startsNowhere (startsNowhere_of_absent h) replacement
  rwa [Text.replaceAll_nil, List.append_nil] at htext

section Starts

variable {content other copied rest : List Char}

theorem startsNowhere_before_placeholder (hcontent : BraceFree content) (hother : BraceFree other)
    (h : ¬ placeholder other <:+: copied) :
    StartsNowhere (placeholder other) copied (placeholder content ++ rest) := by
  rintro before back rfl hback ⟨after, hafter⟩
  have htext : before ++ back ++ (placeholder content ++ rest) =
      before ++ (placeholder other ++ after) := by
    rw [hafter, List.append_assoc]
  rcases placeholder_apart hcontent hother htext with
    ⟨between, hcopied⟩ | ⟨hbefore, -⟩ | ⟨between, hbefore, -⟩
  · exact h ⟨before, between, by rw [hcopied, List.append_assoc]⟩
  · exact hback (List.append_right_eq_self.mp hbefore.symm)
  · have hlength := congrArg List.length hbefore
    simp only [List.length_append, length_placeholder] at hlength
    omega

theorem startsNowhere_in_placeholder (hcontent : BraceFree content) (hother : BraceFree other)
    (h : other ≠ content) : StartsNowhere (placeholder other) (placeholder content) rest := by
  rintro before back hplaceholder hback ⟨after, hafter⟩
  have htext : [] ++ (placeholder content ++ rest) = before ++ (placeholder other ++ after) := by
    rw [hafter, hplaceholder, List.nil_append, List.append_assoc]
  rcases placeholder_apart hcontent hother htext with
    ⟨between, hnil⟩ | ⟨-, heq⟩ | ⟨between, hbefore, -⟩
  · simp [placeholder_ne_nil] at hnil
  · exact h heq
  · have hlength := congrArg List.length hplaceholder
    rw [hbefore] at hlength
    have hpos := List.length_pos_iff.mpr hback
    simp only [List.nil_append, List.length_append, length_placeholder] at hlength
    omega

end Starts

/-- Replacing a placeholder that stands in no copied text exchanges the contents that are
equal to it. -/
theorem replaceAll_render {cut : Segmentation} {content : FieldId → List Char}
    {other : List Char} (hcontent : ∀ stretch ∈ cut.stretches, BraceFree (content stretch.id))
    (hother : BraceFree other) (hcopies : ∀ copied ∈ cut.copies, ¬ placeholder other <:+: copied)
    (replacement : List Char) :
    Text.replaceAll (placeholder other) (placeholder replacement) (cut.render content) =
      cut.render fun id => if content id = other then replacement else content id := by
  obtain ⟨stretches, tail⟩ := cut
  induction stretches with
  | nil => exact replaceAll_of_absent (hcopies tail (by simp [Segmentation.copies])) _
  | cons stretch stretches ih =>
      obtain ⟨hfirst, hlater⟩ := List.forall_mem_cons.mp hcontent
      obtain ⟨hcopied, hothers⟩ := List.forall_mem_cons.mp hcopies
      -- The target starts nowhere in the copied text, not even at its end, where the braces of
      -- the placeholder follow; of the placeholder it is the whole or nothing.
      rw [Segmentation.render_cons, Segmentation.render_cons, ← ih hlater hothers,
        replaceAll_append_of_startsNowhere (startsNowhere_before_placeholder hfirst hother hcopied)]
      by_cases h : content stretch.id = other
      · rw [if_pos h, h, Text.replaceAll_append (placeholder_ne_nil other)]
      · rw [if_neg h, replaceAll_append_of_startsNowhere
          (startsNowhere_in_placeholder hfirst hother (Ne.symm h))]

/-! ## One after the other -/

/-- Every placeholder of an id becomes the placeholder of its key. -/
def replaceId (key : FieldId → String) (text : List Char) (id : FieldId) : List Char :=
  Text.replaceAll (placeholder id.text.toList) (placeholder (key id).toList) text

/-- What stands in the place of an id when some ids have been replaced. -/
def contentAfter (key : FieldId → String) (replaced : List FieldId) (id : FieldId) : List Char :=
  if id ∈ replaced then (key id).toList else id.text.toList

/-- The declared ids and their keys hold no braces, and no key is a declared id. -/
structure KeysApart (ids : List FieldId) (key : FieldId → String) : Prop where
  idFree : ∀ id ∈ ids, BraceFree id.text.toList
  keyFree : ∀ id ∈ ids, BraceFree (key id).toList
  undeclared : ∀ id ∈ ids, ⟨key id⟩ ∉ ids

namespace KeysApart

variable {ids : List FieldId} {key : FieldId → String}

theorem braceFree_contentAfter (h : KeysApart ids key) {id : FieldId} (hid : id ∈ ids)
    (replaced : List FieldId) : BraceFree (contentAfter key replaced id) := by
  unfold contentAfter
  split
  · exact h.keyFree id hid
  · exact h.idFree id hid

/-- A replacement of one id finds that id only, not a key that stands in the text already. -/
theorem contentAfter_cons (h : KeysApart ids key) {id other : FieldId} (hid : id ∈ ids)
    (hother : other ∈ ids) (replaced : List FieldId) :
    (if contentAfter key replaced other = id.text.toList then (key id).toList
      else contentAfter key replaced other) = contentAfter key (id :: replaced) other := by
  by_cases hreplaced : other ∈ replaced
  · have hkey : (key other).toList ≠ id.text.toList := by
      intro heq
      have hsame : (⟨key other⟩ : FieldId) = id := Name.eq_of_toList_eq heq
      exact h.undeclared other hother (hsame ▸ hid)
    simp [contentAfter, hreplaced, hkey]
  · by_cases heq : other = id
    · subst heq
      simp [contentAfter, hreplaced]
    · have htext : other.text.toList ≠ id.text.toList := fun htext =>
        heq (Name.eq_of_toList_eq htext)
      simp [contentAfter, hreplaced, heq, htext]

theorem foldl_replaceId (h : KeysApart ids key) (text : List Char) {order : List FieldId}
    (horder : ∀ id ∈ order, id ∈ ids) (replaced : List FieldId) :
    order.foldl (replaceId key) ((segmentation ids text).render (contentAfter key replaced)) =
      (segmentation ids text).render (contentAfter key (order.reverse ++ replaced)) := by
  -- The segmentation stays that of the template; only the contents of its placeholders change.
  induction order generalizing replaced with
  | nil => rfl
  | cons id order ih =>
      obtain ⟨hid, hlater⟩ := List.forall_mem_cons.mp horder
      have hstep : replaceId key ((segmentation ids text).render (contentAfter key replaced)) id =
          (segmentation ids text).render (contentAfter key (id :: replaced)) := by
        have hcontent : ∀ stretch ∈ (segmentation ids text).stretches,
            BraceFree (contentAfter key replaced stretch.id) := fun stretch hstretch =>
          h.braceFree_contentAfter (mem_ids_of_mem_stretches hstretch) replaced
        rw [replaceId, replaceAll_render hcontent (h.idFree id hid)
          (not_infix_of_mem_copies hid text)]
        exact Segmentation.render_congr fun stretch hstretch =>
          h.contentAfter_cons hid (mem_ids_of_mem_stretches hstretch) replaced
      rw [List.foldl_cons, hstep, ih hlater, List.reverse_cons, List.append_assoc]
      rfl

/-- When all ids have been replaced, the command is there. -/
theorem foldl_replaceId_eq_command (h : KeysApart ids key) (text : List Char)
    {order : List FieldId} (horder : ∀ id, id ∈ order ↔ id ∈ ids) :
    order.foldl (replaceId key) text = (segmentation ids text).command key := by
  have hnone : contentAfter key [] = fun id => id.text.toList := by
    funext id
    simp [contentAfter]
  have hrun := h.foldl_replaceId text (fun id hid => (horder id).mp hid) []
  rw [hnone, ← Segmentation.template, template_segmentation, List.append_nil] at hrun
  rw [hrun, Segmentation.command]
  apply Segmentation.render_congr
  intro stretch hstretch
  have hall : stretch.id ∈ order.reverse :=
    List.mem_reverse.mpr ((horder _).mpr (mem_ids_of_mem_stretches hstretch))
  rw [contentAfter, if_pos hall]

theorem inserts_of_occurs (h : KeysApart ids key) {text before after : List Char} {id : FieldId}
    (hid : id ∈ ids) (htext : text = before ++ (placeholder id.text.toList ++ after)) :
    (segmentation ids text).Inserts (fun id => id.text.toList) before id := by
  have hrender : (segmentation ids text).render (fun id => id.text.toList) =
      before ++ (placeholder id.text.toList ++ after) :=
    (template_segmentation ids text).trans htext
  have hcontent : ∀ stretch ∈ (segmentation ids text).stretches,
      BraceFree stretch.id.text.toList := fun stretch hstretch =>
    h.idFree _ (mem_ids_of_mem_stretches hstretch)
  rcases Segmentation.inserts_or_copies hcontent (h.idFree id hid) hrender with
    ⟨other, hinserts, hother⟩ | hcopies
  · rwa [Name.eq_of_toList_eq hother]
  · exact absurd hid (not_mem_ids_of_copies hcopies)

/-- No placeholder of a declared id is left in a command, nor has one come in. -/
theorem not_infix_command (h : KeysApart ids key) (text : List Char) {id : FieldId}
    (hid : id ∈ ids) : ¬ placeholder id.text.toList <:+: (segmentation ids text).command key := by
  rintro ⟨before, after, hcommand⟩
  rw [List.append_assoc] at hcommand
  have hcontent : ∀ stretch ∈ (segmentation ids text).stretches,
      BraceFree (key stretch.id).toList := fun stretch hstretch =>
    h.keyFree _ (mem_ids_of_mem_stretches hstretch)
  rcases Segmentation.inserts_or_copies hcontent (h.idFree id hid) hcommand.symm with
    ⟨other, hinserts, hother⟩ | hcopies
  · have hkey : (⟨key other⟩ : FieldId) = id := Name.eq_of_toList_eq hother.symm
    exact h.undeclared other (mem_ids_of_inserts hinserts) (hkey ▸ hid)
  · exact not_mem_ids_of_copies hcopies hid

end KeysApart

/-! ## Promotion -/

/-- If ids and keys hold no braces and no key is a declared id, promotion is the same as
replacing the declared ids one after the other, in any order. Every placeholder of a declared
id is promoted, none is left, and there is nothing to promote in the result. -/
theorem promote_eq_replacements {ids : List FieldId} {key : FieldId → String}
    (h : KeysApart ids key) (template : String) :
    (∀ order : List FieldId, (∀ id, id ∈ order ↔ id ∈ ids) →
      (promote ids key template).text.toList = order.foldl (replaceId key) template.toList) ∧
    (∃ cut : Segmentation, cut.LeftmostLongest ids template.toList ∧
      promote ids key template = cut.resolved key ∧
      ∀ id ∈ ids, ∀ before after,
        template.toList = before ++ (placeholder id.text.toList ++ after) →
          cut.Inserts (fun id => id.text.toList) before id) ∧
    (∀ id ∈ ids, ¬ placeholder id.text.toList <:+: (promote ids key template).text.toList) ∧
    promote ids key (promote ids key template).text = ⟨(promote ids key template).text, []⟩ := by
  have htext : (promote ids key template).text.toList =
      (segmentation ids template.toList).command key := by
    rw [promote_eq_resolved, Segmentation.resolved, String.toList_ofList]
  have hnone : ∀ id ∈ ids,
      ¬ placeholder id.text.toList <:+: (promote ids key template).text.toList := by
    intro id hid
    rw [htext]
    exact h.not_infix_command _ hid
  refine ⟨fun order horder => ?_, ⟨segmentation ids template.toList,
    segmentation_leftmostLongest _ _, promote_eq_resolved ids key template,
    fun id hid before after htemplate => h.inserts_of_occurs hid htemplate⟩, hnone, ?_⟩
  · rw [htext, h.foldl_replaceId_eq_command _ horder]
  · exact promote_of_absent hnone key

/-- Ids with a dot, without a character and within one another. -/
def plainIds : List FieldId :=
  [⟨"a"⟩, ⟨"a.b"⟩, ⟨""⟩, ⟨"a"⟩]

theorem promote_eq_replacements_plain :
    KeysApart plainIds (fun id => "k/" ++ id.text) ∧
    (promote plainIds (fun id => "k/" ++ id.text) "q{{{a}}} {{a.b}}{{}} {{x}}").text.toList =
      [⟨"a.b"⟩, ⟨""⟩, ⟨"a"⟩].foldl (replaceId fun id => "k/" ++ id.text)
        "q{{{a}}} {{a.b}}{{}} {{x}}".toList ∧
    promote plainIds (fun id => "k/" ++ id.text) "q{{{k/a}}} {{k/a.b}}{{k/}} {{x}}" =
      ⟨"q{{{k/a}}} {{k/a.b}}{{k/}} {{x}}", []⟩ := by
  have h : KeysApart plainIds fun id => "k/" ++ id.text := by
    constructor <;> decide +kernel
  have horder : ∀ id : FieldId, id ∈ [⟨"a.b"⟩, ⟨""⟩, ⟨"a"⟩] ↔ id ∈ plainIds := by
    intro id
    simp only [plainIds, List.mem_cons, List.not_mem_nil]
    tauto
  have hresult : (promote plainIds (fun id => "k/" ++ id.text)
      "q{{{a}}} {{a.b}}{{}} {{x}}").text = "q{{{k/a}}} {{k/a.b}}{{k/}} {{x}}" := by
    decide +kernel
  obtain ⟨horders, -, -, hagain⟩ := promote_eq_replacements h "q{{{a}}} {{a.b}}{{}} {{x}}"
  rw [hresult] at hagain
  exact ⟨h, horders _ horder, hagain⟩

end DeviceConfig
