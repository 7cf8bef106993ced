import DeviceConfig.Proofs.Segmentation
import DeviceConfig.Proofs.Separator

/-!
# Where a placeholder can stand

A placeholder whose content holds no brace overlaps no other one. So between texts that
are copied and placeholders of such contents a further one stands within a copied text or
is one of those placeholders; it never reaches from one part into the next.
-/

namespace DeviceConfig

/-- A text without braces. -/
structure BraceFree (text : List Char) : Prop where
  opening : '{' ∉ text
  closing : '}' ∉ text

instance (text : List Char) : Decidable (BraceFree text) :=
  decidable_of_iff ('{' ∉ text ∧ '}' ∉ text)
    ⟨fun h => ⟨h.1, h.2⟩, fun h => ⟨h.opening, h.closing⟩⟩

/-! ## Places where a target starts -/

/-- The target starts at no place of a text that is followed by another one. -/
def StartsNowhere (target text rest : List Char) : Prop :=
  ∀ before back, text = before ++ back → back ≠ [] → ¬ target <+: back ++ rest

theorem startsNowhere_nil (target rest : List Char) : StartsNowhere target [] rest := by
  intro before back htext hback
  exact absurd (List.append_eq_nil_iff.mp htext.symm).2 hback

theorem startsNowhere_cons_iff {target text rest : List Char} {c : Char} :
    StartsNowhere target (c :: text) rest ↔
      ¬ target <+: c :: (text ++ rest) ∧ StartsNowhere target text rest := by
  constructor
  · intro h
    refine ⟨h [] (c :: text) rfl (List.cons_ne_nil _ _), fun before back htext => ?_⟩
    exact h (c :: before) back (congrArg (c :: ·) htext)
  · rintro ⟨hfirst, hlater⟩ before back htext hback
    cases before with
    | nil =>
        obtain rfl : c :: text = back := htext
        exact hfirst
    | cons d before => exact hlater before back (List.cons.inj htext).2 hback

theorem startsNowhere_of_absent {target text : List Char} (h : ¬ target <:+: text) :
    StartsNowhere target text [] := by
  intro before back htext hback hstart
  rw [List.append_nil] at hstart
  exact h (htext ▸ hstart.isInfix.trans (List.suffix_append _ _).isInfix)

/-! ## Overlaps -/

/-- No opening stands in a placeholder behind its start. -/
theorem exists_append_of_opening_behind {content rest front more : List Char}
    (hcontent : BraceFree content) (hfront : front ≠ [])
    (h : placeholder content ++ rest = front ++ (opening ++ more)) :
    ∃ between, front = placeholder content ++ between ∧ rest = between ++ (opening ++ more) := by
  rcases List.append_eq_append_iff.mp h with ⟨between, hfront', hrest⟩ | ⟨back, hback, hopen⟩
  · exact ⟨between, hfront', hrest⟩
  · cases back with
    | nil => exact ⟨[], by simpa using hback.symm, by simpa using hopen.symm⟩
    | cons c back =>
        -- The opening starts in the placeholder, at its second brace or behind it.
        simp only [opening, List.cons_append, List.nil_append, List.cons.injEq] at hopen
        obtain ⟨rfl, hopen⟩ := hopen
        rcases front with _ | ⟨first, _ | ⟨second, front⟩⟩
        · exact absurd rfl hfront
        · simp only [placeholder, opening, List.cons_append, List.nil_append,
            List.cons.injEq] at hback
          obtain ⟨-, -, rfl⟩ := hback
          cases content with
          | nil => simp [closing] at hopen
          | cons c content =>
              simp only [List.cons_append, List.cons.injEq] at hopen
              exact absurd (hopen.1 ▸ List.mem_cons_self) hcontent.opening
        · simp only [placeholder, opening, List.cons_append, List.nil_append,
            List.cons.injEq] at hback
          have hmem : '{' ∈ content ++ closing := by
            rw [hback.2.2]
            simp
          rcases List.mem_append.mp hmem with hmem | hmem
          · exact absurd hmem hcontent.opening
          · simp [closing] at hmem

/-- At one place stands one placeholder. -/
theorem eq_and_eq_of_placeholder_append {content other rest after : List Char}
    (hcontent : BraceFree content) (hother : BraceFree other)
    (h : placeholder content ++ rest = placeholder other ++ after) :
    content = other ∧ rest = after := by
  simp only [placeholder, List.append_assoc] at h
  obtain ⟨hcontents, hrest⟩ := eq_and_eq_of_append_cons_left hcontent.closing hother.closing
    (List.append_cancel_left h)
  exact ⟨hcontents, (List.cons.inj hrest).2⟩

/-- Two placeholders in one text stand apart or are the same one. -/
theorem placeholder_apart {front content rest before other after : List Char}
    (hcontent : BraceFree content) (hother : BraceFree other)
    (h : front ++ (placeholder content ++ rest) = before ++ (placeholder other ++ after)) :
    (∃ between, front = before ++ (placeholder other ++ between)) ∨
    (before = front ∧ other = content) ∨
    ∃ between, before = front ++ (placeholder content ++ between) ∧
      rest = between ++ (placeholder other ++ after) := by
  rcases List.append_eq_append_iff.mp h with ⟨gap, rfl, hgap⟩ | ⟨gap, rfl, hgap⟩
  · by_cases hnil : gap = []
    · subst hnil
      obtain ⟨rfl, -⟩ := eq_and_eq_of_placeholder_append hcontent hother hgap
      exact .inr (.inl ⟨List.append_nil _, rfl⟩)
    · obtain ⟨between, rfl, hrest⟩ := exists_append_of_opening_behind hcontent hnil
        (by simpa only [placeholder, List.append_assoc] using hgap)
      exact .inr (.inr ⟨between, rfl, by simpa only [placeholder, List.append_assoc] using hrest⟩)
  · by_cases hnil : gap = []
    · subst hnil
      obtain ⟨rfl, -⟩ := eq_and_eq_of_placeholder_append hother hcontent hgap
      exact .inr (.inl ⟨(List.append_nil _).symm, rfl⟩)
    · obtain ⟨between, rfl, -⟩ := exists_append_of_opening_behind hother hnil
        (by simpa only [placeholder, List.append_assoc] using hgap)
      exact .inl ⟨between, rfl⟩

/-- A placeholder holds no other one. -/
theorem eq_of_infix_placeholder {content other : List Char} (hcontent : BraceFree content)
    (hother : BraceFree other) (h : placeholder other <:+: placeholder content) :
    other = content := by
  obtain ⟨before, after, happend⟩ := h
  have hone : [] ++ (placeholder content ++ []) = before ++ (placeholder other ++ after) := by
    simpa using happend.symm
  rcases placeholder_apart hcontent hother hone with ⟨between, h⟩ | ⟨-, h⟩ | ⟨between, -, h⟩
  · simp [placeholder_ne_nil] at h
  · exact h
  · simp [placeholder_ne_nil] at h

/-! ## Placeholders in a rendered segmentation -/

namespace Segmentation

/-- Behind the earlier stretches comes the copied text, of a stretch or of the tail. -/
def CopiesBehind (cut : Segmentation) (earlier : List Stretch) (copied : List Char) : Prop :=
  ∃ later, cut.stretches = earlier ++ later ∧
    copied = (later.head?.map Stretch.copied).getD cut.tail

/-- In a rendered segmentation the text behind `before` lies within a copied text. -/
def Copies (content : FieldId → List Char) (cut : Segmentation) (before text : List Char) : Prop :=
  ∃ earlier front back, cut.CopiesBehind earlier (front ++ (text ++ back)) ∧
    before = render content ⟨earlier, front⟩

/-- In a rendered segmentation the placeholder behind `before` is that of a stretch. -/
def Inserts (content : FieldId → List Char) (cut : Segmentation) (before : List Char)
    (id : FieldId) : Prop :=
  ∃ earlier stretch later, cut.stretches = earlier ++ stretch :: later ∧ stretch.id = id ∧
    before = render content ⟨earlier, stretch.copied⟩

theorem CopiesBehind.mem_copies {cut : Segmentation} {earlier : List Stretch} {copied : List Char}
    (h : cut.CopiesBehind earlier copied) : copied ∈ cut.copies := by
  obtain ⟨later, hstretches, rfl⟩ := h
  cases later with
  | nil => simp [copies]
  | cons stretch later => simp [copies, hstretches]

theorem infix_render_of_mem_copies {cut : Segmentation} {copied : List Char}
    (content : FieldId → List Char) (h : copied ∈ cut.copies) : copied <:+: cut.render content := by
  obtain ⟨stretches, tail⟩ := cut
  induction stretches with
  | nil =>
      obtain rfl : copied = tail := by simpa [copies] using h
      exact List.infix_rfl
  | cons stretch stretches ih =>
      rw [render_cons]
      rcases List.mem_cons.mp h with rfl | h
      · exact (List.prefix_append _ _).isInfix
      · exact (ih h).trans ((List.suffix_append _ _).trans (List.suffix_append _ _)).isInfix

section Parts

variable {content : FieldId → List Char} {stretch : Stretch} {stretches : List Stretch}
  {tail before text : List Char} {id : FieldId}

@[simp] theorem not_inserts_nil : ¬ (⟨[], tail⟩ : Segmentation).Inserts content before id := by
  rintro ⟨earlier, stretch, later, hstretches, -, -⟩
  simp at hstretches

theorem copies_nil_iff :
    (⟨[], tail⟩ : Segmentation).Copies content before text ↔
      ∃ back, tail = before ++ (text ++ back) := by
  constructor
  · rintro ⟨earlier, front, back, ⟨later, hstretches, hcopied⟩, rfl⟩
    obtain ⟨rfl, rfl⟩ := List.append_eq_nil_iff.mp hstretches.symm
    exact ⟨back, hcopied.symm⟩
  · rintro ⟨back, rfl⟩
    exact ⟨[], before, back, ⟨[], rfl, rfl⟩, rfl⟩

/-- The placeholder of a stretch is that of the first one, or it stands behind that one. -/
theorem inserts_cons_iff :
    (⟨stretch :: stretches, tail⟩ : Segmentation).Inserts content before id ↔
      (before = stretch.copied ∧ id = stretch.id) ∨
      ∃ more, before = stretch.copied ++ (placeholder (content stretch.id) ++ more) ∧
        (⟨stretches, tail⟩ : Segmentation).Inserts content more id := by
  constructor
  · rintro ⟨earlier, found, later, hstretches, rfl, rfl⟩
    cases earlier with
    | nil =>
        obtain ⟨rfl, -⟩ := List.cons.inj hstretches
        exact .inl ⟨rfl, rfl⟩
    | cons first earlier =>
        obtain ⟨rfl, hlater⟩ := List.cons.inj hstretches
        exact .inr ⟨_, render_cons .., earlier, found, later, hlater, rfl, rfl⟩
  · rintro (⟨rfl, rfl⟩ | ⟨more, rfl, earlier, found, later, hstretches, rfl, rfl⟩)
    · exact ⟨[], stretch, stretches, rfl, rfl, rfl⟩
    · exact ⟨stretch :: earlier, found, later, congrArg (stretch :: ·) hstretches, rfl,
        (render_cons ..).symm⟩

/-- Copied text lies in front of the first placeholder or behind it. -/
theorem copies_cons_iff :
    (⟨stretch :: stretches, tail⟩ : Segmentation).Copies content before text ↔
      (∃ back, stretch.copied = before ++ (text ++ back)) ∨
      ∃ more, before = stretch.copied ++ (placeholder (content stretch.id) ++ more) ∧
        (⟨stretches, tail⟩ : Segmentation).Copies content more text := by
  constructor
  · rintro ⟨earlier, front, back, ⟨later, hstretches, hcopied⟩, rfl⟩
    cases earlier with
    | nil =>
        obtain rfl : stretch :: stretches = later := hstretches
        exact .inl ⟨back, hcopied.symm⟩
    | cons first earlier =>
        obtain ⟨rfl, hlater⟩ := List.cons.inj hstretches
        exact .inr ⟨_, render_cons .., earlier, front, back, ⟨later, hlater, hcopied⟩, rfl⟩
  · rintro (⟨back, hback⟩ | ⟨more, rfl, earlier, front, back, ⟨later, hstretches, hcopied⟩, rfl⟩)
    · exact ⟨[], before, back, ⟨stretch :: stretches, rfl, hback.symm⟩, rfl⟩
    · exact ⟨stretch :: earlier, front, back,
        ⟨later, congrArg (stretch :: ·) hstretches, hcopied⟩, (render_cons ..).symm⟩

end Parts

/-- A placeholder in a rendered segmentation is that of a stretch or lies within a copied
text. -/
theorem inserts_or_copies {cut : Segmentation} {content : FieldId → List Char}
    (hcontent : ∀ stretch ∈ cut.stretches, BraceFree (content stretch.id))
    {before other after : List Char} (hother : BraceFree other)
    (h : cut.render content = before ++ (placeholder other ++ after)) :
    (∃ id, cut.Inserts content before id ∧ other = content id) ∨
      cut.Copies content before (placeholder other) := by
  obtain ⟨stretches, tail⟩ := cut
  induction stretches generalizing before with
  | nil => exact .inr (copies_nil_iff.mpr ⟨after, h⟩)
  | cons stretch stretches ih =>
      rw [render_cons] at h
      obtain ⟨hfirst, hlater⟩ := List.forall_mem_cons.mp hcontent
      -- It stands in front of the first placeholder, it is that one, or it stands behind it.
      rcases placeholder_apart hfirst hother h with ⟨back, hback⟩ | ⟨rfl, rfl⟩ | ⟨more, rfl, hmore⟩
      · exact .inr (copies_cons_iff.mpr (.inl ⟨back, hback⟩))
      · exact .inl ⟨stretch.id, inserts_cons_iff.mpr (.inl ⟨rfl, rfl⟩), rfl⟩
      · rcases ih hlater hmore with ⟨id, hinserts, rfl⟩ | hcopies
        · exact .inl ⟨id, inserts_cons_iff.mpr (.inr ⟨more, rfl, hinserts⟩), rfl⟩
        · exact .inr (copies_cons_iff.mpr (.inr ⟨more, rfl, hcopies⟩))

end Segmentation

/-! ## Placeholders in a scanned template -/

section Scanned

variable {ids : List FieldId} {text before : List Char} {content : FieldId → List Char}
  {id : FieldId}

theorem mem_ids_of_inserts (h : (segmentation ids text).Inserts content before id) : id ∈ ids := by
  obtain ⟨earlier, stretch, later, hstretches, rfl, -⟩ := h
  have hmem : stretch ∈ (segmentation ids text).stretches := by
    rw [hstretches]
    exact List.mem_append_right _ List.mem_cons_self
  exact mem_ids_of_mem_stretches hmem

/-- A placeholder of a declared id is not copied. -/
theorem not_mem_ids_of_copies
    (h : (segmentation ids text).Copies content before (placeholder id.text.toList)) :
    id ∉ ids := by
  obtain ⟨earlier, front, back, hbehind, -⟩ := h
  intro hid
  exact not_infix_of_mem_copies hid text _ hbehind.mem_copies ⟨front, back, List.append_assoc _ _ _⟩

end Scanned

end DeviceConfig
