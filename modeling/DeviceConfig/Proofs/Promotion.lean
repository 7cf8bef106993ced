import DeviceConfig.Placeholder.Promotion

/-!
# Declared ids in a scan

A scan finds none but declared ids, and it depends on them as a set only: the ids whose
placeholders start one text are told apart by their sizes, so the longest of them does not
depend on the order of declaration.
-/

namespace DeviceConfig

/-! ## The longest id -/

@[simp] theorem longestId_eq_none_iff {ids : List FieldId} : longestId ids = none ↔ ids = [] := by
  cases ids with
  | nil => simp [longestId]
  | cons id ids =>
      rw [longestId]
      cases longestId ids with
      | none => simp
      | some best =>
          simp only
          split <;> simp

theorem byteSize_le_of_longestId {ids : List FieldId} {best : FieldId}
    (h : longestId ids = some best) : ∀ id ∈ ids, id.byteSize ≤ best.byteSize := by
  induction ids generalizing best with
  | nil => simp [longestId] at h
  | cons first ids ih =>
      intro id hid
      rw [longestId] at h
      cases hrest : longestId ids with
      | none =>
          obtain rfl := longestId_eq_none_iff.mp hrest
          obtain rfl := List.mem_singleton.mp hid
          simp only [hrest, Option.some.injEq] at h
          exact Nat.le_of_eq (congrArg Name.byteSize h)
      | some later =>
          have hlater := ih hrest
          have hbest : first.byteSize ≤ best.byteSize ∧ later.byteSize ≤ best.byteSize := by
            simp only [hrest] at h
            split at h <;> obtain rfl := Option.some.inj h <;> omega
          rcases List.mem_cons.mp hid with rfl | hid
          · exact hbest.1
          · exact Nat.le_trans (hlater id hid) hbest.2

/-! ## Ids that match at one place -/

theorem mem_matchingIds {ids : List FieldId} {candidate : List Char} {id : FieldId} :
    id ∈ matchingIds ids candidate ↔ id ∈ ids ∧ placeholder id.text.toList <+: candidate := by
  simp [matchingIds]

theorem matchingIds_eq_nil_iff {ids : List FieldId} {candidate : List Char} :
    matchingIds ids candidate = [] ↔ ∀ id ∈ ids, ¬ placeholder id.text.toList <+: candidate := by
  simp [matchingIds, List.filter_eq_nil_iff]

theorem byteSize_of_append {a b : FieldId} {more : List Char}
    (h : a.text.toList ++ more = b.text.toList) :
    b.byteSize = a.byteSize + (String.ofList more).utf8ByteSize := by
  have htext : b.text = a.text ++ String.ofList more := by
    rw [← String.toList_inj, String.toList_append, String.toList_ofList, h]
  rw [Name.byteSize, htext, String.utf8ByteSize_append]
  rfl

theorem eq_of_prefix_of_byteSize_eq {a b : FieldId} (h : a.text.toList <+: b.text.toList)
    (hsize : a.byteSize = b.byteSize) : a = b := by
  obtain ⟨more, hmore⟩ := h
  have hempty : String.ofList more = "" := by
    have hsum := byteSize_of_append hmore
    exact String.utf8ByteSize_eq_zero_iff.mp (by omega)
  have hnil : more = [] := by
    rw [← @String.toList_ofList more, hempty, String.toList_empty]
  apply Name.eq_of_toList_eq
  rw [← hmore, hnil, List.append_nil]

/-- Of the ids whose placeholders start one text, no two have the same size. -/
theorem eq_of_placeholder_prefix {a b : FieldId} {text : List Char}
    (ha : placeholder a.text.toList <+: text) (hb : placeholder b.text.toList <+: text)
    (hsize : a.byteSize = b.byteSize) : a = b := by
  have ha' : opening ++ a.text.toList <+: text := (List.prefix_append _ closing).trans ha
  have hb' : opening ++ b.text.toList <+: text := (List.prefix_append _ closing).trans hb
  rcases List.prefix_or_prefix_of_prefix ha' hb' with h | h
  · exact eq_of_prefix_of_byteSize_eq ((List.prefix_append_right_inj _).mp h) hsize
  · exact (eq_of_prefix_of_byteSize_eq ((List.prefix_append_right_inj _).mp h) hsize.symm).symm

theorem longestId_matchingIds_congr {ids ids' : List FieldId} (h : ∀ id, id ∈ ids ↔ id ∈ ids')
    (candidate : List Char) :
    longestId (matchingIds ids candidate) = longestId (matchingIds ids' candidate) := by
  have hmem : ∀ id, id ∈ matchingIds ids candidate ↔ id ∈ matchingIds ids' candidate := by
    intro id
    rw [mem_matchingIds, mem_matchingIds, h]
  cases ha : longestId (matchingIds ids candidate) with
  | none =>
      have hnil := longestId_eq_none_iff.mp ha
      symm
      rw [longestId_eq_none_iff, List.eq_nil_iff_forall_not_mem]
      intro id hid
      simpa [hnil] using (hmem id).mpr hid
  | some a =>
      cases hb : longestId (matchingIds ids' candidate) with
      | none =>
          have hnil := longestId_eq_none_iff.mp hb
          simpa [hnil] using (hmem a).mp (mem_of_longestId ha)
      | some b =>
          have hab := byteSize_le_of_longestId hb a ((hmem a).mp (mem_of_longestId ha))
          have hba := byteSize_le_of_longestId ha b ((hmem b).mpr (mem_of_longestId hb))
          have heq := eq_of_placeholder_prefix (mem_matchingIds.mp (mem_of_longestId ha)).2
            (mem_matchingIds.mp (mem_of_longestId hb)).2 (Nat.le_antisymm hab hba)
          rw [heq]

/-! ## Turns and scans -/

theorem turn?_congr {ids ids' : List FieldId} (h : ∀ id, id ∈ ids ↔ id ∈ ids')
    (text : List Char) : turn? ids text = turn? ids' text := by
  simp only [turn?, longestId_matchingIds_congr h]

/-- A scan depends on the declared ids only as a set. -/
theorem scan_congr {ids ids' : List FieldId} (h : ∀ id, id ∈ ids ↔ id ∈ ids')
    (text : List Char) : scan ids text = scan ids' text := by
  fun_induction scan ids text with
  | case1 text ht => rw [scan_of_none (turn?_congr h text ▸ ht)]
  | case2 text turn ht _ more ih =>
      rw [scan_of_some (turn?_congr h text ▸ ht), ← ih]

theorem mem_of_turn?_found {ids : List FieldId} {text : List Char} {turn : Turn} {id : FieldId}
    (h : turn? ids text = some turn) (hfound : turn.found = some id) : id ∈ ids := by
  rw [turn?] at h
  split at h
  · simp at h
  · next before candidate _ =>
      split at h <;> obtain rfl := Option.some.inj h
      · next longest hlongest =>
          obtain rfl := Option.some.inj hfound
          exact (mem_matchingIds.mp (mem_of_longestId hlongest)).1
      · simp at hfound

/-- Only declared ids are found. -/
theorem mem_of_mem_turns {ids : List FieldId} {text : List Char} {turn : Turn} {id : FieldId}
    (h : turn ∈ (scan ids text).turns) (hfound : turn.found = some id) : id ∈ ids := by
  fun_induction scan ids text with
  | case1 => simp at h
  | case2 text next hnext _ more ih =>
      rcases List.mem_cons.mp h with rfl | h
      · exact mem_of_turn?_found hnext hfound
      · exact ih h

/-- What is promoted is a declared id, and the key put in its place is its own. -/
theorem mem_promotions {ids : List FieldId} {key : FieldId → String} {template : String}
    {p : Promotion} (h : p ∈ (promote ids key template).promotions) :
    p.id ∈ ids ∧ p.key = key p.id := by
  obtain ⟨turn, hturn, hp⟩ := List.mem_filterMap.mp h
  obtain ⟨id, hid, rfl⟩ := Option.map_eq_some_iff.mp hp
  exact ⟨mem_of_mem_turns hturn hid, rfl⟩

theorem promote_congr {ids ids' : List FieldId} (h : ∀ id, id ∈ ids ↔ id ∈ ids')
    (key : FieldId → String) (template : String) :
    promote ids key template = promote ids' key template := by
  simp only [promote, scan_congr h]

end DeviceConfig
