import DeviceConfig.Name
import DeviceConfig.Placeholder.Basic

/-!
# Promoting field placeholders

In a command template a placeholder whose content is the id of a field of the same
element stands for that field. Promotion puts the key of the field there. All other
placeholders stay for a later stage.

A template is scanned once, from left to right, in turns. A turn runs up to the next
opening; there it takes the longest placeholder of a declared id, or one brace if
there is none, so that a placeholder inside further braces is found as well. What is
inserted is not scanned. The resolved text and the list of promotions are two views of
one scan.
-/

namespace DeviceConfig

/-! ## One turn -/

/-- Splits a text before its first opening. -/
def splitAtOpening : List Char → Option (List Char × List Char)
  | [] => none
  | c :: rest =>
    if opening.isPrefixOf (c :: rest) then
      some ([], c :: rest)
    else
      (splitAtOpening rest).map fun (before, candidate) => (c :: before, candidate)

/-- The declared ids whose placeholder starts a text. -/
def matchingIds (ids : List FieldId) (candidate : List Char) : List FieldId :=
  ids.filter fun id => (placeholder id.text.toList).isPrefixOf candidate

/-- The id with the most bytes, the last one of several. -/
def longestId : List FieldId → Option FieldId
  | [] => none
  | id :: ids =>
    match longestId ids with
    | none => some id
    | some best => if best.byteSize < id.byteSize then some id else some best

/-- One turn of a scan: the text before an opening, the id found there if any, and the
text that is left to scan. -/
structure Turn where
  before : List Char
  found : Option FieldId
  rest : List Char
  deriving DecidableEq, Repr

namespace Turn

/-- What a turn takes from the template at the opening. -/
def taken (turn : Turn) : List Char :=
  match turn.found with
  | some id => placeholder id.text.toList
  | none => ['{']

/-- What a turn writes in place of what it takes. -/
def written (key : FieldId → String) (turn : Turn) : List Char :=
  match turn.found with
  | some id => placeholder (key id).toList
  | none => ['{']

end Turn

/-- The next turn of a scan, if the text holds another opening. -/
def turn? (ids : List FieldId) (text : List Char) : Option Turn :=
  match splitAtOpening text with
  | none => none
  | some (before, candidate) =>
    match longestId (matchingIds ids candidate) with
    | some id => some ⟨before, some id, candidate.drop (placeholder id.text.toList).length⟩
    | none => some ⟨before, none, candidate.drop 1⟩

/-- A split loses nothing and its second part starts with an opening. -/
theorem splitAtOpening_eq_some {text before candidate : List Char}
    (h : splitAtOpening text = some (before, candidate)) :
    before ++ candidate = text ∧ opening <+: candidate := by
  induction text generalizing before with
  | nil => simp [splitAtOpening] at h
  | cons c rest ih =>
      rw [splitAtOpening] at h
      split at h
      · next ho =>
          simp only [Option.some.injEq, Prod.mk.injEq] at h
          obtain ⟨rfl, rfl⟩ := h
          exact ⟨rfl, List.isPrefixOf_iff_prefix.mp ho⟩
      · obtain ⟨⟨b, a⟩, hs, he⟩ := Option.map_eq_some_iff.mp h
        simp only [Prod.mk.injEq] at he
        obtain ⟨rfl, rfl⟩ := he
        obtain ⟨hb, ho⟩ := ih hs
        exact ⟨by simp [hb], ho⟩

theorem mem_of_longestId {ids : List FieldId} {id : FieldId} (h : longestId ids = some id) :
    id ∈ ids := by
  induction ids generalizing id with
  | nil => simp [longestId] at h
  | cons first ids ih =>
      rw [longestId] at h
      split at h
      · simp_all
      · next best hb =>
          split at h <;> simp only [Option.some.injEq] at h <;> subst h
          · exact List.mem_cons_self
          · exact List.mem_cons_of_mem _ (ih hb)

/-- What a turn passes over, takes and leaves makes up the whole text. -/
theorem turn?_append {ids : List FieldId} {text : List Char} {turn : Turn}
    (h : turn? ids text = some turn) : turn.before ++ turn.taken ++ turn.rest = text := by
  rw [turn?] at h
  split at h
  · simp at h
  · next before candidate hs =>
      obtain ⟨hb, ho⟩ := splitAtOpening_eq_some hs
      split at h <;> simp only [Option.some.injEq] at h <;> subst h
      · next id hid =>
          have hp : placeholder id.text.toList <+: candidate := by
            have := mem_of_longestId hid
            simp only [matchingIds, List.mem_filter] at this
            exact List.isPrefixOf_iff_prefix.mp this.2
          obtain ⟨rest, rfl⟩ := hp
          simp [Turn.taken, ← hb]
      · obtain ⟨rest, rfl⟩ := ho
        simp [Turn.taken, opening, ← hb]

theorem Turn.taken_ne_nil (turn : Turn) : turn.taken ≠ [] := by
  unfold taken
  split
  · exact placeholder_ne_nil _
  · simp

/-- A turn leaves less text than it was given. -/
theorem length_rest_lt {ids : List FieldId} {text : List Char} {turn : Turn}
    (h : turn? ids text = some turn) : turn.rest.length < text.length := by
  have ht := List.length_pos_iff.mpr turn.taken_ne_nil
  have := congrArg List.length (turn?_append h)
  simp only [List.length_append] at this
  omega

/-! ## The scan -/

/-- A scanned template: its turns and the text behind the last of them. -/
structure Scan where
  turns : List Turn
  tail : List Char
  deriving DecidableEq, Repr

/-- Scans a template for the placeholders of the declared ids. -/
def scan (ids : List FieldId) (text : List Char) : Scan :=
  match h : turn? ids text with
  | none => ⟨[], text⟩
  | some turn =>
    have := length_rest_lt h
    let more := scan ids turn.rest
    ⟨turn :: more.turns, more.tail⟩
termination_by text.length

theorem scan_of_none {ids : List FieldId} {text : List Char} (h : turn? ids text = none) :
    scan ids text = ⟨[], text⟩ := by
  rw [scan]
  split
  · rfl
  · next ht => simp [h] at ht

theorem scan_of_some {ids : List FieldId} {text : List Char} {turn : Turn}
    (h : turn? ids text = some turn) :
    scan ids text = ⟨turn :: (scan ids turn.rest).turns, (scan ids turn.rest).tail⟩ := by
  rw [scan]
  split
  · next ht => simp [h] at ht
  · next t ht =>
      rw [h, Option.some.injEq] at ht
      subst ht
      rfl

/-- One promoted placeholder: the id that stood there and the key put in its place. -/
structure Promotion where
  id : FieldId
  key : String
  deriving DecidableEq, Repr

namespace Scan

/-- The template with the keys of the found ids in place of their placeholders. -/
def resolve (key : FieldId → String) (scan : Scan) : List Char :=
  scan.turns.flatMap (fun turn => turn.before ++ turn.written key) ++ scan.tail

/-- The promoted placeholders, from left to right. -/
def promotions (key : FieldId → String) (scan : Scan) : List Promotion :=
  scan.turns.filterMap fun turn => turn.found.map fun id => ⟨id, key id⟩

end Scan

/-- A resolved template with the promotions that were made in it. -/
structure Resolved where
  text : String
  promotions : List Promotion
  deriving DecidableEq, Repr

/-- Resolves a template: the placeholder of each declared id becomes the placeholder of
the key that belongs to it. -/
def promote (ids : List FieldId) (key : FieldId → String) (template : String) : Resolved :=
  let scanned := scan ids template.toList
  ⟨String.ofList (scanned.resolve key), scanned.promotions key⟩

end DeviceConfig
