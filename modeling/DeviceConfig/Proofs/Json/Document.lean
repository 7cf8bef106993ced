import DeviceConfig.Json.Document
import DeviceConfig.Proofs.Json.Token

/-!
# Reading back documents

The tokens of a document that was read to its end spell that document and nothing else.
Whatever containers are still open, they deliver it to them.
-/

namespace DeviceConfig.Json

/-! ## Tokens of a document -/

/-- A document starts with a token, and this is not the end of an array. -/
theorem Document.exists_tokens_cons {document : Document} (h : document.intact = true) :
    ∃ token more, document.tokens = token :: more ∧ token ≠ .endArray := by
  cases document with
  | null => exact ⟨_, _, by rw [tokens], by simp⟩
  | boolean value => exact ⟨_, _, by rw [tokens], by simp⟩
  | number literal => exact ⟨_, _, by rw [tokens], by simp⟩
  | string text => exact ⟨_, _, by rw [tokens], by simp⟩
  | array items closed => exact ⟨_, _, by rw [tokens]; rfl, by simp⟩
  | object members closed => exact ⟨_, _, by rw [tokens]; rfl, by simp⟩
  | broken => simp [intact] at h

open Progress (step deliver)

/-- Where an array may end, an item is read as it is where a value must come. -/
theorem foldl_firstItem {item : Document} (h : item.intact = true) (outer : List Frame) :
    item.tokens.foldl step (.firstItem outer) =
      item.tokens.foldl step (.value (.item [] :: outer)) := by
  obtain ⟨token, more, htokens, hne⟩ := Document.exists_tokens_cons h
  rw [htokens, List.foldl_cons, List.foldl_cons]
  congr 1
  cases token <;> first | rfl | exact absurd rfl hne

mutual

/-- The tokens of a document deliver it to the containers around it. -/
theorem foldl_tokens (document : Document) (h : document.intact = true) (outer : List Frame) :
    document.tokens.foldl step (.value outer) = deliver document outer := by
  match document with
  | .null => rfl
  | .boolean _ => rfl
  | .number _ => rfl
  | .string _ => rfl
  | .array [] closed =>
      obtain rfl : closed = true := by simpa [Document.intact, intactItems] using h
      rfl
  | .array (item :: items) closed =>
      simp only [Document.intact, intactItems, Bool.and_eq_true] at h
      obtain ⟨rfl, hitem, hitems⟩ := h
      have hbegin : step (.value outer) .beginArray = .firstItem outer := rfl
      have hend : step (.afterItem (items.reverse ++ [item]) outer) .endArray =
          deliver (.array (item :: items) true) outer := by
        simp [step]
      simp only [Document.tokens, itemTokens, List.cons_append, List.foldl_cons,
        List.foldl_append, hbegin, foldl_firstItem hitem, foldl_tokens item hitem]
      exact (congrArg (step · .endArray) (foldl_moreItemTokens items hitems [item] outer)).trans hend
  | .object [] closed =>
      obtain rfl : closed = true := by simpa [Document.intact, intactMembers] using h
      rfl
  | .object ((label, value) :: members) closed =>
      simp only [Document.intact, intactMembers, Bool.and_eq_true] at h
      obtain ⟨rfl, hvalue, hmembers⟩ := h
      have hbegin : step (step (step (.value outer) .beginObject) (.string label)) .colon =
          .value (.member [] label :: outer) := rfl
      have hend : step (.afterMember (members.reverse ++ [(label, value)]) outer) .endObject =
          deliver (.object ((label, value) :: members) true) outer := by
        simp [step]
      simp only [Document.tokens, memberTokens, List.cons_append, List.foldl_cons,
        List.foldl_append, hbegin, foldl_tokens value hvalue]
      exact (congrArg (step · .endObject)
        (foldl_moreMemberTokens members hmembers [(label, value)] outer)).trans hend
  | .broken => simp [Document.intact] at h

theorem foldl_moreItemTokens (items : List Document) (h : intactItems items = true)
    (before : List Document) (outer : List Frame) :
    (moreItemTokens items).foldl step (.afterItem before outer) =
      .afterItem (items.reverse ++ before) outer := by
  match items with
  | [] => rfl
  | item :: items =>
      simp only [intactItems, Bool.and_eq_true] at h
      have hcomma : step (.afterItem before outer) .comma = .value (.item before :: outer) := rfl
      simp only [moreItemTokens, List.cons_append, List.foldl_cons, List.foldl_append, hcomma,
        foldl_tokens item h.1, deliver, foldl_moreItemTokens items h.2]
      simp

theorem foldl_moreMemberTokens (members : List Member) (h : intactMembers members = true)
    (before : List Member) (outer : List Frame) :
    (moreMemberTokens members).foldl step (.afterMember before outer) =
      .afterMember (members.reverse ++ before) outer := by
  match members with
  | [] => rfl
  | (label, value) :: members =>
      simp only [intactMembers, Bool.and_eq_true] at h
      have hcomma : step (step (step (.afterMember before outer) .comma) (.string label)) .colon =
          .value (.member before label :: outer) := rfl
      simp only [moreMemberTokens, List.cons_append, List.foldl_cons, List.foldl_append, hcomma,
        foldl_tokens value h.1, deliver, foldl_moreMemberTokens members h.2]
      simp

end

/-- The tokens of a document spell it, and nothing is left over. -/
theorem Document.ofTokens_tokens {document : Document} (h : document.intact = true) :
    ofTokens document.tokens = (document, false) := by
  rw [ofTokens, foldl_tokens document h]
  rfl

/-! ## Written documents -/

namespace Document

/-- A document that can be read back from the text it is written as. -/
structure Legible (document : Document) : Prop where
  intact : document.intact = true
  tokens : ∀ token ∈ document.tokens, token.selfDelimiting = true

theorem Legible.ofText_write {document : Document} (h : document.Legible) :
    ofText document.write = (document, false) := by
  rw [ofText, write, tokens_flatMap_write h.tokens, ofTokens_tokens h.intact]

theorem legible_string (text : String) : (string (some text)).Legible :=
  ⟨rfl, by simp [tokens, Token.selfDelimiting]⟩

theorem legible_array {items : List Document} (h : ∀ item ∈ items, item.Legible) :
    (array items true).Legible := by
  have hmore : intactItems items = true ∧
      ∀ token ∈ moreItemTokens items, token.selfDelimiting = true := by
    induction items with
    | nil => simp [intactItems, moreItemTokens]
    | cons item items ih =>
        have hitem := h item List.mem_cons_self
        obtain ⟨hintact, htokens⟩ := ih fun other hother => h other (List.mem_cons_of_mem _ hother)
        constructor
        · simp [intactItems, hitem.intact, hintact]
        · simp only [moreItemTokens, List.cons_append, List.mem_cons, List.mem_append]
          rintro token (rfl | htoken | htoken)
          · rfl
          · exact hitem.tokens token htoken
          · exact htokens token htoken
  have hitems : ∀ token ∈ itemTokens items, token.selfDelimiting = true := by
    cases items with
    | nil => simp [itemTokens]
    | cons item items =>
        intro token htoken
        exact hmore.2 token (List.mem_cons_of_mem _ htoken)
  constructor
  · simp [intact, hmore.1]
  · simp only [tokens, List.cons_append, List.mem_cons, List.mem_append, if_true,
      List.not_mem_nil, or_false]
    rintro token (rfl | htoken | rfl)
    · rfl
    · exact hitems token htoken
    · rfl

theorem legible_object {members : List Member}
    (h : ∀ member ∈ members, (∃ label, member.1 = some label) ∧ member.2.Legible) :
    (object members true).Legible := by
  have hmore : intactMembers members = true ∧
      ∀ token ∈ moreMemberTokens members, token.selfDelimiting = true := by
    induction members with
    | nil => simp [intactMembers, moreMemberTokens]
    | cons member members ih =>
        obtain ⟨_, value⟩ := member
        obtain ⟨⟨label, rfl⟩, hvalue⟩ := h _ List.mem_cons_self
        obtain ⟨hintact, htokens⟩ := ih fun other hother => h other (List.mem_cons_of_mem _ hother)
        constructor
        · simp [intactMembers, hvalue.intact, hintact]
        · simp only [moreMemberTokens, List.cons_append, List.mem_cons, List.mem_append]
          rintro token (rfl | rfl | rfl | htoken | htoken)
          · rfl
          · rfl
          · rfl
          · exact hvalue.tokens token htoken
          · exact htokens token htoken
  have hmembers : ∀ token ∈ memberTokens members, token.selfDelimiting = true := by
    cases members with
    | nil => simp [memberTokens]
    | cons member members =>
        intro token htoken
        exact hmore.2 token (List.mem_cons_of_mem _ htoken)
  constructor
  · simp [intact, hmore.1]
  · simp only [tokens, List.cons_append, List.mem_cons, List.mem_append, if_true,
      List.not_mem_nil, or_false]
    rintro token (rfl | htoken | rfl)
    · rfl
    · exact hmembers token htoken
    · rfl

end Document

end DeviceConfig.Json
