import DeviceConfig.Proofs.Json.Document
import DeviceConfig.Proofs.Json.Grammar

/-!
# Reading what a text spells

Whatever a text spells by the grammar is what is read from it. A number is read as far as it
goes, so it is read as it was spelled only if nothing behind it can be a part of it; within
a document nothing can.
-/

namespace DeviceConfig.Json

/-! ## Numbers -/

/-- No digit comes next. -/
def NoDigit (rest : List Char) : Prop :=
  ∀ c ∈ rest.head?, c.isDigit = false

/-- Whether a character may be a part of a number behind a digit. -/
def continuesNumber (c : Char) : Bool :=
  c.isDigit || c == '.' || c == 'e' || c == 'E'

/-- Nothing comes next that could be a part of a number. -/
def EndsNumber (rest : List Char) : Prop :=
  ∀ c ∈ rest.head?, continuesNumber c = false

theorem endsNumber_cons {c : Char} (hc : continuesNumber c = false) (rest : List Char) :
    EndsNumber (c :: rest) := by
  rintro _ ⟨⟩
  exact hc

theorem EndsNumber.noDigit {rest : List Char} (h : EndsNumber rest) : NoDigit rest := by
  intro c hc
  have hends := h c hc
  simp only [continuesNumber, Bool.or_eq_false_iff] at hends
  exact hends.1.1.1

theorem isDigit_digitChar {n : Nat} (h : n < 10) : (Nat.digitChar n).isDigit = true := by
  rw [Nat.isDigit_digitChar, decide_eq_true h]

theorem digitValue_digitChar {n : Nat} (h : n < 10) : digitValue (Nat.digitChar n) = n :=
  Nat.toNat_digitChar_sub_48_of_lt_ten h

theorem readDigits_of_noDigit {rest : List Char} (h : NoDigit rest) :
    readDigits rest = ([], rest) := by
  cases rest with
  | nil => rfl
  | cons c rest => rw [readDigits, h c rfl, if_neg Bool.false_ne_true]

theorem readDigits_digitChar {n : Nat} (h : n < 10) (text : List Char) :
    readDigits (Nat.digitChar n :: text) = (n :: (readDigits text).1, (readDigits text).2) := by
  rw [readDigits, isDigit_digitChar h, if_pos rfl, digitValue_digitChar h]

theorem SpellsDigits.exists_digit {text rest : List Char} {digits : List Nat}
    (h : SpellsDigits text digits rest) : ∃ c more, text = c :: more ∧ c.isDigit = true := by
  cases h with
  | last n hn => exact ⟨_, _, rfl, isDigit_digitChar hn⟩
  | more n hn => exact ⟨_, _, rfl, isDigit_digitChar hn⟩

theorem SpellsWhole.exists_digit {text rest : List Char} {digits : List Nat}
    (h : SpellsWhole text digits rest) : ∃ c more, text = c :: more ∧ c.isDigit = true := by
  cases h with
  | zero => exact ⟨_, _, rfl, rfl⟩
  | digits _ h => exact h.exists_digit

theorem SpellsDigits.readDigits {text rest : List Char} {digits : List Nat}
    (h : SpellsDigits text digits rest) (hrest : NoDigit rest) :
    readDigits text = (digits, rest) := by
  induction h with
  | last n hn => rw [readDigits_digitChar hn, readDigits_of_noDigit hrest]
  | more n hn _ ih => rw [readDigits_digitChar hn, ih hrest]

theorem SpellsDigits.readSomeDigits {text rest : List Char} {digits : List Nat}
    (h : SpellsDigits text digits rest) (hrest : NoDigit rest) :
    readSomeDigits text = some (digits, rest) := by
  rw [Json.readSomeDigits, h.readDigits hrest]
  cases h <;> rfl

theorem SpellsWhole.readWhole {text rest : List Char} {digits : List Nat}
    (h : SpellsWhole text digits rest) (hrest : NoDigit rest) :
    readWhole text = some (digits, rest) := by
  cases h with
  | zero =>
      have hdigits : Json.readDigits ('0' :: rest) = ([0], rest) :=
        (SpellsDigits.last 0 (by decide)).readDigits hrest
      rw [Json.readWhole, hdigits]
      rfl
  | digits hn h =>
      rw [Json.readWhole, h.readDigits hrest]
      split <;> simp_all

theorem SpellsSign.readSign {text rest whole : List Char} {negative : Bool} {digits : List Nat}
    (h : SpellsSign text negative rest) (hrest : SpellsWhole rest digits whole) :
    readSign text = (negative, rest) := by
  cases h with
  | minus => rfl
  | none =>
      obtain ⟨c, more, rfl, hc⟩ := hrest.exists_digit
      have hminus : c ≠ '-' := by
        rintro rfl
        exact absurd hc (by decide)
      simp [Json.readSign, hminus]

theorem SpellsFraction.noDigit {text rest : List Char} {digits : List Nat}
    (h : SpellsFraction text digits rest) (hrest : NoDigit rest) : NoDigit text := by
  cases h with
  | none => exact hrest
  | digits => simp [NoDigit]

theorem SpellsFraction.readFraction {text rest : List Char} {digits : List Nat}
    (h : SpellsFraction text digits rest) (hrest : NoDigit rest) (hpoint : rest.head? ≠ some '.') :
    readFraction text = some (digits, rest) := by
  cases h with
  | none =>
      unfold Json.readFraction
      split
      · exact absurd rfl hpoint
      · rfl
  | digits h => exact h.readSomeDigits hrest

/-- Where an exponent may come, there is no digit and no point. -/
theorem SpellsExponent.noDigit {text rest : List Char} {exponent : Option Exponent}
    (h : SpellsExponent text exponent rest) (hrest : EndsNumber rest) :
    NoDigit text ∧ text.head? ≠ some '.' := by
  cases h with
  | none => exact ⟨hrest.noDigit, fun h => absurd (hrest '.' h) (by decide)⟩
  | power he => rcases he with rfl | rfl <;> simp [NoDigit]

theorem SpellsExponentSign.readExponentSign {text rest more : List Char} {negative : Bool}
    {digits : List Nat} (h : SpellsExponentSign text negative rest)
    (hrest : SpellsDigits rest digits more) : readExponentSign text = (negative, rest) := by
  cases h with
  | plus => rfl
  | minus => rfl
  | none =>
      obtain ⟨c, more, rfl, hc⟩ := hrest.exists_digit
      have hplus : c ≠ '+' := by
        rintro rfl
        exact absurd hc (by decide)
      have hminus : c ≠ '-' := by
        rintro rfl
        exact absurd hc (by decide)
      simp [Json.readExponentSign, hplus, hminus]

theorem SpellsExponent.readExponent {text rest : List Char} {exponent : Option Exponent}
    (h : SpellsExponent text exponent rest) (hrest : EndsNumber rest) :
    readExponent text = some (exponent, rest) := by
  cases h with
  | none =>
      cases text with
      | nil => rfl
      | cons c text =>
          have hc : ¬(c = 'e' ∨ c = 'E') := by
            rintro (rfl | rfl)
            · exact absurd (hrest 'e' rfl) (by decide)
            · exact absurd (hrest 'E' rfl) (by decide)
          rw [Json.readExponent, if_neg hc]
  | power he hsign h =>
      rw [Json.readExponent, if_pos he]
      simp only [hsign.readExponentSign h, h.readSomeDigits hrest.noDigit]
      rfl

theorem SpellsNumber.readNumber {text rest : List Char} {literal : NumberLiteral}
    (h : SpellsNumber text literal rest) (hrest : EndsNumber rest) :
    readNumber text = some (literal, rest) := by
  cases h with
  | parts hsign hwhole hfraction hexponent =>
      obtain ⟨hnone, hpoint⟩ := hexponent.noDigit hrest
      simp only [Json.readNumber, hsign.readSign hwhole, hwhole.readWhole (hfraction.noDigit hnone),
        hfraction.readFraction hnone hpoint, hexponent.readExponent hrest, Option.bind_eq_bind,
        Option.bind_some, Option.pure_def]

/-! ## Strings -/

theorem SpellsHexDigit.hexValue? {c : Char} {n : Nat} (h : SpellsHexDigit c n) :
    hexValue? c = some n := by
  have hlower : ∀ k : Fin 16, ("0123456789abcdef".toList[k.val]?.bind Json.hexValue?) =
      some k.val := by decide
  have hupper : ∀ k : Fin 16, ("0123456789ABCDEF".toList[k.val]?.bind Json.hexValue?) =
      some k.val := by decide
  rcases h with h | h
  · have hn : n < 16 := (List.getElem?_eq_some_iff.mp h).1
    have hvalue : "0123456789abcdef".toList[n]?.bind Json.hexValue? = some n := hlower ⟨n, hn⟩
    rwa [h, Option.bind_some] at hvalue
  · have hn : n < 16 := (List.getElem?_eq_some_iff.mp h).1
    have hvalue : "0123456789ABCDEF".toList[n]?.bind Json.hexValue? = some n := hupper ⟨n, hn⟩
    rwa [h, Option.bind_some] at hvalue

theorem readPieces_short {e c : Char} (h : (e, c) ∈ shortEscapes) (text : List Char) :
    readPieces ('\\' :: e :: text) =
      (readPieces text).map fun (pieces, rest) => (.char c :: pieces, rest) := by
  have hall : ∀ escape ∈ shortEscapes,
      escape.1 ≠ 'u' ∧ shortEscape? escape.1 = some escape.2 := by decide
  obtain ⟨hunit, hshort⟩ := hall _ h
  refine readPieces_cons (by decide) ?_
  have hread : readPiece '\\' (e :: text) = readEscape (e :: text) := rfl
  rw [hread]
  unfold readEscape
  split
  · next heq => simp at heq
  · next heq =>
      rw [List.cons.injEq] at heq
      exact absurd heq.1 hunit
  · next heq =>
      rw [List.cons.injEq] at heq
      obtain ⟨rfl, rfl⟩ := heq
      rw [hshort]
      rfl

theorem SpellsUnit.readPieces {text more : List Char} {value : Nat}
    (h : SpellsUnit text value more) :
    readPieces text =
      (readPieces more).map fun (pieces, rest) => (.unit value :: pieces, rest) := by
  cases h with
  | digits ha hb hc hd =>
      refine readPieces_cons (by decide) ?_
      have hread : ∀ text, readPiece '\\' text = readEscape text := fun _ => rfl
      simp only [hread, readEscape, unitValue?, ha.hexValue?, hb.hexValue?, hc.hexValue?,
        hd.hexValue?, Option.bind_eq_bind, Option.bind_some, Option.pure_def, Option.map_some]

theorem joinPieces_halves {c : Char} {high low : Nat} (hhigh : 0xD800 ≤ high ∧ high < 0xDC00)
    (hlow : 0xDC00 ≤ low ∧ low < 0xE000)
    (hc : c.toNat = 0x10000 + (high - 0xD800) * 0x400 + (low - 0xDC00)) (pieces : List Piece) :
    joinPieces (.unit high :: .unit low :: pieces) = (joinPieces pieces).map (c :: ·) := by
  have hishigh : isHighUnit high = true := by simpa [isHighUnit] using hhigh
  have hislow : isLowUnit low = true := by simpa [isLowUnit] using hlow
  have hjoin : joinUnits high low = c := by rw [joinUnits, ← hc, Char.ofNat_toNat]
  rw [joinPieces.eq_def]
  simp [hishigh, hislow, hjoin]

theorem SpellsCharacters.readPieces {text content rest : List Char}
    (h : SpellsCharacters text content rest) :
    ∃ pieces, readPieces text = some (pieces, rest) ∧ joinPieces pieces = some content := by
  induction h with
  | quote => exact ⟨[], readPieces_quote _, rfl⟩
  | @plain c text _ _ hcontrol hquote hbackslash _ ih =>
      obtain ⟨pieces, hread, hjoin⟩ := ih
      have hpiece : readPiece c text = some (.char c, text) := by
        rw [readPiece, if_neg hbackslash, if_neg (Nat.not_lt.mpr hcontrol)]
      refine ⟨.char c :: pieces, ?_, by rw [joinPieces, hjoin]; rfl⟩
      rw [readPieces_cons hquote hpiece, hread]
      rfl
  | short he _ ih =>
      obtain ⟨pieces, hread, hjoin⟩ := ih
      refine ⟨.char _ :: pieces, ?_, by rw [joinPieces, hjoin]; rfl⟩
      rw [readPieces_short he, hread]
      rfl
  | unit hc _ ih =>
      obtain ⟨pieces, hread, hjoin⟩ := ih
      refine ⟨.unit _ :: pieces, ?_, by rw [joinPieces_unit, hjoin]; rfl⟩
      rw [hc.readPieces, hread]
      rfl
  | @halves _ high low _ _ _ _ _ hhigh hlow hhighBound hlowBound hc _ ih =>
      obtain ⟨pieces, hread, hjoin⟩ := ih
      refine ⟨.unit high :: .unit low :: pieces, ?_, ?_⟩
      · rw [hhigh.readPieces, hlow.readPieces, hread]
        rfl
      · rw [joinPieces_halves hhighBound hlowBound hc, hjoin]
        rfl

theorem SpellsCharacters.stringToken {text rest : List Char} {content : String}
    (h : SpellsCharacters text content.toList rest) :
    stringToken text = (.string (some content), rest) := by
  obtain ⟨pieces, hread, hjoin⟩ := h.readPieces
  rw [Json.stringToken, hread]
  simp [hjoin]

/-! ## Tokens -/

theorem tokens_blank {c : Char} (hc : c ∈ blanks) (text : List Char) :
    tokens (c :: text) = tokens text := by
  have hall : blanks.all isBlank = true := by decide
  rw [tokens, if_pos (List.all_eq_true.mp hall c hc)]

theorem tokens_punctuation (c : Char) {token : Token} (h : punctuation? c = some token)
    (rest : List Char) : tokens (c :: rest) = token :: tokens rest := by
  have hblank : isBlank c = false := by
    cases hc : isBlank c with
    | false => rfl
    | true =>
        simp only [isBlank, Bool.or_eq_true, decide_eq_true_eq, or_assoc] at hc
        rcases hc with rfl | rfl | rfl | rfl <;> simp [punctuation?] at h
  rw [tokens_cons hblank, tokenAt, h]

theorem SkipsBlanks.tokens {text rest : List Char} (h : SkipsBlanks text rest) :
    tokens text = tokens rest := by
  induction h with
  | stop => rfl
  | blank hc _ ih => rw [tokens_blank hc, ih]

/-- A digit or a minus starts a number and no other token. -/
theorem tokens_numberToken {c : Char} (hc : c.isDigit = true ∨ c = '-') (text : List Char) :
    tokens (c :: text) =
      (numberToken (c :: text)).1 :: tokens (numberToken (c :: text)).2 := by
  have hne : ∀ d ∈ ['[', ']', '{', '}', ':', ',', '"', 'n', 't', 'f', ' ', '\n', '\t', '\r'],
      c ≠ d := by
    have hall : ['[', ']', '{', '}', ':', ',', '"', 'n', 't', 'f', ' ', '\n', '\t', '\r'].all
        (fun d => !(d.isDigit || d == '-')) = true := by decide
    rintro _ hd rfl
    have hother := List.all_eq_true.mp hall c hd
    simp_all
  simp only [List.forall_mem_cons] at hne
  have htoken : tokenAt c text = numberToken (c :: text) := by
    simp [tokenAt, punctuation?, hne]
  rw [tokens_cons (by simp [isBlank, hne]), htoken]

theorem SpellsNumber.tokens {text rest : List Char} {literal : NumberLiteral}
    (h : SpellsNumber text literal rest) (hrest : EndsNumber rest) :
    tokens text = .number literal :: tokens rest := by
  have hstart : ∃ c more, text = c :: more ∧ (c.isDigit = true ∨ c = '-') := by
    cases h with
    | parts hsign hwhole =>
        cases hsign with
        | minus => exact ⟨_, _, rfl, .inr rfl⟩
        | none =>
            obtain ⟨c, more, rfl, hc⟩ := hwhole.exists_digit
            exact ⟨c, more, rfl, .inl hc⟩
  have hnumber : numberToken text = (.number literal, rest) := by
    rw [numberToken, h.readNumber hrest]
  obtain ⟨c, more, rfl, hc⟩ := hstart
  rw [tokens_numberToken hc, hnumber]

theorem SpellsCharacters.tokens {text rest : List Char} {content : String}
    (h : SpellsCharacters text content.toList rest) :
    tokens ('"' :: text) = .string (some content) :: tokens rest := by
  have htoken : tokenAt '"' text = (.string (some content), rest) := h.stringToken
  rw [tokens_cons (by decide), htoken]

theorem endsNumber_blank {c : Char} (hc : c ∈ blanks) (rest : List Char) :
    EndsNumber (c :: rest) := by
  have hall : blanks.all (fun c => !continuesNumber c) = true := by decide
  have hother := List.all_eq_true.mp hall c hc
  exact endsNumber_cons (by simpa using hother) rest

/-- Items that follow others are the same items behind a comma. -/
theorem SpellsItems.moreItemTokens {text rest : List Char} {items : List Value}
    (h : SpellsItems text items rest) :
    moreItemTokens (itemDocuments items) = .comma :: itemTokens (itemDocuments items) := by
  cases h <;> rfl

theorem SpellsMembers.moreMemberTokens {text rest : List Char} {members : List (String × Value)}
    (h : SpellsMembers text members rest) :
    moreMemberTokens (memberDocuments members) =
      .comma :: memberTokens (memberDocuments members) := by
  cases h <;> rfl

mutual

/-- The tokens of a text are those of the value that it spells, and those behind it. -/
theorem SpellsValue.tokens {text rest : List Char} {value : Value}
    (h : SpellsValue text value rest) (hrest : EndsNumber rest) :
    tokens text = value.document.tokens ++ tokens rest := by
  match h with
  | .before hc h => rw [tokens_blank hc, h.tokens hrest]
  | .after hc h => rw [h.tokens (endsNumber_blank hc _), tokens_blank hc]
  | .null => exact @tokens_write_append .null rfl rest
  | .isTrue => exact @tokens_write_append (.boolean true) rfl rest
  | .isFalse => exact @tokens_write_append (.boolean false) rfl rest
  | .number h => exact h.tokens hrest
  | .string h => exact h.tokens
  | .emptyArray h => rw [tokens_punctuation '[' rfl, h.tokens, tokens_punctuation ']' rfl]; rfl
  | .array h =>
      rw [tokens_punctuation '[' rfl, h.tokens (endsNumber_cons rfl _),
        tokens_punctuation ']' rfl]
      simp [Value.document, Document.tokens]
  | .emptyObject h => rw [tokens_punctuation '{' rfl, h.tokens, tokens_punctuation '}' rfl]; rfl
  | .object h =>
      rw [tokens_punctuation '{' rfl, h.tokens (endsNumber_cons rfl _),
        tokens_punctuation '}' rfl]
      simp [Value.document, Document.tokens]

theorem SpellsItems.tokens {text rest : List Char} {items : List Value}
    (h : SpellsItems text items rest) (hrest : EndsNumber rest) :
    tokens text = itemTokens (itemDocuments items) ++ tokens rest := by
  match h with
  | .last hitem =>
      rw [hitem.tokens hrest]
      simp [itemDocuments, itemTokens, moreItemTokens]
  | .more hitem h =>
      rw [hitem.tokens (endsNumber_cons rfl _), tokens_punctuation ',' rfl,
        h.tokens hrest, itemDocuments, itemTokens, h.moreItemTokens]
      simp

theorem SpellsMembers.tokens {text rest : List Char} {members : List (String × Value)}
    (h : SpellsMembers text members rest) (hrest : EndsNumber rest) :
    tokens text = memberTokens (memberDocuments members) ++ tokens rest := by
  match h with
  | .last hlabel hvalue =>
      rw [hlabel.tokens (endsNumber_cons rfl _), tokens_punctuation ':' rfl,
        hvalue.tokens hrest]
      simp [memberDocuments, memberTokens, moreMemberTokens, Value.document, Document.tokens]
  | .more hlabel hvalue h =>
      rw [hlabel.tokens (endsNumber_cons rfl _), tokens_punctuation ':' rfl,
        hvalue.tokens (endsNumber_cons rfl _), tokens_punctuation ',' rfl,
        h.tokens hrest, memberDocuments, memberTokens, h.moreMemberTokens]
      simp [Value.document, Document.tokens]

end

/-! ## Documents -/

mutual

theorem Value.intact_document (value : Value) : value.document.intact = true := by
  match value with
  | .null => rfl
  | .boolean _ => rfl
  | .number _ => rfl
  | .string _ => rfl
  | .array items => simp [Value.document, Document.intact, intactItems_itemDocuments items]
  | .object members => simp [Value.document, Document.intact, intactMembers_memberDocuments members]

theorem intactItems_itemDocuments (items : List Value) :
    intactItems (itemDocuments items) = true := by
  match items with
  | [] => rfl
  | item :: items =>
      rw [itemDocuments, intactItems, item.intact_document, intactItems_itemDocuments items]
      rfl

theorem intactMembers_memberDocuments (members : List (String × Value)) :
    intactMembers (memberDocuments members) = true := by
  match members with
  | [] => rfl
  | (label, value) :: members =>
      rw [memberDocuments, intactMembers, value.intact_document,
        intactMembers_memberDocuments members]
      rfl

end

/-- A text is read as the value that it spells, to the end. -/
theorem Spells.ofText {text : String} {value : Value} (h : Spells text value) :
    Document.ofText text.toList = (value.document, false) := by
  have hrest : EndsNumber [] := by simp [EndsNumber]
  rw [Document.ofText, SpellsValue.tokens h hrest, tokens.eq_1, List.append_nil,
    Document.ofTokens_tokens value.intact_document]

end DeviceConfig.Json
