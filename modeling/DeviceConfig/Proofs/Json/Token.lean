import DeviceConfig.Json.Token

/-!
# Reading back what is written

A string is read back to the text it was written from, whatever its characters are. Most
tokens end by themselves, so a list of them is read back from one text without blanks.
-/

namespace DeviceConfig.Json

/-! ## Strings -/

theorem hexValue?_hexDigit {n : Nat} (h : n < 16) : hexValue? (hexDigit n) = some n := by
  have hall : ∀ k : Fin 16, hexValue? (hexDigit k.val) = some k.val := by decide
  exact hall ⟨n, h⟩

/-- A control character is escaped by its number. -/
theorem readEscape_unit {n : Nat} (h : n < 32) (more : List Char) :
    readEscape ('u' :: '0' :: '0' :: hexDigit (n / 16) :: hexDigit (n % 16) :: more) =
      some (.unit n, more) := by
  have hhigh : hexValue? (hexDigit (n / 16)) = some (n / 16) := hexValue?_hexDigit (by omega)
  have hlow : hexValue? (hexDigit (n % 16)) = some (n % 16) := hexValue?_hexDigit (by omega)
  have hzero : hexValue? '0' = some 0 := by decide
  have hvalue : ((0 * 16 + 0) * 16 + n / 16) * 16 + n % 16 = n := by omega
  simp only [readEscape, unitValue?, hzero, hhigh, hlow, Option.bind_eq_bind, Option.bind_some,
    hvalue, Option.pure_def, Option.map_some]

/-- No character is half of another one, so a unit may give it by its number. -/
theorem joinPieces_unit (c : Char) (pieces : List Piece) :
    joinPieces (.unit c.toNat :: pieces) = (joinPieces pieces).map (c :: ·) := by
  have hvalid : c.toNat < 0xD800 ∨ 0xDFFF < c.toNat ∧ c.toNat < 0x110000 := c.valid
  have hhigh : isHighUnit c.toNat = false := by
    simp only [isHighUnit, Bool.and_eq_false_iff, decide_eq_false_iff_not]
    omega
  have hlow : isLowUnit c.toNat = false := by
    simp only [isLowUnit, Bool.and_eq_false_iff, decide_eq_false_iff_not]
    omega
  rw [joinPieces.eq_def]
  simp [hhigh, hlow]

/-- A written character is read as one piece, which gives the character back. -/
theorem exists_piece_escapeChar (c : Char) :
    ∃ piece, (∀ more, readPieces (escapeChar c ++ more) =
        (readPieces more).map fun (pieces, rest) => (piece :: pieces, rest)) ∧
      ∀ pieces, joinPieces (piece :: pieces) = (joinPieces pieces).map (c :: ·) := by
  have hshort (e : Char) (h : ∀ more, readPiece '\\' (e :: more) = some (.char c, more)) :
      ∃ piece, (∀ more, readPieces (['\\', e] ++ more) =
          (readPieces more).map fun (pieces, rest) => (piece :: pieces, rest)) ∧
        ∀ pieces, joinPieces (piece :: pieces) = (joinPieces pieces).map (c :: ·) :=
    ⟨.char c, fun more => readPieces_cons (by decide) (h more), fun _ => rfl⟩
  unfold escapeChar
  split
  · next h => exact hshort '"' fun _ => by subst h; rfl
  split
  · next h => exact hshort '\\' fun _ => by subst h; rfl
  split
  · next h => exact hshort 'b' fun _ => by subst h; rfl
  split
  · next h => exact hshort 'f' fun _ => by subst h; rfl
  split
  · next h => exact hshort 'n' fun _ => by subst h; rfl
  split
  · next h => exact hshort 'r' fun _ => by subst h; rfl
  split
  · next h => exact hshort 't' fun _ => by subst h; rfl
  split
  · next hcontrol =>
      refine ⟨.unit c.toNat, fun more => readPieces_cons (by decide) ?_, fun pieces => ?_⟩
      · exact readEscape_unit hcontrol more
      · exact joinPieces_unit c pieces
  · next hquote hbackslash _ _ _ _ _ hcontrol =>
      refine ⟨.char c, fun more => readPieces_cons hquote ?_, fun _ => rfl⟩
      rw [readPiece, if_neg hbackslash, if_neg hcontrol]
      rfl

/-- A written text is read up to its closing quote and no further. -/
theorem readPieces_escape (text rest : List Char) :
    ∃ pieces, readPieces (text.flatMap escapeChar ++ '"' :: rest) = some (pieces, rest) ∧
      joinPieces pieces = some text := by
  induction text with
  | nil => exact ⟨[], readPieces_quote rest, rfl⟩
  | cons c text ih =>
      obtain ⟨pieces, hread, hjoin⟩ := ih
      obtain ⟨piece, hpiece, hchar⟩ := exists_piece_escapeChar c
      refine ⟨piece :: pieces, ?_, ?_⟩
      · rw [List.flatMap_cons, List.append_assoc, hpiece, hread]
        rfl
      · rw [hchar, hjoin]
        rfl

theorem stringToken_escape (text : String) (rest : List Char) :
    stringToken (text.toList.flatMap escapeChar ++ '"' :: rest) = (.string (some text), rest) := by
  obtain ⟨pieces, hread, hjoin⟩ := readPieces_escape text.toList rest
  rw [stringToken, hread]
  simp [hjoin]

/-! ## Tokens -/

/-- Whether a token ends by itself, whatever is written behind it. -/
def Token.selfDelimiting : Token → Bool
  | .number _ | .string none | .invalid => false
  | _ => true

theorem tokens_cons {c : Char} (h : isBlank c = false) (rest : List Char) :
    tokens (c :: rest) = (tokenAt c rest).1 :: tokens (tokenAt c rest).2 := by
  rw [tokens, if_neg (by simp [h])]

/-- A token that ends by itself is the first one of a text that starts with it. -/
theorem tokens_write_append {token : Token} (h : token.selfDelimiting = true) (rest : List Char) :
    tokens (token.write ++ rest) = token :: tokens rest := by
  cases token with
  | beginArray => exact tokens_cons (by decide) rest
  | endArray => exact tokens_cons (by decide) rest
  | beginObject => exact tokens_cons (by decide) rest
  | endObject => exact tokens_cons (by decide) rest
  | colon => exact tokens_cons (by decide) rest
  | comma => exact tokens_cons (by decide) rest
  | null => exact tokens_cons (by decide) _
  | boolean value =>
      cases value with
      | true => exact tokens_cons (by decide) _
      | false => exact tokens_cons (by decide) _
  | number literal => simp [Token.selfDelimiting] at h
  | string text =>
      cases text with
      | none => simp [Token.selfDelimiting] at h
      | some text =>
          have hstring : tokenAt '"' (text.toList.flatMap escapeChar ++ '"' :: rest) =
              (.string (some text), rest) := stringToken_escape text rest
          simp only [Token.write, writeString, List.cons_append, List.append_assoc,
            List.nil_append]
          rw [tokens_cons (by decide), hstring]
  | invalid => simp [Token.selfDelimiting] at h

/-- Written tokens that end by themselves are read back. -/
theorem tokens_flatMap_write {list : List Token}
    (h : ∀ token ∈ list, token.selfDelimiting = true) : tokens (list.flatMap Token.write) = list := by
  induction list with
  | nil => rw [List.flatMap_nil, tokens]
  | cons token list ih =>
      rw [List.flatMap_cons, tokens_write_append (h token List.mem_cons_self),
        ih fun other hother => h other (List.mem_cons_of_mem _ hother)]

end DeviceConfig.Json
