/-!
# String literals

A string stands between double quotes. Quotes, backslashes and controls are escaped; an
escape may also give a 16-bit unit by its number, and two such units may together give
one character. Writing escapes only what has to be escaped.
-/

namespace DeviceConfig.Json

/-! ## Writing -/

/-- A digit in base sixteen, in lower case. -/
def hexDigit (n : Nat) : Char :=
  Nat.digitChar n

/-- A character as it is written within a string. -/
def escapeChar (c : Char) : List Char :=
  if c = '"' then ['\\', '"']
  else if c = '\\' then ['\\', '\\']
  else if c = '\x08' then ['\\', 'b']
  else if c = '\x0c' then ['\\', 'f']
  else if c = '\n' then ['\\', 'n']
  else if c = '\r' then ['\\', 'r']
  else if c = '\t' then ['\\', 't']
  else if c.toNat < 32 then
    ['\\', 'u', '0', '0', hexDigit (c.toNat / 16), hexDigit (c.toNat % 16)]
  else [c]

/-- A text as it is written, quotes included. -/
def writeString (text : List Char) : List Char :=
  '"' :: text.flatMap escapeChar ++ ['"']

/-! ## Reading -/

/-- A piece of a string: a character, or a 16-bit unit given by its number. -/
inductive Piece where
  | char (c : Char)
  | unit (value : Nat)
  deriving DecidableEq, Repr

/-- The character of an escape with one letter. -/
def shortEscape? (c : Char) : Option Char :=
  if c = '"' ∨ c = '\\' ∨ c = '/' then some c
  else if c = 'b' then some '\x08'
  else if c = 'f' then some '\x0c'
  else if c = 'n' then some '\n'
  else if c = 'r' then some '\r'
  else if c = 't' then some '\t'
  else none

/-- The value of a digit in base sixteen, in either case. -/
def hexValue? (c : Char) : Option Nat :=
  if '0' ≤ c ∧ c ≤ '9' then some (c.toNat - '0'.toNat)
  else if 'a' ≤ c ∧ c ≤ 'f' then some (c.toNat - 'a'.toNat + 10)
  else if 'A' ≤ c ∧ c ≤ 'F' then some (c.toNat - 'A'.toNat + 10)
  else none

/-- The unit given by four digits. -/
def unitValue? (a b c d : Char) : Option Nat := do
  let a ← hexValue? a
  let b ← hexValue? b
  let c ← hexValue? c
  let d ← hexValue? d
  return ((a * 16 + b) * 16 + c) * 16 + d

/-- Reads an escape behind its backslash. -/
def readEscape : List Char → Option (Piece × List Char)
  | [] => none
  | 'u' :: a :: b :: c :: d :: rest => (unitValue? a b c d).map fun value => (.unit value, rest)
  | e :: rest => (shortEscape? e).map fun c => (.char c, rest)

/-- Reads the piece that starts with a character. Controls have to be escaped. -/
def readPiece (c : Char) (rest : List Char) : Option (Piece × List Char) :=
  if c = '\\' then readEscape rest
  else if c.toNat < 32 then none
  else some (.char c, rest)

theorem length_le_of_readEscape {text rest : List Char} {piece : Piece}
    (h : readEscape text = some (piece, rest)) : rest.length ≤ text.length := by
  unfold readEscape at h
  split at h
  · simp at h
  · obtain ⟨value, -, he⟩ := Option.map_eq_some_iff.mp h
    simp only [Prod.mk.injEq] at he
    simp only [List.length_cons, ← he.2]
    omega
  · obtain ⟨c, -, he⟩ := Option.map_eq_some_iff.mp h
    simp only [Prod.mk.injEq] at he
    simp [← he.2]

theorem length_le_of_readPiece {c : Char} {text rest : List Char} {piece : Piece}
    (h : readPiece c text = some (piece, rest)) : rest.length ≤ text.length := by
  rw [readPiece] at h
  split at h
  · exact length_le_of_readEscape h
  · split at h
    · simp at h
    · simp_all

/-- Reads the pieces of a string behind its opening quote, and the text behind its closing
quote. -/
def readPieces : List Char → Option (List Piece × List Char)
  | [] => none
  | c :: rest =>
    if c = '"' then
      some ([], rest)
    else
      match h : readPiece c rest with
      | none => none
      | some (piece, more) =>
        have := length_le_of_readPiece h
        (readPieces more).map fun (pieces, rest) => (piece :: pieces, rest)
termination_by text => text.length
decreasing_by
  simp only [List.length_cons]
  omega

theorem readPieces_quote (rest : List Char) : readPieces ('"' :: rest) = some ([], rest) := by
  rw [readPieces, if_pos rfl]

/-- A piece that can be read is the first of all pieces. -/
theorem readPieces_cons {c : Char} {text more : List Char} {piece : Piece} (hc : c ≠ '"')
    (h : readPiece c text = some (piece, more)) :
    readPieces (c :: text) =
      (readPieces more).map fun (pieces, rest) => (piece :: pieces, rest) := by
  rw [readPieces, if_neg hc]
  split
  · next h' => simp [h] at h'
  · next p m h' =>
      rw [h, Option.some.injEq, Prod.mk.injEq] at h'
      obtain ⟨rfl, rfl⟩ := h'
      rfl

theorem length_lt_of_readPieces {text rest : List Char} {pieces : List Piece}
    (h : readPieces text = some (pieces, rest)) : rest.length < text.length := by
  fun_induction readPieces text generalizing pieces rest with
  | case1 => simp at h
  | case2 text => simp_all
  | case3 => simp at h
  | case4 c text _ piece more hp hle ih =>
      obtain ⟨⟨more', r⟩, hr, he⟩ := Option.map_eq_some_iff.mp h
      simp only [Prod.mk.injEq] at he
      obtain ⟨-, rfl⟩ := he
      have := ih hr
      simp only [List.length_cons]
      omega

/-- Whether a unit is the first half of a character. -/
def isHighUnit (value : Nat) : Bool :=
  0xD800 ≤ value && value < 0xDC00

/-- Whether a unit is the second half of a character. -/
def isLowUnit (value : Nat) : Bool :=
  0xDC00 ≤ value && value < 0xE000

/-- The character of two halves. -/
def joinUnits (high low : Nat) : Char :=
  Char.ofNat (0x10000 + (high - 0xD800) * 0x400 + (low - 0xDC00))

/-- The text of a string, if no half of a character stands alone. -/
def joinPieces : List Piece → Option (List Char)
  | [] => some []
  | .char c :: rest => (joinPieces rest).map (c :: ·)
  | .unit value :: rest =>
    if isHighUnit value then
      match rest with
      | .unit next :: rest =>
        if isLowUnit next then (joinPieces rest).map (joinUnits value next :: ·) else none
      | _ => none
    else if isLowUnit value then none
    else (joinPieces rest).map (Char.ofNat value :: ·)

end DeviceConfig.Json
