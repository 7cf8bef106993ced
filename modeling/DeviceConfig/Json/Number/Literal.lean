/-!
# Number literals

A number is written as an optional minus, digits, an optional fraction and an optional
exponent. A zero before the point stands alone.
-/

namespace DeviceConfig.Json

/-- A power of ten behind a number. -/
structure Exponent where
  negative : Bool
  digits : List Nat
  deriving DecidableEq, Repr

/-- A number as it is written. A fraction without digits is none at all. -/
structure NumberLiteral where
  negative : Bool
  whole : List Nat
  fraction : List Nat := []
  exponent : Option Exponent := none
  deriving DecidableEq, Repr

/-! ## Writing -/

/-- A digit as it is written. -/
def writeDigits (digits : List Nat) : List Char :=
  digits.map Nat.digitChar

/-- A number as it is written. -/
def NumberLiteral.write (literal : NumberLiteral) : List Char :=
  (if literal.negative then ['-'] else []) ++ writeDigits literal.whole ++
    (if literal.fraction = [] then [] else '.' :: writeDigits literal.fraction) ++
    match literal.exponent with
    | none => []
    | some exponent =>
      'e' :: (if exponent.negative then ['-'] else []) ++ writeDigits exponent.digits

/-! ## Reading -/

/-- The value of a decimal digit. -/
def digitValue (c : Char) : Nat :=
  c.toNat - '0'.toNat

/-- Splits a text behind its leading digits. -/
def readDigits : List Char → List Nat × List Char
  | [] => ([], [])
  | c :: rest =>
    if c.isDigit then
      let (digits, rest) := readDigits rest
      (digitValue c :: digits, rest)
    else
      ([], c :: rest)

/-- Reads one or more digits. -/
def readSomeDigits (text : List Char) : Option (List Nat × List Char) :=
  match readDigits text with
  | ([], _) => none
  | found => some found

/-- Reads the digits before the point. A zero stands alone. -/
def readWhole (text : List Char) : Option (List Nat × List Char) :=
  match readDigits text with
  | ([], _) => none
  | (0 :: _ :: _, _) => none
  | found => some found

/-- Reads a point and the digits behind it, if there is a point. -/
def readFraction (text : List Char) : Option (List Nat × List Char) :=
  match text with
  | '.' :: rest => readSomeDigits rest
  | _ => some ([], text)

/-- Reads the sign of an exponent. -/
def readExponentSign (text : List Char) : Bool × List Char :=
  match text with
  | '+' :: rest => (false, rest)
  | '-' :: rest => (true, rest)
  | _ => (false, text)

/-- Reads an exponent, if there is one. -/
def readExponent : List Char → Option (Option Exponent × List Char)
  | [] => some (none, [])
  | c :: rest =>
    if c = 'e' ∨ c = 'E' then
      let signed := readExponentSign rest
      (readSomeDigits signed.2).map fun (digits, rest) => (some ⟨signed.1, digits⟩, rest)
    else
      some (none, c :: rest)

/-- Reads the sign of a number. There is none but the minus. -/
def readSign (text : List Char) : Bool × List Char :=
  match text with
  | '-' :: rest => (true, rest)
  | _ => (false, text)

/-- Reads a number that starts a text. -/
def readNumber (text : List Char) : Option (NumberLiteral × List Char) := do
  let (negative, text) := readSign text
  let (whole, text) ← readWhole text
  let (fraction, text) ← readFraction text
  let (exponent, text) ← readExponent text
  return ({ negative, whole, fraction, exponent }, text)

/-! ## What reading takes -/

theorem length_readDigits_le (text : List Char) : (readDigits text).2.length ≤ text.length := by
  induction text with
  | nil => simp [readDigits]
  | cons c rest ih =>
      rw [readDigits]
      split
      · exact Nat.le_succ_of_le ih
      · exact Nat.le_refl _

theorem length_le_of_readSomeDigits {text rest : List Char} {digits : List Nat}
    (h : readSomeDigits text = some (digits, rest)) : rest.length ≤ text.length := by
  have := length_readDigits_le text
  rw [readSomeDigits] at h
  split at h
  · simp at h
  · simp_all

/-- The digits before the point are at least one. -/
theorem length_lt_of_readWhole {text rest : List Char} {digits : List Nat}
    (h : readWhole text = some (digits, rest)) : rest.length < text.length := by
  cases text with
  | nil => simp [readWhole, readDigits] at h
  | cons c text =>
      have hle := length_readDigits_le text
      rw [readWhole, readDigits] at h
      by_cases hc : c.isDigit
      · simp only [hc, if_true] at h
        split at h
        · simp at h
        · simp at h
        · simp only [Option.some.injEq, Prod.mk.injEq] at h
          rw [← h.2]
          simp only [List.length_cons]
          omega
      · simp [hc] at h

theorem length_le_of_readFraction {text rest : List Char} {digits : List Nat}
    (h : readFraction text = some (digits, rest)) : rest.length ≤ text.length := by
  unfold readFraction at h
  split at h
  · exact Nat.le_succ_of_le (length_le_of_readSomeDigits h)
  · simp_all

theorem length_readExponentSign_le (text : List Char) :
    (readExponentSign text).2.length ≤ text.length := by
  unfold readExponentSign
  split <;> simp

theorem length_le_of_readExponent {text rest : List Char} {exponent : Option Exponent}
    (h : readExponent text = some (exponent, rest)) : rest.length ≤ text.length := by
  cases text with
  | nil => simp_all [readExponent]
  | cons c text =>
      have hs := length_readExponentSign_le text
      rw [readExponent] at h
      split at h
      · obtain ⟨⟨digits, r⟩, hd, he⟩ := Option.map_eq_some_iff.mp h
        simp only [Prod.mk.injEq] at he
        obtain ⟨-, rfl⟩ := he
        have := length_le_of_readSomeDigits hd
        simp only [List.length_cons]
        omega
      · simp_all

theorem length_readSign_le (text : List Char) : (readSign text).2.length ≤ text.length := by
  unfold readSign
  split <;> simp

theorem length_lt_of_readNumber {text rest : List Char} {literal : NumberLiteral}
    (h : readNumber text = some (literal, rest)) : rest.length < text.length := by
  simp only [readNumber, Option.bind_eq_bind, Option.bind_eq_some_iff, Option.pure_def,
    Option.some.injEq, Prod.mk.injEq] at h
  obtain ⟨⟨whole, r1⟩, hw, ⟨fraction, r2⟩, hf, ⟨exponent, r3⟩, he, -, rfl⟩ := h
  have hs := length_readSign_le text
  have h1 := length_lt_of_readWhole hw
  have h2 := length_le_of_readFraction hf
  have h3 := length_le_of_readExponent he
  exact Nat.lt_of_le_of_lt (Nat.le_trans h3 h2) (Nat.lt_of_lt_of_le h1 hs)

end DeviceConfig.Json
