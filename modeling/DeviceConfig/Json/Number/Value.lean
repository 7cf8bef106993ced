import DeviceConfig.Json.Number.Literal

/-!
# The values of numbers

A number stands for a whole number of at most 64 bits where its digits allow it, and for
a double otherwise. Digits that do not fit into 64 bits do not count for the double
beyond the place that they take.
-/

namespace DeviceConfig.Json

/-- The bound of whole numbers, two to the power of 64. -/
def wholeBound : Nat := 0x10000000000000000

/-- The most that a whole number can lie below zero, two to the power of 63. -/
def negativeBound : Nat := 0x8000000000000000

/-- What a number stands for. -/
inductive Number where
  /-- A whole number below `wholeBound`. -/
  | natural (n : Nat)
  /-- A whole number below zero, at most `negativeBound` below it. -/
  | negative (n : Nat)
  /-- Any other number, as a double. -/
  | float (x : Float)

/-- A whole number below `wholeBound` times a power of ten. -/
structure Scaled where
  significand : Nat := 0
  exponent : Int := 0
  deriving DecidableEq, Repr

/-- The digits that fit into 64 bits, and the digits left over from the first one that
does not fit. -/
def absorb (significand : Nat) : List Nat → Nat × List Nat
  | [] => (significand, [])
  | d :: rest =>
    if significand * 10 + d < wholeBound then
      absorb (significand * 10 + d) rest
    else
      (significand, d :: rest)

/-- The digits as a number in base ten. -/
def ofDigits (digits : List Nat) : Nat :=
  digits.foldl (fun n d => n * 10 + d) 0

namespace NumberLiteral

/-- The digits of a literal as a scaled number. Whole digits that do not fit count as
powers of ten, fraction digits that do not fit are dropped. -/
def scaled (literal : NumberLiteral) : Scaled :=
  let (whole, surplus) := absorb 0 literal.whole
  let (significand, dropped) := absorb whole literal.fraction
  { significand
    exponent := (surplus.length : Int) - ((literal.fraction.length - dropped.length : Nat) : Int) }

/-- The whole number that a literal spells, if it has no fraction and no exponent and fits
into 64 bits. -/
def whole? (literal : NumberLiteral) : Option Nat :=
  match literal.fraction, literal.exponent, absorb 0 literal.whole with
  | [], none, (n, []) => some n
  | _, _, _ => none

end NumberLiteral

/-- A power of ten as a double. -/
def tenPower (n : Nat) : Float :=
  Float.ofScientific 1 false n

/-- Divides by a power of ten, in steps that a double can hold. -/
def divideByTenPower (x : Float) (n : Nat) : Float :=
  if n ≤ 308 then
    x / tenPower n
  else if x == 0.0 then
    x
  else
    divideByTenPower (x / tenPower 308) (n - 308)
termination_by n
decreasing_by omega

/-- Multiplies by a power of ten, if a double can hold the result. -/
def multiplyByTenPower? (x : Float) (n : Nat) : Option Float :=
  if n ≤ 308 then
    let product := x * tenPower n
    if product.isInf then none else some product
  else if x == 0.0 then
    some x
  else
    none

/-- The double of a scaled number, if there is one. -/
def Scaled.toFloat? (scaled : Scaled) : Option Float :=
  let x := scaled.significand.toUInt64.toFloat
  if scaled.exponent < 0 then
    some (divideByTenPower x scaled.exponent.natAbs)
  else
    multiplyByTenPower? x scaled.exponent.natAbs

/-- The size of an exponent beyond which only its sign counts. -/
def exponentBound : Nat := 0x7FFFFFFF

/-- The scaled number with an exponent applied. An exponent beyond the bound leaves zero,
or a number out of range. -/
def Scaled.shift? (scaled : Scaled) : Option Exponent → Option Scaled
  | none => some scaled
  | some exponent =>
    let n := ofDigits exponent.digits
    if n ≤ exponentBound then
      some { scaled with
        exponent := if exponent.negative then scaled.exponent - n else scaled.exponent + n }
    else if scaled.significand = 0 ∨ exponent.negative then
      some {}
    else
      none

/-- The value of a literal, unless it is out of the range of doubles. -/
def NumberLiteral.value? (literal : NumberLiteral) : Option Number :=
  match literal.whole?, literal.negative with
  | some n, false => some (.natural n)
  | some n, true =>
    if 0 < n ∧ n ≤ negativeBound then
      some (.negative n)
    else
      some (.float (-n.toUInt64.toFloat))
  | none, negative => do
    let scaled ← literal.scaled.shift? literal.exponent
    let x ← scaled.toFloat?
    return .float (if negative then -x else x)

end DeviceConfig.Json
