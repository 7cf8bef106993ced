import DeviceConfig.Decimal.Shortest

/-!
# The text of a double

A double is shown by its shortest decimal, written out where that is not too long and
with an exponent otherwise.
-/

namespace DeviceConfig.Decimal

/-- How the shortest decimal of a double is laid out. -/
structure FloatLayout where
  /-- The most digits before the point. -/
  maxWhole : Int
  /-- The most zeros behind the point before the first other digit. -/
  maxLeadingZeros : Int
  deriving DecidableEq, Repr

/-- A double is written out with up to sixteen digits before the point, or up to four zeros
behind it, and with an exponent otherwise. -/
def floatLayout : FloatLayout := ⟨16, 4⟩

/-- An exponent with its sign, which a positive one has as well. -/
def signedExponent (exponent : Int) : String :=
  if exponent < 0 then "e" ++ toString exponent else "e+" ++ toString exponent

/-- The text of a decimal. A point with at least one digit behind it is always there,
unless an exponent is. -/
def FloatLayout.text (layout : FloatLayout) (decimal : Digits) : String :=
  let digits := toString decimal.digits
  let point := (digits.length : Int) + decimal.exponent
  let zeros (n : Int) := String.ofList (List.replicate n.toNat '0')
  let leading (n : Nat) := String.ofList (digits.toList.take n)
  let trailing (n : Nat) := String.ofList (digits.toList.drop n)
  if 0 ≤ decimal.exponent ∧ point ≤ layout.maxWhole then
    digits ++ zeros decimal.exponent ++ ".0"
  else if 0 < point ∧ point ≤ layout.maxWhole then
    leading point.toNat ++ "." ++ trailing point.toNat
  else if -layout.maxLeadingZeros ≤ point ∧ point ≤ 0 then
    "0." ++ zeros (-point) ++ digits
  else
    let fraction := if digits.length = 1 then "" else "." ++ trailing 1
    leading 1 ++ fraction ++ signedExponent (point - 1)

/-- The text of a finite double: the fewest digits that read back as it. -/
def floatText (x : Float) : String :=
  let sign := if x.toBits < 0x8000000000000000 then "" else "-"
  let binary := Binary.ofBits x.toBits
  let text := if binary.mantissa = 0 then "0.0" else
    match binary.shortest? with
    | some decimal => floatLayout.text decimal
    | none => ""
  sign ++ text

end DeviceConfig.Decimal
