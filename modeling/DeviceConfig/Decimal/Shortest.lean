/-!
# Shortest decimals

A double stands for all reals that round to it. Of the decimals among them this module
finds the one with the fewest digits, and of several such the one closest to the
double. All comparisons are made between natural numbers.
-/

namespace DeviceConfig.Decimal

/-- A positive double, `mantissa * 2 ^ exponent`. The gap to the next double below is half
the gap to the next one above if `narrowBelow` holds. -/
structure Binary where
  mantissa : Nat
  exponent : Int
  narrowBelow : Bool
  deriving DecidableEq, Repr

/-- A positive decimal, `digits * 10 ^ exponent`. -/
structure Digits where
  digits : Nat
  exponent : Int
  deriving DecidableEq, Repr

/-- The place of the leading bit of a mantissa, two to the power of 52. -/
def leadingUnit : Nat := 0x10000000000000

/-- The double with the given bits, its sign left out. -/
def Binary.ofBits (bits : UInt64) : Binary :=
  let fraction : Nat := bits.toNat % leadingUnit
  let exponent : Nat := bits.toNat / leadingUnit % 0x800
  if exponent = 0 then
    ⟨fraction, -1074, false⟩
  else
    ⟨leadingUnit + fraction, exponent - 1075, fraction == 0 && exponent != 1⟩

namespace Binary

/-- The decimal grid `10 ^ k` and a quarter of the last binary place in a common unit. -/
def units (x : Binary) (k : Int) : Nat × Nat :=
  let p := x.exponent - 2
  (Nat.pow 10 k.toNat * Nat.pow 2 (-p).toNat, Nat.pow 2 p.toNat * Nat.pow 10 (-k).toNat)

/-- Whether the decimal `d * 10 ^ k` rounds to the double. The two halfway points do so
exactly if the mantissa is even. -/
def readsBack (x : Binary) (k : Int) (d : Nat) : Bool :=
  let (grid, quarter) := x.units k
  let low := (4 * x.mantissa - if x.narrowBelow then 1 else 2) * quarter
  let high := (4 * x.mantissa + 2) * quarter
  if x.mantissa % 2 = 0 then
    low ≤ d * grid && d * grid ≤ high
  else
    low < d * grid && d * grid < high

/-- The decimal on the grid `10 ^ k` that is closest to the double, if one rounds to it.
Of two equally close ones it is the even one. -/
def onGrid? (x : Binary) (k : Int) : Option Digits :=
  let (grid, quarter) := x.units k
  let value := 4 * x.mantissa * quarter
  let below := value / grid
  let above := below + 1
  let closest :=
    if 2 * value < (below + above) * grid then below
    else if 2 * value > (below + above) * grid then above
    else if below % 2 = 0 then below
    else above
  let other := if closest = below then above else below
  ([closest, other].find? (x.readsBack k)).map fun d => ⟨d, k⟩

/-- The decimal with the fewest digits: the one on the coarsest grid. A double has its
first digit at `10 ^ 308` at most, and one of its decimals on the grid `10 ^ (-340)`. -/
def shortest? (x : Binary) : Option Digits :=
  (List.range 660).findSome? fun (i : Nat) => x.onGrid? (309 - i)

/-- A decimal that is found rounds to the double. -/
theorem readsBack_of_onGrid? {x : Binary} {k : Int} {decimal : Digits}
    (h : x.onGrid? k = some decimal) : x.readsBack decimal.exponent decimal.digits = true := by
  obtain ⟨d, hd, rfl⟩ := Option.map_eq_some_iff.mp h
  exact List.find?_some hd

/-- The shortest decimal rounds to the double. -/
theorem readsBack_of_shortest? {x : Binary} {decimal : Digits} (h : x.shortest? = some decimal) :
    x.readsBack decimal.exponent decimal.digits = true := by
  obtain ⟨i, -, hi⟩ := List.exists_of_findSome?_eq_some h
  exact readsBack_of_onGrid? hi

end Binary

end DeviceConfig.Decimal
