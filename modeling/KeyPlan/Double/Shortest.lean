import KeyPlan.Double

/-!
# Shortest decimals

The fewest digits that read back as a number of double precision. A decimal reads back when it lies
in the interval of reals that round to the number; the ends belong to it exactly if the mantissa is
even. On each grid of decimals only the two neighbours of the number need a look.

## Main definitions

* `Decimal`: a whole number of powers of ten
* `Double.shortest`: the shortest decimal that reads back, and of those the nearest
-/

namespace KeyPlan

/-- The decimal `digits · 10^exponent`. -/
structure Decimal where
  digits : Nat
  exponent : Int
  deriving DecidableEq, Repr

/-- How many decimal digits a natural number has. -/
def digitCount (n : Nat) : Nat := (Nat.toDigits 10 n).length

/-- The exponent of the leading digit of a positive fraction. -/
def leadingExponent (num den : Nat) : Int :=
  if den ≤ num then (digitCount (num / den) : Int) - 1 else -(digitCount ((den - 1) / num) : Int)

/-- A power of ten as numerator and denominator. -/
def powerOfTen (e : Int) : Nat × Nat :=
  if e < 0 then (1, Nat.pow 10 e.natAbs) else (Nat.pow 10 e.natAbs, 1)

/-- The decimal reads back as the number: it lies between the midpoints to the number's
neighbours, or on one of them if the mantissa is even. -/
def Decimal.readsBack (d : Decimal) (x : Double) : Bool :=
  let (a, b) := Double.powerOfTwo (x.exponent - 2)
  let (p, r) := powerOfTen d.exponent
  let below := if x.mantissa = Double.leastMantissa ∧ x.exponent > Double.minExponent then 1 else 2
  let here := d.digits * p * b
  let low := (4 * x.mantissa - below) * a * r
  let high := (4 * x.mantissa + 2) * a * r
  if x.mantissa % 2 = 0 then low ≤ here && here ≤ high else low < here && here < high

/-- The decimal of `n` digits that reads back and is nearest, if one does. -/
def Double.nearestOf? (x : Double) (n : Nat) : Option Decimal :=
  let (num, den) := x.ratio
  let e := leadingExponent num den - n + 1
  let (p, r) := powerOfTen e
  let under := num * r / (den * p)
  let twice := 2 * (num * r % (den * p))
  let near := if twice > den * p || (twice == den * p && under % 2 == 1) then under + 1 else under
  let far := if near = under then under + 1 else under
  if Decimal.readsBack ⟨near, e⟩ x then some ⟨near, e⟩
  else if Decimal.readsBack ⟨far, e⟩ x then some ⟨far, e⟩
  else none

/-- The same decimal without trailing zeros, of which at most `fuel` are removed. -/
def Decimal.dropZeros : Nat → Decimal → Decimal
  | 0, d => d
  | fuel + 1, d =>
    if d.digits % 10 = 0 then dropZeros fuel ⟨d.digits / 10, d.exponent + 1⟩ else d

/-- **The shortest decimal** of a number other than zero: seventeen digits always read back. -/
def Double.shortest (x : Double) : Decimal :=
  match ((List.range 17).map (· + 1)).findSome? x.nearestOf? with
  | some d => d.dropZeros 17
  | none => ⟨x.ratio.1, 0⟩

end KeyPlan
