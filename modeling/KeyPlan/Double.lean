/-!
# Double precision numbers

The numbers m · 2^q of double precision as pairs of integers, and their arithmetic: exact, then
rounded once to the nearest number, a tie going to the even mantissa. A result too large for the
format is none.

## Main definitions

* `Double`: a sign, a mantissa below 2^53 and an exponent
* `Double.ofRatio?`: the number nearest to a fraction
* `Double.ofNat?`, `Double.mul?`, `Double.div?`: rounded conversion, product and quotient
-/

namespace KeyPlan

/-- **A finite number of double precision**: plus or minus `mantissa · 2^exponent`. -/
structure Double where
  negative : Bool := false
  mantissa : Nat
  exponent : Int
  deriving DecidableEq, Repr

namespace Double

/-- The least exponent of the format. -/
def minExponent : Int := -1074

/-- The greatest exponent of the format. -/
def maxExponent : Int := 971

/-- The least mantissa of a number that has not the least exponent: 2^52. -/
def leastMantissa : Nat := 0x10000000000000

/-- Zero. -/
def zero : Double := ⟨false, 0, minExponent⟩

/-- The number is zero, of either sign. -/
def isZero (x : Double) : Bool := x.mantissa == 0

/-- The number of the other sign. -/
def neg (x : Double) : Double := { x with negative := !x.negative }

/-- The whole number nearest to a fraction, a tie going to the even one. -/
def roundRatio (num den : Nat) : Nat :=
  let whole := num / den
  let twice := 2 * (num % den)
  if twice > den || (twice == den && whole % 2 == 1) then whole + 1 else whole

/-- A power of two as numerator and denominator. -/
def powerOfTwo (q : Int) : Nat × Nat :=
  if q < 0 then (1, Nat.pow 2 q.natAbs) else (Nat.pow 2 q.natAbs, 1)

/-- **Rounding**: the number nearest to `num / den`, or none if it is too large. -/
def ofRatio? (num den : Nat) : Option Double :=
  if num = 0 then some zero
  else
    let guess : Int := (num.log2 : Int) - den.log2 - 52
    let scaled (q : Int) : Nat × Nat :=
      let (a, b) := powerOfTwo q
      (num * b, den * a)
    let (n, d) := scaled guess
    let q := max minExponent (if n < leastMantissa * d then guess - 1 else guess)
    let (n, d) := scaled q
    -- rounding up may need one bit more
    let m := roundRatio n d
    let (m, q) := if m = 2 * leastMantissa then (leastMantissa, q + 1) else (m, q)
    if q > maxExponent then none else some ⟨false, m, q⟩

/-- The number nearest to a natural number. -/
def ofNat? (n : Nat) : Option Double := ofRatio? n 1

/-- The absolute value as numerator and denominator. -/
def ratio (x : Double) : Nat × Nat :=
  let (a, b) := powerOfTwo x.exponent
  (x.mantissa * a, b)

/-- The rounded product of two absolute values. -/
def mul? (x y : Double) : Option Double :=
  let (a, b) := x.ratio
  let (c, d) := y.ratio
  ofRatio? (a * c) (b * d)

/-- The rounded quotient of two absolute values. -/
def div? (x y : Double) : Option Double :=
  let (a, b) := x.ratio
  let (c, d) := y.ratio
  ofRatio? (a * d) (b * c)

end Double

end KeyPlan
