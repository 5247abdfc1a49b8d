import KeyPlan.Json.Error

/-!
# JSON numbers

A number is first read as a numeral, its digits and exponent, and then given a value. A numeral
without fraction and exponent is a whole number if a 64-bit word holds it; minus zero and all others
are floating point numbers. Their value takes as many leading digits as a word holds and is scaled by
the power of ten in double precision, so it is not always the nearest number.

## Main definitions

* `Number`: the value of a number
* `Numeral`, `readNumeral`: the parts of a number, and how they are read
* `Numeral.value`, `readNumber`: what a numeral is worth
-/

namespace KeyPlan.Json

/-- **The value of a number**: a word, a negative integer or a floating point number. -/
inductive Number where
  | natural (n : UInt64)
  | negative (i : Int)
  | floating (x : Double)
  deriving DecidableEq, Repr

/-- The number as an error shows it. -/
def Number.found : Number → Found
  | .natural n => .integer n.toNat
  | .negative i => .integer i
  | .floating x => .floating x

/-- **The parts of a number**: its sign, the digits before and after the point, and the exponent.
A part that is not written is none. -/
structure Numeral where
  negative : Bool
  whole : List Char
  fraction : Option (List Char)
  exponent : Option Int
  deriving DecidableEq, Repr

/-- The value of a digit. -/
def digitValue (c : Char) : Nat := c.toNat - '0'.toNat

/-- The digits at the head of a text. -/
def digitsOf (s : List Char) : List Char := s.takeWhile Char.isDigit

/-- What follows the digits at the head of a text. -/
def pastDigits (s : List Char) : List Char := s.dropWhile Char.isDigit

/-- One or more digits; a text that ends instead is cut short. -/
def readDigits (s : List Char) : Except Error (List Char × List Char) :=
  match s with
  | [] => .error (.ended .value)
  | c :: _ => if c.isDigit then .ok (digitsOf s, pastDigits s) else .error .invalidNumber

/-- The digits before the point: a zero stands alone. -/
def readWhole (s : List Char) : Except Error (List Char × List Char) :=
  match s with
  | '0' :: c :: r => if c.isDigit then .error .invalidNumber else .ok (['0'], c :: r)
  | _ => readDigits s

/-- The digits after a point, if there is one. -/
def readFraction (s : List Char) : Except Error (Option (List Char) × List Char) :=
  match s with
  | '.' :: r => do
    let (ds, r) ← readDigits r
    return (some ds, r)
  | _ => .ok (none, s)

/-- The value of a run of digits. -/
def digitsValue (ds : List Char) : Nat := ds.foldl (fun n c => 10 * n + digitValue c) 0

/-- The exponent, if there is one: a sign may stand before its digits. -/
def readExponent (s : List Char) : Except Error (Option Int × List Char) :=
  match s with
  | c :: r =>
    if c = 'e' ∨ c = 'E' then
      match r with
      | '-' :: r => do
        let (ds, r) ← readDigits r
        return (some (-(digitsValue ds : Int)), r)
      | '+' :: r => do
        let (ds, r) ← readDigits r
        return (some (digitsValue ds : Int), r)
      | _ => do
        let (ds, r) ← readDigits r
        return (some (digitsValue ds : Int), r)
    else .ok (none, s)
  | [] => .ok (none, [])

/-- **The numeral at the head of a text** and what follows it. -/
def readNumeral (s : List Char) : Except Error (Numeral × List Char) := do
  let (negative, s) := match s with
    | '-' :: r => (true, r)
    | _ => (false, s)
  let (whole, s) ← readWhole s
  let (fraction, s) ← readFraction s
  let (exponent, s) ← readExponent s
  return (⟨negative, whole, fraction, exponent⟩, s)

/-- The number `n` followed by as many digits as a word holds, and how many digits those are. -/
def absorb (n : Nat) : List Char → Nat × Nat
  | [] => (n, 0)
  | c :: ds =>
    let next := 10 * n + digitValue c
    if next < UInt64.size then
      let (m, count) := absorb next ds
      (m, count + 1)
    else (n, 0)

/-- The greatest power of ten of double precision. -/
def maxPower : Nat := 308

/-- The quotient of a double and a power of ten, in at most `fuel + 1` divisions; what is zero
stays zero. Three divisions leave nothing of a word. -/
def scaleDown : Nat → Double → Nat → Option Double
  | 0, _, _ => some Double.zero
  | fuel + 1, x, power =>
    if power ≤ maxPower then do x.div? (← Double.ofNat? (Nat.pow 10 power))
    else if x.isZero then some x
    else do scaleDown fuel (← x.div? (← Double.ofNat? (Nat.pow 10 maxPower))) (power - maxPower)

/-- The word times a power of ten in double precision, or none if that is too large. -/
def scale? (n : Nat) (power : Int) : Option Double := do
  let x ← Double.ofNat? n
  if power < 0 then scaleDown 3 x power.natAbs
  else if power ≤ maxPower then x.mul? (← Double.ofNat? (Nat.pow 10 power.toNat))
  else if n = 0 then some x
  else none

/-- **What a numeral is worth.** Digits before the point that no longer fit into the word count as
powers of ten, those after it as nothing. -/
def Numeral.value (n : Numeral) : Except Error Number :=
  let (head, taken) := absorb 0 n.whole
  let skipped := n.whole.length - taken
  if n.fraction.isNone ∧ n.exponent.isNone ∧ skipped = 0 ∧
      (!n.negative ∨ 0 < head ∧ 2 * head ≤ UInt64.size)
  then .ok (if n.negative then .negative (-head) else .natural (UInt64.ofNat head))
  else
    let (word, places) := absorb head (n.fraction.getD [])
    match scale? word ((skipped : Int) - places + n.exponent.getD 0) with
    | some x => .ok (.floating (if n.negative then x.neg else x))
    | none => .error .numberOutOfRange

/-- **The number at the head of a text** and what follows it. -/
def readNumber (s : List Char) : Except Error (Number × List Char) := do
  let (numeral, s) ← readNumeral s
  return (← numeral.value, s)

end KeyPlan.Json
