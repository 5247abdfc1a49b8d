/-!
# Decimal numerals

Whole numbers as ASCII digits, with an optional sign and within the range of a word. Any other
character, an empty numeral and a value out of range are refused.

## Main definitions

* `digits? s`: the value of a text of one or more digits
* `readWord?`: a 64-bit natural number, with an optional plus sign
* `readInt32?`: a 32-bit integer, with an optional sign
-/

namespace KeyPlan.Text

/-- The value of an ASCII digit. -/
def digit? (c : Char) : Option Nat :=
  if c.isDigit then some (c.toNat - '0'.toNat) else none

/-- The value of the digits read so far, `acc`, followed by those of the text. -/
def digitsFrom? (acc : Nat) : List Char → Option Nat
  | [] => some acc
  | c :: s => do digitsFrom? (10 * acc + (← digit? c)) s

/-- **A numeral**: the value of one or more ASCII digits. -/
def digits? (s : List Char) : Option Nat :=
  if s.isEmpty then none else digitsFrom? 0 s

/-- **A 64-bit natural number**: digits, with at most one plus sign before them. -/
def readWord? (s : List Char) : Option UInt64 := do
  let n ← match s with
    | '+' :: r => digits? r
    | _ => digits? s
  if h : n < UInt64.size then some (UInt64.ofNatLT n h) else none

/-- **A 32-bit integer**: digits, with at most one sign before them. -/
def readInt32? (s : List Char) : Option Int32 := do
  let i : Int ← match s with
    | '+' :: r => (digits? r).map Int.ofNat
    | '-' :: r => (digits? r).map fun n => -(n : Int)
    | _ => (digits? s).map Int.ofNat
  if Int32.minValue.toInt ≤ i ∧ i ≤ Int32.maxValue.toInt then some (Int32.ofInt i) else none

end KeyPlan.Text
