import KeyPlan.Text.CodeRange
import KeyPlan.Text.Quoted.Table

/-!
# Quoted texts

A text between double quotes on one line, in which every character can be told apart: the quote and
the backslash have a backslash before them, the common controls have short names, and a character
that leaves no mark of its own is written by its number.

## Main definitions

* `isHidden`: the character is written by its number
* `escape`: how a character is written between quotes
* `quoted`: the quoted text
-/

namespace KeyPlan.Text

/-- The character leaves no mark of its own. -/
def isHidden (c : Char) : Bool :=
  if c.toNat < 127 then c.toNat < 32 else inRanges hiddenRanges c.toNat

/-- The code point in hexadecimal: lower case, no leading zero. -/
def hexCode (c : Char) : List Char :=
  Nat.toDigits 16 c.toNat

/-- **How a character is written between quotes.** -/
def escape (c : Char) : List Char :=
  if c = '\x00' then ['\\', '0']
  else if c = '\t' then ['\\', 't']
  else if c = '\r' then ['\\', 'r']
  else if c = '\n' then ['\\', 'n']
  else if c = '\\' ∨ c = '"' then ['\\', c]
  else if isHidden c then ['\\', 'u', '\x7b'] ++ hexCode c ++ ['\x7d']
  else [c]

/-- **The quoted text.** -/
def quoted (s : List Char) : List Char :=
  '"' :: s.flatMap escape ++ ['"']

end KeyPlan.Text
