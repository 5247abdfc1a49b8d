import KeyPlan.Text.Alphanumeric.Table
import KeyPlan.Text.CodeRange

/-!
# Letters and numbers

The characters that names are made of: letters and numbers of any script.

## Main definitions

* `isAlphanumeric`: the character is a letter or a number
-/

namespace KeyPlan.Text

/-- **The letters and numbers.** -/
def isAlphanumeric (c : Char) : Bool :=
  if c.toNat < 128 then c.isAlphanum else inRanges alphanumericRanges c.toNat

end KeyPlan.Text
