/-!
# Blank characters

The characters that separate words: Unicode's White_Space property, which is wider than the ASCII
blanks and holds neither the zero-width space nor the byte-order mark. Trimming removes them at the
ends of a text and leaves everything between.

## Main definitions

* `isBlank`: the White_Space property
* `trimStart`, `trimEnd`, `trim`: a text without the blanks at its ends
* `cutAtBlank?`: a text split at its first blank
-/

namespace KeyPlan.Text

/-- **The blank characters**: Unicode's White_Space. -/
def isBlank (c : Char) : Bool :=
  let n := c.toNat
  (9 ≤ n && n ≤ 13) || n == 0x20 || n == 0x85 || n == 0xA0 || n == 0x1680 ||
    (0x2000 ≤ n && n ≤ 0x200A) || n == 0x2028 || n == 0x2029 || n == 0x202F || n == 0x205F ||
    n == 0x3000

/-- The text from its first character that is not blank. -/
def trimStart (s : List Char) : List Char :=
  s.dropWhile isBlank

/-- The text up to its last character that is not blank. -/
def trimEnd (s : List Char) : List Char :=
  (s.reverse.dropWhile isBlank).reverse

/-- **The trimmed text**: no blank at either end. -/
def trim (s : List Char) : List Char :=
  trimEnd (trimStart s)

/-- The text before its first blank and the text after it. -/
def cutAtBlank? : List Char → Option (List Char × List Char)
  | [] => none
  | c :: s =>
    if isBlank c then some ([], s) else (cutAtBlank? s).map fun (head, rest) => (c :: head, rest)

@[simp] theorem trimStart_nil : trimStart [] = [] := rfl

@[simp] theorem trim_nil : trim [] = [] := rfl

end KeyPlan.Text
