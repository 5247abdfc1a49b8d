import KeyPlan.Text.Case.Table

/-!
# Letter case

The full Unicode case mappings. A character may become several, and the lower case of a capital
sigma depends on its neighbours: it is the final form after a letter when no letter follows, where
characters that case ignores are passed over on both sides.

## Main definitions

* `lowerChar`, `upperChar`: the case mappings of one character
* `lower`: the lower case of a text
-/

namespace KeyPlan.Text

/-- The character has a case. -/
def isCased (c : Char) : Bool :=
  inRanges casedRanges c.toNat

/-- The character is passed over when a letter's neighbour is looked for. -/
def isCaseIgnorable (c : Char) : Bool :=
  inRanges caseIgnorableRanges c.toNat

/-- The lower case of a character on its own. -/
def lowerChar (c : Char) : List Char :=
  if c.toNat < 128 then [c.toLower]
  else if c = 'İ' then ['i', '\u0307']
  else [Char.ofNat ((mapRuns? lowerRuns c.toNat).getD c.toNat)]

/-- **The upper case of a character**, which may be several. -/
def upperChar (c : Char) : List Char :=
  if c.toNat < 128 then [c.toUpper]
  else
    match upperExpansions.lookup c.toNat with
    | some ns => ns.map Char.ofNat
    | none => [Char.ofNat ((mapRuns? upperRuns c.toNat).getD c.toNat)]

/-- Past the characters that case ignores, the text goes on with a cased one. -/
def meetsCased (s : List Char) : Bool :=
  match s.dropWhile isCaseIgnorable with
  | c :: _ => isCased c
  | [] => false

/-- The lower case of a text that stands after `before`, which is given backwards. -/
def lowerAfter (before : List Char) : List Char → List Char
  | [] => []
  | c :: s =>
    (if c = 'Σ' then [if meetsCased before && !meetsCased s then 'ς' else 'σ'] else lowerChar c) ++
      lowerAfter (c :: before) s

/-- **The lower case of a text.** -/
def lower (s : List Char) : List Char :=
  lowerAfter [] s

@[simp] theorem lower_nil : lower [] = [] := rfl

/-- In ASCII the lower case of a character is one character. -/
theorem lowerChar_ascii {c : Char} (h : c.toNat < 128) : lowerChar c = [c.toLower] := by
  simp [lowerChar, h]

/-- In ASCII the upper case of a character is one character. -/
theorem upperChar_ascii {c : Char} (h : c.toNat < 128) : upperChar c = [c.toUpper] := by
  simp [upperChar, h]

end KeyPlan.Text
