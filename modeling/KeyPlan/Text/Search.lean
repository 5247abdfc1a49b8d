/-!
# Searching a text

Beginnings, occurrences and cuts, by comparing characters one for one. Letter case matters except
where ASCII case is said to be folded.

## Main definitions

* `foldAscii`: the text with its ASCII letters in lower case
* `cutStart? start s`: what follows `start` in `s`, whatever the ASCII case
* `occursIn part s`: `part` stands somewhere in `s`
* `removeAll part s`: `s` without the occurrences of `part`, taken from the left
* `cutAt? sep s`: `s` before and after the first occurrence of `sep`
-/

namespace KeyPlan.Text

/-- The text with its ASCII letters in lower case. -/
def foldAscii (s : List Char) : List Char :=
  s.map Char.toLower

/-- What follows `start` in the text, ASCII letter case ignored. -/
def cutStart? : List Char → List Char → Option (List Char)
  | [], s => some s
  | _ :: _, [] => none
  | p :: start, c :: s => if p.toLower = c.toLower then cutStart? start s else none

/-- `part` stands in the text as a run of neighbouring characters. -/
def occursIn (part : List Char) : List Char → Bool
  | [] => part.isEmpty
  | c :: s => part.isPrefixOf (c :: s) || occursIn part s

/-- The text without the occurrences of `part`, where the next `skip` characters are the rest of
an occurrence already found. -/
def removeFrom (part : List Char) : Nat → List Char → List Char
  | _, [] => []
  | skip + 1, _ :: s => removeFrom part skip s
  | 0, c :: s =>
    if part.isPrefixOf (c :: s) then removeFrom part (part.length - 1) s
    else c :: removeFrom part 0 s

/-- **Removal**: the text without the occurrences of `part`, found from the left and never
overlapping. -/
def removeAll (part s : List Char) : List Char :=
  removeFrom part 0 s

/-- The text before and after the first occurrence of `sep`. -/
def cutAt? (sep : List Char) : List Char → Option (List Char × List Char)
  | [] => if sep.isEmpty then some ([], []) else none
  | c :: s =>
    if sep.isPrefixOf (c :: s) then some ([], (c :: s).drop sep.length)
    else (cutAt? sep s).map fun (head, rest) => (c :: head, rest)

@[simp] theorem cutStart?_nil (s : List Char) : cutStart? [] s = some s := by
  cases s <;> rfl

/-- A part occurs exactly where the text is something before it, the part, and something after. -/
theorem occursIn_iff {part s : List Char} : occursIn part s = true ↔ part <:+: s := by
  induction s with
  | nil => cases part <;> simp [occursIn]
  | cons c s ih => simp [occursIn, ih, List.infix_cons_iff]

end KeyPlan.Text
