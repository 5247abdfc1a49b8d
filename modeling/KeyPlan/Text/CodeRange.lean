/-!
# Ranges and runs of code points

Character data comes as ranges of code points, and a mapping between characters as runs: ranges
whose members, or every other one of them, move by the same distance.

## Main definitions

* `inRanges`: membership in a list of closed ranges
* `CodeRun`, `CodeRun.image?`: a run and where it takes a code point
-/

namespace KeyPlan.Text

/-- The code point lies in one of the closed ranges. -/
def inRanges (ranges : List (Nat × Nat)) (n : Nat) : Bool :=
  ranges.any fun (first, last) => first ≤ n && n ≤ last

/-- **A run**: every `stride`-th code point from `first` to `last`, of which `first` goes to
`image` and the others move by the same distance. -/
structure CodeRun where
  first : Nat
  last : Nat
  stride : Nat
  image : Nat
  deriving Repr

/-- Where the run takes a code point of its own. -/
def CodeRun.image? (r : CodeRun) (n : Nat) : Option Nat :=
  if r.first ≤ n && n ≤ r.last && (n - r.first) % r.stride == 0 then some (r.image + (n - r.first))
  else none

/-- Where the first run that holds the code point takes it. -/
def mapRuns? (runs : List CodeRun) (n : Nat) : Option Nat :=
  runs.findSome? (·.image? n)

end KeyPlan.Text
