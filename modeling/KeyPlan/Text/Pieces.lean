import KeyPlan.Text.Blank

/-!
# Splitting a text

A text is cut at every character of a class. Words, the parts of a combination, the fields of a row
and the lines of a file are all pieces between such characters.

## Main definitions

* `pieces cuts s`: the pieces of `s` between the characters of `cuts`, empty ones included
* `words`: the pieces between blanks that are not empty
* `lines`: the lines of a text, without their line ends
-/

namespace KeyPlan.Text

/-- **The pieces of a text** between the characters of a class: one more than it has of them. -/
def pieces (cuts : Char → Bool) : List Char → List (List Char)
  | [] => [[]]
  | c :: s =>
    if cuts c then [] :: pieces cuts s
    else
      match pieces cuts s with
      | [] => [[c]]
      | p :: ps => (c :: p) :: ps

/-- **The words of a text**: its longest runs without a blank. -/
def words (s : List Char) : List (List Char) :=
  (pieces isBlank s).filter fun w => !w.isEmpty

/-- The line without the carriage return that precedes its line feed. -/
def dropReturn (line : List Char) : List Char :=
  match line.reverse with
  | '\r' :: r => r.reverse
  | _ => line

/-- A line feed ends a line, with a carriage return before it or not; what follows the last line
feed is a line only if it is not empty, and keeps its carriage return. -/
def endLines : List (List Char) → List (List Char)
  | [] => []
  | [last] => if last.isEmpty then [] else [last]
  | line :: next :: rest => dropReturn line :: endLines (next :: rest)

/-- **The lines of a text.** -/
def lines (s : List Char) : List (List Char) :=
  endLines (pieces (· == '\n') s)

@[simp] theorem pieces_nil (cuts : Char → Bool) : pieces cuts [] = [[]] := rfl

theorem pieces_ne_nil (cuts : Char → Bool) (s : List Char) : pieces cuts s ≠ [] := by
  cases s with
  | nil => simp
  | cons c s =>
    unfold pieces
    split
    · simp
    · split <;> simp

/-- A cut before a text starts a new piece. -/
theorem pieces_cons_cut {cuts : Char → Bool} {c : Char} (h : cuts c = true) (s : List Char) :
    pieces cuts (c :: s) = [] :: pieces cuts s := by
  simp [pieces, h]

end KeyPlan.Text
