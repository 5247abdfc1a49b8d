import KeyPlan.Application
import KeyPlan.Text.Numeral
import KeyPlan.Text.Pieces

/-!
# Application listings

The running applications as a text, one per line: number, name, bundle identifier and visibility,
with tabulators between them. A line without a number or a name is passed over, and a missing field
at the end counts as unknown or visible.

## Main definitions

* `Application.ofFields?`, `Application.ofRow?`: the application of fields, and of a line
* `Application.ofListing`: the applications of a listing
-/

namespace KeyPlan.Application

/-- What stands for an unknown bundle identifier. -/
def missingValue : List Char := "missing value".toList

/-- The bundle identifier that a field holds, if it is not blank. -/
def bundleOf? (field : List Char) : Option String :=
  let id := Text.trim field
  if id.isEmpty ∨ id = missingValue then none else some (String.ofList id)

/-- The field says that the application is hidden. -/
def isHiddenField (field : List Char) : Bool :=
  Text.trim field == "false".toList

/-- **The application of fields.** -/
def ofFields? : List (List Char) → Option Application
  | pid :: name :: rest => do
    let pid ← Text.readInt32? (Text.trim pid)
    let name := Text.trim name
    if name.isEmpty then none
    else
      some {
        pid
        name := String.ofList name
        bundleId := rest[0]?.bind bundleOf?
        hidden := rest[1]?.any isHiddenField }
  | _ => none

/-- **The application of a line**, whose fields stand between tabulators. -/
def ofRow? (line : List Char) : Option Application :=
  ofFields? (Text.pieces (· == '\t') line)

/-- **The applications of a listing**, in order. -/
def ofListing (text : String) : List Application :=
  (Text.lines text.toList).filterMap ofRow?

end KeyPlan.Application
