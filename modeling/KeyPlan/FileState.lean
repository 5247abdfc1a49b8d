import KeyPlan.Fault
import KeyPlan.Text.Utf8

/-!
# Files

What is found at a path: the octets of a file, or a reason why there are none.

## Main definitions

* `FileState`: what is found at a path
* `FileState.isPresent`: there is something at a path
* `FileState.text`: the text of a file
-/

namespace KeyPlan

/-- **What is found at a path.** -/
inductive FileState where
  | file (octets : List UInt8)
  | absent (fault : FileFault)
  deriving DecidableEq, Repr

/-- The file of a text. -/
def FileState.ofText (s : List Char) : FileState :=
  .file (Text.encodeUtf8 s)

/-- **There is something at the path**, even if it has no text. -/
def FileState.isPresent : FileState → Bool
  | file _ => true
  | absent .isDirectory | absent .denied | absent .notText => true
  | absent _ => false

/-- **The text of a file.** -/
def FileState.text : FileState → Except FileFault (List Char)
  | absent fault => .error fault
  | file octets =>
    match Text.decodeUtf8 octets with
    | .ok s => .ok s
    | .error _ => .error .notText

end KeyPlan
