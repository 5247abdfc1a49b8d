import KeyPlan.Json.Error

/-!
# Faults

What can go wrong outside of an instruction: an application does not come to the front, the system
refuses a call, a file cannot be read, or a setting makes no sense.

## Main definitions

* `ActivationFault`: why an application is not in front
* `FileFault`: why a file has no text
* `Fault`: any of the faults
* `Fault.message`: its text

Results with faults can be compared when values and faults can.
-/

namespace KeyPlan

/-- Results are equal if both are values or both are errors, and these are equal. -/
instance instDecidableEqResult {ε α : Type} [DecidableEq ε] [DecidableEq α] :
    DecidableEq (Except ε α)
  | .ok x, .ok y => decidable_of_iff (x = y) (by simp)
  | .error d, .error e => decidable_of_iff (d = e) (by simp)
  | .ok _, .error _ => isFalse (by simp)
  | .error _, .ok _ => isFalse (by simp)

/-- **Why an application is not in front.** -/
inductive ActivationFault where
  | notRunning (name : String)
  | refused (name : String) (reason : String)
  | timedOut (name : String) (limit : Nat)
  deriving DecidableEq, Repr

/-- The text of the fault. -/
def ActivationFault.message : ActivationFault → String
  | notRunning name => "Application '" ++ name ++ "' is not running"
  | refused name reason => "Failed to activate '" ++ name ++ "': " ++ reason
  | timedOut name limit =>
    "Timed out after " ++ toString limit ++ "ms waiting for '" ++ name ++ "' to become frontmost"

/-- **Why a file has no text.** Permission may be denied for the file itself, or for a directory on the
way to it, and then it is not known whether there is a file. -/
inductive FileFault where
  | missing
  | isDirectory
  | notDirectory
  | nameTooLong
  | nulInName
  | denied
  | unreachable
  | notText
  deriving DecidableEq, Repr

/-- The text of the fault. -/
def FileFault.message : FileFault → String
  | missing => "No such file or directory (os error 2)"
  | isDirectory => "Is a directory (os error 21)"
  | notDirectory => "Not a directory (os error 20)"
  | nameTooLong => "File name too long (os error 36)"
  | nulInName => "file name contained an unexpected NUL byte"
  | denied | unreachable => "Permission denied (os error 13)"
  | notText => "stream did not contain valid UTF-8"

/-- **What can go wrong.** -/
inductive Fault where
  | permissionDenied
  | activation (fault : ActivationFault)
  | input (text : String)
  | scripting (text : String)
  | unsupported (text : String)
  | config (text : String)
  | io (fault : FileFault)
  | json (error : Json.Error)
  deriving DecidableEq, Repr

/-- What is said when keyboard input is not allowed. -/
def permissionDeniedMessage : String :=
  "Accessibility permission is required to send keyboard input. Grant access in System Settings " ++
    "> Privacy & Security > Accessibility, then run again."

/-- **The text of the fault.** -/
def Fault.message : Fault → String
  | permissionDenied => permissionDeniedMessage
  | activation fault => fault.message
  | input text => "Input event error: " ++ text
  | scripting text => "Scripting error: " ++ text
  | unsupported text => "Not supported on this platform: " ++ text
  | config text => "Configuration error: " ++ text
  | io fault => "IO error: " ++ fault.message
  | json error => "Serialization error: " ++ error.message

end KeyPlan
