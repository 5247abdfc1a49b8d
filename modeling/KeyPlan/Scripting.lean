import KeyPlan.Text.Quoted

/-!
# Scripts

Applications are listed and moved by short scripts in the system's scripting language. A script runs
on a thread of its own and within a limit of time. Without the scripting language every script fails.

## Main definitions

* `Scripting.listApplications`, `Scripting.frontmostPid`, ...: the scripts
* `Scripting.Error`, `Scripting.Error.message`: why a script has no output
* `Scripting.runWithin`: a task within a limit of time
-/

namespace KeyPlan.Scripting

/-- Lists the applications that are no background processes, one row each. -/
def listApplications : String :=
  "\n    tell application \"System Events\"\n        set out to \"\"\n" ++
  "        repeat with p in (every application process whose background only is false)\n" ++
  "            set out to out & (unix id of p) & tab & (name of p) & tab & " ++
  "(bundle identifier of p) & tab & (visible of p) & linefeed\n" ++
  "        end repeat\n        return out\n    end tell\n"

/-- Tells the number of the application in front. -/
def frontmostPid : String :=
  "\n    tell application \"System Events\"\n" ++
  "        return unix id of first application process whose frontmost is true\n    end tell\n"

/-- The script that sets a property of the application with the given number. -/
def setProperty (property : String) : List String :=
  ["on run argv", "set targetPid to (item 1 of argv) as integer",
    "tell application \"System Events\"",
    "set " ++ property ++
      " of (first application process whose unix id is targetPid) to true",
    "end tell", "end run"]

/-- Shows a hidden application again. -/
def unhide : List String := setProperty "visible"

/-- Asks an application to the front. -/
def activate : List String := setProperty "frontmost"

/-- **Why a script has no output.** -/
inductive Error where
  | unavailable
  | failed (text : String)
  | panicked (text : String)
  | timedOut (limit : Nat)
  deriving DecidableEq, Repr

/-- The text of the error; the number of the thread is left open. -/
def Error.message : Error → String
  | unavailable => "AppleScript is only available on macOS"
  | failed text => text
  | panicked text =>
    "AppleScript task panicked: task <n> panicked with message " ++
      String.ofList (Text.quoted text.toList)
  | timedOut limit => "AppleScript timed out after " ++ toString limit ++ "ms"

/-- **A script** without the scripting language. -/
def run (_script : String) : Except Error String := .error .unavailable

/-- A script of several lines with arguments, without the scripting language. -/
def runLines (_lines _arguments : List String) : Except Error String := .error .unavailable

/-- What becomes of a task on its own thread. -/
inductive Task where
  | returns (result : Except Error String)
  | panics (text : String)
  | hangs
  deriving Repr

/-- **A task within a limit of time**, in milliseconds. A task that ends does so at once. -/
def runWithin (limit : Nat) : Task → Except Error String
  | .returns result => result
  | .panics text => .error (.panicked text)
  | .hangs => .error (.timedOut limit)

end KeyPlan.Scripting
