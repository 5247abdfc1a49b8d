import KeyPlan.Console
import KeyPlan.Environment

/-!
# The program

The console on standard input and output. Only this module touches the system: it reads the
environment and files, hands them to the console, prints what the console says and writes the
settings file when a line asks for it.

## Main definitions

* `main`: the program
-/

namespace KeyPlan.Program

/-- Whether there is something at a path, as far as the system tells. -/
def isSeen (path : String) : IO Bool := do
  try
    discard (IO.FS.realPath path)
    return true
  catch _ => return false

/-- Why the system does not give or take the file at a path. -/
def fileFault (path : String) : IO.Error → IO FileFault
  | .inappropriateType _ code _ => return if code = 20 then .notDirectory else .isDirectory
  | .permissionDenied _ _ _ => return if ← isSeen path then .denied else .unreachable
  | _ => return .missing

/-- What is found at a path. -/
def readFile (path : String) : IO FileState := do
  try
    return .file (← IO.FS.readBinFile path).toList
  catch e => return .absent (← fileFault path e)

/-- The text of the nearest environment file, from the directory upwards through its parents. -/
partial def environmentFile (directory : String) : IO (List Char) := do
  match (← readFile (directory ++ "/.env")).text with
  | .ok text => return text
  | .error _ =>
    match directory.toList.reverse.dropWhile (· != '/') with
    | _ :: parent => environmentFile (String.ofList parent.reverse)
    | [] => return []

/-- The variables of the process with the given names. -/
def processVariables (names : List String) : IO Environment := do
  let pairs ← names.mapM fun name => do
    return (← IO.getEnv name).map fun value => (name, value)
  return pairs.filterMap id

/-- The variables that settings depend on. -/
def settingsVariables : List String :=
  [Settings.speedVariable, Settings.actionDelayVariable, Settings.appSwitchDelayVariable,
    Settings.keyEventDelayVariable, Settings.characterDelayVariable]

/-- The environment of the process with what the environment file adds to it. -/
def environment : IO Environment := do
  let text ← environmentFile (toString (← IO.FS.realPath "."))
  let names := (Environment.assignments text).flatMap Environment.Assignment.names
  return Environment.load (← processVariables (settingsVariables ++ names)) text

/-- The configuration directory. -/
def configDirectory : IO (Option String) := do
  match ← IO.getEnv "XDG_CONFIG_HOME" with
  | some dir => if dir.startsWith "/" then return some dir
  | none => pure ()
  return (← IO.getEnv "HOME").map (· ++ "/.config")

/-- The next line of the input with its line feed; nothing is left after an empty one. -/
partial def readLine (input : IO.FS.Stream) (before : List UInt8) : IO (List UInt8) := do
  match (← input.read 1).toList with
  | [b] => if b = 10 then return (b :: before).reverse else readLine input (b :: before)
  | _ => return before.reverse

/-- What is printed reaches the output at once. -/
def say (text : String) : IO Unit := do
  let output ← IO.getStdout
  output.putStr text
  output.flush

/-- The file that a line asks to be read. -/
def requested (line : List UInt8) : IO FileState := do
  match Text.decodeUtf8 line with
  | .ok text =>
    match Command.ofLine text with
    | .load path => readFile path
    | _ => return .absent .missing
  | .error _ => return .absent .missing

/-- The settings file is written if a line asks for that: what comes of it, and what is found there
then. -/
def stored (directory : Option String) (console : Console) (line : List UInt8) :
    IO (Except Fault Unit × FileState) := do
  match directory, Text.decodeUtf8 line with
  | some dir, .ok text =>
    if Command.ofLine text = .save then
      let text := console.settings.write
      let path := dir ++ "/" ++ Settings.filePath
      try
        IO.FS.createDirAll (dir ++ "/shortcut-engine")
        IO.FS.writeFile path (String.ofList text)
        return (.ok (), .ofText text)
      catch e => return (.error (.io (← fileFault path e)), console.settingsFile)
    else return (.ok (), console.settingsFile)
  | _, _ => return (.ok (), console.settingsFile)

/-- The lines of the input, one after another, and the exit code. -/
partial def loop (directory : Option String) (console : Console) : IO UInt32 := do
  let line ← readLine (← IO.getStdin) []
  if line.isEmpty then return 0
  let file ← requested line
  let written ← stored directory console line
  let setup : Console.Setup :=
    { read := fun _ _ => file
      write := fun _ _ => written
      settingsPath := directory.map (· ++ "/" ++ Settings.filePath) }
  match console.take setup line with
  | .more output next =>
    say output
    loop directory next
  | .left => return 0
  | .broken e =>
    IO.eprintln ("Error: " ++ e.message)
    return 1

end KeyPlan.Program

open KeyPlan KeyPlan.Program in
/-- The program. -/
def main : IO UInt32 := do
  let env ← environment
  let directory ← configDirectory
  let file ← match directory with
    | some dir => readFile (dir ++ "/" ++ Settings.filePath)
    | none => pure (.absent .missing)
  let console := Console.start file env.get?
  say (Console.opening { read := fun _ _ => .absent .missing, settingsPath := none })
  loop directory console
