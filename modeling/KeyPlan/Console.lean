import KeyPlan.Console.Command
import KeyPlan.Execute
import KeyPlan.Settings.File
import KeyPlan.Step.Json

/-!
# The console

The console reads commands line by line. It keeps a queue of steps and the settings in force, runs the
queue, and writes the settings to their file when it is told to. What it prints is a function of what
it reads.

## Main definitions

* `Console`, `Console.Setup`: what changes from command to command, and what does not
* `Console.start`: the console before the first command
* `Console.perform`: one command
* `Console.transcript`: all of the input
-/

namespace KeyPlan

/-- **What changes from command to command**: the settings, the queue, the settings file and the
world. -/
structure Console where
  settings : Settings
  queue : List Step := []
  settingsFile : FileState := .absent .missing
  world : World := {}
  deriving DecidableEq, Repr

namespace Console

/-- **What does not change**: the backend, the timing, what is found at a path as long as the settings
file is in a state, what comes of writing a text to the settings file, and the place of that file, if
there is one. -/
structure Setup where
  backend : Backend := Backend.unsupported
  timing : Timing := {}
  read : FileState → String → FileState
  write : FileState → List Char → Except Fault Unit × FileState := fun _ text => (.ok (), .ofText text)
  settingsPath : Option String

/-- The engine with the settings in force. -/
def engine (setup : Setup) (c : Console) : Engine := ⟨setup.backend, setup.timing, c.settings⟩

/-- **The console before the first command**: settings that make no sense are replaced by the
normal preset. -/
def start (settingsFile : FileState) (env : String → Option String) : Console where
  settings :=
    match Settings.resolve settingsFile env with
    | .ok s => s
    | .error _ => Settings.normal
  settingsFile := settingsFile

/-! ## Texts -/

/-- The line above and below the banner. -/
def ruler : String := String.ofList (List.replicate 50 '-')

/-- What is printed at the start. -/
def banner (permitted : Bool) : List String :=
  ["⌨️  Shortcut Engine Started!", ruler,
    "Type 'help' for commands. (Needs Accessibility Permissions)", ruler] ++
    (if permitted then []
      else ["⚠️  Accessibility permission not granted yet. Use 'grant'."])

/-- What is printed before a command is read. -/
def prompt : String := "> "

/-- The commands. -/
def helpLines : List String :=
  ["Available commands:",
    "  add <instruction> [| description]  - Queue a step (e.g. add ⌘ c | Copy)",
    "  load <file>                        - Queue steps from generated JSON",
    "  list                               - Show queued steps",
    "  clear                              - Empty the queue",
    "  speed <slow|normal|fast>           - Pick a speed preset",
    "  save                               - Save current settings",
    "  apps                               - List running applications",
    "  grant                              - Request Accessibility permission",
    "  run [previous app]                 - Run the queue (Ctrl-C cancels)",
    "  quit                               - Exit (Ctrl-C at the prompt also exits)"]

/-- The text at the right of a column that is six places wide. -/
def rightAligned (s : String) : String :=
  String.ofList (List.replicate (6 - s.length) ' ') ++ s

/-- The line on a running application. -/
def applicationLine (a : Application) : String :=
  "  " ++ rightAligned (toString a.pid.toInt) ++ "  " ++ a.name ++ "  " ++ a.bundleId.getD "-" ++
    (if a.hidden then " (hidden)" else "")

/-- The lines on the actions of the queue, which are numbered from `n` on. -/
def actionLines (n : Nat) : List Action → List String
  | [] => []
  | a :: rest =>
    ("  " ++ toString n ++ ". " ++ a.description ++ "  [" ++ a.kind.label ++ "]") ::
      actionLines (n + 1) rest

/-! ## Commands -/

/-- A step is queued. -/
def add (c : Console) (instruction description : String) : List String × Console :=
  let name := "step " ++ toString (c.queue.length + 1)
  let queue := c.queue ++ [⟨name, instruction, description⟩]
  (["➕ Queued (" ++ toString queue.length ++ " total)"], { c with queue })

/-- The steps in a file are queued. -/
def load (setup : Setup) (c : Console) (path : String) : List String × Console :=
  match (setup.read c.settingsFile path).text with
  | .error e => (["❌ Could not read " ++ path ++ ": " ++ e.message], c)
  | .ok text =>
    match Step.decode (String.ofList text) with
    | .error e => (["❌ Could not decode steps: " ++ (Fault.json e).message], c)
    | .ok steps =>
      (["📥 Loaded " ++ toString steps.length ++ " step(s)"], { c with queue := c.queue ++ steps })

/-- The queue is shown. -/
def list (c : Console) : List String :=
  let actions := Step.actions c.queue
  (if c.queue.isEmpty then ["(queue is empty)"] else []) ++
    [toString c.queue.length ++ " step(s), " ++ toString actions.length ++ " runnable action(s)"] ++
    actionLines 1 actions

/-- A preset is chosen. -/
def setSpeed (c : Console) (word : String) : List String × Console :=
  match Speed.parse word with
  | .ok speed =>
    (["⏱️  Speed set to " ++ speed.title], { c with settings := Settings.preset speed })
  | .error e => (["❌ " ++ e.message], c)

/-- The settings are written to their file. -/
def save (setup : Setup) (c : Console) : List String × Console :=
  match setup.settingsPath with
  | some path =>
    let (result, settingsFile) := setup.write c.settingsFile c.settings.write
    match result with
    | .ok () => (["💾 Saved to " ++ path], { c with settingsFile })
    | .error e => (["❌ " ++ e.message], { c with settingsFile })
  | none => (["❌ No configuration directory on this system"], c)

/-- The running applications are shown. -/
def apps (setup : Setup) (c : Console) : List String × Console :=
  let (result, world) := c.world.running setup.backend
  match result with
  | .ok as => (as.map applicationLine, { c with world })
  | .error e => (["❌ " ++ e.message], { c with world })

/-- What is printed about the permission. -/
def grantLine (permitted : Bool) : String :=
  if permitted then "✅ Accessibility permission granted"
  else "⛔️ Permission not granted. Enable it in System Settings, then retry."

/-- The queue is run on a session of its own, and emptied if all went well. -/
def run (setup : Setup) (c : Console) (previous : Option String) : List String × Console :=
  if c.queue.isEmpty then (["Nothing queued. Use 'add' or 'load' first."], c)
  else
    let target := previous.map fun name => { name : Target }
    let (outcome, world) :=
      (c.engine setup).execute true c.queue target { c.world with session := {}, trace := [], log := [] }
    if outcome.isSuccess then (["✅ " ++ outcome.message], { c with world, queue := [] })
    else
      (["❌ " ++ outcome.message ++ " (" ++ toString outcome.executed ++ " action(s) executed)"],
        { c with world })

/-- **One command**: what it prints and the console after it. -/
def perform (setup : Setup) (c : Console) : Command → List String × Console
  | .blank | .quit => ([], c)
  | .help => (helpLines, c)
  | .add instruction description => c.add instruction description
  | .addNothing => (["Usage: add <instruction> [| description]"], c)
  | .load path => c.load setup path
  | .loadNothing => (["Usage: load <file>"], c)
  | .list => (c.list, c)
  | .clear => (["🧹 Queue cleared"], { c with queue := [] })
  | .speed word => c.setSpeed word
  | .save => c.save setup
  | .apps => c.apps setup
  | .grant => ([grantLine setup.backend.permitted], c)
  | .run previous => c.run setup previous
  | .unknown => (["Unknown command. Type 'help'."], c)

/-! ## Sessions at the console -/

/-- The text of printed lines. -/
def printed (lines : List String) : String :=
  lines.foldr (fun line rest => line ++ "\n" ++ rest) ""

/-- What the console prints before the first command. -/
def opening (setup : Setup) : String := printed (banner setup.backend.permitted) ++ prompt

/-- How a line of input was taken. -/
inductive Taken where
  /-- The console printed something and waits for more. -/
  | more (output : String) (console : Console)
  /-- The console was left. -/
  | left
  /-- The line is no text. -/
  | broken (error : Text.Utf8Error)

/-- **One line of input.** -/
def take (setup : Setup) (c : Console) (line : List UInt8) : Taken :=
  match Text.decodeUtf8 line with
  | .error e => .broken e
  | .ok text =>
    match Command.ofLine text with
    | .quit => .left
    | command =>
      let (lines, c) := c.perform setup command
      .more (printed lines ++ prompt) c

/-- **What became of the input**: all that was printed, why it was no text, and the console at the
end. -/
structure Transcript where
  output : String
  error : Option Text.Utf8Error := none
  console : Console

/-- What the lines of input lead to. -/
def follow (setup : Setup) (c : Console) (output : String) : List (List UInt8) → Transcript
  | [] => ⟨output, none, c⟩
  | line :: lines =>
    match c.take setup line with
    | .more more c => follow setup c (output ++ more) lines
    | .left => ⟨output, none, c⟩
    | .broken e => ⟨output, some e, c⟩

/-- The lines of the input, each with its line feed; the last one may have none. -/
def inputLines : List UInt8 → List (List UInt8)
  | [] => []
  | b :: rest =>
    if b = 10 then [b] :: inputLines rest
    else
      match inputLines rest with
      | [] => [[b]]
      | line :: lines => (b :: line) :: lines

/-- **All of the input.** -/
def transcript (setup : Setup) (c : Console) (input : List UInt8) : Transcript :=
  follow setup c (opening setup) (inputLines input)

/-- What is printed about input that is no text. -/
def Transcript.errorText (t : Transcript) : String :=
  match t.error with
  | some e => "Error: " ++ e.message ++ "\n"
  | none => ""

/-- The exit code. -/
def Transcript.exitCode (t : Transcript) : Nat := if t.error.isSome then 1 else 0

end Console

end KeyPlan
