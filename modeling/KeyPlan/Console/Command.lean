import KeyPlan.Text.Blank
import KeyPlan.Text.Search

/-!
# Console commands

A line of the console is a command word and its argument. Blanks around the line and between word and
argument do not count.

## Main definitions

* `Command`: the commands
* `Command.ofLine`: the command of a line
-/

namespace KeyPlan

/-- **What a line of the console asks for.** -/
inductive Command where
  | blank
  | help
  | quit
  | add (instruction description : String)
  | addNothing
  | load (path : String)
  | loadNothing
  | list
  | clear
  | speed (word : String)
  | save
  | apps
  | grant
  | run (previous : Option String)
  | unknown
  deriving DecidableEq, Repr

namespace Command

/-- What stands between an instruction and its description. -/
def bar : List Char := [' ', '|', ' ']

/-- The instruction and the description that are to be added. -/
def cutStep (argument : List Char) : List Char × List Char :=
  match Text.cutAt? bar argument with
  | some (instruction, description) => (Text.trim instruction, Text.trim description)
  | none => (argument, [])

/-- The command of a word and its argument. -/
def ofWord (word : String) (argument : List Char) : Command :=
  let text := String.ofList argument
  if word = "help" then help
  else if word = "quit" ∨ word = "exit" then quit
  else if word = "add" then
    if argument.isEmpty then addNothing
    else
      let (instruction, description) := cutStep argument
      add (String.ofList instruction) (String.ofList description)
  else if word = "load" then if argument.isEmpty then loadNothing else load text
  else if word = "list" then list
  else if word = "clear" then clear
  else if word = "speed" then speed text
  else if word = "save" then save
  else if word = "apps" then apps
  else if word = "grant" then grant
  else if word = "run" then run (if argument.isEmpty then none else some text)
  else unknown

/-- **The command of a line.** -/
def ofLine (line : List Char) : Command :=
  let s := Text.trim line
  if s.isEmpty then blank
  else
    match Text.cutAtBlank? s with
    | some (word, rest) => ofWord (String.ofList word) (Text.trim rest)
    | none => ofWord (String.ofList s) []

end Command

end KeyPlan
