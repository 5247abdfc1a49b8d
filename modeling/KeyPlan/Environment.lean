import KeyPlan.Text.Alphanumeric
import KeyPlan.Text.Blank
import KeyPlan.Text.Pieces

/-!
# Environment files

Variables that a file adds to the environment, one assignment per line. A value may be quoted, hold
escapes and refer to other variables; a variable that is set already stays as it is, and what follows
the first malformed line does not count.

## Main definitions

* `Environment`: variables and their values
* `Template`: a value with references to variables
* `Assignment.ofLine`: the assignment of a line
* `Environment.load`: the environment after a file
-/

namespace KeyPlan

/-- **Variables and their values.** The first value of a variable counts. -/
abbrev Environment := List (String × String)

namespace Environment

/-- A variable and its value as one text, with an equals sign between them. -/
def entry (key value : String) : List Char := key.toList ++ '=' :: value.toList

/-- **The value of a variable**: what comes after the name and an equals sign in the first entry that
begins with them. So a name with an equals sign of its own stands for the rest of a value. -/
def get? (env : Environment) (name : String) : Option String :=
  env.findSome? fun (key, value) =>
    ((entry name "").isPrefixOf? (entry key value)).map String.ofList

/-! ## Values -/

/-- A part of a value. -/
inductive Part where
  | char (c : Char)
  | reference (name : String)
  deriving DecidableEq, Repr

/-- **A value** that may refer to variables. -/
abbrev Template := List Part

/-- The value of a template; a variable that is not set has none. -/
def fill (env : Environment) (t : Template) : String :=
  String.ofList <| t.flatMap fun
    | .char c => [c]
    | .reference name => ((env.get? name).getD "").toList

/-- **Where a value goes on**: outside or inside of quotes, after a backslash, in the name of a
variable, which may be braced, or behind the value. Backslashes and names come back to double quotes
if they are inside of them. -/
inductive Phase where
  | plain
  | weak
  | strong
  | escape (inWeak : Bool)
  | name (inWeak : Bool)
  | braced (inWeak : Bool)
  | ending
  | comment
  deriving DecidableEq, Repr

/-- The phase outside of names and escapes. -/
def Phase.base (inWeak : Bool) : Phase := if inWeak then .weak else .plain

/-- A value that is read so far: its parts, backwards, and the name that is being read, backwards. -/
structure Reading where
  phase : Phase := .plain
  parts : Template := []
  name : List Char := []

namespace Reading

/-- One more character of the value. -/
def push (r : Reading) (c : Char) : Reading := { r with parts := .char c :: r.parts }

/-- The name that is being read refers to its variable. -/
def refer (r : Reading) : Reading :=
  { r with parts := .reference (String.ofList r.name.reverse) :: r.parts, name := [] }

/-- The reading goes on in a phase. -/
def goto (r : Reading) (phase : Phase) : Reading := { r with phase }

/-- One character of a name without braces. -/
def nameStep (r : Reading) (inWeak : Bool) (c : Char) : Reading :=
  if Text.isAlphanumeric c then { r with name := c :: r.name }
  else if c = '\x7b' ∧ r.name.isEmpty then r.goto (.braced inWeak)
  else if c = '$' then r.refer
  else (r.refer.push c).goto (.base inWeak)

/-- The character that a backslash and this character stand for. -/
def escaped? (c : Char) : Option Char :=
  if c = 'n' then some '\n'
  else if c = '\\' ∨ c = '\'' ∨ c = '"' ∨ c = '$' ∨ c = ' ' then some c
  else none

/-- **One character of a value**, or none if it cannot stand there. -/
def step (r : Reading) (c : Char) : Option Reading :=
  match r.phase with
  | .comment => some r
  | .ending =>
    if c = ' ' ∨ c = '\t' then some r
    else if c = '#' then some (r.goto .comment)
    else none
  | .escape inWeak => (escaped? c).map fun x => (r.push x).goto (.base inWeak)
  | .strong => some (if c = '\'' then r.goto .plain else r.push c)
  | .name inWeak => some (r.nameStep inWeak c)
  | .braced inWeak =>
    some (if c = '\x7d' then r.refer.goto (.base inWeak) else { r with name := c :: r.name })
  | .weak =>
    some (if c = '$' then r.goto (.name true)
      else if c = '"' then r.goto .plain
      else if c = '\\' then r.goto (.escape true)
      else r.push c)
  | .plain =>
    some (if c = '$' then r.goto (.name false)
      else if c = '\'' then r.goto .strong
      else if c = '"' then r.goto .weak
      else if c = '\\' then r.goto (.escape false)
      else if c = ' ' ∨ c = '\t' then r.goto .ending
      else r.push c)

/-- The value that is read, unless a quote or brace is open. -/
def finish (r : Reading) : Option Template :=
  match r.phase with
  | .plain | .escape false | .ending | .comment => some r.parts.reverse
  | .name false => some r.refer.parts.reverse
  | .weak | .strong | .escape true | .name true | .braced _ => none

end Reading

/-- **The template of a value**, or none if it is malformed. -/
def template? (s : List Char) : Option Template :=
  (s.foldlM Reading.step {}).bind Reading.finish

/-! ## Lines -/

/-- An assignment to a variable. -/
structure Assignment where
  name : String
  value : Template
  deriving DecidableEq, Repr

/-- The character may start a name. -/
def isNameStart (c : Char) : Bool := c.isAlpha || c == '_'

/-- The character may stand in a name. -/
def isNameChar (c : Char) : Bool := c.isAlphanum || c == '_' || c == '.'

/-- The name at the head of a text, and the text after it and the blanks that follow. -/
def cutName? (s : List Char) : Option (List Char × List Char) :=
  match s with
  | c :: _ =>
    if isNameStart c then
      some (s.takeWhile isNameChar, Text.trimStart (s.dropWhile isNameChar))
    else none
  | [] => none

/-- The text after an equals sign. -/
def cutEquals? : List Char → Option (List Char)
  | '=' :: s => some s
  | _ => none

/-- The name and the value's text in a line that is neither empty nor a comment. The word `export`
may stand before the name. -/
def cutAssignment? (s : List Char) : Option (List Char × List Char) := do
  let (name, s) ← cutName? s
  match cutEquals? s with
  | some s => return (name, s)
  | none =>
    if name = "export".toList then
      let (name, s) ← cutName? s
      return (name, ← cutEquals? s)
    else none

/-- There is nothing in the text, or only a comment. -/
def isVoid (s : List Char) : Bool :=
  match s with
  | [] => true
  | c :: _ => c == '#'

/-- **The assignment of a line**, if it has one; none at all if the line is malformed. -/
def assignment? (line : List Char) : Option (Option Assignment) :=
  let s := Text.trim line
  if isVoid s then some none
  else do
    let (name, s) ← cutAssignment? s
    let s := Text.trimStart s
    let value ← if isVoid s then some [] else template? s
    return some ⟨String.ofList name, value⟩

/-- The assignments of the lines before the first malformed one. -/
def assignmentsOf : List (List Char) → List Assignment
  | [] => []
  | line :: lines =>
    match assignment? line with
    | none => []
    | some none => assignmentsOf lines
    | some (some a) => a :: assignmentsOf lines

/-- **The assignments of a file.** -/
def assignments (text : List Char) : List Assignment :=
  assignmentsOf (Text.lines text)

/-- The environment after an assignment: a variable that is set stays as it is. -/
def assign (env : Environment) (a : Assignment) : Environment :=
  if (env.get? a.name).isSome then env else env ++ [(a.name, fill env a.value)]

/-- **The environment after a file.** -/
def load (env : Environment) (text : List Char) : Environment :=
  (assignments text).foldl assign env

/-- The variables that an assignment names. -/
def Assignment.names (a : Assignment) : List String :=
  a.name :: a.value.filterMap fun
    | .char _ => none
    | .reference name => some name

end Environment

end KeyPlan
