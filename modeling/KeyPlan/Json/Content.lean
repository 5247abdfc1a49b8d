import KeyPlan.Json.Reader

/-!
# Values of unknown shape

A record whose shape depends on one of its own fields is read in two passes: first as a value of any
shape, then by the shape that the field names. Containers nest only so deep here.

## Main definitions

* `Content`, `readContent`: a value of any shape, and how it is read
* `Content.asString`, `Content.asWord`, `Content.asChar`, `Content.asItems`, `Content.asOption`:
  the value as one of a known shape
-/

namespace KeyPlan.Json

/-- **A value of any shape**; the members of an object are in the order of the text. -/
inductive Content where
  | null
  | boolean (b : Bool)
  | number (n : Number)
  | string (s : String)
  | list (items : List Content)
  | object (members : List (String × Content))

namespace Content

/-- The value as an error shows it. -/
def found : Content → Found
  | .null => .null
  | .boolean b => .boolean b
  | .number n => n.found
  | .string s => .string s
  | .list _ => .sequence
  | .object _ => .object

/-- The value has another shape than the wanted one. -/
def mismatch (c : Content) (expected : String) : Error := .invalidType c.found expected

/-- The value as a string. -/
def asString : Content → Except Error String
  | .string s => .ok s
  | c => .error (c.mismatch "a string")

/-- The value as a 64-bit natural number. -/
def asWord : Content → Except Error UInt64
  | .number n => n.word
  | c => .error (c.mismatch wordName)

/-- The value as a character: a string of exactly one. -/
def asChar : Content → Except Error Char
  | .string s =>
    match s.toList with
    | [c] => .ok c
    | _ => .error (.invalidValue (.string s) "a character")
  | c => .error (c.mismatch "a character")

/-- The value as a list. -/
def asItems : Content → Except Error (List Content)
  | .list items => .ok items
  | c => .error (c.mismatch "a sequence")

/-- The value as one that null stands for the absence of. -/
def asOption {α : Type} (value : Content → Except Error α) : Content → Except Error (Option α)
  | .null => .ok none
  | c => (value c).map some

end Content

/-- A value of any shape, whose items and members are read by `inner`; without it no container is
allowed. -/
def readContentWith (inner : Option (Reader Content)) : Reader Content := fun s =>
  let word (rest r : List Char) (c : Content) : Except Error (Content × List Char) := do
    return (c, ← readRest rest r)
  match skipSpace s with
  | [] => .error (.ended .value)
  | c :: r =>
    if c = 'n' then word ['u', 'l', 'l'] r .null
    else if c = 't' then word ['r', 'u', 'e'] r (.boolean true)
    else if c = 'f' then word ['a', 'l', 's', 'e'] r (.boolean false)
    else if c = '-' ∨ c.isDigit then do
      let (n, r) ← readNumber (c :: r)
      return (.number n, r)
    else if c = '"' then do
      let (t, r) ← readStringBody r
      return (.string (String.ofList t), r)
    else if c = '[' then
      match inner with
      | none => .error .tooDeep
      | some item => do
        let (items, r) ← readItems true item r
        return (.list items, ← closeList r)
    else if c = '\x7b' then
      match inner with
      | none => .error .tooDeep
      | some value => do
        let member (members : List (String × Content)) (key : String) :
            Reader (List (String × Content)) := fun s => do
          let (v, s) ← readMemberValue value s
          return ((key, v) :: members, s)
        let (members, r) ← readMembers member [] r
        return (.object members.reverse, ← closeObject r)
    else .error .expectedValue

/-- **A value of any shape**, with at most `depth` containers around each of its parts. -/
def readContent : Nat → Reader Content
  | 0 => readContentWith none
  | depth + 1 => readContentWith (some (readContent depth))

end KeyPlan.Json
