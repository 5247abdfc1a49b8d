import KeyPlan.Json.Number
import KeyPlan.Json.Skip

/-!
# Reading JSON by shape

A reader knows the shape that it wants and takes it from the head of a text, so what it refuses
first is what stands first. Records come as objects, where a key may not repeat and an unknown one is
skipped, or as lists of their fields in order.

## Main definitions

* `Reader`: a value from the head of a text, and what follows
* `readString`, `readWord`: the plain values
* `readItems`, `nextItem?`, `closeList`: lists
* `readMembers`, `fill`, `skipMember`: objects
* `readWholeText`: a text that is one value
-/

namespace KeyPlan.Json

/-- **A reader**: a value from the head of a text and what follows it. -/
abbrev Reader (α : Type) : Type := List Char → Except Error (α × List Char)

/-- What is wrong with the text where `expected` is wanted and something else starts. -/
def mismatch (expected : String) (s : List Char) : Error :=
  let wrong (found : Found) : Error := .invalidType found expected
  let word (rest : List Char) (r : List Char) (found : Found) : Error :=
    match readRest rest r with
    | .ok _ => wrong found
    | .error e => e
  match s with
  | [] => .ended .value
  | c :: r =>
    if c = 'n' then word ['u', 'l', 'l'] r .null
    else if c = 't' then word ['r', 'u', 'e'] r (.boolean true)
    else if c = 'f' then word ['a', 'l', 's', 'e'] r (.boolean false)
    else if c = '-' ∨ c.isDigit then
      match readNumber s with
      | .ok (n, _) => wrong n.found
      | .error e => e
    else if c = '"' then
      match readStringBody r with
      | .ok (t, _) => wrong (.string (String.ofList t))
      | .error e => e
    else if c = '[' then wrong .sequence
    else if c = '\x7b' then wrong .object
    else .expectedValue

/-- A string, where errors say that `expected` was wanted. -/
def readStringAs (expected : String) : Reader String := fun s =>
  match skipSpace s with
  | '"' :: r => do
    let (t, r) ← readStringBody r
    return (String.ofList t, r)
  | s => .error (mismatch expected s)

/-- **A string.** -/
def readString : Reader String := readStringAs "a string"

/-- The name of the wanted shape of a word. -/
def wordName : String := "u64"

/-- The word that a number is, if it is one. -/
def Number.word : Number → Except Error UInt64
  | .natural n => .ok n
  | .negative i => .error (.invalidValue (.integer i) wordName)
  | .floating x => .error (.invalidType (.floating x) wordName)

/-- **A 64-bit natural number.** -/
def readWord : Reader UInt64 := fun s =>
  match skipSpace s with
  | [] => .error (.ended .value)
  | c :: r =>
    if c = '-' ∨ c.isDigit then do
      let (n, rest) ← readNumber (c :: r)
      return (← n.word, rest)
    else .error (mismatch wordName (c :: r))

/-! ## Lists -/

/-- The text of the next item of a list, or none before the closing bracket. -/
def nextItem? (first : Bool) (s : List Char) : Except Error (Option (List Char)) :=
  match skipSpace s with
  | [] => .error (.ended .list)
  | c :: r =>
    if c = ']' then .ok none
    else if first then .ok (some (c :: r))
    else if c = ',' then
      match skipSpace r with
      | [] => .error (.ended .value)
      | d :: r => if d = ']' then .error .trailingComma else .ok (some (d :: r))
    else .error .expectedListEnd

/-- The next item of a list, or none before the closing bracket. -/
def readItem? {α : Type} (first : Bool) (item : Reader α) : Reader (Option α) := fun s => do
  match ← nextItem? first s with
  | none => return (none, s)
  | some r => do
    let (x, r) ← item r
    return (some x, r)

/-- What follows the closing bracket of a list whose items are read. -/
def closeList (s : List Char) : Except Error (List Char) :=
  match skipSpace s with
  | [] => .error (.ended .list)
  | c :: r =>
    if c = ']' then .ok r
    else if c = ',' then
      .error (if (skipSpace r).head? = some ']' then .trailingComma else .trailingCharacters)
    else .error .trailingCharacters

/-- The items of a list up to its closing bracket. Every item takes a character, so the length of
the text is fuel enough. -/
def readItemsFrom {α : Type} (item : Reader α) : Nat → Bool → Reader (List α)
  | 0, _, _ => .error (.ended .list)
  | fuel + 1, first, s => do
    match ← readItem? first item s with
    | (none, s) => return ([], s)
    | (some x, s) => do
      let (xs, s) ← readItemsFrom item fuel false s
      return (x :: xs, s)

/-- **The items of a list** whose opening bracket is read, up to the closing one. -/
def readItems {α : Type} (first : Bool) (item : Reader α) : Reader (List α) := fun s =>
  readItemsFrom item (s.length + 1) first s

/-- **A list.** -/
def readList {α : Type} (item : Reader α) : Reader (List α) := fun s =>
  match skipSpace s with
  | '[' :: r => do
    let (xs, r) ← readItems true item r
    return (xs, ← closeList r)
  | s => .error (mismatch "a sequence" s)

/-! ## Objects -/

/-- The next key of an object, or none before the closing brace. -/
def nextKey? (first : Bool) (s : List Char) : Except Error (Option (String × List Char)) :=
  let key (c : Char) (r : List Char) : Except Error (Option (String × List Char)) :=
    if c = '"' then do
      let (t, r) ← readStringBody r
      return some (String.ofList t, r)
    else if c = '\x7d' then .error .trailingComma
    else .error .keyNotString
  match skipSpace s with
  | [] => .error (.ended .object)
  | c :: r =>
    if c = '\x7d' then .ok none
    else if first then key c r
    else if c = ',' then
      match skipSpace r with
      | [] => .error (.ended .value)
      | d :: r => key d r
    else .error .expectedObjectEnd

/-- The text after the colon of a member. -/
def readColon (s : List Char) : Except Error (List Char) :=
  match skipSpace s with
  | [] => .error (.ended .object)
  | c :: r => if c = ':' then .ok r else .error .expectedColon

/-- The value of a member whose key is read. -/
def readMemberValue {α : Type} (value : Reader α) : Reader α := fun s => do
  value (← readColon s)

/-- The members of an object up to its closing brace, each of which changes a state. Every member
takes a character, so the length of the text is fuel enough. -/
def readMembersFrom {σ : Type} (member : σ → String → Reader σ) : Nat → Bool → σ → Reader σ
  | 0, _, _, _ => .error (.ended .object)
  | fuel + 1, first, state, s => do
    match ← nextKey? first s with
    | none => return (state, s)
    | some (key, r) => do
      let (state, r) ← member state key r
      readMembersFrom member fuel false state r

/-- What follows the closing brace of an object whose members are read. -/
def closeObject (s : List Char) : Except Error (List Char) :=
  match skipSpace s with
  | [] => .error (.ended .object)
  | c :: r =>
    if c = '\x7d' then .ok r
    else if c = ',' then .error .trailingComma
    else .error .trailingCharacters

/-- **The members of an object** whose opening brace is read, each of which changes a state. -/
def readMembers {σ : Type} (member : σ → String → Reader σ) (start : σ) : Reader σ := fun s =>
  readMembersFrom member (s.length + 1) true start s

/-- **A field of a record**: the value of the member goes into an empty slot; a slot that is full
means that the key `name` is repeated. -/
def fill {α : Type} (name : String) (slot : Option α) (value : Reader α) : Reader (Option α) :=
  fun s =>
    if slot.isSome then .error (.duplicateField name)
    else do
      let (x, s) ← readMemberValue value s
      return (some x, s)

/-- The text after the value of a member that nobody wants. -/
def skipMember (s : List Char) : Except Error (List Char) := do
  skipValue (← readColon s)

/-- The value of a required field. -/
def require {α : Type} (name : String) : Option α → Except Error α
  | some x => .ok x
  | none => .error (.missingField name)

/-- The next field of a record that is written as a list, which `position` fields precede. -/
def readFieldAt {α : Type} (record : String) (position : Nat) (value : Reader α) : Reader α :=
  fun s => do
    match ← readItem? (position == 0) value s with
    | (some x, s) => return (x, s)
    | (none, _) => .error (.invalidLength position record)

/-- **A record**, as a list of its fields or as an object. -/
def readRecord {α : Type} (name : String) (fields members : Reader α) : Reader α := fun s =>
  match skipSpace s with
  | '[' :: r => do
    let (x, r) ← fields r
    return (x, ← closeList r)
  | '\x7b' :: r => do
    let (x, r) ← members r
    return (x, ← closeObject r)
  | s => .error (mismatch name s)

/-- **A text that is one value**, with blanks around it. -/
def readWholeText {α : Type} (reader : Reader α) (s : List Char) : Except Error α := do
  let (x, rest) ← reader s
  if (skipSpace rest).isEmpty then return x else .error .trailingCharacters

end KeyPlan.Json
