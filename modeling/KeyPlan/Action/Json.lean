import KeyPlan.Action
import KeyPlan.Json.Content
import KeyPlan.Json.Writer

/-!
# Actions as JSON

An action is written as an object of its kind and description. The kind is an object whose field
`type` says which of the four it is; since that field may stand anywhere, the other fields are first
read as values of any shape.

## Main definitions

* `Action.write`: the JSON text of an action
* `Action.read`: an action from a JSON text
-/

namespace KeyPlan

open Json (Reader Content Error)

/-! ## Writing -/

/-- The JSON text of a modifier set: the names of its members. -/
def ModifierSet.write (s : ModifierSet) : List Char :=
  Json.writeList (s.toList.map fun m => Json.writeString m.name)

/-- The JSON text of a target. -/
def Target.write (t : Target) : List Char :=
  Json.writeObject
    [("bundle_id", t.bundleId.elim "null".toList Json.writeString),
      ("name", Json.writeString t.name)]

/-- The name of the kind's variant. -/
def ActionKind.typeName : ActionKind → String
  | keyPress .. => "key_press"
  | typeText _ => "type_text"
  | delay _ => "delay"
  | switchTo _ => "switch_application"

/-- The JSON texts of the kind's own fields. -/
def ActionKind.writeFields : ActionKind → List (String × List Char)
  | keyPress key modifiers =>
    [("key", Json.writeString (String.singleton key)), ("modifiers", modifiers.write)]
  | typeText text => [("text", Json.writeString text)]
  | delay ms => [("duration_ms", Json.writeNat ms.toNat)]
  | switchTo target => [("target", target.write)]

/-- The JSON text of a kind. -/
def ActionKind.write (k : ActionKind) : List Char :=
  Json.writeObject (("type", Json.writeString k.typeName) :: k.writeFields)

/-- **The JSON text of an action.** -/
def Action.write (a : Action) : List Char :=
  Json.writeObject [("kind", a.kind.write), ("description", Json.writeString a.description)]

/-! ## Values of any shape -/

/-- The value as a modifier: its name, or an object with the name as its only key, which then has
nothing as its value. -/
def Modifier.ofContent (c : Content) : Except Error Modifier := do
  let ofName (name : String) : Except Error Modifier :=
    match Modifier.ofName? name with
    | some m => .ok m
    | none => .error (.unknownVariant name (Modifier.ranked.map Modifier.name))
  match c with
  | .string name => ofName name
  | .object [(name, value)] =>
    let m ← ofName name
    match value with
    | .null | .object [] => return m
    | _ => .error (value.mismatch "unit")
  | .object _ => .error (.invalidValue .object "map with a single key")
  | _ => .error (c.mismatch "string or map")

/-- The value as a set of modifiers: a list of them in any order. -/
def ModifierSet.ofContent (c : Content) : Except Error ModifierSet := do
  return ModifierSet.ofList (← (← c.asItems).mapM Modifier.ofContent)

/-- One field of a value that is an object: the key is known and is not repeated. -/
def fillSlot {α : Type} (name : String) (slot : Option α) (value : Except Error α) :
    Except Error (Option α) :=
  if slot.isSome then .error (.duplicateField name) else value.map some

/-- The fields of a target that are read so far. -/
structure TargetFields where
  bundleId : Option (Option String) := none
  name : Option String := none

/-- One member of a target. -/
def TargetFields.add (f : TargetFields) (m : String × Content) : Except Error TargetFields := do
  if m.1 = "bundle_id" then
    return { f with bundleId := ← fillSlot m.1 f.bundleId (m.2.asOption Content.asString) }
  else if m.1 = "name" then
    return { f with name := ← fillSlot m.1 f.name m.2.asString }
  else return f

/-- The value as a target. -/
def Target.ofContent (c : Content) : Except Error Target := do
  let record := "struct ApplicationTarget with 2 elements"
  match c with
  | .object members =>
    let f ← members.foldlM TargetFields.add {}
    return ⟨f.bundleId.getD none, ← Json.require "name" f.name⟩
  | .list [] => .error (.invalidLength 0 record)
  | .list (id :: rest) =>
    let id ← id.asOption Content.asString
    match rest with
    | [] => .error (.invalidLength 1 record)
    | name :: more =>
      let name ← name.asString
      if more.isEmpty then return ⟨id, name⟩
      else .error (.invalidLength (more.length + 2) "2 elements in sequence")
  | _ => .error (c.mismatch "struct ApplicationTarget")

/-! ## Kinds -/

/-- The variants of a kind. -/
inductive KindType where
  | keyPress
  | typeText
  | delay
  | switchTo
  deriving DecidableEq, Repr

namespace KindType

/-- The variants in the order in which errors list them. -/
def all : List KindType := [keyPress, typeText, delay, switchTo]

/-- The name of the variant. -/
def name : KindType → String
  | keyPress => "key_press"
  | typeText => "type_text"
  | delay => "delay"
  | switchTo => "switch_application"

/-- The variant of a name. -/
def ofName (name : String) : Except Error KindType :=
  match all.find? (·.name == name) with
  | some t => .ok t
  | none => .error (.unknownVariant name (all.map KindType.name))

/-- How an error names the variant as a record. -/
def record : KindType → String
  | keyPress => "struct variant ActionKind::KeyPress with 2 elements"
  | typeText => "struct variant ActionKind::TypeText with 1 element"
  | delay => "struct variant ActionKind::Delay with 1 element"
  | switchTo => "struct variant ActionKind::SwitchApplication with 1 element"

/-- The kind with one field, given the name of the field and how its value is read. -/
def ofOneField {α : Type} (t : KindType) (field : String) (value : Content → Except Error α)
    (make : α → ActionKind) : Content → Except Error ActionKind
  | .object members => do
    let slot ← members.foldlM (fun slot (m : String × Content) =>
      if m.1 = field then fillSlot field slot (value m.2) else .ok slot) none
    return make (← Json.require field slot)
  | .list [] => .error (.invalidLength 0 t.record)
  | .list (x :: more) => do
    let x ← value x
    if more.isEmpty then return make x
    else .error (.invalidLength (more.length + 1) "1 element in sequence")
  | c => .error (c.mismatch t.record)

/-- The fields of a key press that are read so far. -/
structure PressFields where
  key : Option Char := none
  modifiers : Option ModifierSet := none

/-- One member of a key press. -/
def PressFields.add (f : PressFields) (m : String × Content) : Except Error PressFields := do
  if m.1 = "key" then return { f with key := ← fillSlot m.1 f.key m.2.asChar }
  else if m.1 = "modifiers" then
    return { f with modifiers := ← fillSlot m.1 f.modifiers (ModifierSet.ofContent m.2) }
  else return f

/-- A key press from its fields. -/
def pressOf : Content → Except Error ActionKind
  | .object members => do
    let f ← members.foldlM PressFields.add {}
    return .keyPress (← Json.require "key" f.key) (← Json.require "modifiers" f.modifiers)
  | .list [] => .error (.invalidLength 0 keyPress.record)
  | .list (key :: rest) => do
    let key ← key.asChar
    match rest with
    | [] => .error (.invalidLength 1 keyPress.record)
    | modifiers :: more =>
      let modifiers ← ModifierSet.ofContent modifiers
      if more.isEmpty then return .keyPress key modifiers
      else .error (.invalidLength (more.length + 2) "2 elements in sequence")
  | c => .error (c.mismatch keyPress.record)

/-- **The kind of a variant** from its fields. -/
def read : KindType → Content → Except Error ActionKind
  | keyPress => pressOf
  | typeText => ofOneField typeText "text" Content.asString .typeText
  | delay => ofOneField delay "duration_ms" Content.asWord .delay
  | switchTo => ofOneField switchTo "target" Target.ofContent .switchTo

end KindType

/-- How deep containers may nest inside a field of a kind. -/
def kindDepth : Nat := 125

/-- The name of the variant. -/
def KindType.reader : Reader KindType := fun s => do
  let (name, s) ← Json.readStringAs "variant identifier" s
  return (← KindType.ofName name, s)

/-- The variant of a kind that is a list, which comes first, and the rest of the list. -/
def readKindItems : Reader (KindType × Content) := fun s => do
  match ← Json.readItem? true KindType.reader s with
  | (none, _) => .error (.missingField "type")
  | (some t, s) =>
    let (items, s) ← Json.readItems false (Json.readContent kindDepth) s
    return ((t, .list items), s)

/-- One member of a kind that is an object: the variant, or another field. -/
def readKindMember (f : Option KindType × List (String × Content)) (key : String) :
    Reader (Option KindType × List (String × Content)) := fun s => do
  if key = "type" then
    let (t, s) ← Json.fill key f.1 KindType.reader s
    return ((t, f.2), s)
  else
    let (v, s) ← Json.readMemberValue (Json.readContent kindDepth) s
    return ((f.1, f.2 ++ [(key, v)]), s)

/-- The variant of a kind that is an object, and its other fields. -/
def readKindMembers : Reader (KindType × Content) := fun s => do
  let ((t, members), s) ← Json.readMembers readKindMember (none, []) s
  return ((← Json.require "type" t, .object members), s)

/-- **A kind.** -/
def ActionKind.reader : Reader ActionKind := fun s => do
  let ((t, fields), s) ←
    Json.readRecord "internally tagged enum ActionKind" readKindItems readKindMembers s
  return (← t.read fields, s)

/-! ## Actions -/

/-- The fields of an action that are read so far. -/
structure ActionFields where
  kind : Option ActionKind := none
  description : Option String := none

/-- One member of an action. -/
def ActionFields.add (f : ActionFields) (key : String) : Reader ActionFields := fun s => do
  if key = "kind" then
    let (kind, s) ← Json.fill key f.kind ActionKind.reader s
    return ({ f with kind }, s)
  else if key = "description" then
    let (description, s) ← Json.fill key f.description Json.readString s
    return ({ f with description }, s)
  else return (f, ← Json.skipMember s)

/-- An action as an object. -/
def Action.readMembers : Reader Action := fun s => do
  let (f, s) ← Json.readMembers ActionFields.add {} s
  return (⟨← Json.require "kind" f.kind, ← Json.require "description" f.description⟩, s)

/-- An action as a list of its fields. -/
def Action.readItems : Reader Action := fun s => do
  let record := "struct Action with 2 elements"
  let (kind, s) ← Json.readFieldAt record 0 ActionKind.reader s
  let (description, s) ← Json.readFieldAt record 1 Json.readString s
  return (⟨kind, description⟩, s)

/-- **An action from a JSON text.** Its description is taken as it is. -/
def Action.read (text : String) : Except Error Action :=
  Json.readWholeText (Json.readRecord "struct Action" Action.readItems Action.readMembers)
    text.toList

end KeyPlan
