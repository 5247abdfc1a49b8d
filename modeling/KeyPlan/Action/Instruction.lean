import KeyPlan.Action
import KeyPlan.Text.Numeral
import KeyPlan.Text.Pieces
import KeyPlan.Text.Search

/-!
# Instructions

The language in which plans are written, one action per instruction. Three forms start with a word
and a colon: a switch, a delay and a literal text. The words `text input` type the description. All
else is a shortcut: modifiers as glyphs anywhere or as words, and a key, which is the last part that
is no modifier.

## Main definitions

* `Instruction.Error`, `Instruction.Error.message`: why an instruction is refused
* `Instruction.shortcut`: the key and the modifiers of a shortcut
* `Instruction.parse`: the action of an instruction
-/

namespace KeyPlan.Instruction

/-- **Why an instruction is refused.** -/
inductive Error where
  | emptyApplicationName
  | invalidDelay (value : String)
  | emptyText
  | emptyDescription
  | missingKey (instruction : String)
  deriving DecidableEq, Repr

/-- The text of the error. -/
def Error.message : Error → String
  | .emptyApplicationName => "Application name is empty"
  | .invalidDelay value => "Invalid delay value: '" ++ value ++ "'"
  | .emptyText => "Text to type is empty"
  | .emptyDescription => "Text input step has no description to type"
  | .missingKey instruction => "No key found in instruction: '" ++ instruction ++ "'"

/-- What starts a switch to an application. -/
def switchStart : List Char := "SWITCH_APP:".toList

/-- What starts a delay. -/
def delayStart : List Char := "DELAY:".toList

/-- What starts a literal text. -/
def textStart : List Char := "TEXT:".toList

/-- The words that type the description. -/
def textInput : List Char := "text input".toList

/-! ## Shortcuts -/

/-- The text without the glyphs of modifiers. -/
def dropGlyphs (s : List Char) : List Char :=
  s.filter fun c => (Modifier.ofGlyph? c).isNone

/-- The parts of a combination such as `cmd+s`. A plus on its own, or two at the end, is the plus
key. -/
def combination (s : List Char) : List (List Char) :=
  if s.isEmpty then []
  else if s.length < 2 ∨ '+' ∉ s then [s]
  else
    ((Text.pieces (· == '+') s).filter fun p => !p.isEmpty) ++
      (if ['+', '+'].isSuffixOf s then [['+']] else [])

/-- The parts of a shortcut: those of the combinations that its words are. -/
def parts (s : List Char) : List (List Char) :=
  (Text.words s).flatMap fun w => combination (dropGlyphs w)

/-- The modifiers of a shortcut: the glyphs in it and the parts that spell a modifier. -/
def modifiers (s : List Char) : ModifierSet :=
  ModifierSet.ofList (s.filterMap Modifier.ofGlyph? ++ (parts s).filterMap Modifier.ofWord?)

/-- The part of a shortcut that names its key: the last one that spells no modifier. -/
def keyPart? (s : List Char) : Option (List Char) :=
  ((parts s).filter fun p => (Modifier.ofWord? p).isNone).getLast?

/-- **The key and the modifiers of a shortcut.** -/
def shortcut (s : List Char) : Except Error (Char × ModifierSet) :=
  match (keyPart? s).bind Key.ofWord? with
  | some key => .ok (key, modifiers s)
  | none => .error (.missingKey (String.ofList s))

/-! ## Instructions -/

/-- What a switch does, given what follows its start. -/
def switchKind (rest : List Char) : Except Error ActionKind :=
  let name := Text.trim rest
  if name.isEmpty then .error .emptyApplicationName
  else .ok (.switchTo { name := String.ofList name })

/-- What a delay does, given what follows its start. -/
def delayKind (rest : List Char) : Except Error ActionKind :=
  let value := Text.trim rest
  match Text.readWord? value with
  | some ms => .ok (.delay ms)
  | none => .error (.invalidDelay (String.ofList value))

/-- What a literal text does, given what follows its start. -/
def textKind (text : List Char) : Except Error ActionKind :=
  if text.isEmpty then .error .emptyText else .ok (.typeText (String.ofList text))

/-- What the words that type the description do. -/
def inputKind (description : List Char) : Except Error ActionKind :=
  let text := Text.trim description
  if text.isEmpty then .error .emptyDescription else .ok (.typeText (String.ofList text))

/-- What a shortcut does. -/
def shortcutKind (s : List Char) : Except Error ActionKind := do
  let (key, modifiers) ← shortcut s
  return .keyPress key modifiers

/-- **What an instruction does.** The starts are tried in order and may be in any ASCII letter case;
a literal text keeps the blanks at its ends. -/
def kind (raw description : List Char) : Except Error ActionKind :=
  let s := Text.trim raw
  match Text.cutStart? switchStart s with
  | some rest => switchKind rest
  | none =>
    match Text.cutStart? delayStart s with
    | some rest => delayKind rest
    | none =>
      match Text.cutStart? textStart (Text.trimStart raw) with
      | some text => textKind text
      | none =>
        if Text.foldAscii s = textInput then inputKind description else shortcutKind s

/-- **The action of an instruction.** -/
def parse (raw description : String) : Except Error Action := do
  return Action.make (← kind raw.toList description.toList) description

end KeyPlan.Instruction
