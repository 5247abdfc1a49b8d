import KeyPlan.Keyboard
import KeyPlan.Target
import KeyPlan.Text.Blank
import KeyPlan.Text.Quoted

/-!
# Actions

What a plan does, one step at a time: press a key, type a text, wait, or switch to an application.
Every action has a description; where none is given it is the label of its kind.

## Main definitions

* `ActionKind`, `ActionKind.label`: the four kinds of actions, and how they are shown
* `Action`, `Action.make`: an action with its description
-/

namespace KeyPlan

/-- **What an action does.** -/
inductive ActionKind where
  | keyPress (key : Char) (modifiers : ModifierSet)
  | typeText (text : String)
  | delay (ms : UInt64)
  | switchTo (target : Target)
  deriving DecidableEq, Repr

namespace ActionKind

/-- **How a kind of action is shown.** -/
def label : ActionKind → String
  | keyPress key modifiers => String.ofList (modifiers.glyphs ++ Key.label key)
  | typeText text => String.ofList ("Type ".toList ++ Text.quoted text.toList)
  | delay ms => "Wait " ++ toString ms.toNat ++ "ms"
  | switchTo target => "Switch to " ++ target.name

/-- Two kinds do the same, where targets may be named in different ways. -/
def sameAs : ActionKind → ActionKind → Bool
  | switchTo a, switchTo b => a.sameAs b
  | a, b => a == b

/-- The kind is a switch to an application. -/
def isSwitch : ActionKind → Bool
  | switchTo _ => true
  | _ => false

end ActionKind

/-- **An action** and what it is called. -/
structure Action where
  kind : ActionKind
  description : String
  deriving DecidableEq, Repr

namespace Action

/-- **The action of a kind**, called by the trimmed description or, if that is empty, by the label
of the kind. -/
def make (kind : ActionKind) (description : String) : Action :=
  let text := Text.trim description.toList
  ⟨kind, if text.isEmpty then kind.label else String.ofList text⟩

/-- Two actions do the same and are called the same, where targets may be named in different ways. -/
def sameAs (a b : Action) : Bool :=
  a.kind.sameAs b.kind && a.description == b.description

/-- The action is a switch to an application. -/
def isSwitch (a : Action) : Bool := a.kind.isSwitch

end Action

end KeyPlan
