import KeyPlan.Application
import KeyPlan.Fault
import KeyPlan.Modifier.Set

/-!
# Backends

What the system does for a run: it posts key events, tells which applications there are and which
one is in front, and moves applications. A backend is known by its replies; every call of a kind has
its own reply, which comes after some time and may be a fault.

## Main definitions

* `KeyStroke`, `KeyEvent`: a key with its modifiers, pressed or released
* `Reply`: a result and how long it takes
* `Backend`: the replies to all calls
* `Backend.unsupported`: the backend that refuses everything
* `replyAt`: a list of replies of which the last one stays
-/

namespace KeyPlan

/-- A key and the modifiers that are held with it. -/
structure KeyStroke where
  key : Char
  modifiers : ModifierSet
  deriving DecidableEq, Repr

/-- The two halves of a key press. -/
inductive KeyMove where
  | down
  | up
  deriving DecidableEq, Repr

/-- **A key event.** -/
structure KeyEvent where
  move : KeyMove
  stroke : KeyStroke
  deriving DecidableEq, Repr

/-- **A reply**: a value or a fault, after some milliseconds. -/
structure Reply (α : Type) where
  latency : Nat := 0
  result : Except Fault α

/-- The application in front, as a reply names it: by its number if there is one, or as the
application that was activated last. -/
inductive Frontmost where
  | pid (p : Option Int32)
  | lastActivated
  deriving DecidableEq, Repr

/-- **A backend**: whether input is permitted, and the reply to the n-th call of each kind. From call
`settled` on, all replies on the application in front are the same; this matters only to those who ask
again without waiting. -/
structure Backend where
  permitted : Bool
  running : Nat → Reply (List Application)
  unhide : Nat → Reply Unit
  hasMinimized : Nat → Reply Bool
  restore : Nat → Reply Nat
  activate : Nat → Reply Unit
  frontmost : Nat → Reply Frontmost
  settled : Nat := 0
  post : Nat → Except Fault Unit

/-- What a system without keyboard automation says. -/
def unsupportedFault : Fault := .unsupported "keyboard automation needs macOS"

/-- **The backend that refuses everything.** -/
def Backend.unsupported : Backend where
  permitted := false
  running _ := ⟨0, .error unsupportedFault⟩
  unhide _ := ⟨0, .error unsupportedFault⟩
  hasMinimized _ := ⟨0, .error unsupportedFault⟩
  restore _ := ⟨0, .error unsupportedFault⟩
  activate _ := ⟨0, .error unsupportedFault⟩
  frontmost _ := ⟨0, .error unsupportedFault⟩
  post _ := .error unsupportedFault

/-- The n-th of a list of replies; the last one stays, and an empty list stands for the default. -/
def replyAt {α : Type} (default : Reply α) (replies : List (Reply α)) (n : Nat) : Reply α :=
  (replies[n]?.or replies.getLast?).getD default

end KeyPlan
