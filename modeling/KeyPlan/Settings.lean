import KeyPlan.Fault
import KeyPlan.Text.Blank
import KeyPlan.Text.Case
import KeyPlan.Text.Numeral

/-!
# Settings

How fast a plan runs: the pauses between and within its actions. There are three presets, and the
environment may choose one of them and override each pause on its own.

## Main definitions

* `Speed`, `Speed.parse`: the presets and the words for them
* `Settings`, `Settings.preset`: the pauses
* `Settings.withEnvironment`: the pauses after the environment's overrides
-/

namespace KeyPlan

/-- **A speed preset.** -/
inductive Speed where
  | slow
  | normal
  | fast
  deriving DecidableEq, Repr

namespace Speed

/-- The presets, slowest first. -/
def all : List Speed := [slow, normal, fast]

/-- The name of the preset. -/
def name : Speed → String
  | slow => "slow"
  | normal => "normal"
  | fast => "fast"

/-- The name of the preset with a capital. -/
def title : Speed → String
  | slow => "Slow"
  | normal => "Normal"
  | fast => "Fast"

/-- The words for the preset. -/
def words : Speed → List String
  | slow => ["slow"]
  | normal => ["normal", "default"]
  | fast => ["fast"]

/-- **The preset of a word**, in any letter case and with blanks around it. -/
def parse (s : String) : Except Fault Speed :=
  let word := String.ofList (Text.lower (Text.trim s.toList))
  match all.find? fun p => p.words.contains word with
  | some p => .ok p
  | none => .error (.config ("unknown speed preset '" ++ word ++ "'"))

end Speed

/-- **The pauses of a plan**: after an action and after a switch in milliseconds, between the two
events of a key press and between two characters in microseconds. -/
structure Settings where
  actionDelayMs : UInt64
  appSwitchDelayMs : UInt64
  keyEventDelayUs : UInt64
  characterDelayUs : UInt64
  deriving DecidableEq, Repr

namespace Settings

/-- **The pauses of a preset.** -/
def preset : Speed → Settings
  | .slow => ⟨300, 1000, 20000, 16000⟩
  | .normal => ⟨150, 500, 10000, 8000⟩
  | .fast => ⟨50, 250, 5000, 3000⟩

/-- The pauses when nothing else is said. -/
def normal : Settings := preset .normal

/-- The whole milliseconds that a pause of microseconds takes, rounded up. -/
def ceilMs (us : Nat) : Nat := (us + 999) / 1000

/-- The pause after an action, in milliseconds. -/
def actionDelay (s : Settings) : Nat := s.actionDelayMs.toNat

/-- The pause after a switch, in milliseconds. -/
def appSwitchDelay (s : Settings) : Nat := s.appSwitchDelayMs.toNat

/-- The pause within a key press, in milliseconds. -/
def keyEventDelay (s : Settings) : Nat := ceilMs s.keyEventDelayUs.toNat

/-- The pause between characters, in milliseconds. -/
def characterDelay (s : Settings) : Nat := ceilMs s.characterDelayUs.toNat

/-! ## The environment -/

/-- The variable that chooses a preset. -/
def speedVariable : String := "SHORTCUT_SPEED"

/-- The variable of the pause after an action. -/
def actionDelayVariable : String := "SHORTCUT_ACTION_DELAY_MS"

/-- The variable of the pause after a switch. -/
def appSwitchDelayVariable : String := "SHORTCUT_APP_SWITCH_DELAY_MS"

/-- The variable of the pause within a key press. -/
def keyEventDelayVariable : String := "SHORTCUT_KEY_EVENT_DELAY_US"

/-- The variable of the pause between characters. -/
def characterDelayVariable : String := "SHORTCUT_CHARACTER_DELAY_US"

/-- The value of the variable `name`, which holds a word, or `base` if it is not set. -/
def override (env : String → Option String) (name : String) (base : UInt64) :
    Except Fault UInt64 :=
  match env name with
  | none => .ok base
  | some raw =>
    match Text.readWord? (Text.trim raw.toList) with
    | some n => .ok n
    | none =>
      .error (.config (name ++ " must be a non-negative integer, got '" ++ raw ++ "'"))

/-- **The pauses after the environment's overrides**: first the preset, then each pause, and the
first variable that makes no sense is reported. -/
def withEnvironment (env : String → Option String) (s : Settings) : Except Fault Settings := do
  let base ←
    match env speedVariable with
    | some word => (Speed.parse word).map preset
    | none => .ok s
  let actionDelayMs ← override env actionDelayVariable base.actionDelayMs
  let appSwitchDelayMs ← override env appSwitchDelayVariable base.appSwitchDelayMs
  let keyEventDelayUs ← override env keyEventDelayVariable base.keyEventDelayUs
  let characterDelayUs ← override env characterDelayVariable base.characterDelayUs
  return ⟨actionDelayMs, appSwitchDelayMs, keyEventDelayUs, characterDelayUs⟩

end Settings

end KeyPlan
