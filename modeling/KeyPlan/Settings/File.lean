import KeyPlan.FileState
import KeyPlan.Json.Reader
import KeyPlan.Json.Writer
import KeyPlan.Settings

/-!
# The settings file

Settings are kept in a JSON file. A field that is left out has the value of the normal preset, an
unknown one does not matter, and the environment has the last word.

## Main definitions

* `Settings.filePath`: where the file lies in the configuration directory
* `Settings.write`, `Settings.read`: settings as a JSON text
* `Settings.load`: the settings in a file
* `Settings.resolve`: the settings of file and environment
-/

namespace KeyPlan

namespace Settings

open Json (Reader)

/-- Where the settings file lies in the configuration directory. -/
def filePath : String := "shortcut-engine/settings.json"

/-- **The JSON text of settings**, one field per line. -/
def write (s : Settings) : List Char :=
  Json.writeIndented
    [("action_delay_ms", Json.writeNat s.actionDelayMs.toNat),
      ("app_switch_delay_ms", Json.writeNat s.appSwitchDelayMs.toNat),
      ("key_event_delay_us", Json.writeNat s.keyEventDelayUs.toNat),
      ("character_delay_us", Json.writeNat s.characterDelayUs.toNat)]

/-- The fields that are read so far. -/
structure Fields where
  actionDelayMs : Option UInt64 := none
  appSwitchDelayMs : Option UInt64 := none
  keyEventDelayUs : Option UInt64 := none
  characterDelayUs : Option UInt64 := none

/-- The settings of the fields, where the normal preset fills what is left out. -/
def Fields.settings (f : Fields) : Settings where
  actionDelayMs := f.actionDelayMs.getD normal.actionDelayMs
  appSwitchDelayMs := f.appSwitchDelayMs.getD normal.appSwitchDelayMs
  keyEventDelayUs := f.keyEventDelayUs.getD normal.keyEventDelayUs
  characterDelayUs := f.characterDelayUs.getD normal.characterDelayUs

/-- One member of settings. -/
def Fields.add (f : Fields) (key : String) : Reader Fields := fun s => do
  if key = "action_delay_ms" then
    let (v, s) ← Json.fill key f.actionDelayMs Json.readWord s
    return ({ f with actionDelayMs := v }, s)
  else if key = "app_switch_delay_ms" then
    let (v, s) ← Json.fill key f.appSwitchDelayMs Json.readWord s
    return ({ f with appSwitchDelayMs := v }, s)
  else if key = "key_event_delay_us" then
    let (v, s) ← Json.fill key f.keyEventDelayUs Json.readWord s
    return ({ f with keyEventDelayUs := v }, s)
  else if key = "character_delay_us" then
    let (v, s) ← Json.fill key f.characterDelayUs Json.readWord s
    return ({ f with characterDelayUs := v }, s)
  else return (f, ← Json.skipMember s)

/-- Settings as an object. -/
def readMembers : Reader Settings := fun s => do
  let (f, s) ← Json.readMembers Fields.add {} s
  return (f.settings, s)

/-- Settings as a list of their fields, of which the last ones may be left out. -/
def readItems : Reader Settings := fun s => do
  let (a, s) ← Json.readItem? true Json.readWord s
  let (b, s) ← Json.readItem? false Json.readWord s
  let (c, s) ← Json.readItem? false Json.readWord s
  let (d, s) ← Json.readItem? false Json.readWord s
  return (Fields.settings ⟨a, b, c, d⟩, s)

/-- **Settings from a JSON text.** -/
def read (text : List Char) : Except Json.Error Settings :=
  Json.readWholeText (Json.readRecord "struct ExecutionSettings" readItems readMembers) text

/-- **The settings in a file.** -/
def load (file : FileState) : Except Fault Settings :=
  match file.text with
  | .error e => .error (.io e)
  | .ok text => (read text).mapError .json

/-- **The settings of file and environment**: without a file the normal preset is the base. -/
def resolve (file : FileState) (env : String → Option String) : Except Fault Settings := do
  let base ← if file.isPresent then load file else .ok normal
  base.withEnvironment env

end Settings

end KeyPlan
