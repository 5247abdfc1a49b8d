import KeyPlan.Json.Reader
import KeyPlan.Json.Writer
import KeyPlan.Step
import KeyPlan.Text.Search

/-!
# Plans as JSON

A plan is a JSON list of steps. It may come with prose around it and inside of a fenced block; the
list is what lies between the first opening and the last closing bracket once the fences are gone.

## Main definitions

* `Step.write`, `Step.writeAll`: the JSON texts of a step and of a plan
* `Step.reader`: a step from a JSON text
* `Step.cutList`: the list in a text with prose and fences around it
* `Step.decode`: the steps of a plan
-/

namespace KeyPlan.Step

open Json (Reader)

/-- The JSON text of a step. -/
def write (s : Step) : List Char :=
  Json.writeObject
    [("name", Json.writeString s.name), ("instruction", Json.writeString s.instruction),
      ("description", Json.writeString s.description)]

/-- **The JSON text of a plan.** -/
def writeAll (steps : List Step) : List Char :=
  Json.writeList (steps.map write)

/-- The fields of a step that are read so far. -/
structure Fields where
  name : Option String := none
  instruction : Option String := none
  description : Option String := none

/-- The keys of the instruction. -/
def instructionKeys : List String := ["instruction", "action", "raw_instruction"]

/-- One member of a step. -/
def Fields.add (f : Fields) (key : String) : Reader Fields := fun s => do
  if key = "name" then
    let (name, s) ← Json.fill key f.name Json.readString s
    return ({ f with name }, s)
  else if instructionKeys.contains key then
    let (instruction, s) ← Json.fill "instruction" f.instruction Json.readString s
    return ({ f with instruction }, s)
  else if key = "description" then
    let (description, s) ← Json.fill key f.description Json.readString s
    return ({ f with description }, s)
  else return (f, ← Json.skipMember s)

/-- A step as an object: only the instruction is required. -/
def readMembers : Reader Step := fun s => do
  let (f, s) ← Json.readMembers Fields.add {} s
  let instruction ← Json.require "instruction" f.instruction
  return (⟨f.name.getD "", instruction, f.description.getD ""⟩, s)

/-- A step as a list of its fields, of which the description may be left out. -/
def readItems : Reader Step := fun s => do
  let (name, s) ← Json.readItem? true Json.readString s
  let (instruction, s) ←
    Json.readFieldAt "struct GeneratedStep with 3 elements" 1 Json.readString s
  let (description, s) ← Json.readItem? false Json.readString s
  return (⟨name.getD "", instruction, description.getD ""⟩, s)

/-- **A step.** -/
def reader : Reader Step :=
  Json.readRecord "struct GeneratedStep" readItems readMembers

/-- The mark that opens or closes a fenced block. -/
def fence : List Char := ['\x60', '\x60', '\x60']

/-- The mark that opens a fenced block of JSON. -/
def jsonFence : List Char := fence ++ ['j', 's', 'o', 'n']

/-- The text from its first opening to its last closing bracket, if it has them in this order. A
bracket that is missing leaves that end as it is. -/
def cutList (s : List Char) : List Char :=
  let start := (s.findIdx? (· == '[')).getD 0
  let stop := s.length - (s.reverse.findIdx? (· == ']')).getD 0
  if start < stop then (s.take stop).drop start else s

/-- **The steps of a plan** in a text that may have prose and fences around the list. -/
def decode (raw : String) : Except Json.Error (List Step) :=
  let plain := Text.removeAll fence (Text.removeAll jsonFence raw.toList)
  Json.readWholeText (Json.readList reader) (Text.trim (cutList plain))

end KeyPlan.Step
