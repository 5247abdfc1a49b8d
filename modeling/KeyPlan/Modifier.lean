import KeyPlan.Text.Case

/-!
# Modifiers

The four keys that are held during a key press. Each has a name, a glyph and a few words that spell
it in instructions, whatever their letter case.

## Main definitions

* `Modifier`, `Modifier.all`: the four modifiers, in the order in which they are shown
* `Modifier.glyph`, `Modifier.ofGlyph?`: a modifier as one character
* `Modifier.words`, `Modifier.ofWord?`: a modifier as a word
* `Modifier.bit`: the bit of a modifier in the word of a set

## Main results

* `Modifier.ofGlyph?_glyph`, `Modifier.glyph_of_ofGlyph?`, `Modifier.glyph_inj`: glyphs and
  modifiers correspond
* `Modifier.bit_and_bit`: each modifier has a bit of its own
-/

namespace KeyPlan

/-- **A modifier key.** -/
inductive Modifier where
  | command
  | shift
  | option
  | control
  deriving DecidableEq, Repr

namespace Modifier

/-- The modifiers in the order in which they are shown. -/
def all : List Modifier := [control, option, shift, command]

/-- The modifiers in the order of their ranks. -/
def ranked : List Modifier := [command, shift, option, control]

/-- The name of the modifier. -/
def name : Modifier → String
  | command => "command"
  | shift => "shift"
  | option => "option"
  | control => "control"

/-- The modifier of a name. -/
def ofName? (s : String) : Option Modifier :=
  ranked.find? fun m => m.name == s

/-- The modifier as one character. -/
def glyph : Modifier → Char
  | command => '⌘'
  | shift => '⇧'
  | option => '⌥'
  | control => '⌃'

/-- The modifier of a glyph. -/
def ofGlyph? (c : Char) : Option Modifier :=
  ranked.find? fun m => m.glyph == c

/-- The words that spell the modifier. -/
def words : Modifier → List String
  | command => ["cmd", "command"]
  | shift => ["shift"]
  | option => ["opt", "option", "alt"]
  | control => ["ctrl", "control"]

/-- **The modifier that a word spells**, in any letter case. -/
def ofWord? (word : List Char) : Option Modifier :=
  let w := String.ofList (Text.lower word)
  ranked.find? fun m => m.words.contains w

/-- **The bit of the modifier** in the word of a set. -/
def bit : Modifier → UInt8
  | command => 1
  | shift => 2
  | option => 4
  | control => 8

theorem mem_all (m : Modifier) : m ∈ all := by
  cases m <;> decide

@[simp] theorem ofGlyph?_glyph (m : Modifier) : ofGlyph? m.glyph = some m := by
  cases m <;> decide

@[simp] theorem ofName?_name (m : Modifier) : ofName? m.name = some m := by
  cases m <;> decide

/-- A character that is a modifier's glyph is the glyph of that modifier. -/
theorem glyph_of_ofGlyph? {c : Char} {m : Modifier} (h : ofGlyph? c = some m) : m.glyph = c := by
  simpa using List.find?_some h

theorem glyph_inj {m n : Modifier} : m.glyph = n.glyph ↔ m = n := by
  constructor
  · intro h
    have hsome := ofGlyph?_glyph m
    rw [h, ofGlyph?_glyph] at hsome
    exact (Option.some.inj hsome).symm
  · exact congrArg glyph

theorem ofGlyph?_eq_none_iff {c : Char} : ofGlyph? c = none ↔ ∀ m : Modifier, m.glyph ≠ c := by
  constructor
  · rintro h m rfl
    rw [ofGlyph?_glyph] at h
    exact nomatch h
  · intro h
    exact Option.eq_none_iff_forall_ne_some.mpr fun m hm => h m (glyph_of_ofGlyph? hm)

/-- The bits are the four lowest ones. -/
theorem bit_lt (m : Modifier) : m.bit < 16 := by
  cases m <;> decide

/-- **Each modifier has a bit of its own.** -/
theorem bit_and_bit (m n : Modifier) : m.bit &&& n.bit = if m = n then m.bit else 0 := by
  cases m <;> cases n <;> decide

theorem bit_ne_zero (m : Modifier) : m.bit ≠ 0 := by
  cases m <;> decide

end Modifier

end KeyPlan
