import KeyPlan.Key
import KeyPlan.Modifier.Set

/-!
# The keyboard

The keys of an ANSI keyboard. A character in upper case and the punctuation above another character
need Shift; each stands on the same key as its base, and each key has a code.

## Main definitions

* `Keyboard.requiresShift`, `Keyboard.baseKey`: the Shift level of a character, and its key
* `Keyboard.modifiersFor`: the modifiers that type a character
* `Keyboard.keyCode?`: the code of a character's key
-/

namespace KeyPlan.Keyboard

/-- The punctuation that needs Shift, each with the character on the same key that does not. -/
def shiftedPairs : List (Char × Char) :=
  [('~', '\x60'), ('!', '1'), ('@', '2'), ('#', '3'), ('$', '4'), ('%', '5'), ('^', '6'),
    ('&', '7'), ('*', '8'), ('(', '9'), (')', '0'), ('_', '-'), ('+', '='), ('\x7b', '['),
    ('\x7d', ']'), ('|', '\\'), (':', ';'), ('"', '\''), ('<', ','), ('>', '.'), ('?', '/')]

/-- The character is typed with Shift. -/
def requiresShift (c : Char) : Bool :=
  c.isUpper || (shiftedPairs.lookup c).isSome

/-- **The key of a character**, named by the character that it types without Shift. -/
def baseKey (c : Char) : Char :=
  if c.isUpper then c.toLower else (shiftedPairs.lookup c).getD c

/-- **The modifiers that type a character**: the requested ones, with Shift if it is needed. -/
def modifiersFor (c : Char) (requested : ModifierSet) : ModifierSet :=
  if requiresShift c then requested.insert .shift else requested

/-- The codes of the keys. -/
def keyCodes : List (Char × Nat) :=
  [('a', 0), ('s', 1), ('d', 2), ('f', 3), ('h', 4), ('g', 5), ('z', 6), ('x', 7), ('c', 8),
    ('v', 9), ('b', 11), ('q', 12), ('w', 13), ('e', 14), ('r', 15), ('y', 16), ('t', 17),
    ('1', 18), ('2', 19), ('3', 20), ('4', 21), ('6', 22), ('5', 23), ('=', 24), ('9', 25),
    ('7', 26), ('-', 27), ('8', 28), ('0', 29), (']', 30), ('o', 31), ('u', 32), ('[', 33),
    ('i', 34), ('p', 35), (Key.enter, 36), ('\n', 36), ('l', 37), ('j', 38), ('\'', 39),
    ('k', 40), (';', 41), ('\\', 42), (',', 43), ('/', 44), ('n', 45), ('m', 46), ('.', 47),
    (Key.tab, 48), (Key.space, 49), ('\x60', 50), (Key.delete, 51), (Key.escape, 53),
    (Key.forwardDelete, 117), (Key.left, 123), (Key.right, 124), (Key.down, 125), (Key.up, 126)]

/-- **The code of a character's key**, if the keyboard has one. -/
def keyCode? (c : Char) : Option Nat :=
  keyCodes.lookup (baseKey c)

end KeyPlan.Keyboard
