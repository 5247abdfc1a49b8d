import KeyPlan.Text.Case

/-!
# Keys

A key is named by the character that it types. Keys that type no visible character have one of the
control characters or an arrow as their name, and a label of their own.

## Main definitions

* `Key.enter`, `Key.tab`, `Key.space`, ...: the keys without a visible character
* `Key.aliases`, `Key.ofWord?`: the words and glyphs that name a key in instructions
* `Key.label`: how a key is shown
-/

namespace KeyPlan.Key

/-- The return key. -/
def enter : Char := '\r'

/-- The tabulator key. -/
def tab : Char := '\t'

/-- The space bar. -/
def space : Char := ' '

/-- The escape key. -/
def escape : Char := '\x1b'

/-- The key that deletes the character before the cursor. -/
def delete : Char := '\x08'

/-- The key that deletes the character after the cursor. -/
def forwardDelete : Char := '\x7f'

/-- The arrow key to the left. -/
def left : Char := '←'

/-- The arrow key to the right. -/
def right : Char := '→'

/-- The arrow key upwards. -/
def up : Char := '↑'

/-- The arrow key downwards. -/
def down : Char := '↓'

/-- The keys without a visible character and the words and glyphs that name them. -/
def aliases : List (Char × List String) :=
  [(enter, ["↵", "⏎", "return", "enter"]), (space, ["space", "␣"]), (tab, ["tab", "⇥"]),
    (escape, ["escape", "esc", "⎋"]), (delete, ["delete", "backspace", "⌫"]),
    (forwardDelete, ["forwarddelete", "⌦"]), (left, ["left"]), (right, ["right"]), (up, ["up"]),
    (down, ["down"])]

/-- The key that a word names, in any letter case. -/
def ofAlias? (word : List Char) : Option Char :=
  let w := String.ofList (Text.lower word)
  (aliases.find? fun (_, names) => names.contains w).map Prod.fst

/-- **The key that a word names**: one of the aliases, or a single character, where an ASCII capital
stands for the key of its small letter. -/
def ofWord? (word : List Char) : Option Char :=
  match ofAlias? word with
  | some key => some key
  | none =>
    match word with
    | [c] => some c.toLower
    | _ => none

/-- **How a key is shown**: by its glyph if it has one, otherwise in upper case. -/
def label (key : Char) : List Char :=
  if key = enter then ['↵']
  else if key = tab then ['⇥']
  else if key = space then ['S', 'p', 'a', 'c', 'e']
  else if key = escape then ['⎋']
  else if key = delete then ['⌫']
  else if key = forwardDelete then ['⌦']
  else Text.upperChar key

end KeyPlan.Key
