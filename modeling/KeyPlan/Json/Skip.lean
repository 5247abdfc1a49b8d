import KeyPlan.Json.Scan

/-!
# Skipping a JSON value

A value that nobody wants is only checked for its form. The machine takes one character at a time;
its state is the containers that are open and what is due in the innermost one, so a value may be
nested as deep as it likes. Numbers have no range here and an escape need not name a character.

## Main definitions

* `Frame`, `Phase`: the open containers and what is due
* `step`: one character
* `skipValue`: the text after a value
-/

namespace KeyPlan.Json

/-- The kinds of containers. -/
inductive Frame where
  | list
  | object
  deriving DecidableEq, Repr

/-- The part of a text that the container is. -/
def Frame.part : Frame → Part
  | .list => .list
  | .object => .object

/-- The bracket that closes the container. -/
def Frame.close : Frame → Char
  | .list => ']'
  | .object => '\x7d'

/-- What a container misses when neither a comma nor its end follows a value. -/
def Frame.missing : Frame → Error
  | .list => .expectedListEnd
  | .object => .expectedObjectEnd

/-- **What is due**: a value, a key, the rest of a word, number or string, or what follows a
value. A string that is a key has a colon after it. -/
inductive Phase where
  | value
  | firstItem
  | firstKey
  | key
  | colon
  | word (rest : List Char)
  | minus
  | zero
  | whole
  | point
  | fraction
  | mark
  | sign
  | exponent
  | string (isKey : Bool)
  | escape (isKey : Bool)
  | after
  deriving DecidableEq, Repr

/-- What one character leads to. -/
inductive Move where
  /-- The machine goes on after the character. -/
  | go (frames : List Frame) (phase : Phase)
  /-- The value has ended before the character. -/
  | stop
  /-- The text is refused. -/
  | fail (cause : Error)
  deriving DecidableEq, Repr

/-- The character that starts a value. -/
def stepValue (frames : List Frame) (c : Char) : Move :=
  if isSpace c then .go frames .value
  else if c = 'n' then .go frames (.word ['u', 'l', 'l'])
  else if c = 't' then .go frames (.word ['r', 'u', 'e'])
  else if c = 'f' then .go frames (.word ['a', 'l', 's', 'e'])
  else if c = '-' then .go frames .minus
  else if c = '0' then .go frames .zero
  else if c.isDigit then .go frames .whole
  else if c = '"' then .go frames (.string false)
  else if c = '[' then .go (.list :: frames) .firstItem
  else if c = '\x7b' then .go (.object :: frames) .firstKey
  else .fail .expectedValue

/-- The character that starts a key. -/
def stepKey (frames : List Frame) (c : Char) : Move :=
  if isSpace c then .go frames .key
  else if c = '"' then .go frames (.string true)
  else .fail .keyNotString

/-- The character after a value. -/
def stepAfter (frames : List Frame) (c : Char) : Move :=
  match frames with
  | [] => .stop
  | frame :: outer =>
    if isSpace c then .go frames .after
    else if c = frame.close then .go outer .after
    else if c = ',' then
      match frame with
      | .list => .go frames .value
      | .object => .go frames .key
    else .fail frame.missing

/-- The character after digits, which may go on with the given phases. -/
def stepNumber (frames : List Frame) (digits point mark : Option Phase) (c : Char) : Move :=
  match (if c.isDigit then digits
    else if c = '.' then point
    else if c = 'e' ∨ c = 'E' then mark
    else none) with
  | some phase => .go frames phase
  | none => stepAfter frames c

/-- **One character**, where `ahead` is the text that follows it. -/
def step (frames : List Frame) (phase : Phase) (c : Char) (ahead : List Char) : Move :=
  match phase with
  | .value => stepValue frames c
  | .firstItem =>
    if isSpace c then .go frames .firstItem
    else if c = ']' then .go frames.tail .after
    else stepValue frames c
  | .firstKey =>
    if isSpace c then .go frames .firstKey
    else if c = '\x7d' then .go frames.tail .after
    else stepKey frames c
  | .key => stepKey frames c
  | .colon =>
    if isSpace c then .go frames .colon
    else if c = ':' then .go frames .value
    else .fail .expectedColon
  | .word [] => stepAfter frames c
  | .word [w] => if c = w then .go frames .after else .fail .expectedIdent
  | .word (w :: rest) => if c = w then .go frames (.word rest) else .fail .expectedIdent
  | .minus =>
    if c = '0' then .go frames .zero
    else if c.isDigit then .go frames .whole
    else .fail .invalidNumber
  | .zero =>
    if c.isDigit then .fail .invalidNumber
    else stepNumber frames none (some .point) (some .mark) c
  | .whole => stepNumber frames (some .whole) (some .point) (some .mark) c
  | .point => if c.isDigit then .go frames .fraction else .fail .invalidNumber
  | .fraction => stepNumber frames (some .fraction) none (some .mark) c
  | .mark =>
    if c = '+' ∨ c = '-' then .go frames .sign
    else if c.isDigit then .go frames .exponent
    else .fail .invalidNumber
  | .sign => if c.isDigit then .go frames .exponent else .fail .invalidNumber
  | .exponent => stepNumber frames (some .exponent) none none c
  | .string isKey =>
    if c = '"' then .go frames (if isKey then .colon else .after)
    else if c = '\\' then .go frames (.escape isKey)
    else if c.toNat < 32 then .fail .controlCharacter
    else .go frames (.string isKey)
  | .escape isKey =>
    if c = 'u' then
      match ahead with
      | h₁ :: h₂ :: h₃ :: h₄ :: _ =>
        if (hexValue? h₁ h₂ h₃ h₄).isSome then .go frames (.string isKey) else .fail .invalidEscape
      | _ => .fail (hexError ahead)
    else if (shortEscape? c).isSome then .go frames (.string isKey)
    else .fail .invalidEscape
  | .after => stepAfter frames c

/-- Where a value may end: the end of the text is an error inside of a container. -/
def endAfter (frames : List Frame) : Except Error (List Char) :=
  match frames with
  | [] => .ok []
  | frame :: _ => .error (.ended frame.part)

/-- The end of the text. -/
def stepEnd (frames : List Frame) (phase : Phase) : Except Error (List Char) :=
  match phase with
  | .value => .error (.ended .value)
  | .firstItem => .error (.ended .list)
  | .firstKey | .key | .colon => .error (.ended .object)
  | .word [] => endAfter frames
  | .word _ => .error (.ended .value)
  | .minus | .point | .mark | .sign => .error .invalidNumber
  | .string _ | .escape _ => .error (.ended .string)
  | .zero | .whole | .fraction | .exponent | .after => endAfter frames

/-- The text after the value that the machine is in. -/
def skipFrom (frames : List Frame) (phase : Phase) : List Char → Except Error (List Char)
  | [] => stepEnd frames phase
  | c :: s =>
    match step frames phase c s with
    | .go frames phase => skipFrom frames phase s
    | .stop => .ok (c :: s)
    | .fail cause => .error cause

/-- **The text after a value.** -/
def skipValue (s : List Char) : Except Error (List Char) :=
  skipFrom [] .value s

end KeyPlan.Json
