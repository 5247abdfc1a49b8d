import KeyPlan.Json.Error

/-!
# JSON words and strings

The parts of a JSON text that need no look at what is wanted: blanks, the three words, and strings.
A string is kept when its characters are wanted, and then every escape has to name a character.

## Main definitions

* `skipSpace`: the text from its first character that is not blank
* `readRest`: the rest of a word whose first letter is known
* `readStringBody`: the characters of a string up to its closing quote
-/

namespace KeyPlan.Json

/-- JSON's blanks: space, tab, line feed and carriage return. -/
def isSpace (c : Char) : Bool :=
  c == ' ' || c == '\t' || c == '\n' || c == '\r'

/-- The text from its first character that is not blank. -/
def skipSpace (s : List Char) : List Char :=
  s.dropWhile isSpace

/-- The text after the rest of a word. -/
def readRest : List Char → List Char → Except Error (List Char)
  | [], s => .ok s
  | _ :: _, [] => .error (.ended .value)
  | w :: word, c :: s => if w = c then readRest word s else .error .expectedIdent

/-- The character that a backslash and this letter stand for. -/
def shortEscape? (c : Char) : Option Char :=
  match c with
  | '"' => some '"'
  | '\\' => some '\\'
  | '/' => some '/'
  | 'b' => some '\x08'
  | 'f' => some '\x0c'
  | 'n' => some '\n'
  | 'r' => some '\r'
  | 't' => some '\t'
  | _ => none

/-- The value of a hexadecimal digit. -/
def hexDigit? (c : Char) : Option Nat :=
  if '0' ≤ c ∧ c ≤ '9' then some (c.toNat - '0'.toNat)
  else if 'a' ≤ c ∧ c ≤ 'f' then some (c.toNat - 'a'.toNat + 10)
  else if 'A' ≤ c ∧ c ≤ 'F' then some (c.toNat - 'A'.toNat + 10)
  else none

/-- The value of four hexadecimal digits. -/
def hexValue? (a b c d : Char) : Option Nat := do
  return (((← hexDigit? a) * 16 + (← hexDigit? b)) * 16 + (← hexDigit? c)) * 16 + (← hexDigit? d)

/-- Why a text has no four hexadecimal digits at its head: it has to have four octets at all. -/
def hexError (s : List Char) : Error :=
  if ((s.take 4).flatMap String.utf8EncodeChar).length < 4 then .ended .string else .invalidEscape

/-- The code unit is the second half of a pair. -/
def isTrailing (n : Nat) : Bool := 0xDC00 ≤ n && n ≤ 0xDFFF

/-- The code unit is the first half of a pair. -/
def isLeading (n : Nat) : Bool := 0xD800 ≤ n && n ≤ 0xDBFF

/-- The character of a pair of code units. -/
def pairChar (lead trail : Nat) : Char :=
  Char.ofNat ((lead - 0xD800) * 0x400 + (trail - 0xDC00) + 0x10000)

/-- The result with one more character at its head. -/
def consChar (c : Char) (r : Except Error (List Char × List Char)) :
    Except Error (List Char × List Char) :=
  r.map fun (t, rest) => (c :: t, rest)

/-- **The characters of a string** up to its closing quote, and what follows the quote. -/
def readStringBody : List Char → Except Error (List Char × List Char)
  | [] => .error (.ended .string)
  | c :: s =>
    if c = '"' then .ok ([], s)
    else if c = '\\' then
      match s with
      | [] => .error (.ended .string)
      | e :: s =>
        if e = 'u' then
          match s with
          | h₁ :: h₂ :: h₃ :: h₄ :: s =>
            match hexValue? h₁ h₂ h₃ h₄ with
            | none => .error .invalidEscape
            | some n =>
              if isTrailing n then .error .loneSurrogate
              else if isLeading n then
                match s with
                | [] => .error (.ended .string)
                | b :: s =>
                  if b ≠ '\\' then .error .brokenEscape
                  else
                    match s with
                    | [] => .error (.ended .string)
                    | u :: s =>
                      if u ≠ 'u' then .error .brokenEscape
                      else
                        match s with
                        | k₁ :: k₂ :: k₃ :: k₄ :: s =>
                          match hexValue? k₁ k₂ k₃ k₄ with
                          | none => .error .invalidEscape
                          | some m =>
                            if isTrailing m then consChar (pairChar n m) (readStringBody s)
                            else .error .loneSurrogate
                        | s => .error (hexError s)
              else consChar (Char.ofNat n) (readStringBody s)
          | s => .error (hexError s)
        else
          match shortEscape? e with
          | some x => consChar x (readStringBody s)
          | none => .error .invalidEscape
    else if c.toNat < 32 then .error .controlCharacter
    else consChar c (readStringBody s)

@[simp] theorem skipSpace_nil : skipSpace [] = [] := rfl

end KeyPlan.Json
