import KeyPlan.Json.Scan

/-!
# Writing JSON

Values as JSON texts, either on one line without blanks or with one member per line. In a string
only the quote, the backslash and the controls are escaped.

## Main definitions

* `writeString`: a string between quotes
* `writeList`, `writeObject`: containers on one line
* `writeIndented`: an object with one member per line
-/

namespace KeyPlan.Json

/-- A hexadecimal digit in lower case. -/
def hexDigit (n : Nat) : Char := Nat.digitChar n

/-- **How a character is written in a string.** -/
def escape (c : Char) : List Char :=
  if c = '"' then ['\\', '"']
  else if c = '\\' then ['\\', '\\']
  else if c = '\x08' then ['\\', 'b']
  else if c = '\x0c' then ['\\', 'f']
  else if c = '\n' then ['\\', 'n']
  else if c = '\r' then ['\\', 'r']
  else if c = '\t' then ['\\', 't']
  else if c.toNat < 32 then
    ['\\', 'u', '0', '0', hexDigit (c.toNat / 16), hexDigit (c.toNat % 16)]
  else [c]

/-- **A string between quotes.** -/
def writeString (s : String) : List Char :=
  '"' :: (s.toList.flatMap escape ++ ['"'])

/-- A natural number. -/
def writeNat (n : Nat) : List Char := Nat.toDigits 10 n

/-- The texts with commas between them. -/
def withCommas : List (List Char) → List Char
  | [] => []
  | [x] => x
  | x :: y :: rest => x ++ ',' :: withCommas (y :: rest)

/-- A list of written items. -/
def writeList (items : List (List Char)) : List Char :=
  '[' :: (withCommas items ++ [']'])

/-- A member of an object. -/
def writeMember (m : String × List Char) : List Char :=
  writeString m.1 ++ ':' :: m.2

/-- **An object** of written members on one line. -/
def writeObject (members : List (String × List Char)) : List Char :=
  '\x7b' :: (withCommas (members.map writeMember) ++ ['\x7d'])

/-- A member on a line of its own, two places in. -/
def writeIndentedMember (m : String × List Char) : List Char :=
  '\n' :: ' ' :: ' ' :: (writeString m.1 ++ ':' :: ' ' :: m.2)

/-- **An object with one member per line.** -/
def writeIndented (members : List (String × List Char)) : List Char :=
  '\x7b' :: (withCommas (members.map writeIndentedMember) ++ ['\n', '\x7d'])

end KeyPlan.Json
