import KeyPlan.Double.Shortest
import KeyPlan.Text.Quoted

/-!
# JSON errors

Why a text is refused: it ends too early, it is not JSON, or it is JSON of another shape than the
reader wants. A reader works strictly from left to right and reports the first cause it meets.

## Main definitions

* `Found`: what a reader met where it wanted something else
* `Error`: the causes
* `Error.category`, `Error.message`: the kind of a cause and its text
-/

namespace KeyPlan.Json

/-- What the text ends inside of. -/
inductive Part where
  | value
  | list
  | object
  | string
  deriving DecidableEq, Repr

/-- The part in words. -/
def Part.phrase : Part → String
  | .value => "a value"
  | .list => "a list"
  | .object => "an object"
  | .string => "a string"

/-- What a reader met where it wanted something else. -/
inductive Found where
  | null
  | boolean (b : Bool)
  | integer (i : Int)
  | floating (x : Double)
  | string (s : String)
  | sequence
  | object
  deriving DecidableEq, Repr

/-- **Why a text is refused.** -/
inductive Error where
  | ended (inside : Part)
  | expectedValue
  | expectedIdent
  | expectedColon
  | expectedListEnd
  | expectedObjectEnd
  | trailingComma
  | trailingCharacters
  | keyNotString
  | invalidNumber
  | numberOutOfRange
  | invalidEscape
  | brokenEscape
  | loneSurrogate
  | controlCharacter
  | tooDeep
  | invalidType (found : Found) (expected : String)
  | invalidValue (found : Found) (expected : String)
  | invalidLength (length : Nat) (expected : String)
  | missingField (name : String)
  | duplicateField (name : String)
  | unknownVariant (name : String) (known : List String)
  deriving DecidableEq, Repr

/-- The kinds of causes: no JSON, JSON of the wrong shape, and a text that ends too early. -/
inductive Category where
  | malformed
  | data
  | eof
  deriving DecidableEq, Repr

/-- The kind of a cause. -/
def Error.category : Error → Category
  | .ended _ => .eof
  | .invalidType .. | .invalidValue .. | .invalidLength .. | .missingField _ | .duplicateField _
  | .unknownVariant .. => .data
  | _ => .malformed

/-- An exponent has a sign and no leading zero. -/
def exponentText (e : Int) : String :=
  "e" ++ (if e < 0 then "-" else "+") ++ toString e.natAbs

/-- **The text of a floating point number**: its shortest digits, positional from 0.00001 to below
10^16 with at least one place, otherwise with an exponent. -/
def floatText (x : Double) : String :=
  let sign := if x.negative then "-" else ""
  if x.isZero then sign ++ "0.0"
  else
    let d := x.shortest
    let digits := toString d.digits
    let zeros (n : Nat) : String := String.ofList (List.replicate n '0')
    let point : Int := digits.length + d.exponent
    let cut (n : Nat) : String × String :=
      (String.ofList (digits.toList.take n), String.ofList (digits.toList.drop n))
    if 0 ≤ d.exponent ∧ point ≤ 16 then sign ++ digits ++ zeros d.exponent.toNat ++ ".0"
    else if 0 < point ∧ point ≤ 16 then
      let (whole, places) := cut point.toNat
      sign ++ whole ++ "." ++ places
    else if -5 < point ∧ point ≤ 0 then sign ++ "0." ++ zeros point.natAbs ++ digits
    else
      let (lead, places) := cut 1
      sign ++ lead ++ (if places.isEmpty then "" else "." ++ places) ++ exponentText (point - 1)

/-- A word between grave accents. -/
def accented (s : String) : String := "`" ++ s ++ "`"

/-- What was met, in words. -/
def Found.describe : Found → String
  | .null => "null"
  | .boolean b => "boolean " ++ accented (if b then "true" else "false")
  | .integer i => "integer " ++ accented (toString i)
  | .floating x => "floating point " ++ accented (floatText x)
  | .string s => "string " ++ String.ofList (Text.quoted s.toList)
  | .sequence => "sequence"
  | .object => "map"

/-- **The text of a cause.** -/
def Error.message : Error → String
  | .ended inside => "EOF while parsing " ++ inside.phrase
  | .expectedValue => "expected value"
  | .expectedIdent => "expected ident"
  | .expectedColon => "expected `:`"
  | .expectedListEnd => "expected `,` or `]`"
  | .expectedObjectEnd => "expected `,` or `\x7d`"
  | .trailingComma => "trailing comma"
  | .trailingCharacters => "trailing characters"
  | .keyNotString => "key must be a string"
  | .invalidNumber => "invalid number"
  | .numberOutOfRange => "number out of range"
  | .invalidEscape => "invalid escape"
  | .brokenEscape => "unexpected end of hex escape"
  | .loneSurrogate => "lone leading surrogate in hex escape"
  | .controlCharacter => "control character (\\u0000-\\u001F) found while parsing a string"
  | .tooDeep => "recursion limit exceeded"
  | .invalidType found expected => "invalid type: " ++ found.describe ++ ", expected " ++ expected
  | .invalidValue found expected => "invalid value: " ++ found.describe ++ ", expected " ++ expected
  | .invalidLength length expected =>
    "invalid length " ++ toString length ++ ", expected " ++ expected
  | .missingField name => "missing field " ++ accented name
  | .duplicateField name => "duplicate field " ++ accented name
  | .unknownVariant name known =>
    "unknown variant " ++ accented name ++ ", expected one of " ++
      ", ".intercalate (known.map accented)

end KeyPlan.Json
