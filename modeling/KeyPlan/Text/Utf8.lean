/-!
# UTF-8

Text from octets. The machine reads one octet at a time and stands either between characters or
inside one, where it knows how many octets are owed and in which range the next one lies. It refuses
at the first octet that no character allows, and names where the broken character starts.

## Main definitions

* `Utf8Error`, `Utf8Error.message`: why octets are no text
* `decodeUtf8`: the characters of a sequence of octets
* `encodeUtf8`: the octets of a text
-/

namespace KeyPlan.Text

/-- Why octets are no UTF-8 text. -/
inductive Utf8Error where
  /-- The character that starts at `start` cannot go on after `count` octets. -/
  | invalid (count start : Nat)
  /-- The octets end inside the character that starts at `start`. -/
  | incomplete (start : Nat)
  deriving DecidableEq, Repr

/-- The text of the error. -/
def Utf8Error.message : Utf8Error → String
  | .invalid count start =>
    "invalid utf-8 sequence of " ++ toString count ++ " bytes from index " ++ toString start
  | .incomplete start => "incomplete utf-8 byte sequence from index " ++ toString start

/-- **Inside a character**: `seen` octets are read and give `value`, `owed` are to come, and the
next one lies between `low` and `high`. Between characters nothing is owed. -/
structure Utf8State where
  owed : Nat := 0
  low : Nat := 0x80
  high : Nat := 0xBF
  value : Nat := 0
  seen : Nat := 0
  deriving DecidableEq, Repr

/-- The state after the first octet of a character of several octets. -/
def Utf8State.lead? (b : Nat) : Option Utf8State :=
  if 0xC2 ≤ b ∧ b ≤ 0xDF then some ⟨1, 0x80, 0xBF, b - 0xC0, 1⟩
  else if b = 0xE0 then some ⟨2, 0xA0, 0xBF, 0, 1⟩
  else if b = 0xED then some ⟨2, 0x80, 0x9F, 0xD, 1⟩
  else if 0xE1 ≤ b ∧ b ≤ 0xEF then some ⟨2, 0x80, 0xBF, b - 0xE0, 1⟩
  else if b = 0xF0 then some ⟨3, 0x90, 0xBF, 0, 1⟩
  else if 0xF1 ≤ b ∧ b ≤ 0xF3 then some ⟨3, 0x80, 0xBF, b - 0xF0, 1⟩
  else if b = 0xF4 then some ⟨3, 0x80, 0x8F, 4, 1⟩
  else none

/-- The characters of the octets, where the current character starts at `start`. -/
def decodeUtf8From (start : Nat) (state : Utf8State) : List UInt8 → Except Utf8Error (List Char)
  | [] => if state.owed = 0 then .ok [] else .error (.incomplete start)
  | b :: octets =>
    let n := b.toNat
    match state.owed with
    | 0 =>
      if n < 0x80 then do
        return Char.ofNat n :: (← decodeUtf8From (start + 1) {} octets)
      else
        match Utf8State.lead? n with
        | some next => decodeUtf8From start next octets
        | none => .error (.invalid 1 start)
    | owed + 1 =>
      if state.low ≤ n ∧ n ≤ state.high then
        let value := state.value * 64 + (n - 0x80)
        match owed with
        | 0 => do return Char.ofNat value :: (← decodeUtf8From (start + state.seen + 1) {} octets)
        | _ + 1 => decodeUtf8From start ⟨owed, 0x80, 0xBF, value, state.seen + 1⟩ octets
      else .error (.invalid state.seen start)

/-- **The characters of a sequence of octets.** -/
def decodeUtf8 (octets : List UInt8) : Except Utf8Error (List Char) :=
  decodeUtf8From 0 {} octets

/-- **The octets of a text.** -/
def encodeUtf8 (s : List Char) : List UInt8 :=
  s.flatMap String.utf8EncodeChar

@[simp] theorem encodeUtf8_nil : encodeUtf8 [] = [] := rfl

theorem encodeUtf8_cons (c : Char) (s : List Char) :
    encodeUtf8 (c :: s) = String.utf8EncodeChar c ++ encodeUtf8 s :=
  List.flatMap_cons

@[simp] theorem encodeUtf8_append (s t : List Char) :
    encodeUtf8 (s ++ t) = encodeUtf8 s ++ encodeUtf8 t :=
  List.flatMap_append

/-- The octets are those of core's strings. -/
theorem toByteArray_encodeUtf8 (s : List Char) :
    (encodeUtf8 s).toByteArray = (String.ofList s).toUTF8 :=
  String.toByteArray_ofList.symm

end KeyPlan.Text
