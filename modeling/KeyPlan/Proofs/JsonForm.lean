import KeyPlan.Proofs.JsonContent

/-!
# Skipping what the grammar allows

The grammar of JSON tells what a value looks like, with blanks wherever they may stand. The machine
that skips a value has no grammar, only one character after another. It still takes a text of the
grammar as a whole: whatever containers are open around it, it ends where a value has been read, and
these containers are open again.

## Main definitions

* `Quoted`, `Numeric`: what stands between the quotes of a string, and a number
* `Shape`, `Form`: the texts of the grammar, by their shape
* `Shape.Within`: the containers that may be open around a text

## Main results

* `Quoted.skip`, `Numeric.skip`: strings and numbers are passed
* `Form.skip`: a text of the grammar is passed
* `Form.skipValue`: what is left of a text that starts with a value
-/

namespace KeyPlan.Json

/-! ## The grammar -/

/-- One or more digits. -/
def Digits (s : List Char) : Prop := s ≠ [] ∧ ∀ c ∈ s, c.isDigit = true

/-- The character stands for itself in a string. -/
def isPlain (c : Char) : Bool := c != '"' && c != '\\' && 32 ≤ c.toNat

/-- **What stands between the quotes of a string**: plain characters, escapes by a letter, and
escapes by a code unit, which may be half a surrogate pair. -/
inductive Quoted : List Char → Prop where
  | nil : Quoted []
  | plain {c : Char} {s : List Char} (plain : isPlain c = true) (tail : Quoted s) :
      Quoted (c :: s)
  | short {e : Char} {s : List Char} (letter : e ∈ ['"', '\\', '/', 'b', 'f', 'n', 'r', 't'])
      (tail : Quoted s) : Quoted ('\\' :: e :: s)
  | hex {h₁ h₂ h₃ h₄ : Char} {s : List Char}
      (digits : (hexValue? h₁ h₂ h₃ h₄).isSome = true) (tail : Quoted s) :
      Quoted ('\\' :: 'u' :: h₁ :: h₂ :: h₃ :: h₄ :: s)

/-- A fraction, or nothing. -/
def Fraction (s : List Char) : Prop := s = [] ∨ ∃ ds, Digits ds ∧ s = '.' :: ds

/-- An exponent, or nothing. -/
def Exponent (s : List Char) : Prop :=
  s = [] ∨ ∃ mark sign ds, (mark = 'e' ∨ mark = 'E') ∧ (sign = [] ∨ sign = ['+'] ∨ sign = ['-']) ∧
    Digits ds ∧ s = mark :: (sign ++ ds)

/-- **A number**, of any size: no zero stands in front of other digits. -/
inductive Numeric : List Char → Prop where
  | intro {minus whole fraction exponent : List Char} (sign : minus = [] ∨ minus = ['-'])
      (digits : whole = ['0'] ∨ Digits whole ∧ whole.head? ≠ some '0')
      (point : Fraction fraction) (scale : Exponent exponent) :
      Numeric (minus ++ (whole ++ (fraction ++ exponent)))

/-- A natural number is written as one. -/
theorem numeric_writeNat (n : Nat) : Numeric (writeNat n) := by
  have hwhole : writeNat n = ['0'] ∨ Digits (writeNat n) ∧ (writeNat n).head? ≠ some '0' := by
    by_cases hn : n = 0
    · exact .inl (hn ▸ rfl)
    · exact .inr ⟨⟨writeNat_ne_nil n, fun _ => isDigit_of_mem_writeNat⟩, head?_writeNat_ne_zero hn⟩
  simpa using Numeric.intro (.inl rfl) hwhole (.inl rfl) (.inl rfl)

/-- The bracket that opens a container. -/
def Frame.opening : Frame → Char
  | .list => '['
  | .object => '\x7b'

/-- **The shapes of texts**: an entry of a list is a value with blanks around it, and one of an
object has a name and a colon in front of that. -/
inductive Shape where
  | value
  | entry (frame : Frame)
  | entries (frame : Frame)

/-- **The texts of the grammar.** -/
inductive Form : Shape → List Char → Prop where
  | word {s : List Char} (mem : s ∈ ["null".toList, "true".toList, "false".toList]) : Form .value s
  | number {s : List Char} (number : Numeric s) : Form .value s
  | string {s : List Char} (body : Quoted s) : Form .value ('"' :: (s ++ ['"']))
  | empty {frame : Frame} {gap : List Char} (blank : Spaces gap) :
      Form .value (frame.opening :: (gap ++ [frame.close]))
  | container {frame : Frame} {s : List Char} (entries : Form (.entries frame) s) :
      Form .value (frame.opening :: (s ++ [frame.close]))
  | item {before s after : List Char} (lead : Spaces before) (value : Form .value s)
      (trail : Spaces after) : Form (.entry .list) (before ++ (s ++ after))
  | member {before name gap s : List Char} (lead : Spaces before) (body : Quoted name)
      (blank : Spaces gap) (item : Form (.entry .list) s) :
      Form (.entry .object) (before ++ '"' :: (name ++ '"' :: (gap ++ ':' :: s)))
  | last {frame : Frame} {s : List Char} (entry : Form (.entry frame) s) : Form (.entries frame) s
  | more {frame : Frame} {s t : List Char} (entry : Form (.entry frame) s)
      (entries : Form (.entries frame) t) : Form (.entries frame) (s ++ ',' :: t)

/-! ## One character -/

variable {frames : List Frame} {phase : Phase}

theorem skipFrom_go {frames' : List Frame} {phase' : Phase} {c : Char} {s : List Char}
    (h : step frames phase c s = .go frames' phase') :
    skipFrom frames phase (c :: s) = skipFrom frames' phase' s := by
  rw [skipFrom, h]

/-- Characters that change nothing are passed. -/
theorem skipFrom_append {run : List Char}
    (h : ∀ c ∈ run, ∀ ahead, step frames phase c ahead = .go frames phase) (s : List Char) :
    skipFrom frames phase (run ++ s) = skipFrom frames phase s := by
  induction run with
  | nil => rfl
  | cons c run ih =>
    rw [List.cons_append, skipFrom_go (h c List.mem_cons_self _),
      ih fun d hd => h d (List.mem_cons_of_mem c hd)]

/-! ## Blanks -/

/-- The machine waits for a value, a key or a colon. -/
def Phase.waits : Phase → Bool
  | value | firstItem | firstKey | key | colon => true
  | _ => false

/-- What is waited for may stand behind blanks. -/
theorem Spaces.skip {gap : List Char} (h : Spaces gap) (hphase : phase.waits = true)
    (s : List Char) : skipFrom frames phase (gap ++ s) = skipFrom frames phase s := by
  refine skipFrom_append (fun c hc ahead => ?_) s
  cases phase with
  | value | firstItem | firstKey | key | colon => simp [step, stepValue, stepKey, h c hc]
  | _ => exact nomatch hphase

/-- Inside of a container blanks may follow a value. -/
theorem Spaces.skip_after {gap : List Char} (h : Spaces gap) (hframes : frames ≠ [])
    (s : List Char) : skipFrom frames .after (gap ++ s) = skipFrom frames .after s := by
  obtain ⟨frame, outer, rfl⟩ := List.exists_cons_of_ne_nil hframes
  exact skipFrom_append (fun c hc ahead => by simp [step, stepAfter, h c hc]) s

/-! ## Strings -/

theorem isPlain_iff {c : Char} : isPlain c = true ↔ c ≠ '"' ∧ c ≠ '\\' ∧ ¬ c.toNat < 32 := by
  simp [isPlain, and_assoc]

/-- A hexadecimal digit is a plain character. -/
theorem isPlain_of_hexDigit {c : Char} {n : Nat} (h : hexDigit? c = some n) :
    isPlain c = true := by
  refine isPlain_iff.mpr ⟨?_, ?_, fun hcontrol => ?_⟩
  · rintro rfl
    exact absurd h (by simp [show hexDigit? '"' = none from rfl])
  · rintro rfl
    exact absurd h (by simp [show hexDigit? '\\' = none from rfl])
  · have hlow {d : Char} (hd : 32 ≤ d.toNat) : ¬ d ≤ c := fun hle =>
      absurd (Nat.le_trans hd (UInt32.le_iff_toNat_le.mp hle)) (Nat.not_le.mpr hcontrol)
    simp [hexDigit?, hlow] at h

theorem isPlain_of_hexValue {h₁ h₂ h₃ h₄ : Char} (h : (hexValue? h₁ h₂ h₃ h₄).isSome = true) :
    ∀ c ∈ [h₁, h₂, h₃, h₄], isPlain c = true := by
  obtain ⟨n, hn⟩ := Option.isSome_iff_exists.mp h
  simp only [hexValue?, Option.bind_eq_bind, Option.bind_eq_some_iff] at hn
  obtain ⟨a, ha, b, hb, c, hc, d, hd, -⟩ := hn
  simp only [List.forall_mem_cons]
  exact ⟨isPlain_of_hexDigit ha, isPlain_of_hexDigit hb, isPlain_of_hexDigit hc,
    isPlain_of_hexDigit hd, List.forall_mem_nil _⟩

/-- **A string is passed** up to its closing quote. -/
theorem Quoted.skip {s : List Char} (h : Quoted s) (isKey : Bool) (rest : List Char) :
    skipFrom frames (.string isKey) (s ++ '"' :: rest) =
      skipFrom frames (if isKey then .colon else .after) rest := by
  have hplain {c : Char} (hc : isPlain c = true) (t : List Char) :
      skipFrom frames (.string isKey) (c :: t) = skipFrom frames (.string isKey) t :=
    skipFrom_go (by simp only [step, isPlain_iff.mp hc, if_false])
  have hescape (t : List Char) :
      skipFrom frames (.string isKey) ('\\' :: t) = skipFrom frames (.escape isKey) t :=
    skipFrom_go rfl
  induction h with
  | nil => exact skipFrom_go rfl
  | plain plain tail ih => rw [List.cons_append, hplain plain, ih]
  | @short e s letter tail ih =>
    have hletter : e ≠ 'u' ∧ (shortEscape? e).isSome = true := by
      simp only [List.mem_cons, List.not_mem_nil, or_false] at letter
      rcases letter with rfl | rfl | rfl | rfl | rfl | rfl | rfl | rfl <;> decide
    have hstep : skipFrom frames (.escape isKey) (e :: (s ++ '"' :: rest)) =
        skipFrom frames (.string isKey) (s ++ '"' :: rest) :=
      skipFrom_go (by simp [step, hletter])
    rw [List.cons_append, List.cons_append, hescape, hstep, ih]
  | @hex h₁ h₂ h₃ h₄ s digits tail ih =>
    -- the machine looks ahead at the digits, and then passes them as plain characters
    have hstep : skipFrom frames (.escape isKey)
        ('u' :: h₁ :: h₂ :: h₃ :: h₄ :: (s ++ '"' :: rest)) =
          skipFrom frames (.string isKey) (h₁ :: h₂ :: h₃ :: h₄ :: (s ++ '"' :: rest)) :=
      skipFrom_go (by simp [step, digits])
    have hdigits := isPlain_of_hexValue digits
    simp only [List.forall_mem_cons] at hdigits
    obtain ⟨hd₁, hd₂, hd₃, hd₄, -⟩ := hdigits
    simp only [List.cons_append]
    rw [hescape, hstep, hplain hd₁, hplain hd₂, hplain hd₃, hplain hd₄, ih]

/-! ## Numbers -/

section Numbers

variable {rest : List Char}

/-- What may follow a value ends a number. -/
theorem Stops.skip_number (h : Stops rest)
    (hphase : phase ∈ [Phase.zero, .whole, .fraction, .exponent]) :
    skipFrom frames phase rest = skipFrom frames .after rest := by
  simp only [List.mem_cons, List.not_mem_nil, or_false] at hphase
  cases rest with
  | nil => rcases hphase with rfl | rfl | rfl | rfl <;> rfl
  | cons c r =>
    obtain ⟨hdigit, hpoint, hmark, hcapital⟩ := h.not_numeric
    have hstep : step frames phase c r = step frames .after c r := by
      rcases hphase with rfl | rfl | rfl | rfl <;>
        simp [step, stepNumber, hdigit, hpoint, hmark, hcapital]
    rw [skipFrom, skipFrom, hstep]

/-- Digits are passed by a phase that they lead to. -/
theorem Digits.skip {ds : List Char} (h : Digits ds) {next : Phase}
    (hfirst : ∀ c ahead, c ∈ ds.head? → step frames phase c ahead = .go frames next)
    (hmore : ∀ c ahead, c.isDigit = true → step frames next c ahead = .go frames next) :
    skipFrom frames phase (ds ++ rest) = skipFrom frames next rest := by
  obtain ⟨d, ds, rfl⟩ := List.exists_cons_of_ne_nil h.1
  rw [List.cons_append, skipFrom_go (hfirst d _ rfl),
    skipFrom_append fun c hc ahead => hmore c ahead (h.2 c (List.mem_cons_of_mem d hc))]

/-- An exponent may follow the digits of a number. -/
theorem Exponent.skip {s : List Char} (h : Exponent s) (hrest : Stops rest)
    (hphase : phase ∈ [Phase.zero, .whole, .fraction]) :
    skipFrom frames phase (s ++ rest) = skipFrom frames .after rest := by
  obtain rfl | ⟨mark, sign, ds, hmark, hsign, hds, rfl⟩ := h
  · exact hrest.skip_number (List.mem_append_left [Phase.exponent] hphase)
  have hstep (ahead : List Char) : step frames phase mark ahead = .go frames .mark := by
    simp only [List.mem_cons, List.not_mem_nil, or_false] at hphase
    rcases hphase with rfl | rfl | rfl <;> rcases hmark with rfl | rfl <;> rfl
  have hdigits {phase : Phase}
      (hphase : ∀ c ahead, c.isDigit = true → step frames phase c ahead = .go frames .exponent) :
      skipFrom frames phase (ds ++ rest) = skipFrom frames .after rest := by
    have hfirst : ∀ c ahead, c ∈ ds.head? → step frames phase c ahead = .go frames .exponent :=
      fun c ahead hc => hphase c ahead (hds.2 c (List.mem_of_mem_head? hc))
    rw [hds.skip hfirst fun c ahead hc => by simp [step, stepNumber, hc],
      hrest.skip_number (by simp)]
  rw [List.cons_append, skipFrom_go (hstep _), List.append_assoc]
  rcases hsign with rfl | rfl | rfl
  · refine hdigits fun c ahead hc => ?_
    have hne : c ≠ '+' ∧ c ≠ '-' := ⟨ne_of_isDigit hc rfl, ne_of_isDigit hc rfl⟩
    simp [step, hc, hne]
  · rw [List.singleton_append, skipFrom_go rfl]
    exact hdigits fun c ahead hc => by simp [step, hc]
  · rw [List.singleton_append, skipFrom_go rfl]
    exact hdigits fun c ahead hc => by simp [step, hc]

/-- A fraction and an exponent may follow the digits before the point. -/
theorem Fraction.skip {s t : List Char} (h : Fraction s) (ht : Exponent t) (hrest : Stops rest)
    (hphase : phase ∈ [Phase.zero, .whole]) :
    skipFrom frames phase (s ++ (t ++ rest)) = skipFrom frames .after rest := by
  obtain rfl | ⟨ds, hds, rfl⟩ := h
  · exact ht.skip hrest (List.mem_append_left [Phase.fraction] hphase)
  have hstep : step frames phase '.' (ds ++ (t ++ rest)) = .go frames .point := by
    simp only [List.mem_cons, List.not_mem_nil, or_false] at hphase
    rcases hphase with rfl | rfl <;> rfl
  have hfirst : ∀ c ahead, c ∈ ds.head? → step frames .point c ahead = .go frames .fraction :=
    fun c ahead hc => by simp [step, hds.2 c (List.mem_of_mem_head? hc)]
  rw [List.cons_append, skipFrom_go hstep,
    hds.skip hfirst fun c ahead hc => by simp [step, stepNumber, hc], ht.skip hrest (by simp)]

/-- **A number is passed.** -/
theorem Numeric.skip {s : List Char} (h : Numeric s) (hrest : Stops rest) :
    skipFrom frames .value (s ++ rest) = skipFrom frames .after rest := by
  obtain @⟨minus, whole, fraction, exponent, hsign, hwhole, hfraction, hexponent⟩ := h
  -- the digits before the point may stand behind a sign
  have hdigits {phase : Phase} (hphase : phase = .value ∨ phase = .minus) :
      skipFrom frames phase (whole ++ (fraction ++ (exponent ++ rest))) =
        skipFrom frames .after rest := by
    obtain rfl | ⟨hds, hzero⟩ := hwhole
    · have hstep (ahead : List Char) : step frames phase '0' ahead = .go frames .zero := by
        rcases hphase with rfl | rfl <;> rfl
      rw [List.singleton_append, skipFrom_go (hstep _),
        hfraction.skip hexponent hrest (by simp)]
    · have hfirst : ∀ c ahead, c ∈ whole.head? → step frames phase c ahead = .go frames .whole := by
        intro c ahead hc
        have hdigit := hds.2 c (List.mem_of_mem_head? hc)
        have hne : c ≠ '0' := by
          rintro rfl
          exact hzero hc
        -- a digit is none of the characters that other values start with
        have hother {d : Char} (hd : d.isDigit = false) : c ≠ d := ne_of_isDigit hdigit hd
        rcases hphase with rfl | rfl <;>
          simp [step, stepValue, isSpace_of_isDigit hdigit, hne, hdigit, hother (d := 'n') rfl,
            hother (d := 't') rfl, hother (d := 'f') rfl, hother (d := '-') rfl]
      rw [hds.skip hfirst fun c ahead hc => by simp [step, stepNumber, hc],
        hfraction.skip hexponent hrest (by simp)]
  simp only [List.append_assoc]
  rcases hsign with rfl | rfl
  · exact hdigits (.inl rfl)
  · rw [List.singleton_append, skipFrom_go rfl]
    exact hdigits (.inr rfl)

end Numbers

/-! ## Values of any shape -/

/-- What the machine waits for in front of an entry. -/
def Frame.due : Frame → Phase
  | .list => .value
  | .object => .key

/-- What the machine waits for behind an opening bracket. -/
def Frame.first : Frame → Phase
  | .list => .firstItem
  | .object => .firstKey

theorem Frame.waits_due (frame : Frame) : frame.due.waits = true := by
  cases frame <;> rfl

theorem Frame.waits_first (frame : Frame) : frame.first.waits = true := by
  cases frame <;> rfl

/-- What the machine waits for in front of a text of the shape. -/
def Shape.due : Shape → Phase
  | value => .value
  | entry frame | entries frame => frame.due

/-- **The containers that may be open around a text of the shape**: a value may stand alone, and
what is written like an item of a list may also be the value of a member. -/
def Shape.Within (frames : List Frame) : Shape → Prop
  | value => True
  | entry .list => frames ≠ []
  | entry .object => frames.head? = some .object
  | entries frame => frames.head? = some frame

/-- Where entries may stand, there may stand one. -/
theorem Shape.Within.entry {frame : Frame} (h : (Shape.entries frame).Within frames) :
    (Shape.entry frame).Within frames := by
  cases frame with
  | list =>
    rintro rfl
    exact nomatch h
  | object => exact h

theorem stops_close (frame : Frame) (s : List Char) : Stops (frame.close :: s) := by
  cases frame
  · exact stops_bracket s
  · exact stops_brace s

/-! ### Brackets and commas -/

/-- A value may be a container. -/
theorem skipFrom_opening (frame : Frame) (s : List Char) :
    skipFrom frames .value (frame.opening :: s) = skipFrom (frame :: frames) frame.first s := by
  cases frame <;> exact skipFrom_go rfl

/-- A container may end at once. -/
theorem skipFrom_first_close (frame : Frame) (s : List Char) :
    skipFrom (frame :: frames) frame.first (frame.close :: s) = skipFrom frames .after s := by
  cases frame <;> exact skipFrom_go rfl

/-- A container may end behind an entry. -/
theorem skipFrom_close (frame : Frame) (s : List Char) :
    skipFrom (frame :: frames) .after (frame.close :: s) = skipFrom frames .after s := by
  cases frame <;> exact skipFrom_go rfl

/-- A comma leads to the next entry. -/
theorem skipFrom_comma {frame : Frame} (h : frames.head? = some frame) (s : List Char) :
    skipFrom frames .after (',' :: s) = skipFrom frames frame.due s := by
  cases frames with
  | nil => exact nomatch h
  | cons outer frames =>
    obtain rfl := Option.some.inj h
    cases outer <;> exact skipFrom_go rfl

/-! ### Texts of the grammar -/

theorem Numeric.exists_eq_cons {s : List Char} (h : Numeric s) :
    ∃ c t, s = c :: t ∧ (c = '-' ∨ c.isDigit = true) := by
  obtain ⟨rfl | rfl, rfl | ⟨hds, -⟩, -, -⟩ := h
  · exact ⟨'0', _, rfl, .inr rfl⟩
  · obtain ⟨d, ds, rfl⟩ := List.exists_cons_of_ne_nil hds.1
    exact ⟨d, _, rfl, .inr (hds.2 d List.mem_cons_self)⟩
  · exact ⟨'-', _, rfl, .inl rfl⟩
  · exact ⟨'-', _, rfl, .inl rfl⟩

/-- **Blanks aside, no text of the grammar starts with a closing bracket.** -/
theorem Form.exists_lead {shape : Shape} {s : List Char} (h : Form shape s) :
    ∃ gap c t, s = gap ++ c :: t ∧ Spaces gap ∧ isSpace c = false ∧ c ≠ ']' ∧ c ≠ '\x7d' := by
  induction h with
  | word mem =>
    simp only [List.mem_cons, List.not_mem_nil, or_false] at mem
    rcases mem with rfl | rfl | rfl <;> exact ⟨[], _, _, rfl, spaces_nil, by decide⟩
  | number number =>
    obtain ⟨c, t, rfl, rfl | hc⟩ := number.exists_eq_cons
    · exact ⟨[], '-', t, rfl, spaces_nil, by decide⟩
    · exact ⟨[], c, t, rfl, spaces_nil, isSpace_of_isDigit hc, ne_of_isDigit hc rfl,
        ne_of_isDigit hc rfl⟩
  | string => exact ⟨[], '"', _, rfl, spaces_nil, by decide⟩
  | @empty frame | @container frame =>
    refine ⟨[], frame.opening, _, rfl, spaces_nil, ?_⟩
    cases frame <;> decide
  | @item before s after lead value trail ih =>
    obtain ⟨gap, c, t, rfl, hgap, hc⟩ := ih
    have hlead : Spaces (before ++ gap) := List.forall_mem_append.mpr ⟨lead, hgap⟩
    exact ⟨before ++ gap, c, t ++ after, by simp only [List.append_assoc, List.cons_append], hlead,
      hc⟩
  | member lead => exact ⟨_, '"', _, rfl, lead, by decide⟩
  | last entry ih => exact ih
  | @more frame s t entry entries ih =>
    obtain ⟨gap, c, r, rfl, hgap, hc⟩ := ih
    exact ⟨gap, c, r ++ ',' :: t, by simp only [List.append_assoc, List.cons_append], hgap, hc⟩

/-- Behind an opening bracket entries are read as behind a comma. -/
theorem Form.skip_first {frame : Frame} {s : List Char} (h : Form (.entries frame) s)
    (rest : List Char) :
    skipFrom frames frame.first (s ++ rest) = skipFrom frames frame.due (s ++ rest) := by
  obtain ⟨gap, c, t, rfl, hgap, hspace, hbracket, hbrace⟩ := h.exists_lead
  have hstep (ahead : List Char) :
      step frames frame.first c ahead = step frames frame.due c ahead := by
    cases frame <;> simp [Frame.first, Frame.due, step, hspace, hbracket, hbrace]
  rw [List.append_assoc, hgap.skip frame.waits_first, hgap.skip frame.waits_due, List.cons_append,
    skipFrom, skipFrom, hstep]

/-- **A text of the grammar is passed**, by induction on how it is built. The containers around it
are the same behind it, so those of its parts are closed. -/
theorem Form.skip {shape : Shape} {s : List Char} (h : Form shape s) :
    ∀ {frames : List Frame} {rest : List Char}, shape.Within frames → Stops rest →
      skipFrom frames shape.due (s ++ rest) = skipFrom frames .after rest := by
  induction h with
  | word mem =>
    intro frames rest _ _
    simp only [List.mem_cons, List.not_mem_nil, or_false] at mem
    rcases mem with rfl | rfl | rfl <;> rfl
  | number number => exact fun _ hrest => number.skip hrest
  | string body =>
    intro frames rest _ _
    rw [List.cons_append, List.append_assoc]
    exact (skipFrom_go rfl).trans (body.skip false rest)
  | @empty frame gap blank =>
    intro frames rest _ _
    rw [Shape.due, List.cons_append, List.append_assoc, skipFrom_opening,
      blank.skip frame.waits_first]
    exact skipFrom_first_close frame rest
  | @container frame s entries ih =>
    intro frames rest _ _
    -- inside, the container is the innermost one, and its bracket is what follows the entries
    have hentries := @ih (frame :: frames) (frame.close :: rest) rfl (stops_close frame rest)
    rw [Shape.due, List.cons_append, List.append_assoc, skipFrom_opening, entries.skip_first]
    exact hentries.trans (skipFrom_close frame rest)
  | @item before s after lead value trail ih =>
    intro frames rest hframes hrest
    -- the value ends at its blanks, or at what follows if it has none
    have hvalue := @ih frames (after ++ rest) trivial (trail.stops hrest)
    rw [List.append_assoc, List.append_assoc, Shape.due, Frame.due, lead.skip rfl]
    exact hvalue.trans (trail.skip_after hframes rest)
  | @member before name gap s lead body blank item ih =>
    intro frames rest hframes hrest
    have hframes' : frames ≠ [] := by
      rintro rfl
      exact nomatch hframes
    have hitem := @ih frames rest hframes' hrest
    simp only [List.append_assoc, List.cons_append]
    rw [Shape.due, Frame.due, lead.skip rfl, skipFrom_go rfl, body.skip true, if_pos rfl,
      blank.skip rfl, skipFrom_go rfl]
    exact hitem
  | last entry ih => exact fun hframes hrest => ih hframes.entry hrest
  | @more frame s t entry entries ih_entry ih_entries =>
    intro frames rest hframes hrest
    have hentry := @ih_entry frames (',' :: (t ++ rest)) hframes.entry (stops_comma _)
    have hentries := @ih_entries frames rest hframes hrest
    rw [List.append_assoc, List.cons_append]
    calc skipFrom frames frame.due (s ++ ',' :: (t ++ rest))
      _ = skipFrom frames .after (',' :: (t ++ rest)) := hentry
      _ = skipFrom frames frame.due (t ++ rest) := skipFrom_comma hframes _
      _ = skipFrom frames .after rest := hentries

/-- **A value is skipped**, and so are blanks in front of it. -/
theorem Form.skipValue {gap s rest : List Char} (hgap : Spaces gap) (h : Form .value s)
    (hrest : Stops rest) : Json.skipValue (gap ++ (s ++ rest)) = .ok rest := by
  have hafter : skipFrom [] .after rest = .ok rest := by
    cases rest <;> rfl
  rw [Json.skipValue, hgap.skip rfl]
  exact (h.skip trivial hrest).trans hafter

end KeyPlan.Json
