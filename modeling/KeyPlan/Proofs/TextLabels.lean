import KeyPlan.Proofs.ReadActions

/-!
# Labels of typed texts

The label of an action that types a text shows the text between quotes. What stands for a character
there is never the beginning of what stands for another one, and never begins with the closing
quote, so the label tells the text. It is on one line and has no controls, and its first letter or
its length sets it apart from the labels of all other actions.

## Main definitions

* `Text.Escaped`: the three ways to write a character between quotes
* `Text.IsControl`, `Text.EndsLine`: the controls, and the characters that end a line

## Main results

* `Text.Escaped.eq_of_append_eq`: what stands for a character tells where it ends
* `Text.quoted_injective`: the quoted text tells the text
* `Text.isHidden_of_mem_quoted`: every character of a quoted text can be seen
* `ActionKind.label_tells_text`: the labels of typed texts
-/

namespace KeyPlan

namespace Text

/-! ## Numbers in hexadecimal -/

theorem digitChar_inj : ∀ n < 16, ∀ m < 16, Nat.digitChar n = Nat.digitChar m → n = m := by
  decide

theorem exists_of_mem_toDigits {c : Char} :
    ∀ {n : Nat}, c ∈ Nat.toDigits 16 n → ∃ k < 16, c = Nat.digitChar k := by
  intro n
  induction n using Nat.strong_induction_on with
  | _ n ih =>
    intro h
    by_cases hn : n < 16
    · rw [Nat.toDigits_of_lt_base hn] at h
      exact ⟨n, hn, List.mem_singleton.mp h⟩
    · rw [Nat.toDigits_of_base_le (by decide) (by omega)] at h
      rcases List.mem_append.mp h with h | h
      · exact ih (n / 16) (by omega) h
      · exact ⟨n % 16, by omega, List.mem_singleton.mp h⟩

/-- **The digits tell the number**, by induction on the number: the last digit tells what is left
over, and the ones before it are those of the quotient. -/
theorem toDigits_injective : Function.Injective (Nat.toDigits 16) := by
  intro n
  induction n using Nat.strong_induction_on with
  | _ n ih =>
    intro m h
    rw [Nat.toDigits_eq_if (by decide), Nat.toDigits_eq_if (b := 16) (n := m) (by decide)] at h
    split_ifs at h with hn hm hm
    · exact digitChar_inj n hn m hm (List.singleton_inj.mp h)
    · rw [← List.nil_append [n.digitChar], List.append_singleton_inj] at h
      exact absurd h.1.symm Nat.toDigits_ne_nil
    · rw [← List.nil_append [m.digitChar], List.append_singleton_inj] at h
      exact absurd h.1 Nat.toDigits_ne_nil
    · obtain ⟨hquotient, hlast⟩ := List.append_singleton_inj.mp h
      have hdiv := ih (n / 16) (by omega) hquotient
      have hmod := digitChar_inj (n % 16) (by omega) (m % 16) (by omega) hlast
      omega

theorem hexCode_injective : Function.Injective hexCode := fun _ _ h =>
  Char.toNat_inj.mp (toDigits_injective h)

/-- No digit is the brace that closes the number. -/
theorem brace_not_mem_hexCode (c : Char) : '\x7d' ∉ hexCode c := by
  intro h
  obtain ⟨k, hk, heq⟩ := exists_of_mem_toDigits h
  have hdigit : ∀ k < 16, Nat.digitChar k ≠ '\x7d' := by decide
  exact hdigit k hk heq.symm

/-! ## Characters between quotes -/

/-- The characters with a short name, and their names. -/
def shortNames : List (Char × Char) :=
  [('\x00', '0'), ('\t', 't'), ('\r', 'r'), ('\n', 'n'), ('\\', '\\'), ('"', '"')]

/-- **The three ways to write a character**: by a short name, by its number, or as it is. -/
inductive Escaped (c : Char) : List Char → Prop
  | short {name : Char} : (c, name) ∈ shortNames → Escaped c ['\\', name]
  | number : Escaped c ('\\' :: 'u' :: '\x7b' :: (hexCode c ++ ['\x7d']))
  | plain : c ≠ '\\' → c ≠ '"' → isHidden c = false → Escaped c [c]

theorem escaped_escape (c : Char) : Escaped c (escape c) := by
  unfold escape
  split_ifs with hnul htab hreturn hfeed hmark hhidden
  · exact .short (by simp [shortNames, hnul])
  · exact .short (by simp [shortNames, htab])
  · exact .short (by simp [shortNames, hreturn])
  · exact .short (by simp [shortNames, hfeed])
  · refine .short ?_
    rcases hmark with rfl | rfl <;> decide
  · exact .number
  · rw [not_or] at hmark
    exact .plain hmark.1 hmark.2 (Bool.eq_false_iff.mpr hhidden)

theorem shortNames_inj : ∀ p ∈ shortNames, ∀ q ∈ shortNames, p.2 = q.2 → p.1 = q.1 := by
  decide

/-- No short name begins a number. -/
theorem shortNames_ne_u : ∀ p ∈ shortNames, p.2 ≠ 'u' := by
  decide

/-- What stands for a character does not begin with a quote. -/
theorem Escaped.append_ne_quote {c : Char} {w : List Char} (hw : Escaped c w) (r r' : List Char) :
    w ++ r ≠ '"' :: r' := by
  intro h
  have hhead := congrArg List.head? h
  cases hw with
  | short hname => exact absurd (Option.some.inj hhead) (by decide)
  | number => exact absurd (Option.some.inj hhead) (by decide)
  | plain _ hquote _ => exact hquote (Option.some.inj hhead)

/-- The first occurrence of a character is in one place. -/
theorem eq_of_append_cons_eq {a : Char} {x y r r' : List Char} (hx : a ∉ x) (hy : a ∉ y)
    (h : x ++ a :: r = y ++ a :: r') : x = y ∧ r = r' := by
  induction x generalizing y with
  | nil =>
    cases y with
    | nil => exact ⟨rfl, (List.cons.inj h).2⟩
    | cons b y => exact absurd ((List.cons.inj h).1 ▸ List.mem_cons_self) hy
  | cons b x ih =>
    cases y with
    | nil => exact absurd ((List.cons.inj h).1 ▸ List.mem_cons_self) hx
    | cons d y =>
      obtain ⟨rfl, hmore⟩ := List.cons.inj h
      obtain ⟨rfl, hrest⟩ :=
        ih (List.not_mem_of_not_mem_cons hx) (List.not_mem_of_not_mem_cons hy) hmore
      exact ⟨rfl, hrest⟩

/-- **What stands for a character tells where it ends**: what stands for one is never the beginning
of what stands for another. -/
theorem Escaped.eq_of_append_eq {c d : Char} {w v r r' : List Char} (hw : Escaped c w)
    (hv : Escaped d v) (h : w ++ r = v ++ r') : c = d ∧ r = r' := by
  cases hw with
  | short hname =>
    cases hv with
    | short hname' =>
      obtain ⟨heq, hrest⟩ := List.cons.inj (List.cons.inj h).2
      exact ⟨shortNames_inj _ hname _ hname' heq, hrest⟩
    | number => exact absurd (List.cons.inj (List.cons.inj h).2).1 (shortNames_ne_u _ hname)
    | plain hmark _ _ => exact absurd (List.cons.inj h).1.symm hmark
  | number =>
    cases hv with
    | short hname =>
      exact absurd (List.cons.inj (List.cons.inj h).2).1.symm (shortNames_ne_u _ hname)
    | number =>
      -- no digit is the closing brace, so both numbers end at the first one
      have hdigits : hexCode c ++ '\x7d' :: r = hexCode d ++ '\x7d' :: r' := by simpa using h
      obtain ⟨hcode, hrest⟩ :=
        eq_of_append_cons_eq (brace_not_mem_hexCode c) (brace_not_mem_hexCode d) hdigits
      exact ⟨hexCode_injective hcode, hrest⟩
    | plain hmark _ _ => exact absurd (List.cons.inj h).1.symm hmark
  | plain hmark _ _ =>
    cases hv with
    | short _ => exact absurd (List.cons.inj h).1 hmark
    | number => exact absurd (List.cons.inj h).1 hmark
    | plain _ _ _ => exact List.cons.inj h

/-- **The quoted text tells the text**, by induction on both texts: each character tells where it
ends, and none of them begins with the closing quote. -/
theorem quoted_injective : Function.Injective quoted := by
  intro s t h
  have hbody : s.flatMap escape ++ ['"'] = t.flatMap escape ++ ['"'] := (List.cons.inj h).2
  clear h
  induction s generalizing t with
  | nil =>
    cases t with
    | nil => rfl
    | cons d t =>
      rw [List.flatMap_cons, List.append_assoc] at hbody
      exact absurd hbody.symm ((escaped_escape d).append_ne_quote _ _)
  | cons c s ih =>
    rw [List.flatMap_cons, List.append_assoc] at hbody
    cases t with
    | nil => exact absurd hbody ((escaped_escape c).append_ne_quote _ _)
    | cons d t =>
      rw [List.flatMap_cons, List.append_assoc] at hbody
      obtain ⟨rfl, hmore⟩ := (escaped_escape c).eq_of_append_eq (escaped_escape d) hbody
      rw [ih hmore]

/-! ## What can be seen -/

/-- **The character is a control.** -/
def IsControl (c : Char) : Prop := c.toNat < 32 ∨ 127 ≤ c.toNat ∧ c.toNat < 160

/-- **The character ends a line.** -/
def EndsLine (c : Char) : Prop := c.toNat ∈ [0xA, 0xB, 0xC, 0xD, 0x85, 0x2028, 0x2029]

theorem IsControl.isHidden {c : Char} (h : IsControl c) : isHidden c = true := by
  unfold Text.isHidden
  split
  · next hlow =>
    have hcontrol : c.toNat < 32 := h.resolve_right (by omega)
    exact decide_eq_true hcontrol
  · next hhigh =>
    have hrange : 127 ≤ c.toNat ∧ c.toNat ≤ 160 := by
      rcases h with h | h <;> omega
    have hmem : (0x7F, 0xA0) ∈ hiddenRanges := by decide
    exact List.any_eq_true.mpr ⟨_, hmem, by simpa using hrange⟩

theorem EndsLine.isHidden {c : Char} (h : EndsLine c) : Text.isHidden c = true := by
  have hall : ∀ n ∈ [0xA, 0xB, 0xC, 0xD, 0x85, 0x2028, 0x2029],
      Text.isHidden (Char.ofNat n) = true := by
    decide +kernel
  simpa using hall c.toNat h

theorem Escaped.isHidden_of_mem {c x : Char} {w : List Char} (hw : Escaped c w) (h : x ∈ w) :
    isHidden x = false := by
  cases hw with
  | @short name hname =>
    have hnames : ∀ p ∈ shortNames, isHidden p.2 = false := by decide
    rcases List.mem_pair.mp h with rfl | rfl
    · decide
    · exact hnames _ hname
  | number =>
    have hsigns : ∀ y ∈ ['\\', 'u', '\x7b', '\x7d'], isHidden y = false := by decide
    have hdigits : ∀ k < 16, isHidden (Nat.digitChar k) = false := by decide
    have hmem : x ∈ ['\\', 'u', '\x7b', '\x7d'] ∨ x ∈ hexCode c := by
      simp only [List.mem_cons, List.mem_append, List.not_mem_nil, or_false] at h ⊢
      tauto
    rcases hmem with hsign | hdigit
    · exact hsigns x hsign
    · obtain ⟨k, hk, rfl⟩ := exists_of_mem_toDigits hdigit
      exact hdigits k hk
  | plain _ _ hseen => exact List.mem_singleton.mp h ▸ hseen

/-- **Every character of a quoted text can be seen.** -/
theorem isHidden_of_mem_quoted {s : List Char} {x : Char} (h : x ∈ quoted s) :
    isHidden x = false := by
  have hquote : isHidden '"' = false := by decide
  unfold quoted at h
  rcases List.mem_append.mp h with h | h
  · rcases List.mem_cons.mp h with rfl | h
    · exact hquote
    · obtain ⟨c, -, hx⟩ := List.mem_flatMap.mp h
      exact (escaped_escape c).isHidden_of_mem hx
  · exact List.mem_singleton.mp h ▸ hquote

/-! ## Upper case -/

theorem length_upperExpansions : ∀ entry ∈ upperExpansions, entry.2.length ≤ 3 := by
  decide

/-- The upper case of a character is short. -/
theorem length_upperChar_le (c : Char) : (upperChar c).length ≤ 3 := by
  unfold upperChar
  split
  · simp
  · split
    · next ns hns =>
      rw [List.length_map]
      exact length_upperExpansions _ (expansion_mem hns)
    · simp

end Text

/-- No label of a key is longer than that of the space bar. -/
theorem Key.length_label_le (key : Char) : (label key).length ≤ 5 := by
  have hupper := Text.length_upperChar_le key
  unfold label
  split_ifs <;> first | decide | omega

namespace ActionKind

/-! ## Labels -/

theorem toList_label_typeText (text : String) :
    (label (.typeText text)).toList = "Type ".toList ++ Text.quoted text.toList :=
  String.toList_ofList

theorem label_delay (ms : UInt64) :
    label (.delay ms) = "Wait " ++ (toString ms.toNat ++ "ms") :=
  String.append_assoc

/-- A label that begins with another letter is another one. -/
theorem label_typeText_ne {text word rest : String} {c : Char} {cs : List Char}
    (hword : word.toList = c :: cs) (hc : 'T' ≠ c) : label (.typeText text) ≠ word ++ rest := by
  intro heq
  have hlist : "Type ".toList ++ Text.quoted text.toList = c :: (cs ++ rest.toList) := by
    rw [← toList_label_typeText, heq, String.toList_append, hword, List.cons_append]
  exact hc (List.cons.inj hlist).1

/-- **The label of a key press** begins with a glyph, or it is shorter. -/
theorem label_typeText_ne_keyPress (text : String) (key : Char) (held : ModifierSet) :
    label (.typeText text) ≠ label (.keyPress key held) := by
  intro h
  have hlist : "Type ".toList ++ Text.quoted text.toList = held.glyphs ++ Key.label key := by
    rw [← toList_label_typeText, h]
    exact String.toList_ofList
  cases hmembers : held.toList with
  | nil =>
    have hlength := congrArg List.length hlist
    have hshort := Key.length_label_le key
    rw [ModifierSet.glyphs, hmembers] at hlength
    simp [Text.quoted] at hlength
    omega
  | cons m ms =>
    rw [ModifierSet.glyphs, hmembers] at hlist
    have hglyph : 'T' = m.glyph := (List.cons.inj hlist).1
    have hglyphs : ∀ m ∈ Modifier.all, 'T' ≠ m.glyph := by decide
    exact hglyphs m m.mem_all hglyph

/-- **The label of a typed text is faithful.** It is the description of an action without one. It
tells the text, it has no controls and is on one line, and no action of another kind has it. -/
theorem label_tells_text :
    (∀ (k : ActionKind) (description : String), Text.trim description.toList = [] →
      (Action.make k description).description = k.label) ∧
      (Function.Injective fun text => label (.typeText text)) ∧
      ∀ text : String,
        (∀ c ∈ (label (.typeText text)).toList, ¬ Text.IsControl c ∧ ¬ Text.EndsLine c) ∧
        (∀ key held, label (.typeText text) ≠ label (.keyPress key held)) ∧
        (∀ ms, label (.typeText text) ≠ label (.delay ms)) ∧
        ∀ target, label (.typeText text) ≠ label (.switchTo target) := by
  refine ⟨fun k description h => ?_, fun s t h => ?_, fun text => ⟨fun c hc => ?_, ?_, ?_, ?_⟩⟩
  · simp only [Action.make, h, List.isEmpty_nil, if_true]
  · have hlist := congrArg String.toList h
    rw [toList_label_typeText, toList_label_typeText] at hlist
    exact String.toList_injective (Text.quoted_injective (List.append_cancel_left hlist))
  · have hseen : Text.isHidden c = false := by
      have hword : ∀ c ∈ "Type ".toList, Text.isHidden c = false := by decide
      rw [toList_label_typeText] at hc
      exact (List.mem_append.mp hc).elim (hword c) Text.isHidden_of_mem_quoted
    constructor
    · exact fun h => absurd h.isHidden (by simp [hseen])
    · exact fun h => absurd h.isHidden (by simp [hseen])
  · exact label_typeText_ne_keyPress text
  · intro ms
    rw [label_delay]
    have hword : "Wait ".toList = 'W' :: "ait ".toList := rfl
    exact label_typeText_ne hword (by decide)
  · intro target
    have hword : "Switch to ".toList = 'S' :: "witch to ".toList := rfl
    exact label_typeText_ne hword (by decide)

/-- A line separator, a backslash and a quote, and a text that has the label's own signs. -/
theorem label_tells_text_signs :
    let text := "\u2028\\\""
    Text.trim " \t".toList = [] ∧
      (Action.make (.typeText text) " \t").description =
        "Type \"\\u\x7b2028\x7d\\\\\\\"\"" ∧
      label (.typeText text) ≠ label (.typeText "\\u\x7b2028\x7d\\\\\\\"") := by
  intro text
  have hblank : Text.trim " \t".toList = [] := by decide
  have hlabel : label (.typeText text) = "Type \"\\u\x7b2028\x7d\\\\\\\"\"" := by decide +kernel
  refine ⟨hblank, (label_tells_text.1 _ _ hblank).trans hlabel, fun h => ?_⟩
  exact absurd (label_tells_text.2.1 h) (by decide)

end ActionKind

end KeyPlan
