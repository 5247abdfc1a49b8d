import KeyPlan.Proofs.Parts

/-!
# Spellings

A modifier is spelled by its glyph or by one of its words, in any letter case. A key is spelled by
its character or by one of its names, again in any letter case. No word and no name has one of the
signs: blanks, the plus, the glyphs of modifiers, and a mark of each of the other forms. Since signs
stay what they are in lower case, no spelling in letters has one either.

## Main definitions

* `Text.blanks`, `Text.marks`, `Text.signs`: the blank characters, the marks of the other forms, and
  all signs
* `Text.Plain`: a text without signs in any letter case
* `Modifier.SpelledBy`, `Key.SpelledBy`: how modifiers and keys are spelled

## Main results

* `Text.Plain.of_lower`: a text is plain if it is so in lower case
* `Modifier.SpelledBy.names_iff`: a spelling of a modifier names this modifier and no other one
* `Key.SpelledBy.exists_ofWord?`, `Key.SpelledBy.ofWord?_eq_none`, `Key.SpelledBy.parts_eq`: a
  spelling of a key names a key, is no modifier, and is one part
-/

namespace KeyPlan

namespace Text

/-! ## Signs -/

/-- The code points of the blank characters. -/
def blankCodes : List Nat :=
  [0x9, 0xA, 0xB, 0xC, 0xD, 0x20, 0x85, 0xA0, 0x1680, 0x2000, 0x2001, 0x2002, 0x2003, 0x2004,
    0x2005, 0x2006, 0x2007, 0x2008, 0x2009, 0x200A, 0x2028, 0x2029, 0x202F, 0x205F, 0x3000]

/-- The blank characters. -/
def blanks : List Char := blankCodes.map Char.ofNat

/-- The marks of the other forms: each of their starts, and the words that type the description,
have one of these letters before their end. -/
def marks : List Char := ['_', 'x', 'y']

/-- **The signs**: characters that no word for a modifier and no name of a key has. -/
def signs : List Char := blanks ++ '+' :: Modifier.all.map Modifier.glyph ++ marks

/-- **The text has no sign**, in any letter case. -/
def Plain (s : List Char) : Prop := ∀ c ∈ s, c.toLower ∉ signs

theorem toNat_mem_blankCodes {c : Char} (h : isBlank c = true) : c.toNat ∈ blankCodes := by
  simp only [isBlank, Bool.or_eq_true, Bool.and_eq_true, decide_eq_true_eq, beq_iff_eq] at h
  simp only [blankCodes, List.mem_cons, List.not_mem_nil, or_false]
  omega

theorem toLower_mem_signs_of_isBlank {c : Char} (h : isBlank c = true) : c.toLower ∈ signs := by
  rw [← isBlank_toLower] at h
  have hblank : c.toLower ∈ blanks :=
    List.mem_map.mpr ⟨_, toNat_mem_blankCodes h, Char.ofNat_toNat _⟩
  exact List.mem_append_left _ (List.mem_append_left _ hblank)

theorem toLower_glyph_mem_signs (m : Modifier) : m.glyph.toLower ∈ signs := by
  cases m <;> decide

namespace Plain

variable {s : List Char} (h : Plain s)
include h

theorem isBlank_eq_false : ∀ c ∈ s, isBlank c = false := fun _ hc =>
  Bool.eq_false_iff.mpr fun hblank => h _ hc (toLower_mem_signs_of_isBlank hblank)

theorem glyph_not_mem (m : Modifier) : m.glyph ∉ s := fun hm =>
  h _ hm (toLower_glyph_mem_signs m)

theorem plus_not_mem : '+' ∉ s := fun hplus => h _ hplus (by decide)

theorem ofGlyph?_eq_none : ∀ c ∈ s, Modifier.ofGlyph? c = none := fun _ hc =>
  Modifier.ofGlyph?_eq_none_iff.mpr fun m hm => h.glyph_not_mem m (hm ▸ hc)

end Plain

/-! ## Signs in lower case -/

theorem lowerChar_of_mem_signs : ∀ c ∈ signs, lowerChar c = [c] := by decide +kernel

/-- The lower case of a sign is one character, and does not hang on its neighbours. -/
theorem lowerChar_of_toLower_mem {c : Char} (h : c.toLower ∈ signs) :
    lowerChar c = [c.toLower] ∧ c ≠ 'Σ' := by
  have hsigma : c ≠ 'Σ' := by
    rintro rfl
    exact absurd h (by decide)
  refine ⟨?_, hsigma⟩
  -- a capital is ASCII, and everything else is a sign itself
  rcases toLower_cases c with ⟨-, hhigh, -⟩ | ⟨-, hsame⟩
  · exact lowerChar_ascii (by omega)
  · rw [hsame] at h ⊢
    exact lowerChar_of_mem_signs c h

theorem mem_lowerAfter {c d : Char} (hsigma : c ≠ 'Σ') (hd : d ∈ lowerChar c) {s : List Char} :
    ∀ {before : List Char}, c ∈ s → d ∈ lowerAfter before s := by
  induction s with
  | nil => exact nofun
  | cons e s ih =>
    intro before hc
    rw [lowerAfter]
    rcases List.mem_cons.mp hc with rfl | hc
    · rw [if_neg hsigma]
      exact List.mem_append_left _ hd
    · exact List.mem_append_right _ (ih hc)

/-- **A text is plain if it is so in lower case.** -/
theorem Plain.of_lower {s : List Char} (h : ∀ d ∈ lower s, d ∉ signs) : Plain s := by
  intro c hc hsign
  obtain ⟨hlower, hsigma⟩ := lowerChar_of_toLower_mem hsign
  exact h c.toLower (mem_lowerAfter hsigma (hlower ▸ List.mem_singleton_self _) hc) hsign

theorem Plain.of_lower_eq {s : List Char} {word : String} (hword : ∀ d ∈ word.toList, d ∉ signs)
    (h : String.ofList (lower s) = word) : Plain s := by
  refine Plain.of_lower ?_
  rwa [← h, String.toList_ofList] at hword

end Text

/-! ## Spellings of modifiers -/

namespace Modifier

/-- **The text spells the modifier**: it is its glyph, or one of its words in any letter case. -/
def SpelledBy (m : Modifier) (t : List Char) : Prop :=
  t = [m.glyph] ∨ String.ofList (Text.lower t) ∈ m.words

theorem words_plain : ∀ m ∈ all, ∀ word ∈ m.words, ∀ d ∈ word.toList, d ∉ Text.signs := by
  decide +kernel

theorem length_words : ∀ m ∈ all, ∀ word ∈ m.words, 3 ≤ word.toList.length := by
  decide +kernel

theorem find?_words : ∀ m ∈ all, ∀ word ∈ m.words,
    ranked.find? (fun n => n.words.contains word) = some m := by
  decide +kernel

theorem ofWord?_eq_some_iff {m : Modifier} {t : List Char} :
    ofWord? t = some m ↔ String.ofList (Text.lower t) ∈ m.words := by
  constructor
  · intro h
    have hword := List.find?_some h
    exact List.contains_iff_mem.mp hword
  · exact find?_words m (mem_all m) _

theorem ofWord?_eq_none_iff {t : List Char} :
    ofWord? t = none ↔ ∀ m : Modifier, String.ofList (Text.lower t) ∉ m.words := by
  simp only [Option.eq_none_iff_forall_ne_some, ne_eq, ofWord?_eq_some_iff]

theorem plain_of_ofWord? {m : Modifier} {t : List Char} (h : ofWord? t = some m) : Text.Plain t :=
  Text.Plain.of_lower_eq (words_plain m (mem_all m) _ (ofWord?_eq_some_iff.mp h)) rfl

theorem ne_nil_of_ofWord? {m : Modifier} {t : List Char} (h : ofWord? t = some m) : t ≠ [] := by
  rintro rfl
  exact absurd (length_words m (mem_all m) _ (ofWord?_eq_some_iff.mp h)) (by decide)

end Modifier

namespace Instruction

open Text (Plain isBlank)

/-- A text with neither blanks, glyphs nor pluses is one part. -/
theorem parts_eq_singleton {t : List Char} (hne : t ≠ []) (hblank : ∀ c ∈ t, isBlank c = false)
    (hglyph : ∀ c ∈ t, Modifier.ofGlyph? c = none) (hplus : '+' ∉ t) : parts t = [t] := by
  have hdrop : dropGlyphs t = t :=
    List.filter_eq_self.mpr fun c hc => Option.isNone_iff_eq_none.mpr (hglyph c hc)
  rw [parts_of_not_mem hblank hplus, hdrop, List.filter_cons_of_pos (by simpa using hne)]
  rfl

theorem parts_of_plain {t : List Char} (hne : t ≠ []) (h : Plain t) : parts t = [t] :=
  parts_eq_singleton hne h.isBlank_eq_false h.ofGlyph?_eq_none h.plus_not_mem

theorem parts_glyph (m : Modifier) : parts [m.glyph] = [] := by
  cases m <;> rfl

end Instruction

namespace Modifier.SpelledBy

open Instruction (parts parts_glyph parts_of_plain)

variable {m : Modifier} {t : List Char} (h : m.SpelledBy t)
include h

/-- A spelling is the glyph or a part of its own. -/
theorem cases_on_parts :
    t = [m.glyph] ∧ parts t = [] ∨ Text.Plain t ∧ ofWord? t = some m ∧ parts t = [t] := by
  rcases h with rfl | hword
  · exact .inl ⟨rfl, parts_glyph m⟩
  · have hword := ofWord?_eq_some_iff.mpr hword
    have hplain := plain_of_ofWord? hword
    exact .inr ⟨hplain, hword, parts_of_plain (ne_nil_of_ofWord? hword) hplain⟩

/-- **A spelling of a modifier names this modifier** and no other one. -/
theorem names_iff {n : Modifier} :
    n.glyph ∈ t ∨ (∃ p ∈ parts t, ofWord? p = some n) ↔ n = m := by
  rcases h.cases_on_parts with ⟨rfl, hparts⟩ | ⟨hplain, hword, hparts⟩
  · rw [hparts, List.mem_singleton]
    constructor
    · rintro (hglyph | ⟨p, hp, -⟩)
      · exact glyph_inj.mp hglyph
      · exact nomatch hp
    · exact fun hn => .inl (congrArg glyph hn)
  · rw [hparts]
    constructor
    · rintro (hglyph | ⟨p, hp, hn⟩)
      · exact absurd hglyph (hplain.glyph_not_mem n)
      · obtain rfl := List.mem_singleton.mp hp
        exact Option.some.inj (hn.symm.trans hword)
    · rintro rfl
      exact .inr ⟨t, List.mem_singleton_self t, hword⟩

/-- Only a glyph is taken out as a whole. -/
theorem eq_glyph_of_dropGlyphs (hdrop : Instruction.dropGlyphs t = []) : t = [m.glyph] := by
  rcases h.cases_on_parts with ⟨heq, -⟩ | ⟨-, -, hparts⟩
  · exact heq
  · rw [← Instruction.parts_dropGlyphs, hdrop] at hparts
    exact nomatch hparts

/-- The parts of a spelling are modifiers. -/
theorem ofWord?_isSome : ∀ p ∈ parts t, (ofWord? p).isSome = true := by
  rcases h.cases_on_parts with ⟨-, hparts⟩ | ⟨-, hword, hparts⟩
  · rw [hparts]
    exact List.forall_mem_nil _
  · rw [hparts, List.forall_mem_singleton, hword]
    rfl

theorem isBlank_eq_false : ∀ c ∈ t, Text.isBlank c = false := by
  rcases h.cases_on_parts with ⟨rfl, -⟩ | ⟨hplain, -⟩
  · rw [List.forall_mem_singleton]
    cases m <;> decide
  · exact hplain.isBlank_eq_false

theorem plus_not_mem : '+' ∉ t := by
  rcases h.cases_on_parts with ⟨rfl, -⟩ | ⟨hplain, -⟩
  · cases m <;> decide
  · exact hplain.plus_not_mem

theorem toLower_not_mem_marks : ∀ c ∈ t, c.toLower ∉ Text.marks := by
  rcases h.cases_on_parts with ⟨rfl, -⟩ | ⟨hplain, -⟩
  · rw [List.forall_mem_singleton]
    cases m <;> decide
  · exact fun c hc hmark => hplain c hc (List.mem_append_right _ hmark)

end Modifier.SpelledBy

/-! ## Spellings of keys -/

namespace Key

/-- **The text spells a key**: it is a single character that is neither a blank nor the glyph of a
modifier, or one of the names of a key in any letter case. -/
def SpelledBy (t : List Char) : Prop :=
  (∃ c, t = [c] ∧ Text.isBlank c = false ∧ Modifier.ofGlyph? c = none) ∨
    ∃ key names, (key, names) ∈ aliases ∧ String.ofList (Text.lower t) ∈ names

theorem names_plain : ∀ entry ∈ aliases, ∀ name ∈ entry.2, ∀ d ∈ name.toList, d ∉ Text.signs := by
  decide +kernel

theorem names_ne_words : ∀ entry ∈ aliases, ∀ name ∈ entry.2,
    name ≠ "" ∧ ∀ m ∈ Modifier.all, name ∉ m.words := by
  decide +kernel

theorem length_lower_singleton (c : Char) : (Text.lower [c]).length ≤ 2 := by
  have hchar : (Text.lowerChar c).length ≤ 2 := by
    unfold Text.lowerChar
    split
    · simp
    · split <;> simp
  unfold Text.lower Text.lowerAfter Text.lowerAfter
  split <;> simp [hchar]

namespace SpelledBy

variable {t : List Char} (h : SpelledBy t)
include h

/-- A spelling of a key names one. -/
theorem exists_ofWord? : ∃ key, ofWord? t = some key := by
  unfold ofWord?
  split
  · next key hkey => exact ⟨key, rfl⟩
  · next hnone =>
    rcases h with ⟨c, rfl, -⟩ | ⟨key, names, hentry, hname⟩
    · exact ⟨c.toLower, rfl⟩
    · have hfind := List.find?_eq_none.mp (Option.map_eq_none_iff.mp hnone) _ hentry
      exact absurd (List.contains_iff_mem.mpr hname) hfind

/-- A spelling of a key is no modifier. -/
theorem ofWord?_eq_none : Modifier.ofWord? t = none := by
  rw [Modifier.ofWord?_eq_none_iff]
  intro m hm
  rcases h with ⟨c, rfl, -⟩ | ⟨key, names, hentry, hname⟩
  · -- a single character has at most two in lower case, and a word for a modifier has more
    have hlong := Modifier.length_words m (Modifier.mem_all m) _ hm
    rw [String.toList_ofList] at hlong
    exact absurd (length_lower_singleton c) (Nat.not_le.mpr hlong)
  · exact (names_ne_words _ hentry _ hname).2 m (Modifier.mem_all m) hm

/-- Only a spelling by a single character can have a sign. -/
theorem plain_or_singleton : t ≠ [] ∧ Text.Plain t ∨
    ∃ c, t = [c] ∧ Text.isBlank c = false ∧ Modifier.ofGlyph? c = none := by
  rcases h with hsingle | ⟨key, names, hentry, hname⟩
  · exact .inr hsingle
  · refine .inl ⟨?_, Text.Plain.of_lower_eq (names_plain _ hentry _ hname) rfl⟩
    rintro rfl
    exact (names_ne_words _ hentry _ hname).1 rfl

/-- A spelling of a key is one part. -/
theorem parts_eq : Instruction.parts t = [t] := by
  rcases h.plain_or_singleton with ⟨hne, hplain⟩ | ⟨c, rfl, hblank, hglyph⟩
  · exact Instruction.parts_of_plain hne hplain
  · by_cases hc : c = '+'
    · -- a lone plus is not cut
      subst hc
      rfl
    · exact Instruction.parts_eq_singleton (List.cons_ne_nil _ _)
        (List.forall_mem_singleton.mpr hblank) (List.forall_mem_singleton.mpr hglyph)
        fun hplus => hc (List.mem_singleton.mp hplus).symm

/-- Nothing else than the plus key is spelled with a plus. -/
theorem plus_not_mem (hne : t ≠ ['+']) : '+' ∉ t := by
  rcases h.plain_or_singleton with ⟨-, hplain⟩ | ⟨c, rfl, -, -⟩
  · exact hplain.plus_not_mem
  · exact fun hplus => hne (List.mem_singleton.mp hplus ▸ rfl)

theorem glyph_not_mem (m : Modifier) : m.glyph ∉ t := by
  rcases h.plain_or_singleton with ⟨-, hplain⟩ | ⟨c, rfl, -, hglyph⟩
  · exact hplain.glyph_not_mem m
  · intro hm
    exact Modifier.ofGlyph?_eq_none_iff.mp hglyph m (List.mem_singleton.mp hm)

theorem isBlank_eq_false : ∀ c ∈ t, Text.isBlank c = false := by
  rcases h.plain_or_singleton with ⟨-, hplain⟩ | ⟨c, rfl, hblank, -⟩
  · exact hplain.isBlank_eq_false
  · exact List.forall_mem_singleton.mpr hblank

end SpelledBy

end Key

end KeyPlan
