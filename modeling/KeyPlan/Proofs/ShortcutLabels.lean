import KeyPlan.Proofs.ActionText
import KeyPlan.Proofs.ReadActions
import KeyPlan.Proofs.ShortcutForms

/-!
# Labels of shortcuts

The label of a key press is itself a shortcut: the glyphs of its modifiers and, directly behind them,
the label of its key. This label is the name of the key, or its character in upper case. Read as an
instruction it gives the same key press, exactly if the way to upper case and back leads to the same
key: this is so for the keys in ASCII and for those that are their own upper case.

## Main results

* `Key.mem_glyphs_of_ofAlias?`: of single characters only glyphs are names
* `Key.WellFormed.label_spelled`: the label of a key spells this key
* `Key.upperChar_of_mem_label`: a key beyond ASCII is in its label only as its own upper case
* `Instruction.parse_label_iff`: which key presses are read back from their labels
-/

namespace KeyPlan

namespace Text

/-! ## Characters in upper and in lower case -/

theorem upperExpansions_not_self : ∀ entry ∈ upperExpansions, ∀ n ∈ entry.2,
    (Char.ofNat n).toNat ≠ entry.1 := by
  decide +kernel

/-- A character that has itself in its upper case is its own upper case. -/
theorem upperChar_of_mem {c : Char} (hhigh : 128 ≤ c.toNat) (h : c ∈ upperChar c) :
    upperChar c = [c] := by
  unfold upperChar at h ⊢
  rw [if_neg (by omega)] at h ⊢
  split at h
  · next ns hns =>
    obtain ⟨n, hn, hc⟩ := List.mem_map.mp h
    exact absurd (congrArg Char.toNat hc) (upperExpansions_not_self _ (expansion_mem hns) n hn)
  · rw [← List.mem_singleton.mp h]

theorem lower_singleton (c : Char) :
    lower [c] = if c = 'Σ' then ['σ'] else lowerChar c := by
  simp [lower, lowerAfter, meetsCased]

/-- Nothing else than itself has the glyph of a key as its lower case. -/
theorem lowerRuns_not_glyph : ∀ r ∈ lowerRuns, ∀ d ∈ Key.glyphs,
    d.toNat < r.image ∨ r.image + (r.last - r.first) < d.toNat := by
  decide +kernel

theorem eq_of_lowerChar_eq {c d : Char} (hd : d ∈ Key.glyphs) (h : lowerChar c = [d]) : c = d := by
  have hhigh := Key.le_toNat_of_mem_glyphs d hd
  unfold lowerChar at h
  split_ifs at h with hascii hdot
  · -- the lower case of an ASCII character is one
    obtain rfl := List.singleton_inj.mp h
    rcases toLower_cases c with ⟨-, _, hlower⟩ | ⟨-, hlower⟩
    · omega
    · rw [hlower] at hhigh
      omega
  · simp at h
  · obtain rfl := List.singleton_inj.mp h
    cases hrun : mapRuns? lowerRuns c.toNat with
    | none => rw [Option.getD_none, Char.ofNat_toNat]
    | some n =>
      rw [hrun, Option.getD_some] at hd hhigh
      obtain ⟨r, hr, hlow, himage⟩ := exists_of_mapRuns? hrun
      have hn := toNat_ofNat_of_ne_zero (n := n) (by omega)
      have hrange := lowerRuns_not_glyph r hr _ hd
      omega

end Text

namespace Key

/-! ## Names of one character -/

theorem names_short : ∀ entry ∈ aliases, ∀ name ∈ entry.2,
    name.toList ∈ glyphs.map ([·]) ∨
      2 ≤ name.toList.length ∧ ∀ d ∈ name.toList, d.toNat < 128 := by
  decide +kernel

theorem exists_of_ofAlias? {t : List Char} {key : Char} (h : ofAlias? t = some key) :
    ∃ entry ∈ aliases, key = entry.1 ∧ String.ofList (Text.lower t) ∈ entry.2 := by
  obtain ⟨entry, hentry, rfl⟩ := Option.map_eq_some_iff.mp h
  refine ⟨entry, List.mem_of_find?_eq_some hentry, rfl, ?_⟩
  simpa using List.find?_some hentry

/-- A name spells a key. -/
theorem SpelledBy.of_ofAlias? {t : List Char} {key : Char} (h : ofAlias? t = some key) :
    SpelledBy t := by
  obtain ⟨entry, hentry, -, hname⟩ := exists_of_ofAlias? h
  exact .inr ⟨entry.1, entry.2, hentry, hname⟩

/-- **Of single characters only glyphs are names.** -/
theorem mem_glyphs_of_ofAlias? {c key : Char} (h : ofAlias? [c] = some key) : c ∈ glyphs := by
  obtain ⟨entry, hentry, -, hname⟩ := exists_of_ofAlias? h
  have hshort := names_short entry hentry _ hname
  rw [String.toList_ofList, Text.lower_singleton] at hshort
  by_cases hsigma : c = 'Σ'
  · rw [if_pos hsigma] at hshort
    exact absurd hshort (by decide)
  · rw [if_neg hsigma] at hshort
    rcases hshort with hglyph | ⟨hlong, hascii⟩
    · obtain ⟨d, hd, hlower⟩ := List.mem_map.mp hglyph
      rwa [Text.eq_of_lowerChar_eq hd hlower.symm]
    · -- only the capital with a dot has two characters in lower case, and the second is its dot
      unfold Text.lowerChar at hlong hascii
      split_ifs at hlong hascii
      · simp at hlong
      · exact absurd (hascii '\u0307' (by simp)) (by decide)
      · simp at hlong

theorem ofWord?_singleton {c : Char} (h : c ∉ glyphs) : ofWord? [c] = some c.toLower := by
  cases halias : ofAlias? [c] with
  | none => simp [ofWord?, halias]
  | some key => exact absurd (mem_glyphs_of_ofAlias? halias) h

/-! ## Labels of keys -/

theorem ofAlias?_labelled : ∀ key ∈ labelled, ofAlias? (label key) = some key := by
  decide +kernel

theorem toLower_of_not_isUpper {c : Char} (h : c.isUpper = false) : c.toLower = c := by
  rcases Text.toLower_cases c with ⟨hlow, hhigh, -⟩ | ⟨-, hsame⟩
  · have hupper : c.isUpper = true := decide_eq_true ⟨hlow, hhigh⟩
    rw [h] at hupper
    exact nomatch hupper
  · exact hsame

/-- From a small letter to the capital and back. -/
theorem toLower_toUpper {c : Char} (h : c.isUpper = false) : c.toUpper.toLower = c := by
  rcases Text.toUpper_cases c with ⟨hlow, hhigh, hupper⟩ | ⟨-, hsame⟩
  · rcases Text.toLower_cases c.toUpper with ⟨-, -, hlower⟩ | ⟨hnot, -⟩
    · rw [← Char.toNat_inj]
      omega
    · omega
  · rw [hsame, toLower_of_not_isUpper h]

theorem toNat_toUpper_lt {c : Char} (h : c.toNat < 128) : c.toUpper.toNat < 128 := by
  rcases Text.toUpper_cases c with ⟨-, -, hupper⟩ | ⟨-, hsame⟩
  · omega
  · rwa [hsame]

namespace WellFormed

variable {key : Char} (h : WellFormed key)
include h

/-- Every other label is one character, which leads back to the key and is no glyph. -/
theorem exists_label_eq (hkey : key.toNat < 128 ∨ Text.upperChar key = [key])
    (hlabelled : key ∉ labelled) :
    ∃ c, label key = [c] ∧ c.toLower = key ∧ c ∉ glyphs ∧ Modifier.ofGlyph? c = none := by
  rw [label_eq_upperChar hlabelled]
  rcases hkey with hascii | hupper
  · have hlow := toNat_toUpper_lt hascii
    refine ⟨key.toUpper, Text.upperChar_ascii hascii, toLower_toUpper h.not_upper, ?_, ?_⟩
    · intro hmem
      have hhigh := le_toNat_of_mem_glyphs _ hmem
      omega
    · rw [Modifier.ofGlyph?_eq_none_iff]
      intro m hm
      have hhigh := m.le_toNat_glyph
      rw [hm] at hhigh
      omega
  · exact ⟨key, hupper, toLower_of_not_isUpper h.not_upper, h.not_glyph, h.not_modifier⟩

/-- **The label of a key spells this key**, if the key is in ASCII or its own upper case. -/
theorem label_spelled (hkey : key.toNat < 128 ∨ Text.upperChar key = [key]) :
    SpelledBy (label key) ∧ ofWord? (label key) = some key := by
  by_cases hlabelled : key ∈ labelled
  · have halias := ofAlias?_labelled key hlabelled
    refine ⟨SpelledBy.of_ofAlias? halias, ?_⟩
    simp [ofWord?, halias]
  · obtain ⟨c, hlabel, hlower, hglyph, hmodifier⟩ := h.exists_label_eq hkey hlabelled
    have hblank := h.isBlank_label.2 c (by simp [hlabel])
    rw [hlabel]
    exact ⟨.inl ⟨c, rfl, hblank, hmodifier⟩, by rw [ofWord?_singleton hglyph, hlower]⟩

end WellFormed

/-- **A key beyond ASCII is in its label** only as its own upper case. -/
theorem upperChar_of_mem_label {key : Char} (hhigh : 128 ≤ key.toNat) (hmem : key ∈ label key) :
    Text.upperChar key = [key] := by
  have hlabelled : key ∉ labelled := by
    intro hin
    have hascii : ∀ c ∈ labelled, c.toNat < 128 := by decide
    exact absurd (hascii key hin) (by omega)
  rw [label_eq_upperChar hlabelled] at hmem
  exact Text.upperChar_of_mem hhigh hmem

/-- A key that a part names beyond ASCII is a character of this part, or an arrow, which is its own
upper case. -/
theorem mem_of_ofWord? {p : List Char} {key : Char} (h : ofWord? p = some key)
    (hhigh : 128 ≤ key.toNat) : key ∈ p ∨ Text.upperChar key = [key] := by
  unfold ofWord? at h
  split at h
  · next key' halias =>
    obtain rfl := Option.some.inj h
    obtain ⟨entry, hentry, rfl, -⟩ := exists_of_ofAlias? halias
    have harrow : ∀ entry ∈ aliases, 128 ≤ entry.1.toNat →
        Text.upperChar entry.1 = [entry.1] := by decide +kernel
    exact .inr (harrow entry hentry hhigh)
  · split at h
    · next c _ =>
      obtain rfl := Option.some.inj h
      -- beyond ASCII the character is the key itself
      rw [toLower_eq_self hhigh]
      exact .inl (List.mem_singleton_self c)
    · exact nomatch h

end Key

namespace Instruction

/-! ## Labels of key presses -/

/-- The characters of a part are from the text, or the plus key. -/
theorem mem_of_mem_parts {s p : List Char} (hp : p ∈ parts s) {c : Char} (hc : c ∈ p) :
    c ∈ s ∨ c = '+' := by
  rw [parts_eq_flatMap_pieces] at hp
  obtain ⟨w, hw, hp⟩ := List.mem_flatMap.mp hp
  rw [combination_eq] at hp
  rcases List.mem_append.mp hp with hp | hp
  · have hcw := (Text.of_mem_pieces (List.mem_filter.mp hp).1 c hc).1
    have hcs := (Text.of_mem_pieces hw c hcw).1
    exact .inl (List.mem_filter.mp hcs).1
  · split_ifs at hp
    · obtain rfl := List.mem_singleton.mp hp
      exact .inr (List.mem_singleton.mp hc)
    · exact nomatch hp

/-- A key press is read from a shortcut, one part of which names its key. -/
theorem exists_part_of_kind {raw description : List Char} {key : Char} {held : ModifierSet}
    (h : kind raw description = .ok (.keyPress key held)) :
    ∃ p ∈ parts raw, Key.ofWord? p = some key := by
  have hshortcut : IsShortcut raw := by
    rw [isShortcut_iff description, h]
    trivial
  rw [kind_of_isShortcut hshortcut] at h
  obtain ⟨p, hp, key', held', hkey, hpress⟩ := exists_part_of_shortcutKind h
  obtain ⟨rfl, -⟩ := ActionKind.keyPress.inj hpress
  rw [parts_trim] at hp
  exact ⟨p, hp, hkey⟩

/-- **The label of a key press is read back** if it spells the key. -/
theorem parse_label {key : Char} (held : ModifierSet) (hword : Key.SpelledBy (Key.label key))
    (hkey : Key.ofWord? (Key.label key) = some key) :
    parse (ActionKind.keyPress key held).label "" = .ok (.make (.keyPress key held) "") := by
  have hcomposed := composed_glyphs held.toList hword
  have hparse := hcomposed.parse_eq (spelled_glyphs held.toList) hword.ofWord?_eq_none hkey ""
  rw [ModifierSet.ofList_toList] at hparse
  exact hparse

theorem mem_label {key c : Char} {held : ModifierSet}
    (h : c ∈ (ActionKind.keyPress key held).label.toList) :
    (∃ m ∈ held.toList, m.glyph = c) ∨ c ∈ Key.label key := by
  have htext : (ActionKind.keyPress key held).label =
      String.ofList (held.toList.map Modifier.glyph ++ Key.label key) := rfl
  rw [htext, String.toList_ofList] at h
  rcases List.mem_append.mp h with hglyph | hlabel
  · exact .inl (List.mem_map.mp hglyph)
  · exact .inr hlabel

/-- A key beyond ASCII that is not its own upper case is lost in its label. -/
theorem key_of_parse_label {key : Char} {held : ModifierSet} {a : Action}
    (hkey : Key.WellFormed key) (h : parse (ActionKind.keyPress key held).label "" = .ok a)
    (ha : a.kind = .keyPress key held) : key.toNat < 128 ∨ Text.upperChar key = [key] := by
  obtain ⟨k, hkind, rfl⟩ := exists_kind_of_parse h
  obtain rfl : k = .keyPress key held := ha
  obtain ⟨p, hp, hword⟩ := exists_part_of_kind hkind
  by_cases hascii : key.toNat < 128
  · exact .inl hascii
  · have hhigh : 128 ≤ key.toNat := by omega
    refine .inr ?_
    rcases Key.mem_of_ofWord? hword hhigh with hmem | hupper
    · -- the key is in the label, and neither a glyph nor a plus
      rcases mem_of_mem_parts hp hmem with hlabel | rfl
      · rcases mem_label hlabel with ⟨m, -, rfl⟩ | hlabel
        · exact absurd hkey.not_modifier (by simp)
        · exact Key.upperChar_of_mem_label hhigh hlabel
      · exact absurd hhigh (by decide)
    · exact hupper

/-- **Which key presses are read back from their labels**: those whose key is in ASCII or its own
upper case. The label is the description of every key press that is read without one. -/
theorem parse_label_iff {raw : String} {a : Action} {key : Char} {held : ModifierSet}
    (h : parse raw "" = .ok a) (ha : a.kind = .keyPress key held) :
    a.description = String.ofList (held.toList.map Modifier.glyph ++ Key.label key) ∧
      (parse a.description "" = .ok a ↔ key.toNat < 128 ∨ Text.upperChar key = [key]) := by
  obtain ⟨k, hkind, rfl⟩ := exists_kind_of_parse h
  obtain rfl : k = .keyPress key held := ha
  have hkey : Key.WellFormed key := wellFormed_of_kind hkind
  refine ⟨rfl, ?_, ?_⟩
  · intro hback
    exact key_of_parse_label hkey hback rfl
  · intro hupper
    obtain ⟨hword, hname⟩ := hkey.label_spelled hupper
    exact parse_label held hword hname

/-- The plus key and a capital beyond ASCII are read back, the small letter is not. -/
theorem parse_label_iff_accents :
    parse "⌃⌘+" "" = .ok (.make (.keyPress '+' (.ofList [.control, .command])) "") ∧
      parse "opt+É" "" = .ok (.make (.keyPress 'É' (.ofList [.option])) "") ∧
      parse "⌥É" "" = .ok (.make (.keyPress 'É' (.ofList [.option])) "") ∧
      parse "opt+é" "" = .ok (.make (.keyPress 'é' (.ofList [.option])) "") ∧
      ¬ parse "⌥É" "" = .ok (.make (.keyPress 'é' (.ofList [.option])) "") := by
  have hplus : parse "⌃⌘+" "" = .ok (.make (.keyPress '+' (.ofList [.control, .command])) "") := by
    decide +kernel
  have hcapital : parse "opt+É" "" = .ok (.make (.keyPress 'É' (.ofList [.option])) "") := by
    decide +kernel
  have hsmall : parse "opt+é" "" = .ok (.make (.keyPress 'é' (.ofList [.option])) "") := by
    decide +kernel
  refine ⟨hplus, hcapital, ?_, hsmall, ?_⟩
  · exact (parse_label_iff hcapital rfl).2.mpr (.inr (by decide +kernel))
  · intro hback
    have hupper := (parse_label_iff hsmall rfl).2.mp hback
    revert hupper
    decide +kernel

end Instruction

end KeyPlan
