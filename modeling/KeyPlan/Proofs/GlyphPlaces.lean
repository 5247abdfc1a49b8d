import KeyPlan.Proofs.InstructionForms
import KeyPlan.Proofs.Parts

/-!
# Places of a glyph

An instruction without one of the starts, and without the words that type the description, is a
shortcut. The glyph of a modifier may stand anywhere in it. It is part of no start, so a shortcut
stays one, and it is taken out before the key is looked for, so the key stays the same.

## Main definitions

* `Begins`: an instruction begins with a start
* `IsShortcut`: an instruction has none of the other forms
* `ShortcutResult`: what a shortcut can do

## Main results

* `isShortcut_iff`: the shortcuts are what is read as one
* `parse_of_isShortcut`, `parse_of_isShortcut_of_none`: what a shortcut is read as
* `IsShortcut.insert_glyph`: a glyph more leaves a shortcut a shortcut
* `parsed_insert_glyph`: a glyph more is a modifier more
-/

namespace KeyPlan.Instruction

open Text (Blank trim isBlank foldAscii)

/-- **The instruction begins with a start**, in any ASCII letter case and perhaps behind blanks. -/
def Begins (start raw : List Char) : Prop :=
  ∃ before p rest, raw = before ++ p ++ rest ∧ Blank before ∧ foldAscii p = foldAscii start

/-- **The instruction has none of the other forms.** -/
structure IsShortcut (raw : List Char) : Prop where
  not_switch : ¬ Begins switchStart raw
  not_delay : ¬ Begins delayStart raw
  not_text : ¬ Begins textStart raw
  not_input : ¬ InputForm raw

/-- **What a shortcut can do**: press a key, or be refused as one without a key. -/
def ShortcutResult : Except Error ActionKind → Prop
  | .ok (.keyPress _ _) => True
  | .error (.missingKey _) => True
  | _ => False

instance : DecidablePred ShortcutResult := fun result => by
  unfold ShortcutResult
  split <;> infer_instance

/-! ## Shortcuts are what is left -/

theorem ValueForm.begins {start raw value : List Char} (h : ValueForm start raw value) :
    Begins start raw := by
  obtain ⟨before, p, gap, after, rfl, hbefore, -, -, hp, -⟩ := h
  exact ⟨before, p, gap ++ value ++ after, by simp only [List.append_assoc], hbefore, hp⟩

theorem Begins.exists_valueForm {start raw : List Char} (h : Begins start raw) :
    ∃ value, ValueForm start raw value := by
  obtain ⟨before, p, rest, rfl, hbefore, hp⟩ := h
  obtain ⟨gap, after, hrest, hgap, hafter⟩ := Text.exists_trim rest
  refine ⟨trim rest, before, p, gap, after, ?_, hbefore, hgap, hafter, hp, Text.trim_trim rest⟩
  simp only [List.append_assoc] at hrest ⊢
  rw [← hrest]

theorem TextForm.begins {raw text : List Char} (h : TextForm raw text) : Begins textStart raw := by
  obtain ⟨before, p, rfl, hbefore, hp⟩ := h
  exact ⟨before, p, text, rfl, hbefore, hp⟩

theorem Begins.exists_textForm {raw : List Char} (h : Begins textStart raw) :
    ∃ text, TextForm raw text := by
  obtain ⟨before, p, text, rfl, hbefore, hp⟩ := h
  exact ⟨text, before, p, rfl, hbefore, hp⟩

theorem kind_of_isShortcut {raw : List Char} (h : IsShortcut raw) (description : List Char) :
    kind raw description = shortcutKind (trim raw) := by
  rcases kind_cases raw description with ⟨_, hform⟩ | ⟨_, hform⟩ | ⟨_, hform⟩ | hform | hkind
  · exact absurd hform.begins h.not_switch
  · exact absurd hform.begins h.not_delay
  · exact absurd hform.begins h.not_text
  · exact absurd hform h.not_input
  · exact hkind

/-- **The shortcuts are what is read as one.** -/
theorem isShortcut_iff {raw : List Char} (description : List Char) :
    IsShortcut raw ↔ ShortcutResult (kind raw description) := by
  constructor
  · intro h
    rw [kind_of_isShortcut h, shortcutKind, shortcut]
    split <;> trivial
  · intro h
    refine ⟨fun hswitch => ?_, fun hdelay => ?_, fun htext => ?_, fun hinput => ?_⟩
    · obtain ⟨name, hform⟩ := hswitch.exists_valueForm
      rw [kind_of_switchForm _ hform, switchKind] at h
      split at h <;> exact h
    · obtain ⟨value, hform⟩ := hdelay.exists_valueForm
      rw [kind_of_delayForm _ hform, delayKind] at h
      split at h <;> exact h
    · obtain ⟨text, hform⟩ := htext.exists_textForm
      rw [kind_of_textForm _ hform, textKind] at h
      split at h <;> exact h
    · rw [kind_of_inputForm _ hinput, inputKind] at h
      split at h <;> exact h

instance (raw : List Char) : Decidable (IsShortcut raw) :=
  decidable_of_iff (ShortcutResult (kind raw [])) (isShortcut_iff []).symm

section Parse

variable {raw : List Char} (h : IsShortcut raw) (description : String)
include h

/-- **A shortcut with a key** presses it. -/
theorem parse_of_isShortcut {key : Char} (hkey : namedKey? raw = some key) :
    parse (String.ofList raw) description =
      .ok (.make (.keyPress key (modifiers raw)) description) := by
  rw [parse, String.toList_ofList, kind_of_isShortcut h, shortcutKind_trim_of_some hkey]
  rfl

/-- **A shortcut without a key** is refused. -/
theorem parse_of_isShortcut_of_none (hkey : namedKey? raw = none) :
    parse (String.ofList raw) description = .error (.missingKey (String.ofList (trim raw))) := by
  rw [parse, String.toList_ofList, kind_of_isShortcut h, shortcutKind_trim_of_none hkey]
  rfl

end Parse

/-! ## A glyph more -/

theorem le_toNat_glyph_toLower (m : Modifier) : 128 ≤ m.glyph.toLower.toNat := by
  cases m <;> decide

/-- No spelling of an ASCII text has a glyph. -/
theorem glyph_not_mem_of_foldAscii {p start : List Char} (hp : foldAscii p = foldAscii start)
    (hascii : ∀ c ∈ foldAscii start, c.toNat < 128) (m : Modifier) : m.glyph ∉ p := by
  intro hm
  have hlower : m.glyph.toLower ∈ foldAscii start := hp ▸ List.mem_map_of_mem hm
  exact absurd (hascii _ hlower) (Nat.not_lt.mpr (le_toNat_glyph_toLower m))

/-- What begins with a text that has no glyph does so without the glyph. -/
theorem exists_of_append_eq {u rest xs ys : List Char} {g : Char} (hg : g ∉ u)
    (h : xs ++ g :: ys = u ++ rest) : ∃ zs, xs = u ++ zs := by
  rcases List.append_eq_append_iff.mp h with ⟨bs, hu, hys⟩ | ⟨zs, hxs, -⟩
  · cases bs with
    | nil => exact ⟨[], by rw [hu, List.append_nil, List.append_nil]⟩
    | cons b bs =>
      obtain ⟨rfl, -⟩ := List.cons.inj hys
      exact absurd (hu ▸ List.mem_append_right _ List.mem_cons_self) hg
  · exact ⟨zs, hxs⟩

section Insert

variable {xs ys : List Char} {g : Modifier}

theorem Begins.of_insert_glyph {start : List Char} (hascii : ∀ c ∈ foldAscii start, c.toNat < 128)
    (h : Begins start (xs ++ g.glyph :: ys)) : Begins start (xs ++ ys) := by
  obtain ⟨before, p, rest, hraw, hbefore, hp⟩ := h
  -- neither the blanks nor the start have the glyph, so it stands behind them
  have hg : g.glyph ∉ before ++ p := fun hmem =>
    (List.mem_append.mp hmem).elim (glyph_not_mem_of_blank hbefore g)
      (glyph_not_mem_of_foldAscii hp hascii g)
  obtain ⟨zs, rfl⟩ := exists_of_append_eq hg hraw
  exact ⟨before, p, zs ++ ys, List.append_assoc _ _ _, hbefore, hp⟩

theorem not_inputForm_insert_glyph : ¬ InputForm (xs ++ g.glyph :: ys) := by
  rintro ⟨before, p, after, hraw, hbefore, hafter, hp⟩
  have hmem : g.glyph ∈ before ++ p ++ after :=
    hraw ▸ List.mem_append_right _ List.mem_cons_self
  rcases List.mem_append.mp hmem with hmem | hmem
  · rcases List.mem_append.mp hmem with hmem | hmem
    · exact glyph_not_mem_of_blank hbefore g hmem
    · exact glyph_not_mem_of_foldAscii hp (by decide) g hmem
  · exact glyph_not_mem_of_blank hafter g hmem

/-- **A glyph more leaves a shortcut a shortcut.** -/
theorem IsShortcut.insert_glyph (h : IsShortcut (xs ++ ys)) :
    IsShortcut (xs ++ g.glyph :: ys) where
  not_switch hbegins := h.not_switch (hbegins.of_insert_glyph (by decide))
  not_delay hbegins := h.not_delay (hbegins.of_insert_glyph (by decide))
  not_text hbegins := h.not_text (hbegins.of_insert_glyph (by decide))
  not_input := not_inputForm_insert_glyph

theorem parts_insert_glyph (xs ys : List Char) (g : Modifier) :
    parts (xs ++ g.glyph :: ys) = parts (xs ++ ys) := by
  have hdrop : dropGlyphs (xs ++ g.glyph :: ys) = dropGlyphs (xs ++ ys) := by
    rw [dropGlyphs, dropGlyphs, List.filter_append, List.filter_append,
      List.filter_cons_of_neg (by simp)]
  rw [← parts_dropGlyphs, hdrop, parts_dropGlyphs]

/-- The modifier of the glyph is held as well. -/
theorem modifiers_insert_glyph (xs ys : List Char) (g : Modifier) :
    modifiers (xs ++ g.glyph :: ys) = (modifiers (xs ++ ys)).insert g := by
  ext m
  rw [Bool.eq_iff_iff, contains_modifiers, ModifierSet.contains_insert, Bool.or_eq_true,
    contains_modifiers, parts_insert_glyph, beq_iff_eq, ← or_assoc, ← Modifier.glyph_inj,
    List.mem_append, List.mem_append, List.mem_cons, or_left_comm]

/-- **The glyph of a modifier may stand anywhere** in a shortcut. With the glyph it still is a
shortcut; if it pressed a key, it presses the same key and holds the modifier of the glyph as well,
and no other one; if it had no key, it still has none. -/
theorem parsed_insert_glyph (xs ys : List Char) (g : Modifier) (description : String) :
    (IsShortcut (xs ++ ys) → IsShortcut (xs ++ g.glyph :: ys)) ∧
    (∀ key held, parsed (String.ofList (xs ++ ys)) description = .ok (.keyPress key held) →
      parsed (String.ofList (xs ++ g.glyph :: ys)) description =
        .ok (.keyPress key (held.insert g)) ∧
      ∀ m, (held.insert g).contains m = true ↔ m = g ∨ held.contains m = true) ∧
    (∀ text, parsed (String.ofList (xs ++ ys)) description = .error (.missingKey text) →
      parsed (String.ofList (xs ++ g.glyph :: ys)) description =
        .error (.missingKey (String.ofList (trim (xs ++ g.glyph :: ys))))) := by
  have hkeys : namedKey? (xs ++ g.glyph :: ys) = namedKey? (xs ++ ys) :=
    namedKey?_congr (parts_insert_glyph xs ys g)
  simp only [parsed_eq, String.toList_ofList]
  refine ⟨IsShortcut.insert_glyph, fun key held hkind => ?_, fun text hkind => ?_⟩
  · have h : IsShortcut (xs ++ ys) := (isShortcut_iff _).mpr (by rw [hkind]; trivial)
    rw [kind_of_isShortcut h] at hkind
    rw [kind_of_isShortcut h.insert_glyph]
    cases hkey : namedKey? (xs ++ ys) with
    | none =>
      rw [shortcutKind_trim_of_none hkey] at hkind
      exact nomatch hkind
    | some key' =>
      rw [shortcutKind_trim_of_some hkey] at hkind
      obtain ⟨rfl, rfl⟩ := ActionKind.keyPress.inj (Except.ok.inj hkind)
      refine ⟨?_, fun m => ?_⟩
      · rw [shortcutKind_trim_of_some (hkeys.trans hkey), modifiers_insert_glyph]
      · rw [ModifierSet.contains_insert, Bool.or_eq_true, beq_iff_eq]
  · have h : IsShortcut (xs ++ ys) := (isShortcut_iff _).mpr (by rw [hkind]; trivial)
    rw [kind_of_isShortcut h] at hkind
    rw [kind_of_isShortcut h.insert_glyph]
    cases hkey : namedKey? (xs ++ ys) with
    | none => exact shortcutKind_trim_of_none (hkeys.trans hkey)
    | some key =>
      rw [shortcutKind_trim_of_some hkey] at hkind
      exact nomatch hkind

/-- A glyph inside a word, and one where there is no key. -/
theorem parsed_insert_glyph_inside_word :
    parsed (String.ofList (['c'] ++ "md+s".toList)) "" =
        .ok (.keyPress 's' (.ofList [.command])) ∧
      parsed (String.ofList (['c'] ++ Modifier.shift.glyph :: "md+s".toList)) "" =
        .ok (.keyPress 's' ((ModifierSet.ofList [.command]).insert .shift)) ∧
      parsed (String.ofList ("cmd".toList ++ [])) "" = .error (.missingKey "cmd") ∧
      parsed (String.ofList ("cmd".toList ++ Modifier.shift.glyph :: [])) "" =
        .error (.missingKey (String.ofList (trim ("cmd".toList ++ [Modifier.shift.glyph])))) := by
  have hpress : parsed (String.ofList (['c'] ++ "md+s".toList)) "" =
      .ok (.keyPress 's' (.ofList [.command])) := by decide +kernel
  have hrefused : parsed (String.ofList ("cmd".toList ++ [])) "" = .error (.missingKey "cmd") := by
    decide +kernel
  exact ⟨hpress, ((parsed_insert_glyph ['c'] "md+s".toList .shift "").2.1 _ _ hpress).1,
    hrefused, (parsed_insert_glyph "cmd".toList [] .shift "").2.2 _ hrefused⟩

end Insert

end KeyPlan.Instruction
