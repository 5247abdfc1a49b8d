import KeyPlan.Proofs.GlyphPlaces
import KeyPlan.Proofs.Spellings
import Mathlib.Data.List.Forall2

/-!
# Ways to write a shortcut

The modifiers of a shortcut are written as glyphs directly before the key, with blanks between them
and the key, or with pluses between them and the key. All of this is read alike, in any order and
with any spelling of each modifier. Where no key is written none is read, with one exception: of
modifiers with pluses between them, two glyphs at the end leave a plus behind that nothing follows,
and this is the plus key.

## Main definitions

* `Late`: only blanks stand behind a mark of another form
* `Composed`: a shortcut that is read as spellings of modifiers and some more parts
* `Spelled`, `Spaced`: modifiers and their spellings, texts with blanks between them
* `EndsInGlyphs`: the last two spellings are glyphs
* `Written`: the ways to write a shortcut

## Main results

* `Late.isShortcut`: what has its marks late has none of the other forms
* `Composed.parse_eq`, `Composed.parse_eq_missingKey`: what the parts make of a shortcut
* `composed_spaced`, `composed_joined`: modifiers with blanks and with pluses between them
* `parse_without_key`: modifiers alone are refused, but for the exception
* `parse_written`: all ways to write a shortcut agree
-/

namespace KeyPlan.Instruction

open Text (Blank trim isBlank foldAscii marks)

/-! ## Shortcuts by their marks -/

/-- **Only blanks stand behind a mark** of another form. -/
def Late (raw : List Char) : Prop :=
  ∀ before c after, raw = before ++ c :: after → c.toLower ∈ marks → Blank after

theorem late_of_not_mem {raw : List Char} (h : ∀ c ∈ raw, c.toLower ∉ marks) : Late raw := by
  rintro before c after rfl hc
  exact absurd hc (h c (List.mem_append_right _ List.mem_cons_self))

theorem toLower_not_mem_marks_of_isBlank {c : Char} (h : isBlank c = true) :
    c.toLower ∉ marks := by
  intro hmark
  rw [← Text.isBlank_toLower] at h
  revert h
  have hmarks : ∀ d ∈ marks, ¬ isBlank d = true := by decide
  exact hmarks _ hmark

/-- The character of a key may be a mark, if it comes last. -/
theorem late_of_last {before after : List Char} {c : Char}
    (hbefore : ∀ d ∈ before, d.toLower ∉ marks) (hafter : Blank after) :
    Late (before ++ c :: after) := by
  intro before' d after' heq hd
  have hmem : d ∉ before := fun h => hbefore d h hd
  obtain ⟨us, rfl⟩ := exists_of_append_eq hmem heq.symm
  rw [List.append_assoc] at heq
  have heq := List.append_cancel_left heq
  cases us with
  | nil =>
    obtain ⟨-, rfl⟩ := List.cons.inj heq
    exact hafter
  | cons u us =>
    obtain ⟨-, rfl⟩ := List.cons.inj heq
    -- the mark would be one of the blanks
    have hblank := hafter d (List.mem_append_right _ List.mem_cons_self)
    exact absurd hd (toLower_not_mem_marks_of_isBlank hblank)

/-- A form has something behind its mark. -/
theorem Late.not_begins {raw start : List Char} (h : Late raw) (s₁ : List Char) {d : Char}
    (s₂ : List Char) (hstart : foldAscii start = s₁ ++ d :: s₂) (hd : d ∈ marks)
    (hs₂ : ∃ c ∈ s₂, isBlank c = false) : ¬ Begins start raw := by
  rintro ⟨before, p, rest, rfl, -, hp⟩
  rw [hstart] at hp
  -- the mark in the spelling of the start, and what follows it there
  obtain ⟨p₁, q, rfl, -, hq⟩ := List.map_eq_append_iff.mp hp
  obtain ⟨c, p₂, rfl, rfl, rfl⟩ := List.map_eq_cons_iff.mp hq
  have hblank : Blank (p₂ ++ rest) :=
    h (before ++ p₁) c (p₂ ++ rest) (by simp only [List.append_assoc, List.cons_append]) hd
  obtain ⟨e, he, hne⟩ := hs₂
  obtain ⟨c', hc', rfl⟩ := List.mem_map.mp he
  rw [Text.isBlank_toLower, hblank c' (List.mem_append_left _ hc')] at hne
  exact nomatch hne

theorem InputForm.begins {raw : List Char} (h : InputForm raw) : Begins textInput raw := by
  obtain ⟨before, p, after, rfl, hbefore, -, hp⟩ := h
  exact ⟨before, p, after, rfl, hbefore, hp⟩

/-- **What has its marks late is a shortcut.** -/
theorem Late.isShortcut {raw : List Char} (h : Late raw) : IsShortcut raw where
  not_switch := h.not_begins "switch".toList "app:".toList rfl (by decide)
    ⟨':', by decide, by decide⟩
  not_delay := h.not_begins "dela".toList ":".toList rfl (by decide) ⟨':', by decide, by decide⟩
  not_text := h.not_begins "te".toList "t:".toList rfl (by decide) ⟨':', by decide, by decide⟩
  not_input hform := h.not_begins "te".toList "t input".toList rfl (by decide)
    ⟨'i', by decide, by decide⟩ hform.begins

/-! ## What a composed shortcut does -/

/-- **A composed shortcut**: one that is read as the spellings and, behind their parts, as some more
parts. -/
structure Composed (raw : List Char) (spellings tail : List (List Char)) : Prop where
  isShortcut : IsShortcut raw
  glyph_mem_iff : ∀ m : Modifier, m.glyph ∈ raw ↔ ∃ t ∈ spellings, m.glyph ∈ t
  parts_eq : parts raw = spellings.flatMap parts ++ tail

/-- What stands on the right of a list of pairs has its partner on the left. -/
theorem exists_of_forall₂ {α β : Type*} {R : α → β → Prop} {as : List α} {bs : List β}
    (h : List.Forall₂ R as bs) : ∀ b ∈ bs, ∃ a ∈ as, R a b := by
  induction h with
  | nil => exact List.forall_mem_nil _
  | cons hr _ ih =>
    refine List.forall_mem_cons.mpr ⟨⟨_, List.mem_cons_self, hr⟩, fun b hb => ?_⟩
    obtain ⟨a, ha, hr⟩ := ih b hb
    exact ⟨a, List.mem_cons_of_mem _ ha, hr⟩

/-- A list of modifiers and what spells each of them. -/
abbrev Spelled : List Modifier → List (List Char) → Prop :=
  List.Forall₂ Modifier.SpelledBy

namespace Spelled

variable {ms : List Modifier} {spellings : List (List Char)}

theorem exists_of_mem (h : Spelled ms spellings) : ∀ t ∈ spellings, ∃ m ∈ ms, m.SpelledBy t :=
  exists_of_forall₂ h

theorem exists_spelling (h : Spelled ms spellings) : ∀ m ∈ ms, ∃ t ∈ spellings, m.SpelledBy t :=
  exists_of_forall₂ (List.Forall₂.flip h)

end Spelled

namespace Composed

variable {ms : List Modifier} {raw : List Char} {spellings tail : List (List Char)}

/-- The modifiers are those that are spelled. -/
theorem modifiers_eq (h : Composed raw spellings tail) (hspelled : Spelled ms spellings)
    (htail : ∀ p ∈ tail, Modifier.ofWord? p = none) : modifiers raw = .ofList ms := by
  -- a modifier is listed if one of the spellings names it, as a glyph or as a part
  have htoken {m : Modifier} : m ∈ ms ↔
      ∃ t ∈ spellings, m.glyph ∈ t ∨ ∃ p ∈ parts t, Modifier.ofWord? p = some m := by
    constructor
    · intro hm
      obtain ⟨t, ht, hspells⟩ := hspelled.exists_spelling m hm
      exact ⟨t, ht, hspells.names_iff.mpr rfl⟩
    · rintro ⟨t, ht, hnames⟩
      obtain ⟨n, hn, hspells⟩ := hspelled.exists_of_mem t ht
      exact hspells.names_iff.mp hnames ▸ hn
  ext m
  rw [Bool.eq_iff_iff, contains_modifiers, ModifierSet.contains_ofList, List.contains_iff_mem,
    htoken, h.glyph_mem_iff, h.parts_eq]
  constructor
  · rintro (⟨t, ht, hglyph⟩ | ⟨p, hp, hm⟩)
    · exact ⟨t, ht, .inl hglyph⟩
    · rcases List.mem_append.mp hp with hp | hp
      · obtain ⟨t, ht, hp⟩ := List.mem_flatMap.mp hp
        exact ⟨t, ht, .inr ⟨p, hp, hm⟩⟩
      · rw [htail p hp] at hm
        exact nomatch hm
  · rintro ⟨t, ht, hglyph | ⟨p, hp, hm⟩⟩
    · exact .inl ⟨t, ht, hglyph⟩
    · exact .inr ⟨p, List.mem_append_left _ (List.mem_flatMap.mpr ⟨t, ht, hp⟩), hm⟩

/-- The key is named by the last part that is not spelled. -/
theorem keyPart?_eq (h : Composed raw spellings tail) (hspelled : Spelled ms spellings)
    (htail : ∀ p ∈ tail, Modifier.ofWord? p = none) : keyPart? raw = tail.getLast? := by
  have hspellings :
      (spellings.flatMap parts).filter (fun p => (Modifier.ofWord? p).isNone) = [] := by
    refine List.filter_eq_nil_iff.mpr fun p hp => ?_
    obtain ⟨t, ht, hp⟩ := List.mem_flatMap.mp hp
    obtain ⟨m, -, hspells⟩ := hspelled.exists_of_mem t ht
    rw [← Option.not_isSome, hspells.ofWord?_isSome p hp]
    decide
  have htail : tail.filter (fun p => (Modifier.ofWord? p).isNone) = tail :=
    List.filter_eq_self.mpr fun p hp => Option.isNone_iff_eq_none.mpr (htail p hp)
  rw [keyPart?, h.parts_eq, List.filter_append, hspellings, htail, List.nil_append]

/-- **With a key behind the modifiers** the key is pressed and the modifiers are held. -/
theorem parse_eq {word : List Char} {key : Char} (h : Composed raw spellings [word])
    (hspelled : Spelled ms spellings) (hword : Modifier.ofWord? word = none)
    (hkey : Key.ofWord? word = some key) (description : String) :
    parse (String.ofList raw) description =
      .ok (.make (.keyPress key (.ofList ms)) description) := by
  have htail : ∀ p ∈ [word], Modifier.ofWord? p = none := List.forall_mem_singleton.mpr hword
  have hnamed : namedKey? raw = some key := by
    rw [namedKey?, h.keyPart?_eq hspelled htail]
    exact hkey
  rw [parse_of_isShortcut h.isShortcut description hnamed, h.modifiers_eq hspelled htail]

/-- **With modifiers alone** there is no key. -/
theorem parse_eq_missingKey (h : Composed raw spellings []) (hspelled : Spelled ms spellings)
    (description : String) :
    parse (String.ofList raw) description = .error (.missingKey (String.ofList (trim raw))) := by
  have hnamed : namedKey? raw = none := by
    rw [namedKey?, h.keyPart?_eq hspelled (List.forall_mem_nil _)]
    rfl
  exact parse_of_isShortcut_of_none h.isShortcut description hnamed

end Composed

/-! ## Blanks in between -/

/-- **The texts with blanks between them**, and perhaps around them. -/
inductive Spaced : List (List Char) → List Char → Prop
  | nil {gap : List Char} : Blank gap → Spaced [] gap
  | cons {gap t rest : List Char} {ts : List (List Char)} :
      Blank gap → Spaced ts rest → Apart rest → Spaced (t :: ts) (gap ++ t ++ rest)

namespace Spaced

variable {ts us : List (List Char)} {raw : List Char}

theorem parts_eq (h : Spaced ts raw) : parts raw = ts.flatMap parts := by
  induction h with
  | nil hgap => exact parts_of_blank hgap
  | cons hgap _ hapart ih =>
    rw [List.append_assoc, parts_of_blank_append hgap, parts_append_of_apart hapart, ih,
      List.flatMap_cons]

/-- What has blanks between can be cut between two of the texts. -/
theorem exists_append (h : Spaced (ts ++ us) raw) :
    ∃ r s, raw = r ++ s ∧ Spaced ts r ∧ Spaced us s := by
  induction ts generalizing raw with
  | nil => exact ⟨[], raw, rfl, .nil (List.forall_mem_nil _), h⟩
  | cons t ts ih =>
    cases h with
    | cons hgap hrest hapart =>
      obtain ⟨r, s, rfl, hr, hs⟩ := ih hrest
      refine ⟨_, s, (List.append_assoc _ r s).symm, .cons hgap hr ?_, hs⟩
      exact fun c hc => hapart c (List.mem_head?_append_of_mem_head? hc)

/-- A character is a blank or belongs to one of the texts. -/
theorem isBlank_or_mem (h : Spaced ts raw) :
    ∀ c ∈ raw, isBlank c = true ∨ ∃ t ∈ ts, c ∈ t := by
  induction h with
  | nil hgap => exact fun c hc => .inl (hgap c hc)
  | cons hgap _ _ ih =>
    intro c hc
    rcases List.mem_append.mp hc with hc | hc
    · rcases List.mem_append.mp hc with hc | hc
      · exact .inl (hgap c hc)
      · exact .inr ⟨_, List.mem_cons_self, hc⟩
    · rcases ih c hc with hblank | ⟨t, ht, hc⟩
      · exact .inl hblank
      · exact .inr ⟨t, List.mem_cons_of_mem _ ht, hc⟩

theorem toLower_not_mem_marks (h : Spaced ts raw)
    (hts : ∀ t ∈ ts, ∀ c ∈ t, c.toLower ∉ marks) : ∀ c ∈ raw, c.toLower ∉ marks := by
  intro c hc
  rcases h.isBlank_or_mem c hc with hblank | ⟨t, ht, hc⟩
  · exact toLower_not_mem_marks_of_isBlank hblank
  · exact hts t ht c hc

/-- One text has nothing but blanks around it. -/
theorem exists_of_singleton {t : List Char} (h : Spaced [t] raw) :
    ∃ before after, raw = before ++ t ++ after ∧ Blank before ∧ Blank after := by
  cases h with
  | cons hgap hrest _ =>
    cases hrest with
    | nil hafter => exact ⟨_, _, rfl, hgap, hafter⟩

theorem mem_of_mem (h : Spaced ts raw) : ∀ t ∈ ts, ∀ c ∈ t, c ∈ raw := by
  induction h with
  | nil => exact List.forall_mem_nil _
  | cons _ _ _ ih =>
    refine List.forall_mem_cons.mpr ⟨fun c hc => ?_, fun t ht c hc => ?_⟩
    · exact List.mem_append_left _ (List.mem_append_right _ hc)
    · exact List.mem_append_right _ (ih t ht c hc)

theorem glyph_mem_iff (h : Spaced ts raw) (m : Modifier) :
    m.glyph ∈ raw ↔ ∃ t ∈ ts, m.glyph ∈ t := by
  constructor
  · intro hm
    rcases h.isBlank_or_mem _ hm with hblank | hmem
    · exact absurd (ofGlyph?_of_isBlank hblank) (by simp)
    · exact hmem
  · rintro ⟨t, ht, hm⟩
    exact h.mem_of_mem t ht _ hm

end Spaced

/-! ## Pluses in between -/

theorem joined_cons {t : List Char} {ts : List (List Char)} (hne : ts ≠ []) :
    joined (t :: ts) = t ++ '+' :: joined ts :=
  (joined_append (List.cons_ne_nil t []) hne).trans (by simp [joined])

/-- **Texts with pluses between them, one by one.** -/
theorem joined_induction {motive : List (List Char) → Prop} (nil : motive [])
    (single : ∀ t, motive [t]) (cons : ∀ t ts, ts ≠ [] → motive ts → motive (t :: ts))
    (ts : List (List Char)) : motive ts := by
  induction ts with
  | nil => exact nil
  | cons t ts ih =>
    cases ts with
    | nil => exact single t
    | cons t' ts => exact cons t _ (List.cons_ne_nil t' ts) ih

theorem mem_joined {ts : List (List Char)} {c : Char} (hc : c ∈ joined ts) :
    c = '+' ∨ ∃ t ∈ ts, c ∈ t := by
  induction ts using joined_induction with
  | nil => exact nomatch hc
  | single t =>
    rw [joined, List.intercalate_singleton] at hc
    exact .inr ⟨t, List.mem_singleton_self t, hc⟩
  | cons t ts hne ih =>
    rw [joined_cons hne] at hc
    rcases List.mem_append.mp hc with hc | hc
    · exact .inr ⟨t, List.mem_cons_self, hc⟩
    · rcases List.mem_cons.mp hc with rfl | hc
      · exact .inl rfl
      · rcases ih hc with rfl | ⟨t', ht', hc⟩
        · exact .inl rfl
        · exact .inr ⟨t', List.mem_cons_of_mem t ht', hc⟩

theorem mem_joined_of_mem {ts : List (List Char)} {c : Char} :
    ∀ t ∈ ts, c ∈ t → c ∈ joined ts := by
  induction ts using joined_induction with
  | nil => exact List.forall_mem_nil _
  | single t =>
    rw [List.forall_mem_singleton, joined, List.intercalate_singleton]
    exact id
  | cons t ts hne ih =>
    rw [joined_cons hne]
    refine List.forall_mem_cons.mpr ⟨List.mem_append_left _, fun t' ht' hc => ?_⟩
    exact List.mem_append_right _ (List.mem_cons_of_mem _ (ih t' ht' hc))

theorem glyph_mem_joined (ts : List (List Char)) (m : Modifier) :
    m.glyph ∈ joined ts ↔ ∃ t ∈ ts, m.glyph ∈ t := by
  constructor
  · intro hm
    refine (mem_joined hm).resolve_left fun hplus => ?_
    revert hplus
    cases m <;> decide
  · rintro ⟨t, ht, hm⟩
    exact mem_joined_of_mem t ht hm

theorem dropGlyphs_joined (ts : List (List Char)) :
    dropGlyphs (joined ts) = joined (ts.map dropGlyphs) := by
  induction ts using joined_induction with
  | nil => rfl
  | single t => simp [joined]
  | cons t ts hne ih =>
    rw [List.map_cons, joined_cons hne, joined_cons (by simpa using hne), ← ih, dropGlyphs,
      List.filter_append, List.filter_cons_of_pos (by decide)]
    rfl

theorem flatMap_parts {ts : List (List Char)} (hblank : ∀ t ∈ ts, ∀ c ∈ t, isBlank c = false)
    (hplus : ∀ t ∈ ts, '+' ∉ t) :
    ts.flatMap parts = (ts.map dropGlyphs).filter fun p => !p.isEmpty := by
  induction ts with
  | nil => rfl
  | cons t ts ih =>
    obtain ⟨ht, hts⟩ := List.forall_mem_cons.mp hblank
    obtain ⟨ht', hts'⟩ := List.forall_mem_cons.mp hplus
    rw [List.flatMap_cons, ih hts hts', parts_of_not_mem ht ht', ← List.filter_append]
    rfl

/-- **The parts of texts with pluses between them** are those of the texts, and the plus key if
nothing but glyphs stands in the last two of them. -/
theorem parts_joined {ts : List (List Char)} (hne : ts ≠ [])
    (hblank : ∀ t ∈ ts, ∀ c ∈ t, isBlank c = false) (hplus : ∀ t ∈ ts, '+' ∉ t) :
    parts (joined ts) =
      ts.flatMap parts ++ if [[], []] <:+ ts.map dropGlyphs then [['+']] else [] := by
  have hsolid : ∀ c ∈ joined ts, isBlank c = false := by
    intro c hc
    rcases mem_joined hc with rfl | ⟨t, ht, hc⟩
    · decide
    · exact hblank t ht c hc
  have hplus' : ∀ p ∈ ts.map dropGlyphs, '+' ∉ p :=
    List.forall_mem_map.mpr fun t ht h => hplus t ht (List.mem_filter.mp h).1
  rw [parts_of_solid hsolid, dropGlyphs_joined, combination_eq,
    pieces_joined (by simpa using hne) hplus', flatMap_parts hblank hplus]

/-! ## Modifiers without a key -/

/-- The last two spellings are glyphs. -/
def EndsInGlyphs (spellings : List (List Char)) : Prop :=
  ∃ m n : Modifier, [[m.glyph], [n.glyph]] <:+ spellings

section WithoutKey

variable {ms : List Modifier} {spellings : List (List Char)} (h : Spelled ms spellings)
include h

theorem Spelled.isBlank_eq_false : ∀ t ∈ spellings, ∀ c ∈ t, isBlank c = false := by
  intro t ht
  obtain ⟨m, -, hspells⟩ := h.exists_of_mem t ht
  exact hspells.isBlank_eq_false

theorem Spelled.plus_not_mem : ∀ t ∈ spellings, '+' ∉ t := by
  intro t ht
  obtain ⟨m, -, hspells⟩ := h.exists_of_mem t ht
  exact hspells.plus_not_mem

theorem Spelled.toLower_not_mem_marks : ∀ t ∈ spellings, ∀ c ∈ t, c.toLower ∉ marks := by
  intro t ht
  obtain ⟨m, -, hspells⟩ := h.exists_of_mem t ht
  exact hspells.toLower_not_mem_marks

theorem Spelled.endsInGlyphs_iff :
    EndsInGlyphs spellings ↔ [[], []] <:+ spellings.map dropGlyphs := by
  constructor
  · rintro ⟨m, n, hsuffix⟩
    have hdrop (m : Modifier) : dropGlyphs [m.glyph] = [] := by simp [dropGlyphs]
    have hmap := hsuffix.map dropGlyphs
    rwa [List.map_cons, List.map_singleton, hdrop, hdrop] at hmap
  · rintro ⟨rest, hrest⟩
    -- the last two spellings vanish when glyphs are dropped, so they are glyphs
    obtain ⟨before, last, rfl, -, hlast⟩ := List.map_eq_append_iff.mp hrest.symm
    obtain ⟨t, l, rfl, ht, hl⟩ := List.map_eq_cons_iff.mp hlast
    obtain ⟨u, l', rfl, hu, hl'⟩ := List.map_eq_cons_iff.mp hl
    obtain rfl := List.map_eq_nil_iff.mp hl'
    have hglyph : ∀ v ∈ [t, u], ∃ m : Modifier, dropGlyphs v = [] → v = [m.glyph] := by
      intro v hv
      obtain ⟨m, -, hspells⟩ := h.exists_of_mem v (List.mem_append_right _ hv)
      exact ⟨m, hspells.eq_glyph_of_dropGlyphs⟩
    obtain ⟨m, hm⟩ := hglyph t (by simp)
    obtain ⟨n, hn⟩ := hglyph u (by simp)
    exact ⟨m, n, before, by rw [hm ht, hn hu]⟩

/-- **Modifiers with blanks between them** are all that is read. -/
theorem composed_spaced {raw : List Char} (hraw : Spaced spellings raw) :
    Composed raw spellings [] where
  isShortcut := (late_of_not_mem (hraw.toLower_not_mem_marks h.toLower_not_mem_marks)).isShortcut
  glyph_mem_iff := hraw.glyph_mem_iff
  parts_eq := by rw [hraw.parts_eq, List.append_nil]

theorem toLower_not_mem_marks_joined : ∀ c ∈ joined spellings, c.toLower ∉ marks := by
  intro c hc
  rcases mem_joined hc with rfl | ⟨t, ht, hc⟩
  · decide
  · exact h.toLower_not_mem_marks t ht c hc

/-- **Modifiers with pluses between them** leave a plus behind if they end in glyphs. -/
theorem composed_joined (hne : spellings ≠ []) :
    Composed (joined spellings) spellings
      (if [[], []] <:+ spellings.map dropGlyphs then [['+']] else []) where
  isShortcut := (late_of_not_mem (toLower_not_mem_marks_joined h)).isShortcut
  glyph_mem_iff := glyph_mem_joined spellings
  parts_eq := parts_joined hne h.isBlank_eq_false h.plus_not_mem

/-- **Modifiers alone name no key**, so they are refused if each of them stands on its own. With
pluses between them they are refused as well, unless the last two are glyphs: then nothing is left
behind the last plus, and it is the plus key. -/
theorem parse_without_key (hne : ms ≠ []) (description : String) :
    (∀ raw, Spaced spellings raw → parse (String.ofList raw) description =
      .error (.missingKey (String.ofList (trim raw)))) ∧
    (¬ EndsInGlyphs spellings → parse (String.ofList (joined spellings)) description =
      .error (.missingKey (String.ofList (trim (joined spellings))))) ∧
    (EndsInGlyphs spellings → parse (String.ofList (joined spellings)) description =
      .ok (.make (.keyPress '+' (.ofList ms)) description)) := by
  have hne : spellings ≠ [] := by
    rintro rfl
    exact hne (List.forall₂_nil_right_iff.mp h)
  have hjoined := composed_joined h hne
  refine ⟨fun raw hraw => (composed_spaced h hraw).parse_eq_missingKey h description, ?_, ?_⟩
  · intro hends
    rw [if_neg (mt h.endsInGlyphs_iff.mpr hends)] at hjoined
    exact hjoined.parse_eq_missingKey h description
  · intro hends
    rw [if_pos (h.endsInGlyphs_iff.mp hends)] at hjoined
    exact hjoined.parse_eq h rfl rfl description

end WithoutKey

/-- Modifiers with blanks and with pluses between them, a word and a glyph or two glyphs. -/
theorem parse_without_key_mixed :
    Spelled [.command, .shift] ["CMD".toList, ['⇧']] ∧
      parse (String.ofList (['\t'] ++ "CMD".toList ++ ([' '] ++ ['⇧'] ++ []))) "" =
        .error (.missingKey "CMD ⇧") ∧
      parse (String.ofList (joined ["CMD".toList, ['⇧']])) "" = .error (.missingKey "CMD+⇧") ∧
      Spelled [.shift, .command] [['⇧'], ['⌘']] ∧
      parse (String.ofList (joined [['⇧'], ['⌘']])) "" =
        .ok (.make (.keyPress '+' (.ofList [.shift, .command])) "") := by
  have hmixed : Spelled [.command, .shift] ["CMD".toList, ['⇧']] :=
    .cons (.inr (by decide +kernel)) (.cons (.inl rfl) .nil)
  have hglyphs : Spelled [.shift, .command] [['⇧'], ['⌘']] :=
    .cons (.inl rfl) (.cons (.inl rfl) .nil)
  have hspaced : Spaced ["CMD".toList, ['⇧']] (['\t'] ++ "CMD".toList ++ ([' '] ++ ['⇧'] ++ [])) :=
    .cons (by decide) (.cons (by decide) (.nil (by decide)) (by decide)) (by decide)
  have hends : ¬ EndsInGlyphs ["CMD".toList, ['⇧']] := by
    rintro ⟨m, n, hsuffix⟩
    have hword := congrArg List.length (List.cons.inj (hsuffix.eq_of_length rfl)).1
    exact nomatch hword
  have hgone := parse_without_key hmixed (by decide) ""
  exact ⟨hmixed, hgone.1 _ hspaced, hgone.2.1 hends, hglyphs,
    (parse_without_key hglyphs (by decide) "").2.2 ⟨.shift, .command, List.suffix_refl _⟩⟩

/-- Two glyphs with a plus between them name a key. -/
theorem joined_glyphs_not_refused :
    Spelled [.command, .shift] [['⌘'], ['⇧']] ∧
      ¬ ∃ text, parse (String.ofList (joined [['⌘'], ['⇧']])) "" = .error (.missingKey text) := by
  refine ⟨.cons (.inl rfl) (.cons (.inl rfl) .nil), ?_⟩
  rintro ⟨text, htext⟩
  have hplus : parse (String.ofList (joined [['⌘'], ['⇧']])) "" =
      .ok (.make (.keyPress '+' (.ofList [.command, .shift])) "") := by
    decide +kernel
  rw [hplus] at htext
  exact nomatch htext

/-! ## Modifiers and a key -/

section WithKey

variable {ms : List Modifier} {spellings : List (List Char)} {word : List Char}

theorem late_of_key {before after : List Char} (hbefore : ∀ d ∈ before, d.toLower ∉ marks)
    (hword : Key.SpelledBy word) (hafter : Blank after) : Late (before ++ word ++ after) := by
  rcases hword.plain_or_singleton with ⟨-, hplain⟩ | ⟨c, rfl, -, -⟩
  · refine late_of_not_mem fun d hd => ?_
    rcases List.mem_append.mp hd with hd | hd
    · rcases List.mem_append.mp hd with hd | hd
      · exact hbefore d hd
      · exact fun hmark => hplain d hd (List.mem_append_right _ hmark)
    · exact toLower_not_mem_marks_of_isBlank (hafter d hd)
  · rw [List.append_assoc]
    exact late_of_last hbefore hafter

/-- No glyph comes with the key. -/
theorem exists_glyph_mem_iff (hword : Key.SpelledBy word) (m : Modifier) :
    (∃ t ∈ spellings ++ [word], m.glyph ∈ t) ↔ ∃ t ∈ spellings, m.glyph ∈ t := by
  constructor
  · rintro ⟨t, ht, hm⟩
    rcases List.mem_append.mp ht with ht | ht
    · exact ⟨t, ht, hm⟩
    · obtain rfl := List.mem_singleton.mp ht
      exact absurd hm (hword.glyph_not_mem m)
  · rintro ⟨t, ht, hm⟩
    exact ⟨t, List.mem_append_left _ ht, hm⟩

theorem flatMap_parts_append_key (hword : Key.SpelledBy word) :
    (spellings ++ [word]).flatMap parts = spellings.flatMap parts ++ [word] := by
  rw [List.flatMap_append, List.flatMap_singleton, hword.parts_eq]

/-- **Glyphs directly before a key** are taken out. -/
theorem composed_glyphs (ms : List Modifier) (hword : Key.SpelledBy word) :
    Composed (ms.map Modifier.glyph ++ word) (ms.map fun m => [m.glyph]) [word] where
  isShortcut := by
    have hglyphs : ∀ d ∈ ms.map Modifier.glyph, d.toLower ∉ marks :=
      List.forall_mem_map.mpr fun m _ => by cases m <;> decide
    have hlate := late_of_key hglyphs hword (List.forall_mem_nil _)
    rw [List.append_nil] at hlate
    exact hlate.isShortcut
  glyph_mem_iff m := by
    rw [List.mem_append, or_iff_left (hword.glyph_not_mem m)]
    constructor
    · intro hm
      obtain ⟨n, hn, heq⟩ := List.mem_map.mp hm
      exact ⟨[n.glyph], List.mem_map_of_mem hn, List.mem_singleton.mpr heq.symm⟩
    · rintro ⟨t, ht, hm⟩
      obtain ⟨n, hn, rfl⟩ := List.mem_map.mp ht
      exact List.mem_map.mpr ⟨n, hn, (List.mem_singleton.mp hm).symm⟩
  parts_eq := by
    have hdrop : dropGlyphs (ms.map Modifier.glyph ++ word) = dropGlyphs word := by
      rw [dropGlyphs, List.filter_append, List.filter_eq_nil_iff.mpr, List.nil_append, dropGlyphs]
      exact List.forall_mem_map.mpr fun m _ => by simp
    have hnone : (ms.map fun m => [m.glyph]).flatMap parts = [] := by
      rw [List.flatMap_map, List.flatMap_eq_nil_iff]
      exact fun m _ => parts_glyph m
    rw [← parts_dropGlyphs, hdrop, parts_dropGlyphs, hword.parts_eq, hnone, List.nil_append]

/-- **Modifiers and a key with blanks between them** are read one by one. -/
theorem composed_spaced_key {raw : List Char} (h : Spelled ms spellings)
    (hword : Key.SpelledBy word) (hraw : Spaced (spellings ++ [word]) raw) :
    Composed raw spellings [word] where
  isShortcut := by
    obtain ⟨r, s, rfl, hr, hs⟩ := hraw.exists_append
    obtain ⟨gap, after, rfl, hgap, hafter⟩ := hs.exists_of_singleton
    have hbefore : ∀ d ∈ r ++ gap, d.toLower ∉ marks :=
      List.forall_mem_append.mpr ⟨hr.toLower_not_mem_marks h.toLower_not_mem_marks,
        fun d hd => toLower_not_mem_marks_of_isBlank (hgap d hd)⟩
    have hlate := late_of_key hbefore hword hafter
    rw [List.append_assoc r gap word, List.append_assoc] at hlate
    exact hlate.isShortcut
  glyph_mem_iff m := (hraw.glyph_mem_iff m).trans (exists_glyph_mem_iff hword m)
  parts_eq := hraw.parts_eq.trans (flatMap_parts_append_key hword)

/-- The plus key behind a plus is two empty texts more. -/
theorem joined_append_plus (ts : List (List Char)) :
    joined (ts ++ [['+']]) = joined (ts ++ [[], []]) := by
  cases ts with
  | nil => rfl
  | cons t ts =>
    rw [joined_append (List.cons_ne_nil t ts) (List.cons_ne_nil _ _),
      joined_append (List.cons_ne_nil t ts) (List.cons_ne_nil _ _)]
    rfl

theorem parts_joined_append_key (h : Spelled ms spellings) (hword : Key.SpelledBy word) :
    parts (joined (spellings ++ [word])) = spellings.flatMap parts ++ [word] := by
  by_cases hplus : word = ['+']
  · subst hplus
    -- the plus between the last modifier and the plus key makes the plus key
    have hblank : ∀ t ∈ spellings ++ [[], []], ∀ c ∈ t, isBlank c = false :=
      List.forall_mem_append.mpr ⟨h.isBlank_eq_false, by simp⟩
    have hnone : ∀ t ∈ spellings ++ [[], []], '+' ∉ t :=
      List.forall_mem_append.mpr ⟨h.plus_not_mem, by simp⟩
    have hlast : [[], []] <:+ (spellings ++ [[], []]).map dropGlyphs := by
      rw [List.map_append]
      exact List.suffix_append _ _
    rw [joined_append_plus, parts_joined (by simp) hblank hnone, if_pos hlast, List.flatMap_append]
    exact congrArg (· ++ [['+']]) (List.append_nil _)
  · have hblank : ∀ t ∈ spellings ++ [word], ∀ c ∈ t, isBlank c = false :=
      List.forall_mem_append.mpr
        ⟨h.isBlank_eq_false, List.forall_mem_singleton.mpr hword.isBlank_eq_false⟩
    have hnone : ∀ t ∈ spellings ++ [word], '+' ∉ t :=
      List.forall_mem_append.mpr
        ⟨h.plus_not_mem, List.forall_mem_singleton.mpr (hword.plus_not_mem hplus)⟩
    -- the key is still there when the glyphs are taken out
    have hlast : ¬ [[], []] <:+ (spellings ++ [word]).map dropGlyphs := by
      rintro ⟨rest, hrest⟩
      have hnil : dropGlyphs word = [] := by
        have hends := congrArg List.getLast? hrest
        simpa using hends.symm
      have hparts := hword.parts_eq
      rw [← parts_dropGlyphs, hnil] at hparts
      exact nomatch hparts
    rw [parts_joined (by simp) hblank hnone, if_neg hlast, List.append_nil,
      flatMap_parts_append_key hword]

/-- **Modifiers and a key with pluses between them** are read one by one, the plus key included. -/
theorem composed_joined_key (h : Spelled ms spellings) (hword : Key.SpelledBy word) :
    Composed (joined (spellings ++ [word])) spellings [word] where
  isShortcut := by
    -- what stands before the key are the modifiers and a plus, or nothing
    have hjoined : ∃ before, joined (spellings ++ [word]) = before ++ word ++ [] ∧
        ∀ d ∈ before, d.toLower ∉ marks := by
      cases spellings with
      | nil => exact ⟨[], by simp [joined], List.forall_mem_nil _⟩
      | cons t spellings =>
        refine ⟨joined (t :: spellings) ++ ['+'], ?_, ?_⟩
        · rw [joined_append (List.cons_ne_nil _ _) (List.cons_ne_nil _ _)]
          simp [joined]
        · exact List.forall_mem_append.mpr
            ⟨toLower_not_mem_marks_joined h, List.forall_mem_singleton.mpr (by decide)⟩
    obtain ⟨before, heq, hbefore⟩ := hjoined
    rw [heq]
    exact (late_of_key hbefore hword (List.forall_mem_nil _)).isShortcut
  glyph_mem_iff m := (glyph_mem_joined _ m).trans (exists_glyph_mem_iff hword m)
  parts_eq := parts_joined_append_key h hword

end WithKey

/-- **The ways to write a shortcut**: the glyphs of its modifiers directly before the key; the
modifiers in any spelling and the key, with blanks between them; the same with pluses. -/
inductive Written (ms : List Modifier) (word : List Char) : List Char → Prop
  | glyphs : Written ms word (ms.map Modifier.glyph ++ word)
  | spaced {spellings : List (List Char)} {raw : List Char} :
      Spelled ms spellings → Spaced (spellings ++ [word]) raw → Written ms word raw
  | joined {spellings : List (List Char)} :
      Spelled ms spellings → Written ms word (joined (spellings ++ [word]))

theorem spelled_glyphs (ms : List Modifier) : Spelled ms (ms.map fun m => [m.glyph]) :=
  List.forall₂_map_right_iff.mpr (List.forall₂_same.mpr fun _ _ => .inl rfl)

theorem Written.exists_composed {ms : List Modifier} {word raw : List Char}
    (h : Written ms word raw) (hword : Key.SpelledBy word) :
    ∃ spellings, Spelled ms spellings ∧ Composed raw spellings [word] := by
  cases h with
  | glyphs => exact ⟨_, spelled_glyphs ms, composed_glyphs ms hword⟩
  | spaced hspelled hraw => exact ⟨_, hspelled, composed_spaced_key hspelled hword hraw⟩
  | joined hspelled => exact ⟨_, hspelled, composed_joined_key hspelled hword⟩

/-- **All ways to write a shortcut agree.** Whatever spells a key, there are one key and one set of
modifiers, the listed ones, such that every way to write the shortcut presses this key and holds
these modifiers. The order of the modifiers does not matter, nor does repetition. -/
theorem parse_written (ms : List Modifier) {word : List Char} (hword : Key.SpelledBy word)
    (description : String) :
    ∃ key held, Key.ofWord? word = some key ∧
      (∀ m : Modifier, ModifierSet.contains held m = true ↔ m ∈ ms) ∧
      ∀ ms' : List Modifier, (∀ m, m ∈ ms' ↔ m ∈ ms) → ∀ raw, Written ms' word raw →
        parse (String.ofList raw) description = .ok (.make (.keyPress key held) description) := by
  obtain ⟨key, hkey⟩ := hword.exists_ofWord?
  refine ⟨key, .ofList ms, hkey, fun m => by simp, ?_⟩
  intro ms' hms' raw hraw
  obtain ⟨spellings, hspelled, hcomposed⟩ := hraw.exists_composed hword
  have hheld : ModifierSet.ofList ms' = .ofList ms := by
    ext m
    rw [Bool.eq_iff_iff]
    simpa using hms' m
  rw [hcomposed.parse_eq hspelled hword.ofWord?_eq_none hkey, hheld]

/-- The plus key behind pluses, and behind glyphs in another order. -/
theorem parse_written_plus :
    Key.SpelledBy ['+'] ∧ ∃ held : ModifierSet,
      (∀ m, held.contains m = true ↔ m ∈ [Modifier.command, .shift]) ∧
      parse (String.ofList (joined (["Shift".toList, ['⌘']] ++ [['+']]))) "" =
        .ok (.make (.keyPress '+' held) "") ∧
      parse (String.ofList ([Modifier.command, .shift].map Modifier.glyph ++ ['+'])) "" =
        .ok (.make (.keyPress '+' held) "") := by
  have hplus : Key.SpelledBy ['+'] := .inl ⟨'+', rfl, by decide, by decide⟩
  have hjoined : Written [.shift, .command] ['+'] (joined (["Shift".toList, ['⌘']] ++ [['+']])) :=
    .joined (.cons (.inr (by decide +kernel)) (.cons (.inl rfl) .nil))
  obtain ⟨key, held, hkey, hheld, hparse⟩ := parse_written [.command, .shift] hplus ""
  have hword : Key.ofWord? ['+'] = some '+' := by decide +kernel
  obtain rfl := Option.some.inj (hword.symm.trans hkey)
  exact ⟨hplus, held, hheld, hparse _ (by simp [or_comm]) _ hjoined,
    hparse _ (fun _ => Iff.rfl) _ .glyphs⟩

end KeyPlan.Instruction
