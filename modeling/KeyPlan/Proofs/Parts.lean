import KeyPlan.Action.Instruction
import KeyPlan.Proofs.Trimming

/-!
# The parts of a shortcut

A shortcut is cut at its blanks, and what stands between two blanks is cut at its pluses. Glyphs of
modifiers may stand anywhere: they are taken out, and the parts are those of what is left. So the
parts of a text are those of its stretches between blanks, and blanks at its ends do not matter.

## Main results

* `parts_append_blank`: a blank cuts a text in two
* `parts_trim`, `parts_dropGlyphs`: neither blanks at the ends nor glyphs matter for the parts
* `combination_eq`: the parts of a combination are its pieces, and two empty ones at the end are
  the plus key
* `contains_modifiers`: the modifiers are the glyphs and the parts that spell one
* `shortcutKind_trim_of_some`, `shortcutKind_trim_of_none`: what a shortcut does
* `of_mem_parts`: what a part can look like
-/

namespace KeyPlan

namespace Text

variable {cuts : Char → Bool}

/-! ## Pieces -/

theorem pieces_cons_of_not {c : Char} (hc : cuts c = false) (s : List Char) :
    pieces cuts (c :: s) = (pieces cuts s).modifyHead (c :: ·) := by
  obtain ⟨p, ps, hp⟩ := List.exists_cons_of_ne_nil (pieces_ne_nil cuts s)
  simp [pieces, hc, hp]

theorem pieces_eq_splitOnP (cuts : Char → Bool) (s : List Char) :
    pieces cuts s = s.splitOnP cuts := by
  induction s with
  | nil => rfl
  | cons c s ih =>
    rw [List.splitOnP_cons_eq_if_modifyHead, ← ih]
    split
    · next hc => exact pieces_cons_cut hc s
    · next hc => exact pieces_cons_of_not (Bool.eq_false_iff.mpr hc) s

theorem pieces_append_cons {b : Char} (hb : cuts b = true) (s t : List Char) :
    pieces cuts (s ++ b :: t) = pieces cuts s ++ pieces cuts t := by
  simp only [pieces_eq_splitOnP]
  exact List.splitOnP_append_cons s t hb

/-- **A text may be thinned out before it is cut**, if no cut is lost. -/
theorem pieces_filter {keep : Char → Bool} (h : ∀ c, cuts c = true → keep c = true)
    (s : List Char) : pieces cuts (s.filter keep) = (pieces cuts s).map (List.filter keep) := by
  induction s with
  | nil => rfl
  | cons c s ih =>
    obtain ⟨p, ps, hp⟩ := List.exists_cons_of_ne_nil (pieces_ne_nil cuts s)
    -- both sides are cut at the same characters; all others belong to the first piece
    cases hc : cuts c with
    | true =>
      rw [List.filter_cons_of_pos (h c hc), pieces_cons_cut hc, pieces_cons_cut hc, ih]
      rfl
    | false =>
      rw [pieces_cons_of_not hc, List.filter_cons]
      split
      · next hkeep =>
        rw [pieces_cons_of_not hc, ih, hp]
        simp [hkeep]
      · next hkeep =>
        rw [ih, hp]
        simp [hkeep]

/-- A piece has characters of the text that do not cut it. -/
theorem of_mem_pieces {s p : List Char} (hp : p ∈ pieces cuts s) :
    ∀ c ∈ p, c ∈ s ∧ cuts c = false := by
  induction s generalizing p with
  | nil =>
    obtain rfl := List.mem_singleton.mp hp
    exact List.forall_mem_nil _
  | cons b s ih =>
    have hkeep {q : List Char} (hq : q ∈ pieces cuts s) : ∀ c ∈ q, c ∈ b :: s ∧ cuts c = false :=
      fun c hc => ⟨List.mem_cons_of_mem b (ih hq c hc).1, (ih hq c hc).2⟩
    cases hb : cuts b with
    | true =>
      rw [pieces_cons_cut hb] at hp
      rcases List.mem_cons.mp hp with rfl | hp
      · exact List.forall_mem_nil _
      · exact hkeep hp
    | false =>
      obtain ⟨q, qs, hqs⟩ := List.exists_cons_of_ne_nil (pieces_ne_nil cuts s)
      rw [pieces_cons_of_not hb, hqs, List.modifyHead_cons] at hp
      rcases List.mem_cons.mp hp with rfl | hp
      · exact List.forall_mem_cons.mpr
          ⟨⟨List.mem_cons_self, hb⟩, hkeep (hqs ▸ List.mem_cons_self)⟩
      · exact hkeep (hqs ▸ List.mem_cons_of_mem q hp)

/-- **A blank separates words.** -/
theorem words_append_blank {b : Char} (hb : isBlank b = true) (s t : List Char) :
    words (s ++ b :: t) = words s ++ words t := by
  rw [words, pieces_append_cons hb, List.filter_append, words, words]

end Text

namespace Instruction

open Text (Blank pieces words trim isBlank)

variable {s : List Char}

/-! ## Combinations -/

/-- The texts with a plus between each two of them. -/
def joined (ts : List (List Char)) : List Char :=
  ['+'].intercalate ts

theorem joined_append {ps qs : List (List Char)} (hps : ps ≠ []) (hqs : qs ≠ []) :
    joined (ps ++ qs) = joined ps ++ '+' :: joined qs := by
  induction ps with
  | nil => exact absurd rfl hps
  | cons p ps ih =>
    cases ps with
    | nil =>
      obtain ⟨q, qs, rfl⟩ := List.exists_cons_of_ne_nil hqs
      simp [joined]
    | cons p' ps =>
      have ih := ih (List.cons_ne_nil p' ps)
      simp only [joined, List.cons_append, List.intercalate_cons_cons, List.append_assoc] at ih ⊢
      rw [ih]

/-- The pieces between the pluses. -/
theorem pieces_joined {ts : List (List Char)} (hne : ts ≠ []) (h : ∀ t ∈ ts, '+' ∉ t) :
    pieces (· == '+') (joined ts) = ts := by
  rw [Text.pieces_eq_splitOnP]
  exact List.splitOn_intercalate '+' h hne

theorem joined_pieces (s : List Char) : joined (pieces (· == '+') s) = s := by
  rw [Text.pieces_eq_splitOnP]
  exact List.intercalate_splitOn '+'

/-- Behind two pluses at the end there are two empty pieces. -/
theorem pluses_suffix_iff (hlength : 2 ≤ s.length) :
    ['+', '+'] <:+ s ↔ [[], []] <:+ pieces (· == '+') s := by
  constructor
  · rintro ⟨t, rfl⟩
    have hpieces := @Text.pieces_append_cons (· == '+') '+' (beq_self_eq_true '+') t ['+']
    rw [hpieces]
    exact List.suffix_append _ _
  · rintro ⟨ps, hps⟩
    have hs := joined_pieces s
    rw [← hps] at hs
    cases ps with
    | nil =>
      -- a lone plus has two empty pieces as well
      exact absurd (hs ▸ hlength) (by decide)
    | cons p ps =>
      rw [joined_append (List.cons_ne_nil p ps) (List.cons_ne_nil _ _)] at hs
      exact ⟨_, hs⟩

/-- **The parts of a combination** are its pieces that are not empty, and two empty ones at the end
are the plus key. -/
theorem combination_eq (s : List Char) :
    combination s = ((pieces (· == '+') s).filter fun p => !p.isEmpty) ++
      if [[], []] <:+ pieces (· == '+') s then [['+']] else [] := by
  match s with
  | [] => rfl
  | [c] =>
    by_cases hc : c = '+'
    · subst hc
      rfl
    · have hpieces : pieces (· == '+') [c] = [[c]] := by simp [pieces, hc]
      rw [hpieces]
      rfl
  | c :: d :: t =>
    -- a text without pluses is its only piece
    have hlength : 2 ≤ (c :: d :: t).length := by simp
    rw [combination, if_neg (by simp)]
    split
    · next hplus =>
      have hplus : '+' ∉ c :: d :: t := hplus.resolve_left (Nat.not_lt.mpr hlength)
      have hpieces : pieces (· == '+') (c :: d :: t) = [c :: d :: t] := by
        rw [Text.pieces_eq_splitOnP]
        exact List.splitOn_eq_singleton hplus
      rw [hpieces]
      rfl
    · simp only [List.isSuffixOf_iff_suffix, pluses_suffix_iff hlength]

/-! ## Parts -/

@[simp] theorem parts_nil : parts [] = [] := rfl

/-- **A blank cuts a text in two.** -/
theorem parts_append_blank {b : Char} (hb : isBlank b = true) (s t : List Char) :
    parts (s ++ b :: t) = parts s ++ parts t := by
  rw [parts, Text.words_append_blank hb, List.flatMap_append, parts, parts]

theorem parts_cons_blank {b : Char} (hb : isBlank b = true) (s : List Char) :
    parts (b :: s) = parts s :=
  parts_append_blank hb [] s

theorem parts_of_blank_append {before : List Char} (h : Blank before) (s : List Char) :
    parts (before ++ s) = parts s := by
  induction before with
  | nil => rfl
  | cons b before ih =>
    rw [List.cons_append, parts_cons_blank (h b List.mem_cons_self)]
    exact ih fun c hc => h c (List.mem_cons_of_mem b hc)

theorem parts_of_blank (h : Blank s) : parts s = [] := by
  have hparts := parts_of_blank_append h []
  rwa [List.append_nil] at hparts

/-- What follows begins with a blank, if there is anything. -/
def Apart (rest : List Char) : Prop := ∀ c ∈ rest.head?, isBlank c = true

instance (rest : List Char) : Decidable (Apart rest) :=
  Option.decidableForallMem rest.head?

theorem Blank.apart (h : Blank s) : Apart s :=
  fun c hc => h c (List.mem_of_mem_head? hc)

theorem parts_append_of_apart {rest : List Char} (h : Apart rest) (s : List Char) :
    parts (s ++ rest) = parts s ++ parts rest := by
  cases rest with
  | nil => simp
  | cons b rest =>
    have hb : isBlank b = true := h b rfl
    rw [parts_append_blank hb, parts_cons_blank hb]

/-- **Blanks at the ends do not matter** for the parts. -/
theorem parts_trim (s : List Char) : parts (trim s) = parts s := by
  obtain ⟨before, after, hs, hbefore, hafter⟩ := Text.exists_trim s
  have hparts : parts (before ++ (trim s ++ after)) = parts (trim s) := by
    rw [parts_of_blank_append hbefore, parts_append_of_apart (Blank.apart hafter),
      parts_of_blank hafter, List.append_nil]
  rw [← hparts, ← List.append_assoc, ← hs]

/-- A blank is no glyph. -/
theorem ofGlyph?_of_isBlank {c : Char} (h : isBlank c = true) : Modifier.ofGlyph? c = none := by
  refine Modifier.ofGlyph?_eq_none_iff.mpr ?_
  rintro m rfl
  revert h
  cases m <;> decide

/-- Empty texts do not matter where they have no share in the result. -/
theorem flatMap_filter_isEmpty {β : Type*} {f : List Char → List β} (hf : f [] = [])
    (ps : List (List Char)) : (ps.filter fun p => !p.isEmpty).flatMap f = ps.flatMap f := by
  induction ps with
  | nil => rfl
  | cons p ps ih =>
    cases p with
    | nil =>
      rw [List.filter_cons_of_neg (by simp), List.flatMap_cons, hf, ih]
      rfl
    | cons c p => rw [List.filter_cons_of_pos (by simp), List.flatMap_cons, List.flatMap_cons, ih]

theorem parts_eq_flatMap_pieces (s : List Char) :
    parts s = (pieces isBlank (dropGlyphs s)).flatMap combination := by
  -- glyphs are no blanks, so they may be dropped before the text is cut
  have hfilter : pieces isBlank (dropGlyphs s) = (pieces isBlank s).map dropGlyphs :=
    Text.pieces_filter (fun c hc => by rw [ofGlyph?_of_isBlank hc]; rfl) s
  rw [hfilter, List.flatMap_map, parts, words]
  -- an empty piece has no parts
  exact flatMap_filter_isEmpty rfl _

/-- **Glyphs do not matter** for the parts. -/
theorem parts_dropGlyphs (s : List Char) : parts (dropGlyphs s) = parts s := by
  rw [parts_eq_flatMap_pieces, parts_eq_flatMap_pieces, dropGlyphs, dropGlyphs, List.filter_filter]
  simp only [Bool.and_self]

/-- A text without blanks is one combination. -/
theorem parts_of_solid (h : ∀ c ∈ s, isBlank c = false) : parts s = combination (dropGlyphs s) := by
  have hpieces : pieces isBlank (dropGlyphs s) = [dropGlyphs s] := by
    rw [Text.pieces_eq_splitOnP]
    exact List.splitOnP_eq_singleton fun c hc => h c (List.mem_filter.mp hc).1
  rw [parts_eq_flatMap_pieces, hpieces, List.flatMap_singleton]

/-- A text with neither blanks nor pluses has no other part than what is left of it without
glyphs. -/
theorem parts_of_not_mem (h : ∀ c ∈ s, isBlank c = false) (hplus : '+' ∉ s) :
    parts s = [dropGlyphs s].filter fun p => !p.isEmpty := by
  have hpieces : pieces (· == '+') (dropGlyphs s) = [dropGlyphs s] := by
    rw [Text.pieces_eq_splitOnP]
    exact List.splitOn_eq_singleton fun hmem => hplus (List.mem_filter.mp hmem).1
  rw [parts_of_solid h, combination_eq, hpieces, if_neg fun hsuffix => ?_, List.append_nil]
  exact absurd hsuffix.length_le (by simp)

/-- **What a part can look like**: it is not empty and has neither blanks nor glyphs. -/
theorem of_mem_parts {p : List Char} (hp : p ∈ parts s) :
    p ≠ [] ∧ ∀ c ∈ p, isBlank c = false ∧ Modifier.ofGlyph? c = none := by
  rw [parts_eq_flatMap_pieces] at hp
  obtain ⟨w, hw, hp⟩ := List.mem_flatMap.mp hp
  rw [combination_eq] at hp
  rcases List.mem_append.mp hp with hp | hp
  · obtain ⟨hp, hne⟩ := List.mem_filter.mp hp
    refine ⟨fun hnil => by simp [hnil] at hne, fun c hc => ?_⟩
    obtain ⟨hmem, hblank⟩ := Text.of_mem_pieces hw c (Text.of_mem_pieces hp c hc).1
    exact ⟨hblank, Option.isNone_iff_eq_none.mp (List.mem_filter.mp hmem).2⟩
  · obtain rfl : p = ['+'] := by
      split at hp
      · exact List.mem_singleton.mp hp
      · exact nomatch hp
    exact ⟨List.cons_ne_nil _ _, List.forall_mem_singleton.mpr (by decide)⟩

/-! ## The key and the modifiers -/

/-- **The modifiers of a shortcut**: its glyphs and the parts that spell one. -/
theorem contains_modifiers {m : Modifier} :
    (modifiers s).contains m = true ↔
      m.glyph ∈ s ∨ ∃ p ∈ parts s, Modifier.ofWord? p = some m := by
  have hglyph : (∃ c ∈ s, Modifier.ofGlyph? c = some m) ↔ m.glyph ∈ s := by
    constructor
    · rintro ⟨c, hc, hm⟩
      rwa [Modifier.glyph_of_ofGlyph? hm]
    · exact fun h => ⟨_, h, Modifier.ofGlyph?_glyph m⟩
  rw [modifiers, ModifierSet.contains_ofList, List.contains_iff_mem, List.mem_append,
    List.mem_filterMap, List.mem_filterMap, hglyph]

theorem modifiers_congr {t : List Char} (hparts : parts s = parts t)
    (hglyph : ∀ m : Modifier, m.glyph ∈ s ↔ m.glyph ∈ t) : modifiers s = modifiers t := by
  ext m
  rw [Bool.eq_iff_iff, contains_modifiers, contains_modifiers, hparts, hglyph]

theorem glyph_not_mem_of_blank (h : Blank s) (m : Modifier) : m.glyph ∉ s := fun hm =>
  absurd (ofGlyph?_of_isBlank (h _ hm)) (by simp)

theorem glyph_mem_trim (m : Modifier) (s : List Char) : m.glyph ∈ trim s ↔ m.glyph ∈ s := by
  obtain ⟨before, after, hs, hbefore, hafter⟩ := Text.exists_trim s
  constructor
  · intro h
    rw [hs]
    exact List.mem_append_left _ (List.mem_append_right _ h)
  · intro h
    rw [hs, List.mem_append, List.mem_append] at h
    exact (h.resolve_right (glyph_not_mem_of_blank hafter m)).resolve_left
      (glyph_not_mem_of_blank hbefore m)

/-- The key that the last part without a modifier names. -/
def namedKey? (s : List Char) : Option Char :=
  (keyPart? s).bind Key.ofWord?

theorem namedKey?_congr {t : List Char} (h : parts s = parts t) : namedKey? s = namedKey? t := by
  rw [namedKey?, namedKey?, keyPart?, keyPart?, h]

/-- **What a trimmed shortcut does** is told by the text around it as well. -/
theorem shortcutKind_trim_of_some {key : Char} (h : namedKey? s = some key) :
    shortcutKind (trim s) = .ok (.keyPress key (modifiers s)) := by
  have hkey : (keyPart? (trim s)).bind Key.ofWord? = some key :=
    (namedKey?_congr (parts_trim s)).trans h
  have hmodifiers : modifiers (trim s) = modifiers s :=
    modifiers_congr (parts_trim s) fun m => glyph_mem_trim m s
  rw [shortcutKind, shortcut, hkey, hmodifiers]
  rfl

theorem shortcutKind_trim_of_none (h : namedKey? s = none) :
    shortcutKind (trim s) = .error (.missingKey (String.ofList (trim s))) := by
  have hkey : (keyPart? (trim s)).bind Key.ofWord? = none :=
    (namedKey?_congr (parts_trim s)).trans h
  rw [shortcutKind, shortcut, hkey]
  rfl

end Instruction

end KeyPlan
