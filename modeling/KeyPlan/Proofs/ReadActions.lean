import KeyPlan.Proofs.InstructionForms
import KeyPlan.Proofs.Spellings
import KeyPlan.Step

/-!
# Actions that are read

What an instruction is read as is well-formed: texts and names are not empty, names and descriptions
have no blanks at their ends, and a key is what can be pressed, never the capital, the glyph or the
blank that may stand for it in an instruction. A description is never empty, since every kind of
action that is read has a label without blanks at its ends; for this, no character becomes blank in
upper case.

## Main definitions

* `Key.WellFormed`, `ActionKind.WellFormed`, `Action.WellFormed`: what keys, kinds and actions look
  like when they have been read

## Main results

* `Text.isBlank_of_mem_upperChar`: nothing becomes blank in upper case
* `Key.wellFormed_of_ofWord?`: the keys that parts of a shortcut name
* `ActionKind.WellFormed.solid_label`, `ActionKind.WellFormed.make`: labels and descriptions
* `wellFormed_of_read`: what is read from an instruction, and from the steps of a plan
-/

namespace KeyPlan

namespace Text

/-! ## Upper case -/

theorem upperRuns_not_blank : ∀ r ∈ upperRuns, ∀ n ∈ blankCodes,
    n < r.image ∨ r.image + (r.last - r.first) < n := by
  decide +kernel

theorem upperExpansions_not_blank : ∀ entry ∈ upperExpansions,
    entry.2 ≠ [] ∧ ∀ n ∈ entry.2, isBlank (Char.ofNat n) = false := by
  decide +kernel

/-- A number that is no code point stands for the character zero. -/
theorem toNat_ofNat_of_ne_zero {n : Nat} (h : (Char.ofNat n).toNat ≠ 0) :
    (Char.ofNat n).toNat = n := by
  by_cases hvalid : n.isValidChar
  · rw [Char.ofNat, dif_pos hvalid]
    rfl
  · rw [Char.ofNat, dif_neg hvalid] at h
    exact absurd rfl h

theorem isBlank_ofNat_of_not_mem {n : Nat} (h : n ∉ blankCodes) :
    isBlank (Char.ofNat n) = false := by
  refine Bool.eq_false_iff.mpr fun hblank => ?_
  have hmem := toNat_mem_blankCodes hblank
  have hzero : (Char.ofNat n).toNat ≠ 0 := by
    intro hzero
    rw [hzero] at hmem
    exact absurd hmem (by decide)
  rw [toNat_ofNat_of_ne_zero hzero] at hmem
  exact h hmem

/-- Where a run takes a code point is among its images. -/
theorem exists_of_mapRuns? {runs : List CodeRun} {n k : Nat} (h : mapRuns? runs n = some k) :
    ∃ r ∈ runs, r.image ≤ k ∧ k ≤ r.image + (r.last - r.first) := by
  obtain ⟨r, hr, hk⟩ := List.exists_of_findSome?_eq_some h
  refine ⟨r, hr, ?_⟩
  unfold CodeRun.image? at hk
  split at hk
  · next hrange =>
    simp only [Bool.and_eq_true, decide_eq_true_eq] at hrange
    obtain rfl := Option.some.inj hk
    omega
  · exact nomatch hk

theorem expansion_mem {n : Nat} {ns : List Nat} (h : upperExpansions.lookup n = some ns) :
    (n, ns) ∈ upperExpansions := by
  obtain ⟨before, after, hsplit, -⟩ := List.lookup_eq_some_iff.mp h
  rw [hsplit]
  exact List.mem_append_right _ List.mem_cons_self

theorem upperChar_ne_nil (c : Char) : upperChar c ≠ [] := by
  unfold upperChar
  split
  · exact List.cons_ne_nil _ _
  · split
    · next ns hns =>
      have hexpansion := (upperExpansions_not_blank _ (expansion_mem hns)).1
      simpa using hexpansion
    · exact List.cons_ne_nil _ _

theorem isBlank_toUpper {c : Char} (h : isBlank c = false) : isBlank c.toUpper = false := by
  rcases toUpper_cases c with ⟨hlow, hhigh, hupper⟩ | ⟨-, hsame⟩
  · refine isBlank_eq_false ?_ ?_ <;> omega
  · rwa [hsame]

/-- **Nothing becomes blank in upper case.** -/
theorem isBlank_of_mem_upperChar {c : Char} (h : isBlank c = false) :
    ∀ d ∈ upperChar c, isBlank d = false := by
  unfold upperChar
  split
  · exact List.forall_mem_singleton.mpr (isBlank_toUpper h)
  · split
    · next ns hns =>
      exact List.forall_mem_map.mpr (upperExpansions_not_blank _ (expansion_mem hns)).2
    · rw [List.forall_mem_singleton]
      -- the images of a run lie together, and none of them is a blank
      cases hrun : mapRuns? upperRuns c.toNat with
      | none => rwa [Option.getD_none, Char.ofNat_toNat]
      | some n =>
        obtain ⟨r, hr, hlow, hhigh⟩ := exists_of_mapRuns? hrun
        refine isBlank_ofNat_of_not_mem fun hmem => ?_
        rw [Option.getD_some] at hmem
        have hrange := upperRuns_not_blank r hr n hmem
        omega

end Text

/-! ## Keys -/

theorem Modifier.le_toNat_glyph (m : Modifier) : 128 ≤ m.glyph.toNat := by
  cases m <;> decide

namespace Key

/-- The glyphs that name a key without being its character. -/
def glyphs : List Char := ['↵', '⏎', '␣', '⇥', '⎋', '⌫', '⌦']

/-- **What a key looks like**: it is no ASCII capital and no glyph of a modifier or of another key,
and the only blanks among the keys are return, tab and space. -/
structure WellFormed (key : Char) : Prop where
  not_upper : key.isUpper = false
  not_modifier : Modifier.ofGlyph? key = none
  not_glyph : key ∉ glyphs
  blank : Text.isBlank key = true → key ∈ [enter, tab, space]

theorem wellFormed_of_mem_aliases : ∀ entry ∈ aliases, WellFormed entry.1 := by
  have hkeys : ∀ entry ∈ aliases, entry.1.isUpper = false ∧ Modifier.ofGlyph? entry.1 = none ∧
      entry.1 ∉ glyphs ∧ (Text.isBlank entry.1 = true → entry.1 ∈ [enter, tab, space]) := by
    decide
  intro entry hentry
  obtain ⟨hupper, hmodifier, hglyph, hblank⟩ := hkeys entry hentry
  exact ⟨hupper, hmodifier, hglyph, hblank⟩

theorem le_toNat_of_mem_glyphs : ∀ c ∈ glyphs, 128 ≤ c.toNat := by decide

/-- A glyph names its key. -/
theorem ofAlias?_glyphs : ∀ c ∈ glyphs, ofAlias? [c] ≠ none := by
  decide +kernel

theorem isUpper_toLower (c : Char) : c.toLower.isUpper = false := by
  have hrange : ¬ (65 ≤ c.toLower.toNat ∧ c.toLower.toNat ≤ 90) := by
    rcases Text.toLower_cases c with ⟨hlow, hhigh, hlower⟩ | ⟨hnot, hlower⟩
    · omega
    · rwa [hlower]
  exact decide_eq_false hrange

/-- Beyond ASCII nothing changes in ASCII case. -/
theorem toLower_eq_self {c : Char} (h : 128 ≤ c.toLower.toNat) : c.toLower = c := by
  rcases Text.toLower_cases c with ⟨-, hhigh, hlower⟩ | ⟨-, hlower⟩
  · omega
  · exact hlower

/-- **The keys that a part of a shortcut names** are well-formed. -/
theorem wellFormed_of_ofWord? {p : List Char} {key : Char} (hkey : ofWord? p = some key)
    (hp : ∀ c ∈ p, Text.isBlank c = false ∧ Modifier.ofGlyph? c = none) : WellFormed key := by
  unfold ofWord? at hkey
  split at hkey
  · next key' hkey' =>
    obtain rfl := Option.some.inj hkey
    obtain ⟨entry, hentry, rfl⟩ := Option.map_eq_some_iff.mp hkey'
    exact wellFormed_of_mem_aliases entry (List.mem_of_find?_eq_some hentry)
  · next hnone =>
    split at hkey
    · next c =>
      obtain rfl := Option.some.inj hkey
      obtain ⟨hblank, hglyph⟩ := hp c (List.mem_singleton_self c)
      refine ⟨isUpper_toLower c, ?_, ?_, ?_⟩
      · refine Modifier.ofGlyph?_eq_none_iff.mpr fun m hm => ?_
        have hsame : c.toLower = c := toLower_eq_self (hm ▸ m.le_toNat_glyph)
        exact Modifier.ofGlyph?_eq_none_iff.mp hglyph m (hm.trans hsame)
      · -- a glyph would have been found among the names
        intro hmem
        rw [toLower_eq_self (le_toNat_of_mem_glyphs _ hmem)] at hmem
        exact ofAlias?_glyphs c hmem hnone
      · rw [Text.isBlank_toLower, hblank]
        exact nofun
    · exact nomatch hkey

/-- The keys with a label of their own. -/
def labelled : List Char := [enter, tab, space, escape, delete, forwardDelete]

theorem isBlank_labelled : ∀ key ∈ labelled,
    label key ≠ [] ∧ ∀ c ∈ label key, Text.isBlank c = false := by
  decide

/-- Every other key is shown in upper case. -/
theorem label_eq_upperChar {key : Char} (h : key ∉ labelled) : label key = Text.upperChar key := by
  simp only [labelled, List.mem_cons, List.not_mem_nil, or_false, not_or] at h
  obtain ⟨h₁, h₂, h₃, h₄, h₅, h₆⟩ := h
  rw [label, if_neg h₁, if_neg h₂, if_neg h₃, if_neg h₄, if_neg h₅, if_neg h₆]

/-- **The label of a key** has no blanks, and is not empty. -/
theorem WellFormed.isBlank_label {key : Char} (h : WellFormed key) :
    label key ≠ [] ∧ ∀ c ∈ label key, Text.isBlank c = false := by
  by_cases hlabelled : key ∈ labelled
  · exact isBlank_labelled key hlabelled
  · have hblank : Text.isBlank key = false := by
      refine Bool.eq_false_iff.mpr fun hblank => hlabelled ?_
      exact List.mem_append_left [escape, delete, forwardDelete] (h.blank hblank)
    rw [label_eq_upperChar hlabelled]
    exact ⟨Text.upperChar_ne_nil key, Text.isBlank_of_mem_upperChar hblank⟩

end Key

/-! ## Kinds of actions -/

open Text (Solid isBlank trim)

/-- **What a kind of action looks like**: its key, text or target is one that can be read. -/
def ActionKind.WellFormed : ActionKind → Prop
  | keyPress key _ => Key.WellFormed key
  | typeText text => text ≠ ""
  | delay _ => True
  | switchTo target => target.bundleId = none ∧ Solid target.name.toList

/-- **What an action looks like** that was read with a description: its kind is well-formed, its own
description is solid, and this is the trimmed description or, if that is empty, the label. -/
structure Action.WellFormed (a : Action) (description : String) : Prop where
  kind : a.kind.WellFormed
  solid : Solid a.description.toList
  description_eq : a.description =
    if trim description.toList = [] then a.kind.label else String.ofList (trim description.toList)

namespace ActionKind

/-- **A label is solid.** -/
theorem WellFormed.solid_label {k : ActionKind} (h : k.WellFormed) : Solid k.label.toList := by
  cases k with
  | keyPress key held =>
    have hkey : Key.WellFormed key := h
    obtain ⟨hne, hblank⟩ := hkey.isBlank_label
    have hglyph : ∀ m : Modifier, isBlank m.glyph = false := by
      intro m
      cases m <;> decide
    show Solid (String.ofList (held.glyphs ++ Key.label key)).toList
    rw [String.toList_ofList]
    refine Solid.of_forall (List.append_ne_nil_of_right_ne_nil _ hne) ?_
    exact List.forall_mem_append.mpr
      ⟨List.forall_mem_map.mpr fun m _ => hglyph m, hblank⟩
  | typeText text =>
    show Solid (String.ofList ("Type ".toList ++ Text.quoted text.toList)).toList
    rw [String.toList_ofList]
    refine Solid.append ⟨'T', rfl, by decide⟩ ⟨'"', ?_, by decide⟩
    exact List.getLast?_concat
  | delay ms =>
    show Solid ("Wait " ++ toString ms.toNat ++ "ms").toList
    rw [String.toList_append, String.toList_append]
    refine Solid.append ?_ ⟨'s', rfl, by decide⟩
    exact ⟨'W', rfl, by decide⟩
  | switchTo target =>
    show Solid ("Switch to " ++ target.name).toList
    rw [String.toList_append]
    exact Solid.append ⟨'S', rfl, by decide⟩ h.2.last

/-- **An action with a description** is well-formed if its kind is. -/
theorem WellFormed.make {k : ActionKind} (h : k.WellFormed) (description : String) :
    (Action.make k description).WellFormed description where
  kind := h
  solid := by
    rw [Action.make]
    dsimp only
    split
    · exact h.solid_label
    · next hne =>
      rw [String.toList_ofList]
      exact Solid.trim (by simpa using hne)
  description_eq := by
    rw [Action.make]
    simp only [List.isEmpty_iff]

end ActionKind

/-! ## What is read -/

namespace Instruction

/-- A shortcut presses the key that one of its parts names. -/
theorem exists_part_of_shortcutKind {s : List Char} {k : ActionKind} (h : shortcutKind s = .ok k) :
    ∃ p ∈ parts s, ∃ key held, Key.ofWord? p = some key ∧ k = .keyPress key held := by
  unfold shortcutKind shortcut at h
  cases hkey : (keyPart? s).bind Key.ofWord? with
  | none =>
    rw [hkey] at h
    exact nomatch h
  | some key =>
    rw [hkey] at h
    obtain ⟨p, hp, hword⟩ := Option.bind_eq_some_iff.mp hkey
    have hmem := List.mem_of_getLast? hp
    exact ⟨p, (List.mem_filter.mp hmem).1, key, _, hword, (Except.ok.inj h).symm⟩

/-- **Whatever an instruction does is well-formed.** -/
theorem wellFormed_of_kind {raw description : List Char} {k : ActionKind}
    (h : kind raw description = .ok k) : k.WellFormed := by
  rcases kind_cases raw description with
    ⟨name, hform⟩ | ⟨value, hform⟩ | ⟨text, hform⟩ | hform | hshortcut
  · rw [kind_of_switchForm _ hform, switchKind_eq_ok_iff hform.trim_eq] at h
    obtain ⟨hne, rfl⟩ := h
    refine ⟨rfl, ?_⟩
    rw [String.toList_ofList, ← hform.trim_eq]
    exact Solid.trim (hform.trim_eq.symm ▸ hne)
  · rw [kind_of_delayForm _ hform, delayKind_eq_ok_iff hform.trim_eq] at h
    obtain ⟨ms, -, rfl⟩ := h
    trivial
  · rw [kind_of_textForm _ hform, textKind_eq_ok_iff] at h
    obtain ⟨hne, rfl⟩ := h
    exact mt String.ofList_eq_empty_iff.mp hne
  · rw [kind_of_inputForm _ hform, inputKind_eq_ok_iff] at h
    obtain ⟨hne, rfl⟩ := h
    exact mt String.ofList_eq_empty_iff.mp hne
  · rw [hshortcut] at h
    obtain ⟨p, hp, key, held, hkey, rfl⟩ := exists_part_of_shortcutKind h
    exact Key.wellFormed_of_ofWord? hkey (of_mem_parts hp).2

theorem exists_kind_of_parse {raw description : String} {a : Action}
    (h : parse raw description = .ok a) :
    ∃ k, kind raw.toList description.toList = .ok k ∧ a = .make k description := by
  unfold parse at h
  cases hkind : kind raw.toList description.toList with
  | error e =>
    rw [hkind] at h
    exact nomatch h
  | ok k =>
    rw [hkind] at h
    exact ⟨k, rfl, (Except.ok.inj h).symm⟩

/-- **What is read is well-formed**, from an instruction and from the steps of a plan. -/
theorem wellFormed_of_read :
    (∀ raw description a, parse raw description = .ok a → a.WellFormed description) ∧
      ∀ steps, ∀ a ∈ Step.actions steps, ∃ s ∈ steps, s.parse = .ok a ∧
        a.WellFormed s.description := by
  have hparse : ∀ raw description a, parse raw description = .ok a →
      a.WellFormed description := by
    intro raw description a h
    obtain ⟨k, hkind, rfl⟩ := exists_kind_of_parse h
    exact (wellFormed_of_kind hkind).make description
  refine ⟨hparse, fun steps a ha => ?_⟩
  obtain ⟨s, hs, haction⟩ := List.mem_filterMap.mp ha
  have hok : s.parse = .ok a := by
    unfold Step.action? at haction
    cases hread : s.parse with
    | error e =>
      rw [hread] at haction
      exact nomatch haction
    | ok a' =>
      rw [hread] at haction
      exact congrArg _ (Option.some.inj haction)
  exact ⟨s, hs, hok, hparse _ _ a hok⟩

/-- The space bar by its name, with a description of blanks. -/
theorem wellFormed_of_read_space :
    parse " ⌃⌘ SPACE" " \t" = .ok (.make (.keyPress ' ' (.ofList [.control, .command])) " \t") ∧
      (Action.make (.keyPress ' ' (.ofList [.control, .command])) " \t").WellFormed " \t" := by
  have hparse : parse " ⌃⌘ SPACE" " \t" =
      .ok (.make (.keyPress ' ' (.ofList [.control, .command])) " \t") := by decide +kernel
  exact ⟨hparse, wellFormed_of_read.1 _ _ _ hparse⟩

end Instruction

end KeyPlan
