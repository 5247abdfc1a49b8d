import Mathlib.Data.List.Nodup
import KeyPlan.Keyboard
import KeyPlan.Proofs.Trimming

/-!
# Characters and the keys that type them

A character is typed by a key, with or without Shift. The tables of the keyboard fit together: what
needs Shift stands above another character that does not, no two characters share a key and a level,
and no two keys share a code, but for the line feed, which has the code of the return key. So the
codes and the modifiers of a typed text tell the text.

## Main definitions

* `Keyboard.TakesShift`, `Keyboard.shifted`: the characters that need Shift
* `Keyboard.stroke`, `Keyboard.strokes`: the codes and the modifiers that type a character or a text
* `Keyboard.HasKey`, `Keyboard.Typable`: the characters that have a key of their own, and the texts
  of such characters

## Main results

* `Keyboard.requiresShift_iff_ne`, `Keyboard.baseKey_baseKey`: Shift and the key of a character
* `Keyboard.eq_of_stroke_eq`: the code and the modifiers of a character tell the character
* `Keyboard.strokes_determine`: those of a text tell the text
-/

namespace KeyPlan.Keyboard

/-! ## Shift -/

/-- **The characters that need Shift**: the capitals, and the punctuation above other characters. -/
def shifted : List Char :=
  (List.range 26).map (fun i => Char.ofNat (65 + i)) ++ shiftedPairs.map Prod.fst

theorem isUpper_of_mem_range : ∀ i ∈ List.range 26, (Char.ofNat (65 + i)).isUpper = true := by
  decide

theorem isUpper_iff_mem {c : Char} :
    c.isUpper = true ↔ c ∈ (List.range 26).map fun i => Char.ofNat (65 + i) := by
  constructor
  · intro h
    have hrange : 65 ≤ c.toNat ∧ c.toNat ≤ 90 := of_decide_eq_true h
    refine List.mem_map.mpr ⟨c.toNat - 65, List.mem_range.mpr (by omega), ?_⟩
    rw [show 65 + (c.toNat - 65) = c.toNat by omega, Char.ofNat_toNat]
  · intro h
    obtain ⟨i, hi, rfl⟩ := List.mem_map.mp h
    exact isUpper_of_mem_range i hi

/-- **The characters that are typed with Shift**: the capitals of ASCII, and the punctuation above
other characters. -/
def TakesShift (c : Char) : Prop :=
  'A' ≤ c ∧ c ≤ 'Z' ∨ c ∈ "~!@#$%^&*()_+\x7b\x7d|:\"<>?".toList

theorem requiresShift_iff_takesShift {c : Char} : requiresShift c = true ↔ TakesShift c := by
  have hupper : c.isUpper = true ↔ 'A' ≤ c ∧ c ≤ 'Z' := decide_eq_true_iff
  have hpair : (shiftedPairs.lookup c).isSome = true ↔
      c ∈ "~!@#$%^&*()_+\x7b\x7d|:\"<>?".toList := by
    have hpunctuation : shiftedPairs.map Prod.fst = "~!@#$%^&*()_+\x7b\x7d|:\"<>?".toList := by decide
    rw [← hpunctuation, List.lookup_isSome_iff]
    simp
  rw [requiresShift, Bool.or_eq_true, hupper, hpair, TakesShift]

theorem requiresShift_iff_mem {c : Char} : requiresShift c = true ↔ c ∈ shifted := by
  have hpair : (shiftedPairs.lookup c).isSome = true ↔ c ∈ shiftedPairs.map Prod.fst := by
    rw [List.lookup_isSome_iff]
    simp
  rw [requiresShift, Bool.or_eq_true, isUpper_iff_mem, hpair, shifted, List.mem_append]

/-- The characters that need Shift and the names of their keys are all different. -/
theorem nodup_shifted : (shifted ++ shifted.map baseKey).Nodup := by
  decide +kernel

/-- What needs Shift stands above a character that does not. -/
theorem baseKey_not_mem {c : Char} (h : c ∈ shifted) : baseKey c ∉ shifted := fun hkey =>
  (List.nodup_append.mp nodup_shifted).2.2 _ hkey _ (List.mem_map_of_mem h) rfl

/-- What needs no Shift is its own key. -/
theorem baseKey_of_not_mem {c : Char} (h : c ∉ shifted) : baseKey c = c := by
  have hshift : ¬ requiresShift c = true := mt requiresShift_iff_mem.mp h
  rw [requiresShift, Bool.or_eq_true, not_or] at hshift
  obtain ⟨hupper, hpair⟩ := hshift
  rw [baseKey, if_neg hupper, Option.not_isSome_iff_eq_none.mp hpair, Option.getD_none]

/-- The key of a character needs no Shift. -/
theorem baseKey_not_shifted (c : Char) : baseKey c ∉ shifted := by
  by_cases h : c ∈ shifted
  · exact baseKey_not_mem h
  · rwa [baseKey_of_not_mem h]

/-- **A character needs Shift if its key is named by another one.** -/
theorem requiresShift_iff_ne (c : Char) : requiresShift c = true ↔ baseKey c ≠ c := by
  rw [requiresShift_iff_mem]
  constructor
  · intro h heq
    exact baseKey_not_mem h (heq.symm ▸ h)
  · intro hne
    by_contra h
    exact hne (baseKey_of_not_mem h)

theorem baseKey_baseKey (c : Char) : baseKey (baseKey c) = baseKey c :=
  baseKey_of_not_mem (baseKey_not_shifted c)

/-- A character and its key have one code. -/
theorem keyCode?_baseKey (c : Char) : keyCode? (baseKey c) = keyCode? c := by
  rw [keyCode?, keyCode?, baseKey_baseKey]

/-- Shift and the key of a character tell the character. -/
theorem eq_of_baseKey_eq {c d : Char} (hkey : baseKey c = baseKey d)
    (hshift : requiresShift c = requiresShift d) : c = d := by
  have hmem : c ∈ shifted ↔ d ∈ shifted := by
    rw [← requiresShift_iff_mem, ← requiresShift_iff_mem, hshift]
  by_cases hd : d ∈ shifted
  · -- both stand above a key, and no two characters stand above the same one
    have hkeys := (List.nodup_append.mp nodup_shifted).2.1
    exact List.inj_on_of_nodup_map hkeys (hmem.mpr hd) hd hkey
  · rwa [baseKey_of_not_mem hd, baseKey_of_not_mem (mt hmem.mp hd)] at hkey

/-- **A character is typed with Shift or without modifiers.** -/
theorem contains_modifiersFor (c : Char) (m : Modifier) :
    (modifiersFor c .empty).contains m = true ↔ m = .shift ∧ TakesShift c := by
  rw [← requiresShift_iff_takesShift]
  cases h : requiresShift c <;> simp [modifiersFor, h]

theorem contains_shift_modifiersFor (c : Char) :
    (modifiersFor c .empty).contains .shift = requiresShift c := by
  cases h : requiresShift c <;> simp [modifiersFor, h]

/-! ## Codes -/

/-- No two keys but the line feed have one code. -/
theorem nodup_codes : ((keyCodes.filter fun p => p.1 ≠ '\n').map Prod.snd).Nodup := by
  decide +kernel

theorem mem_of_keyCode? {c : Char} {n : Nat} (h : keyCode? c = some n) :
    (baseKey c, n) ∈ keyCodes := by
  obtain ⟨front, rest, hcodes, -⟩ := List.lookup_eq_some_iff.mp h
  rw [hcodes]
  exact List.mem_append_right _ List.mem_cons_self

/-- Only the line feed itself stands on its key. -/
theorem baseKey_ne_feed {c : Char} (h : c ≠ '\n') : baseKey c ≠ '\n' := by
  by_cases hc : c ∈ shifted
  · have hfeed : ∀ c ∈ shifted, baseKey c ≠ '\n' := by decide +kernel
    exact hfeed c hc
  · rwa [baseKey_of_not_mem hc]

/-- Keys with one code are the same key. -/
theorem baseKey_eq_of_keyCode?_eq {c d : Char} {n : Nat} (hc : keyCode? c = some n)
    (hd : keyCode? d = some n) (hcfeed : c ≠ '\n') (hdfeed : d ≠ '\n') :
    baseKey c = baseKey d := by
  have hmem {e : Char} (he : keyCode? e = some n) (hfeed : e ≠ '\n') :
      (baseKey e, n) ∈ keyCodes.filter fun p => p.1 ≠ '\n' :=
    List.mem_filter.mpr ⟨mem_of_keyCode? he, decide_eq_true (baseKey_ne_feed hfeed)⟩
  have hpair := List.inj_on_of_nodup_map nodup_codes (hmem hc hcfeed) (hmem hd hdfeed) rfl
  exact congrArg Prod.fst hpair

/-- **What types a character**: the code of its key, and the modifiers. -/
def stroke (c : Char) : Option Nat × ModifierSet := (keyCode? c, modifiersFor c .empty)

/-- The keyboard has a key for the character, and it is no line feed. -/
def HasKey (c : Char) : Prop := (keyCode? c).isSome = true ∧ c ≠ '\n'

instance (c : Char) : Decidable (HasKey c) :=
  inferInstanceAs (Decidable (_ ∧ _))

/-- **The code and the modifiers of a character tell the character.** -/
theorem eq_of_stroke_eq {c d : Char} (hc : HasKey c) (hd : HasKey d) (h : stroke c = stroke d) :
    c = d := by
  obtain ⟨hcode, hmodifiers⟩ := Prod.mk.inj h
  obtain ⟨n, hn⟩ := Option.isSome_iff_exists.mp hc.1
  refine eq_of_baseKey_eq (baseKey_eq_of_keyCode?_eq hn (hcode ▸ hn) hc.2 hd.2) ?_
  rw [← contains_shift_modifiersFor, hmodifiers, contains_shift_modifiersFor]

/-! ## Texts -/

/-- **What types a text**, character by character. -/
def strokes (text : String) : List (Option Nat × ModifierSet) := text.toList.map stroke

/-- **The keyboard can type the text.** -/
def Typable (text : String) : Prop := ∀ c ∈ text.toList, HasKey c

instance (text : String) : Decidable (Typable text) :=
  Text.decidableForallMem text.toList

theorem eq_of_map_stroke_eq {s : List Char} :
    ∀ {t : List Char}, (∀ c ∈ s, HasKey c) → (∀ c ∈ t, HasKey c) →
      s.map stroke = t.map stroke → s = t := by
  induction s with
  | nil => exact fun _ _ h => (List.map_eq_nil_iff.mp h.symm).symm
  | cons c s ih =>
    intro t hs ht h
    cases t with
    | nil => exact nomatch h
    | cons d t =>
      obtain ⟨hc, hs⟩ := List.forall_mem_cons.mp hs
      obtain ⟨hd, ht⟩ := List.forall_mem_cons.mp ht
      obtain ⟨hstroke, hmore⟩ := List.cons.inj h
      rw [eq_of_stroke_eq hc hd hstroke, ih hs ht hmore]

/-- **Typed text is determined by its key codes.** Texts that the keyboard can type with the same
codes and modifiers are the same. And the tables fit together for each character: it needs Shift
exactly if its key is named by another one, a key is named by a character on itself, and this one
has the same code. -/
theorem strokes_determine :
    (∀ s t : String, Typable s → Typable t → strokes s = strokes t → s = t) ∧
      ∀ c : Char, (requiresShift c = true ↔ baseKey c ≠ c) ∧ baseKey (baseKey c) = baseKey c ∧
        keyCode? c = keyCode? (baseKey c) := by
  refine ⟨fun s t hs ht h => ?_, fun c => ⟨?_, ?_, ?_⟩⟩
  · exact String.toList_injective (eq_of_map_stroke_eq hs ht h)
  · exact requiresShift_iff_ne c
  · exact baseKey_baseKey c
  · exact (keyCode?_baseKey c).symm

/-- The same keys with and without Shift, among them the one of the grave accent and the tilde. -/
theorem strokes_determine_tilde :
    let shift := ModifierSet.ofList [.shift]
    let text := String.ofList ['~', '\x60', 'A', 'a', '\t', '\r']
    Typable text ∧ Typable "~\x60Aa\t\r" ∧ strokes text = strokes "~\x60Aa\t\r" ∧
      strokes text = [(some 50, shift), (some 50, .empty), (some 0, shift), (some 0, .empty),
        (some 48, .empty), (some 36, .empty)] ∧
      text = "~\x60Aa\t\r" := by
  intro shift text
  have htext : Typable text := by decide +kernel
  have htext' : Typable "~\x60Aa\t\r" := by decide +kernel
  have hstrokes : strokes text = strokes "~\x60Aa\t\r" := by decide +kernel
  exact ⟨htext, htext', hstrokes, by decide +kernel,
    strokes_determine.1 text _ htext htext' hstrokes⟩

end KeyPlan.Keyboard
