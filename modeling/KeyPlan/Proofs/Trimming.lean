import KeyPlan.Text.Blank
import KeyPlan.Text.Numeral
import KeyPlan.Text.Search
import Mathlib.Data.List.DropRight
import Mathlib.Data.List.TakeWhile

/-!
# Trimmed texts, starts and numerals

A text is its trimmed text with blanks at both ends. A text that neither begins nor ends with a
blank stays whole when it is trimmed, whatever follows it, and letter case does not matter for this.
What follows a start is what is left behind some spelling of the start, and what is read as a number
is a numeral whose value fits.

## Main definitions

* `Blank`, `Solid`: a text of blanks, and one that neither begins nor ends with a blank
* `Numeral`: a decimal numeral and its value

## Main results

* `exists_trim`, `trim_of_blank`: a text and its trimmed text
* `Solid.trim_append`: trimming keeps a solid start
* `cutStart?_append`, `exists_of_cutStart?`: what follows a start
* `readWord?_eq_some_iff`, `readWord?_eq_none`: what is read as a number
-/

namespace KeyPlan.Text

/-- What holds of all characters of a text is decided on them, and not on all characters there
are. -/
instance (priority := 2000) decidableForallMem {p : Char → Prop} [DecidablePred p]
    (s : List Char) : Decidable (∀ c ∈ s, p c) :=
  List.decidableBAll p s

/-- The text has nothing but blanks. -/
def Blank (s : List Char) : Prop := ∀ c ∈ s, isBlank c = true

instance (s : List Char) : Decidable (Blank s) :=
  inferInstanceAs (Decidable (∀ c ∈ s, isBlank c = true))

theorem Blank.append {s t : List Char} (hs : Blank s) (ht : Blank t) : Blank (s ++ t) :=
  List.forall_mem_append.mpr ⟨hs, ht⟩

/-- **The text neither begins nor ends with a blank**, and is not empty. -/
structure Solid (s : List Char) : Prop where
  head : ∃ c, s.head? = some c ∧ isBlank c = false
  last : ∃ c, s.getLast? = some c ∧ isBlank c = false

/-! ## Trimming -/

theorem trimStart_of_blank {before : List Char} (h : Blank before) (s : List Char) :
    trimStart (before ++ s) = trimStart s :=
  List.dropWhile_append_of_pos h

theorem trimEnd_of_blank {after : List Char} (h : Blank after) (s : List Char) :
    trimEnd (s ++ after) = trimEnd s := by
  rw [trimEnd, trimEnd, List.reverse_append, List.dropWhile_append_of_pos]
  exact fun c hc => h c (List.mem_reverse.mp hc)

theorem exists_trimStart (s : List Char) : ∃ before, s = before ++ trimStart s ∧ Blank before :=
  ⟨s.takeWhile isBlank, List.takeWhile_append_dropWhile.symm, fun _ => List.mem_takeWhile_imp⟩

theorem exists_trimEnd (s : List Char) : ∃ after, s = trimEnd s ++ after ∧ Blank after := by
  obtain ⟨before, hs, hbefore⟩ := exists_trimStart s.reverse
  refine ⟨before.reverse, ?_, fun c hc => hbefore c (List.mem_reverse.mp hc)⟩
  rw [trimEnd, ← List.reverse_append]
  exact List.reverse_eq_iff.mp hs

/-- **A text is its trimmed text with blanks at both ends.** -/
theorem exists_trim (s : List Char) :
    ∃ before after, s = before ++ trim s ++ after ∧ Blank before ∧ Blank after := by
  obtain ⟨before, hs, hbefore⟩ := exists_trimStart s
  obtain ⟨after, ht, hafter⟩ := exists_trimEnd (trimStart s)
  refine ⟨before, after, ?_, hbefore, hafter⟩
  rw [List.append_assoc, trim, ← ht]
  exact hs

/-- **Blanks at the ends do not matter** for the trimmed text. -/
theorem trim_of_blank {before after : List Char} (hbefore : Blank before) (hafter : Blank after)
    (s : List Char) : trim (before ++ s ++ after) = trim s := by
  have hnone : trimStart after = [] := List.dropWhile_eq_nil_iff.mpr hafter
  rw [List.append_assoc, trim, trimStart_of_blank hbefore, trimStart, List.dropWhile_append]
  split
  · next hs =>
    -- there is nothing but blanks
    rw [List.isEmpty_iff] at hs
    rw [trim, trimStart, hs]
    exact congrArg trimEnd hnone
  · exact trimEnd_of_blank hafter _

theorem trim_trim (s : List Char) : trim (trim s) = trim s := by
  obtain ⟨before, after, hs, hbefore, hafter⟩ := exists_trim s
  have htrim := trim_of_blank hbefore hafter (trim s)
  rw [← hs] at htrim
  exact htrim.symm

theorem trim_trimEnd (s : List Char) : trim (trimEnd s) = trim s := by
  obtain ⟨after, hs, hafter⟩ := exists_trimEnd s
  have htrim := trim_of_blank (List.forall_mem_nil _) hafter (trimEnd s)
  rw [List.nil_append, ← hs] at htrim
  exact htrim.symm

theorem trimEnd_trimEnd (s : List Char) : trimEnd (trimEnd s) = trimEnd s := by
  rw [trimEnd, trimEnd, List.reverse_reverse, List.dropWhile_idempotent]

theorem Blank.trim_eq {s : List Char} (h : Blank s) : trim s = [] := by
  have htrim := trim_of_blank (List.forall_mem_nil _) h []
  rwa [List.append_nil, List.nil_append] at htrim

/-- A text behind a blank is trimmed at its end as without it, unless all of it is blank. -/
theorem trimEnd_cons_blank {b : Char} (hb : isBlank b = true) (s : List Char) :
    trimEnd (b :: s) = if Blank s then [] else b :: trimEnd s := by
  have hrest : s.reverse.dropWhile isBlank = [] ↔ Blank s := by
    rw [List.dropWhile_eq_nil_iff]
    exact ⟨fun h c hc => h c (List.mem_reverse.mpr hc), fun h c hc => h c (List.mem_reverse.mp hc)⟩
  rw [trimEnd, List.reverse_cons, List.dropWhile_append]
  by_cases hs : Blank s
  · simp [hrest.mpr hs, hs, hb]
  · simp [mt hrest.mp hs, hs, trimEnd]

namespace Solid

variable {p : List Char}

theorem ne_nil (hp : Solid p) : p ≠ [] := by
  rintro rfl
  obtain ⟨c, hc, -⟩ := hp.head
  exact nomatch hc

/-- The part of a solid text that is dropped as blank is empty. -/
theorem dropWhile_eq {s : List Char} (h : ∃ c, s.head? = some c ∧ isBlank c = false) :
    s.dropWhile isBlank = s := by
  obtain ⟨c, hc, hblank⟩ := h
  obtain ⟨t, rfl⟩ := List.head?_eq_some_iff.mp hc
  exact List.dropWhile_cons_of_neg (Bool.eq_false_iff.mp hblank)

theorem trimStart_append (hp : Solid p) (s : List Char) : trimStart (p ++ s) = p ++ s := by
  obtain ⟨c, hc, hblank⟩ := hp.head
  exact dropWhile_eq ⟨c, by rw [List.head?_append, hc, Option.some_or], hblank⟩

theorem trimEnd_append (hp : Solid p) (s : List Char) : trimEnd (p ++ s) = p ++ trimEnd s := by
  have hkeep : p.reverse.dropWhile isBlank = p.reverse :=
    dropWhile_eq (by rw [List.head?_reverse]; exact hp.last)
  rw [trimEnd, trimEnd, List.reverse_append, List.dropWhile_append]
  split
  · next hs =>
    rw [List.isEmpty_iff] at hs
    rw [hs, hkeep, List.reverse_reverse, List.reverse_nil, List.append_nil]
  · rw [List.reverse_append, List.reverse_reverse]

/-- **Trimming keeps a solid start**, and trims what follows it at its end. -/
theorem trim_append (hp : Solid p) (s : List Char) : trim (p ++ s) = p ++ trimEnd s := by
  rw [trim, hp.trimStart_append, hp.trimEnd_append]

theorem trim_eq (hp : Solid p) : trim p = p := by
  have htrim := hp.trim_append []
  rw [List.append_nil] at htrim
  exact htrim.trans (List.append_nil p)

end Solid

theorem Solid.of_forall {s : List Char} (hne : s ≠ []) (h : ∀ c ∈ s, isBlank c = false) :
    Solid s := by
  refine ⟨⟨s.head hne, List.head?_eq_some_head hne, h _ (List.head_mem hne)⟩,
    ⟨s.getLast hne, List.getLast?_eq_some_getLast hne, h _ (List.getLast_mem hne)⟩⟩

theorem Solid.append {p q : List Char} (hp : ∃ c, p.head? = some c ∧ isBlank c = false)
    (hq : ∃ c, q.getLast? = some c ∧ isBlank c = false) : Solid (p ++ q) := by
  obtain ⟨c, hc, hblank⟩ := hp
  obtain ⟨d, hd, hblank'⟩ := hq
  refine ⟨⟨c, ?_, hblank⟩, ⟨d, ?_, hblank'⟩⟩
  · rw [List.head?_append, hc, Option.some_or]
  · rw [List.getLast?_append, hd, Option.some_or]

theorem exists_head?_trimStart {s : List Char} (hne : trimStart s ≠ []) :
    ∃ c, (trimStart s).head? = some c ∧ isBlank c = false :=
  ⟨_, List.head?_eq_some_head hne, List.head_dropWhile_not isBlank hne⟩

/-- **What is left when a text is trimmed** is solid, if anything is. -/
theorem Solid.trim {s : List Char} (hne : trim s ≠ []) : Solid (trim s) := by
  constructor
  · have hstart : trimStart s ≠ [] := by
      intro hnil
      rw [Text.trim, hnil] at hne
      exact hne rfl
    obtain ⟨c, hc, hblank⟩ := exists_head?_trimStart hstart
    obtain ⟨r, hr⟩ := List.head?_eq_some_iff.mp hc
    have hsolid : Solid [c] := Solid.of_forall (List.cons_ne_nil c []) (by simpa using hblank)
    -- the first character is not trimmed at the end
    rw [Text.trim, hr, ← List.singleton_append, hsolid.trimEnd_append]
    exact ⟨c, rfl, hblank⟩
  · rw [Text.trim, trimEnd, ne_eq, List.reverse_eq_nil_iff] at hne
    rw [Text.trim, trimEnd, List.getLast?_reverse]
    exact exists_head?_trimStart hne

/-- A trimmed text is solid unless it is empty. -/
theorem Solid.of_trim_eq {s : List Char} (h : Text.trim s = s) (hne : s ≠ []) : Solid s := by
  rw [← h] at hne ⊢
  exact Solid.trim hne

/-! ## Letter case -/

theorem isBlank_eq_false {c : Char} (h : 65 ≤ c.toNat) (h' : c.toNat ≤ 122) :
    isBlank c = false := by
  simp only [isBlank, Bool.or_eq_false_iff, Bool.and_eq_false_iff, decide_eq_false_iff_not,
    beq_eq_false_iff_ne]
  omega

/-- A capital becomes the small letter 32 code points later, and nothing else changes. -/
theorem toLower_cases (c : Char) :
    (65 ≤ c.toNat ∧ c.toNat ≤ 90 ∧ c.toLower.toNat = c.toNat + 32) ∨
      (¬ (65 ≤ c.toNat ∧ c.toNat ≤ 90) ∧ c.toLower = c) := by
  unfold Char.toLower
  split
  · next h =>
    have hlow : 65 ≤ c.toNat := h.1
    have hhigh : c.toNat ≤ 90 := h.2
    have hval : (c.val + ('a'.val - 'A'.val)).toNat = c.toNat + 32 := by
      rw [UInt32.toNat_add]
      exact Nat.mod_eq_of_lt (show c.toNat + 32 < 2 ^ 32 by omega)
    exact .inl ⟨hlow, hhigh, hval⟩
  · next h => exact .inr ⟨h, rfl⟩

/-- A small letter becomes the capital 32 code points before, and nothing else changes. -/
theorem toUpper_cases (c : Char) :
    (97 ≤ c.toNat ∧ c.toNat ≤ 122 ∧ c.toUpper.toNat = c.toNat - 32) ∨
      (¬ (97 ≤ c.toNat ∧ c.toNat ≤ 122) ∧ c.toUpper = c) := by
  unfold Char.toUpper
  split
  · next h =>
    have hlow : 97 ≤ c.toNat := h.1
    have hhigh : c.toNat ≤ 122 := h.2
    have hdistance : ('A'.val - 'a'.val).toNat = 2 ^ 32 - 32 := rfl
    have hval : (c.val + ('A'.val - 'a'.val)).toNat = c.toNat - 32 := by
      rw [UInt32.toNat_add, hdistance]
      show (c.toNat + (2 ^ 32 - 32)) % 2 ^ 32 = c.toNat - 32
      omega
    exact .inl ⟨hlow, hhigh, hval⟩
  · next h => exact .inr ⟨h, rfl⟩

theorem isBlank_toLower (c : Char) : isBlank c.toLower = isBlank c := by
  rcases toLower_cases c with ⟨hlow, hhigh, hlower⟩ | ⟨-, hlower⟩
  · rw [isBlank_eq_false hlow (by omega), isBlank_eq_false] <;> omega
  · rw [hlower]

/-- A text is solid in any letter case. -/
theorem Solid.of_foldAscii {p q : List Char} (hq : Solid q) (h : foldAscii p = foldAscii q) :
    Solid p := by
  have hkeep {o o' : Option Char} (ho : o.map Char.toLower = o'.map Char.toLower)
      (ho' : ∃ c, o' = some c ∧ isBlank c = false) : ∃ c, o = some c ∧ isBlank c = false := by
    obtain ⟨c, rfl, hc⟩ := ho'
    obtain ⟨d, rfl, hd⟩ := Option.map_eq_some_iff.mp ho
    exact ⟨d, rfl, by rw [← isBlank_toLower, hd, isBlank_toLower, hc]⟩
  have hhead := congrArg List.head? h
  have hlast := congrArg List.getLast? h
  rw [foldAscii, foldAscii, List.head?_map, List.head?_map] at hhead
  rw [foldAscii, foldAscii, List.getLast?_map, List.getLast?_map] at hlast
  exact ⟨hkeep hhead hq.head, hkeep hlast hq.last⟩

/-! ## Starts -/

/-- A start is cut in any spelling. -/
theorem cutStart?_append {start : List Char} (rest : List Char) :
    ∀ {p : List Char}, foldAscii p = foldAscii start → cutStart? start (p ++ rest) = some rest := by
  induction start with
  | nil =>
    intro p h
    obtain rfl := List.map_eq_nil_iff.mp h
    exact cutStart?_nil rest
  | cons c start ih =>
    intro p h
    cases p with
    | nil => exact nomatch h
    | cons d p =>
      obtain ⟨hd, hp⟩ := List.cons.inj h
      rw [List.cons_append, cutStart?, if_pos hd.symm]
      exact ih hp

/-- **What follows a start** is what is left behind some spelling of it. -/
theorem exists_of_cutStart? {start rest : List Char} :
    ∀ {s : List Char}, cutStart? start s = some rest →
      ∃ p, s = p ++ rest ∧ foldAscii p = foldAscii start := by
  induction start with
  | nil =>
    intro s h
    rw [cutStart?_nil] at h
    exact ⟨[], Option.some.inj h, rfl⟩
  | cons c start ih =>
    intro s h
    cases s with
    | nil => exact nomatch h
    | cons d s =>
      rw [cutStart?] at h
      split at h
      · next hcd =>
        obtain ⟨p, rfl, hp⟩ := ih h
        exact ⟨d :: p, rfl, congrArg₂ List.cons hcd.symm hp⟩
      · exact nomatch h

/-! ## Numerals -/

/-- **A decimal numeral** of the value `n`: ASCII digits, with at most one plus sign before them. -/
def Numeral (s : List Char) (n : Nat) : Prop :=
  ∃ ds, (s = ds ∨ s = '+' :: ds) ∧ ds ≠ [] ∧ (∀ c ∈ ds, c.isDigit = true) ∧
    n = Nat.ofDigitChars 10 ds 0

/-- A sign is no digit. -/
theorem plus_not_mem {ds : List Char} (h : ∀ c ∈ ds, c.isDigit = true) : '+' ∉ ds :=
  fun hplus => absurd (h '+' hplus) (by decide)

/-- A numeral has one value. -/
theorem Numeral.unique {s : List Char} {n m : Nat} (hn : Numeral s n) (hm : Numeral s m) :
    n = m := by
  obtain ⟨ds, hs, -, hdigits, rfl⟩ := hn
  obtain ⟨ds', hs', -, hdigits', rfl⟩ := hm
  rcases hs with rfl | rfl <;> rcases hs' with h | h
  · rw [h]
  · exact absurd (h ▸ List.mem_cons_self) (plus_not_mem hdigits)
  · exact absurd (h ▸ List.mem_cons_self) (plus_not_mem hdigits')
  · rw [(List.cons.inj h).2]

theorem digitsFrom?_eq_some_iff {s : List Char} :
    ∀ {acc n : Nat}, digitsFrom? acc s = some n ↔
      (∀ c ∈ s, c.isDigit = true) ∧ n = Nat.ofDigitChars 10 s acc := by
  induction s with
  | nil =>
    intro acc n
    rw [digitsFrom?, Nat.ofDigitChars_nil, Option.some_inj, eq_comm]
    exact (and_iff_right (List.forall_mem_nil _)).symm
  | cons c s ih =>
    intro acc n
    rw [digitsFrom?, Nat.ofDigitChars_cons, List.forall_mem_cons]
    by_cases hc : c.isDigit = true
    · rw [digit?, if_pos hc]
      exact ih.trans (and_congr_left' (and_iff_right hc).symm)
    · rw [digit?, if_neg hc]
      exact ⟨nofun, fun h => absurd h.1.1 hc⟩

theorem digits?_eq_some_iff {s : List Char} {n : Nat} :
    digits? s = some n ↔
      s ≠ [] ∧ (∀ c ∈ s, c.isDigit = true) ∧ n = Nat.ofDigitChars 10 s 0 := by
  unfold digits?
  cases s with
  | nil => simp
  | cons c s => simp [digitsFrom?_eq_some_iff]

/-- A value is read if it fits. -/
theorem bind_ofNatLT_eq_some_iff {m : Option Nat} {w : UInt64} :
    (m.bind fun n => if h : n < UInt64.size then some (UInt64.ofNatLT n h) else none) = some w ↔
      m = some w.toNat := by
  rw [Option.bind_eq_some_iff]
  constructor
  · rintro ⟨n, rfl, hw⟩
    split at hw
    · obtain rfl := Option.some.inj hw
      rw [UInt64.toNat_ofNatLT]
    · exact nomatch hw
  · intro h
    exact ⟨w.toNat, h, by rw [dif_pos w.toNat_lt, UInt64.ofNatLT_toNat]⟩

/-- **What is read as a number** is a numeral whose value fits. -/
theorem readWord?_eq_some_iff {s : List Char} {w : UInt64} :
    readWord? s = some w ↔ Numeral s w.toNat := by
  unfold readWord?
  dsimp only
  split
  · next r =>
    refine bind_ofNatLT_eq_some_iff.trans (digits?_eq_some_iff.trans ⟨?_, ?_⟩)
    · exact fun h => ⟨r, .inr rfl, h⟩
    · rintro ⟨ds, hds | hds, hne, hdigits, hn⟩
      · exact absurd (hds ▸ List.mem_cons_self) (plus_not_mem hdigits)
      · obtain rfl := (List.cons.inj hds).2
        exact ⟨hne, hdigits, hn⟩
  · next hplus =>
    refine bind_ofNatLT_eq_some_iff.trans (digits?_eq_some_iff.trans ⟨?_, ?_⟩)
    · exact fun h => ⟨s, .inl rfl, h⟩
    · rintro ⟨ds, rfl | hds, h⟩
      · exact h
      · exact absurd hds (hplus ds)

/-- What is no numeral, and one whose value does not fit, is not read. -/
theorem readWord?_eq_none {s : List Char} (h : ∀ n, Numeral s n → UInt64.size ≤ n) :
    readWord? s = none := by
  refine Option.eq_none_iff_forall_ne_some.mpr fun w hw => ?_
  exact Nat.not_lt_of_le (h _ (readWord?_eq_some_iff.mp hw)) w.toNat_lt

end KeyPlan.Text
