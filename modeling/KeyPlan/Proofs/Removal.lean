import KeyPlan.Text.Search

/-!
# Removing a part of a text

A text without the occurrences of a part is made in rounds: where the part stands next it is left
out, and otherwise the next character is kept. What is removed from a text in front of a character
that the part does not have, and what is removed behind it, are independent of each other.

## Main results

* `Text.removal_induction`: the rounds of a removal
* `Text.removeAll_append_cons`: a removal on both sides of a character
* `Text.removeAll_eq_self_iff`: a text from which nothing is removed
-/

namespace KeyPlan.Text

variable {part : List Char}

@[simp] theorem removeAll_nil (part : List Char) : removeAll part [] = [] := rfl

/-- What is left of an occurrence is skipped. -/
theorem removeFrom_eq_drop (skip : Nat) (s : List Char) :
    removeFrom part skip s = removeAll part (s.drop skip) := by
  induction skip generalizing s with
  | zero => rfl
  | succ skip ih =>
    cases s with
    | nil => rfl
    | cons c s => exact ih s

/-- **The part is left out** where it stands next. -/
theorem removeAll_append_self (h : part ≠ []) (s : List Char) :
    removeAll part (part ++ s) = removeAll part s := by
  obtain ⟨p, rest, rfl⟩ := List.exists_cons_of_ne_nil h
  rw [List.cons_append, removeAll, removeFrom, if_pos (by simp), removeFrom_eq_drop]
  simp

/-- **A character is kept** where the part does not stand next. -/
theorem removeAll_cons {c : Char} {s : List Char} (h : ¬ part <+: c :: s) :
    removeAll part (c :: s) = c :: removeAll part s := by
  rw [removeAll, removeFrom, if_neg (by simpa using h)]
  rfl

/-- **The rounds of a removal**: what holds of the empty text, in front of an occurrence, and in
front of a character that is kept, holds of every text. -/
theorem removal_induction {motive : List Char → Prop} (hpart : part ≠ []) (nil : motive [])
    (found : ∀ s, motive s → motive (part ++ s))
    (kept : ∀ c s, ¬ part <+: c :: s → motive s → motive (c :: s)) (s : List Char) : motive s := by
  -- an occurrence is more than one character, so the induction is on the length of the text
  suffices h : ∀ n, ∀ s : List Char, s.length ≤ n → motive s from h s.length s (Nat.le_refl _)
  intro n
  induction n with
  | zero =>
    intro s hs
    rwa [List.length_eq_zero_iff.mp (Nat.le_zero.mp hs)]
  | succ n ih =>
    intro s hs
    cases s with
    | nil => exact nil
    | cons c s =>
      by_cases h : part <+: c :: s
      · obtain ⟨rest, hrest⟩ := h
        have hlength := congrArg List.length hrest
        have hpos := List.length_pos_iff.mpr hpart
        rw [List.length_append] at hlength
        exact hrest ▸ found rest (ih rest (by omega))
      · exact kept c s h (ih s (Nat.le_of_succ_le_succ hs))

/-- A prefix that does not have a character ends in front of it. -/
theorem isPrefix_of_not_mem {s r : List Char} {b : Char} :
    ∀ {part : List Char}, b ∉ part → part <+: s ++ b :: r → part <+: s := by
  induction s with
  | nil =>
    intro part hb h
    cases part with
    | nil => exact List.nil_prefix
    | cons p part =>
      obtain ⟨rfl, -⟩ := List.cons_prefix_cons.mp h
      exact absurd List.mem_cons_self hb
  | cons c s ih =>
    intro part hb h
    cases part with
    | nil => exact List.nil_prefix
    | cons p part =>
      obtain ⟨hp, hrest⟩ := List.cons_prefix_cons.mp h
      have hb' : b ∉ part := fun hmem => hb (List.mem_cons_of_mem p hmem)
      exact List.cons_prefix_cons.mpr ⟨hp, ih hb' hrest⟩

/-- **A removal on both sides of a character** that the part does not have. -/
theorem removeAll_append_cons (hpart : part ≠ []) {b : Char} (hb : b ∉ part) (s r : List Char) :
    removeAll part (s ++ b :: r) = removeAll part s ++ b :: removeAll part r := by
  induction s using removal_induction hpart with
  | nil =>
    exact removeAll_cons fun h => hpart (List.prefix_nil.mp (isPrefix_of_not_mem (s := []) hb h))
  | found s ih =>
    rw [List.append_assoc, removeAll_append_self hpart, removeAll_append_self hpart, ih]
  | kept c s h ih =>
    have hkept : ¬ part <+: c :: (s ++ b :: r) := fun hp => h (isPrefix_of_not_mem hb hp)
    rw [removeAll_cons h, List.cons_append, removeAll_cons hkept, ih, List.cons_append]

/-- Nothing is removed from a text without the first character of the part. -/
theorem removeAll_append_of_not_mem {p : Char} {more e : List Char} (h : p ∉ e) (s : List Char) :
    removeAll (p :: more) (e ++ s) = e ++ removeAll (p :: more) s := by
  induction e with
  | nil => rfl
  | cons c e ih =>
    rw [List.mem_cons, not_or] at h
    rw [List.cons_append, removeAll_cons, ih h.2]
    · rfl
    · exact fun hp => h.1 (List.cons_prefix_cons.mp hp).1

theorem removeAll_sublist (hpart : part ≠ []) (s : List Char) : (removeAll part s).Sublist s := by
  induction s using removal_induction hpart with
  | nil => exact List.Sublist.refl []
  | found s ih =>
    rw [removeAll_append_self hpart]
    exact ih.trans (List.sublist_append_right part s)
  | kept c s h ih =>
    rw [removeAll_cons h]
    exact ih.cons_cons c

/-- **Nothing is removed** exactly from a text in which the part does not occur. -/
theorem removeAll_eq_self_iff (hpart : part ≠ []) {s : List Char} :
    removeAll part s = s ↔ ¬ part <:+: s := by
  induction s using removal_induction hpart with
  | nil => simp [hpart]
  | found s ih =>
    refine iff_of_false (fun h => ?_) (not_not_intro (List.prefix_append part s).isInfix)
    have hlength := congrArg List.length h
    have hle := (removeAll_sublist hpart s).length_le
    have hpos := List.length_pos_iff.mpr hpart
    rw [removeAll_append_self hpart, List.length_append] at hlength
    omega
  | kept c s h ih =>
    rw [removeAll_cons h, List.infix_cons_iff, List.cons_inj_right, ih]
    simp [h]

end KeyPlan.Text
