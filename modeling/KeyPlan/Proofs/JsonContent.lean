import KeyPlan.Json.Content
import KeyPlan.Proofs.JsonText

/-!
# Reading values of unknown shape that were written

A value of any shape is taken back from its written form by its first character: a number is the
run of its digits, and lists and objects are taken back if their parts are, with one container less
around them.

## Main results

* `readNumber_writeNat`: a 64-bit natural number is taken back
* `reads_content_string`, `reads_content_null`, `reads_content_word`: plain values
* `reads_content_list`, `reads_content_object`: containers
-/

namespace KeyPlan.Json

/-! ## Numbers -/

/-- What may follow a value does not go on with a number. -/
theorem Stops.not_numeric {c : Char} {r : List Char} (h : Stops (c :: r)) :
    c.isDigit = false ∧ c ≠ '.' ∧ c ≠ 'e' ∧ c ≠ 'E' := by
  have hc := h c rfl
  simp only [isSpace, Bool.or_eq_true, beq_iff_eq] at hc
  rcases hc with rfl | rfl | rfl | ((rfl | rfl) | rfl) | rfl <;> decide

theorem writeNat_ne_nil (n : Nat) : writeNat n ≠ [] := Nat.toDigits_ne_nil

theorem isDigit_of_mem_writeNat {n : Nat} {c : Char} (h : c ∈ writeNat n) : c.isDigit = true :=
  Nat.isDigit_of_mem_toDigits (by decide) (by decide) h

/-- What is no digit is none of the digits. -/
theorem ne_of_isDigit {c d : Char} (hc : c.isDigit = true) (hd : d.isDigit = false) : c ≠ d := by
  rintro rfl
  exact nomatch hc.symm.trans hd

theorem isSpace_of_isDigit {c : Char} (h : c.isDigit = true) : isSpace c = false := by
  simp [isSpace, ne_of_isDigit h (d := ' ') rfl, ne_of_isDigit h (d := '\t') rfl,
    ne_of_isDigit h (d := '\n') rfl, ne_of_isDigit h (d := '\r') rfl]

/-- A number starts with a digit, which is no blank. -/
theorem exists_writeNat_eq_cons (n : Nat) :
    ∃ d ds, writeNat n = d :: ds ∧ d.isDigit = true ∧ isSpace d = false := by
  obtain ⟨d, ds, hd⟩ := List.exists_cons_of_ne_nil (writeNat_ne_nil n)
  have hdigit : d.isDigit = true := isDigit_of_mem_writeNat (hd ▸ List.mem_cons_self)
  exact ⟨d, ds, hd, hdigit, isSpace_of_isDigit hdigit⟩

/-- Only zero is written with a zero in front. -/
theorem head?_writeNat_ne_zero {n : Nat} (hn : n ≠ 0) : (writeNat n).head? ≠ some '0' := by
  induction n using Nat.strongRecOn with
  | ind n ih =>
    rw [writeNat, Nat.toDigits_eq_if (by decide)]
    split
    · simpa [Nat.digitChar_eq_zero] using hn
    · have hhead := ih (n / 10) (by omega) (by omega)
      obtain ⟨d, ds, hd⟩ := List.exists_cons_of_ne_nil (writeNat_ne_nil (n / 10))
      rw [hd] at hhead
      rwa [show Nat.toDigits 10 (n / 10) = d :: ds from hd]

theorem digitsValue_writeNat (n : Nat) : digitsValue (writeNat n) = n := by
  have h := @Nat.ofDigitChars_ten_toDigits n
  rwa [Nat.ofDigitChars_eq_foldl] at h

theorem le_foldl_digitValue (ds : List Char) :
    ∀ n, n ≤ ds.foldl (fun n c => 10 * n + digitValue c) n := by
  induction ds with
  | nil => exact Nat.le_refl
  | cons c ds ih => exact fun n => Nat.le_trans (by omega) (ih (10 * n + digitValue c))

/-- Digits that make a word are all taken into it. -/
theorem absorb_eq {ds : List Char} :
    ∀ {n : Nat}, ds.foldl (fun n c => 10 * n + digitValue c) n < UInt64.size →
      absorb n ds = (ds.foldl (fun n c => 10 * n + digitValue c) n, ds.length) := by
  induction ds with
  | nil => exact fun _ => rfl
  | cons c ds ih =>
    intro n h
    have hnext : 10 * n + digitValue c < UInt64.size :=
      Nat.lt_of_le_of_lt (le_foldl_digitValue ds _) h
    rw [absorb]
    simp only [hnext, if_true, ih h]
    rfl

theorem digitsOf_append {ds rest : List Char} (hds : ∀ c ∈ ds, c.isDigit = true)
    (hrest : Stops rest) : digitsOf (ds ++ rest) = ds ∧ pastDigits (ds ++ rest) = rest := by
  rw [digitsOf, pastDigits, List.takeWhile_append_of_pos hds, List.dropWhile_append_of_pos hds]
  cases rest with
  | nil => simp
  | cons c r => simp [hrest.not_numeric.1]

theorem readWhole_writeNat (n : Nat) {rest : List Char} (hrest : Stops rest) :
    readWhole (writeNat n ++ rest) = .ok (writeNat n, rest) := by
  by_cases hn : n = 0
  · -- a zero stands alone
    subst hn
    cases rest with
    | nil => rfl
    | cons c r => simp [writeNat, readWhole, hrest.not_numeric.1]
  · obtain ⟨d, ds, hd⟩ := List.exists_cons_of_ne_nil (writeNat_ne_nil n)
    have hdigits : ∀ c ∈ d :: ds, c.isDigit = true := fun c hc => isDigit_of_mem_writeNat (hd ▸ hc)
    have hzero : d ≠ '0' := by
      have hhead := head?_writeNat_ne_zero hn
      rw [hd] at hhead
      exact fun h => hhead (congrArg some h)
    obtain ⟨htaken, hleft⟩ := digitsOf_append hdigits hrest
    rw [hd, readWhole.eq_def]
    split
    next h => exact absurd (List.cons.inj h).1 hzero
    next =>
      rw [List.cons_append, readDigits, if_pos (hdigits d List.mem_cons_self), ← List.cons_append,
        htaken, hleft]

/-- A natural number is written as a numeral of digits alone. -/
theorem readNumeral_writeNat (n : Nat) {rest : List Char} (hrest : Stops rest) :
    readNumeral (writeNat n ++ rest) = .ok (⟨false, writeNat n, none, none⟩, rest) := by
  have hwhole := readWhole_writeNat n hrest
  have hfraction : readFraction rest = .ok (none, rest) := by
    cases rest with
    | nil => rfl
    | cons c r => simp [readFraction, hrest.not_numeric.2.1]
  have hexponent : readExponent rest = .ok (none, rest) := by
    cases rest with
    | nil => rfl
    | cons c r => simp [readExponent, hrest.not_numeric.2.2.1, hrest.not_numeric.2.2.2]
  obtain ⟨d, ds, hd⟩ := List.exists_cons_of_ne_nil (writeNat_ne_nil n)
  have hminus : d ≠ '-' := by
    rintro rfl
    exact absurd (isDigit_of_mem_writeNat (hd ▸ List.mem_cons_self)) (by decide)
  rw [hd] at hwhole ⊢
  rw [readNumeral.eq_def]
  split
  next negative s hsign =>
    split at hsign
    next h => exact absurd (List.cons.inj h).1 hminus
    next =>
      obtain ⟨rfl, rfl⟩ := Prod.mk.inj hsign
      simp only [hwhole, hfraction, hexponent, ok_bind, pure_ok]

/-- Digits that make a word are worth that word. -/
theorem value_writeNat (n : UInt64) :
    Numeral.value ⟨false, writeNat n.toNat, none, none⟩ = .ok (.natural n) := by
  have habsorb : absorb 0 (writeNat n.toNat) = (n.toNat, (writeNat n.toNat).length) := by
    have hvalue := digitsValue_writeNat n.toNat
    have habsorb := @absorb_eq (writeNat n.toNat) 0 (by
      rw [digitsValue] at hvalue
      rw [hvalue]
      exact n.toNat_lt)
    rwa [← digitsValue, hvalue] at habsorb
  simp [Numeral.value, habsorb]

/-- **A 64-bit natural number is taken back.** -/
theorem readNumber_writeNat (n : UInt64) {rest : List Char} (hrest : Stops rest) :
    readNumber (writeNat n.toNat ++ rest) = .ok (.natural n, rest) := by
  simp only [readNumber, readNumeral_writeNat _ hrest, value_writeNat, ok_bind, pure_ok]

/-! ## Values of any shape -/

/-- However deep containers may nest, a value is read by its first character. -/
theorem readContent_eq (depth : Nat) : ∃ inner, readContent depth = readContentWith inner := by
  cases depth with
  | zero => exact ⟨none, rfl⟩
  | succ depth => exact ⟨some (readContent depth), rfl⟩

theorem reads_content_string (depth : Nat) (s : String) :
    Reads (readContent depth) (writeString s) (.string s) := by
  obtain ⟨inner, hinner⟩ := readContent_eq depth
  refine ⟨starts_writeString s, fun rest _ => ?_⟩
  rw [hinner, writeString_append, readContentWith, skipSpace_cons (by decide)]
  simp [Char.isDigit, readStringBody_flatMap_escape, ok_bind, pure_ok]

theorem reads_content_null (depth : Nat) :
    Reads (readContent depth) "null".toList .null := by
  obtain ⟨inner, hinner⟩ := readContent_eq depth
  refine ⟨⟨'n', _, rfl, by decide, by decide⟩, fun rest _ => ?_⟩
  rw [hinner, readContentWith]
  rfl

theorem reads_content_word (depth : Nat) (n : UInt64) :
    Reads (readContent depth) (writeNat n.toNat) (.number (.natural n)) := by
  obtain ⟨inner, hinner⟩ := readContent_eq depth
  -- a digit is none of the characters that other values start with
  obtain ⟨d, ds, hd, hdigit, hspace⟩ := exists_writeNat_eq_cons n.toNat
  have hne {c : Char} (hc : c.isDigit = false) : d ≠ c := ne_of_isDigit hdigit hc
  refine ⟨⟨d, ds, hd, hspace, hne rfl⟩, fun rest hrest => ?_⟩
  have hnumber := readNumber_writeNat n hrest
  rw [hd, List.cons_append] at hnumber ⊢
  rw [hinner, readContentWith, skipSpace_cons hspace]
  simp [hne (c := 'n') rfl, hne (c := 't') rfl, hne (c := 'f') rfl, hdigit, hnumber, ok_bind,
    pure_ok]

/-- **A list is taken back** if its items are, with one container less around them. -/
theorem reads_content_list {α : Type} {depth : Nat} {write : α → List Char} {value : α → Content}
    {xs : List α} (h : ∀ x ∈ xs, Reads (readContent depth) (write x) (value x)) :
    Reads (readContent (depth + 1)) (writeList (xs.map write)) (.list (xs.map value)) := by
  refine ⟨⟨'[', _, rfl, by decide, by decide⟩, fun rest _ => ?_⟩
  rw [writeList_append, readContent, readContentWith, skipSpace_cons (by decide)]
  simp [Char.isDigit, readItems_withCommas rest h, closeList_bracket, ok_bind, pure_ok]

/-- How a value of any shape takes a member of an object: it comes in front of those before it. -/
def contentMember (value : Reader Content) (members : List (String × Content)) (key : String) :
    Reader (List (String × Content)) := fun s => do
  let (v, s) ← readMemberValue value s
  return ((key, v) :: members, s)

theorem fills_contentMember {value : Reader Content} {key : String} {text : List Char}
    {x : Content} {ms : List (String × List Char)} {before last : List (String × Content)}
    (h : Reads value text x) (hs : Fills (contentMember value) ((key, x) :: before) ms last) :
    Fills (contentMember value) before ((key, text) :: ms) last := by
  refine .cons (fun rest hrest => ?_) hs
  simp only [contentMember, h.memberValue hrest, ok_bind, pure_ok]

/-- **An object is taken back** if its members are, with one container less around them. -/
theorem reads_content_object {depth : Nat} {ms : List (String × List Char)}
    {members : List (String × Content)}
    (h : Fills (contentMember (readContent depth)) [] ms members) :
    Reads (readContent (depth + 1)) (writeObject ms) (.object members.reverse) := by
  refine ⟨⟨'\x7b', _, rfl, by decide, by decide⟩, fun rest _ => ?_⟩
  have hobject (r : List Char) : readContent (depth + 1) ('\x7b' :: r) = (do
      let p ← readMembers (contentMember (readContent depth)) [] r
      return (.object p.1.reverse, ← closeObject p.2)) := rfl
  rw [writeObject_append, hobject, h.readMembers rest]
  simp only [closeObject_brace, ok_bind, pure_ok]

end KeyPlan.Json
