import Mathlib.Tactic.SplitIfs
import KeyPlan.Text.Utf8

/-!
# Text through its octets

A text comes back from its octets, and no other octets are taken for a text. The machine is followed
through the octets of one character: the first one says how many are owed and in which range the
second one lies, each further one adds six bits, and behind the last one the machine stands between
characters again.

## Main results

* `decodeUtf8From_encodeChar`: the machine takes the octets of one character
* `exists_of_decodeUtf8From`: what the machine takes is the octets of a character
* `decodeUtf8_encodeUtf8`: a text comes back from its octets
* `decodeUtf8_eq_ok_iff`: what is read as a text are its octets
* `mem_encodeUtf8_iff`: only a line feed has the octet of the line feed
-/

namespace KeyPlan.Text

section Machine

variable {start low high value seen : Nat} {b : UInt8} {octets : List UInt8}

/-- An octet below 128 is a character. -/
theorem decodeUtf8From_ascii (h : b.toNat < 0x80) :
    decodeUtf8From start {} (b :: octets) =
      (decodeUtf8From (start + 1) {} octets).map (Char.ofNat b.toNat :: ·) := by
  rw [decodeUtf8From]
  simp only [h, if_true]
  cases decodeUtf8From (start + 1) {} octets <;> rfl

/-- The first octet of a character of several octets. -/
theorem decodeUtf8From_lead {next : Utf8State} (h : 0x80 ≤ b.toNat)
    (hlead : Utf8State.lead? b.toNat = some next) :
    decodeUtf8From start {} (b :: octets) = decodeUtf8From start next octets := by
  rw [decodeUtf8From]
  simp only [Nat.not_lt.mpr h, if_false, hlead]

/-- An octet of a character that is neither its first nor its last one. -/
theorem decodeUtf8From_more {owed : Nat} (hlow : low ≤ b.toNat) (hhigh : b.toNat ≤ high) :
    decodeUtf8From start ⟨owed + 2, low, high, value, seen⟩ (b :: octets) =
      decodeUtf8From start ⟨owed + 1, 0x80, 0xBF, value * 64 + (b.toNat - 0x80), seen + 1⟩
        octets := by
  rw [decodeUtf8From]
  simp only [hlow, hhigh, and_self, if_true]

/-- The last octet of a character. -/
theorem decodeUtf8From_last (hlow : low ≤ b.toNat) (hhigh : b.toNat ≤ high) :
    decodeUtf8From start ⟨1, low, high, value, seen⟩ (b :: octets) =
      (decodeUtf8From (start + seen + 1) {} octets).map
        (Char.ofNat (value * 64 + (b.toNat - 0x80)) :: ·) := by
  rw [decodeUtf8From]
  simp only [hlow, hhigh, and_self, if_true]
  cases decodeUtf8From (start + seen + 1) {} octets <;> rfl

end Machine

/-! ## One character -/

theorem lead?_two {v : Nat} (h : 0x80 ≤ v) (hv : v < 0x800) :
    Utf8State.lead? (v / 64 + 192) = some ⟨1, 0x80, 0xBF, v / 64, 1⟩ := by
  have hrange : 0xC2 ≤ v / 64 + 192 ∧ v / 64 + 192 ≤ 0xDF := by omega
  rw [Utf8State.lead?, if_pos hrange, Nat.add_sub_cancel]

/-- Three octets: the second one is not too small for a character that needs three, and not too big
for one below the surrogates if the first one allows these. -/
theorem lead?_three {v : Nat} (h : 0x800 ≤ v) (hv : v < 0x10000)
    (hsurrogate : v < 0xD800 ∨ 0xDFFF < v) :
    ∃ low high, Utf8State.lead? (v / 4096 + 224) = some ⟨2, low, high, v / 4096, 1⟩ ∧
      low ≤ v / 64 % 64 + 128 ∧ v / 64 % 64 + 128 ≤ high := by
  unfold Utf8State.lead?
  -- below 0x1000 a shorter form would do, and behind 0xD7FF the surrogates begin
  by_cases hfirst : v / 4096 = 0
  · exact ⟨0xA0, 0xBF, by simp [hfirst], by omega, by omega⟩
  by_cases hdense : v / 4096 = 0xD
  · exact ⟨0x80, 0x9F, by simp [hdense], by omega, by omega⟩
  · refine ⟨0x80, 0xBF, ?_, by omega, by omega⟩
    rw [if_neg (by omega), if_neg (by omega), if_neg (by omega), if_pos (by omega),
      Nat.add_sub_cancel]

/-- Four octets: the second one is not too small for a character that needs four, and not too big
for the last plane. -/
theorem lead?_four {v : Nat} (h : 0x10000 ≤ v) (hv : v < 0x110000) :
    ∃ low high, Utf8State.lead? (v / 262144 + 240) = some ⟨3, low, high, v / 262144, 1⟩ ∧
      low ≤ v / 4096 % 64 + 128 ∧ v / 4096 % 64 + 128 ≤ high := by
  unfold Utf8State.lead?
  by_cases hfirst : v / 262144 = 0
  · exact ⟨0x90, 0xBF, by simp [hfirst], by omega, by omega⟩
  by_cases hlast : v / 262144 = 4
  · exact ⟨0x80, 0x8F, by simp [hlast], by omega, by omega⟩
  · refine ⟨0x80, 0xBF, ?_, by omega, by omega⟩
    rw [if_neg (by omega), if_neg (by omega), if_neg (by omega), if_neg (by omega),
      if_neg (by omega), if_pos (by omega), Nat.add_sub_cancel]

/-- **The machine takes the octets of one character**, and stands behind them. -/
theorem decodeUtf8From_encodeChar (start : Nat) (c : Char) (rest : List UInt8) :
    ∃ next, decodeUtf8From start {} (String.utf8EncodeChar c ++ rest) =
      (decodeUtf8From next {} rest).map (c :: ·) := by
  obtain ⟨v, hv⟩ : ∃ v, v = c.toNat := ⟨_, rfl⟩
  have hvalid : v < 0xD800 ∨ 0xDFFF < v ∧ v < 0x110000 := hv ▸ c.valid
  have hc : Char.ofNat v = c := by rw [hv, Char.ofNat_toNat]
  have hoctet : ∀ {n : Nat}, n < 256 → (UInt8.ofNat n).toNat = n := fun h =>
    UInt8.toNat_ofNat'.trans (Nat.mod_eq_of_lt h)
  have htail : ∀ n : Nat, (UInt8.ofNat (n % 64 + 128)).toNat = n % 64 + 128 := fun n =>
    hoctet (by omega)
  have hvalue : ∀ n : Nat, n / 64 * 64 + (n % 64 + 128 - 0x80) = n := fun n => by omega
  unfold String.utf8EncodeChar
  rw [show c.val.toNat = v from hv.symm]
  -- how many octets there are
  by_cases hone : v ≤ 127
  · have hb := hoctet (show v < 256 by omega)
    refine ⟨start + 1, ?_⟩
    rw [if_pos hone, List.singleton_append, decodeUtf8From_ascii (by omega), hb, hc]
  by_cases htwo : v ≤ 2047
  · have hb : (UInt8.ofNat (v / 64 % 32 + 192)).toNat = v / 64 + 192 :=
      (hoctet (by omega)).trans (by omega)
    refine ⟨start + 1 + 1, ?_⟩
    simp only [if_neg hone, if_pos htwo, List.cons_append, List.nil_append]
    rw [decodeUtf8From_lead (by omega) (hb ▸ lead?_two (by omega) (by omega)),
      decodeUtf8From_last (by rw [htail]; omega) (by rw [htail]; omega), htail, hvalue, hc]
  by_cases hthree : v ≤ 65535
  · have hb : (UInt8.ofNat (v / 4096 % 16 + 224)).toNat = v / 4096 + 224 :=
      (hoctet (by omega)).trans (by omega)
    -- only the range of the second octet depends on the first one
    obtain ⟨low, high, hlead, hlow, hhigh⟩ := lead?_three (v := v) (by omega) (by omega) (by omega)
    have hsecond : v / 4096 * 64 + (v / 64 % 64 + 128 - 0x80) = v / 64 := by omega
    refine ⟨start + 2 + 1, ?_⟩
    simp only [if_neg hone, if_neg htwo, if_pos hthree, List.cons_append, List.nil_append]
    rw [decodeUtf8From_lead (by omega) (hb ▸ hlead),
      decodeUtf8From_more (by rw [htail]; exact hlow) (by rw [htail]; exact hhigh), htail, hsecond,
      decodeUtf8From_last (by rw [htail]; omega) (by rw [htail]; omega), htail, hvalue, hc]
  · have hb : (UInt8.ofNat (v / 262144 % 8 + 240)).toNat = v / 262144 + 240 :=
      (hoctet (by omega)).trans (by omega)
    obtain ⟨low, high, hlead, hlow, hhigh⟩ := lead?_four (v := v) (by omega) (by omega)
    have hsecond : v / 262144 * 64 + (v / 4096 % 64 + 128 - 0x80) = v / 4096 := by omega
    have hthird : v / 4096 * 64 + (v / 64 % 64 + 128 - 0x80) = v / 64 := by omega
    refine ⟨start + 3 + 1, ?_⟩
    simp only [if_neg hone, if_neg htwo, if_neg hthree, List.cons_append, List.nil_append]
    rw [decodeUtf8From_lead (by omega) (hb ▸ hlead),
      decodeUtf8From_more (by rw [htail]; exact hlow) (by rw [htail]; exact hhigh), htail, hsecond,
      decodeUtf8From_more (by rw [htail]; omega) (by rw [htail]; omega), htail, hthird,
      decodeUtf8From_last (by rw [htail]; omega) (by rw [htail]; omega), htail, hvalue, hc]

/-- An octet below 128 is the character itself. -/
theorem toNat_of_mem_encodeChar {c : Char} {b : UInt8} (h : b ∈ String.utf8EncodeChar c) :
    b.toNat = c.toNat ∨ 128 ≤ b.toNat := by
  have hbig : ∀ n : Nat, 128 ≤ n → n < 256 → 128 ≤ (UInt8.ofNat n).toNat := by
    intro n hlow hhigh
    rw [UInt8.toNat_ofNat', Nat.mod_eq_of_lt hhigh]
    exact hlow
  unfold String.utf8EncodeChar at h
  rw [show c.val.toNat = c.toNat from rfl] at h
  by_cases hone : c.toNat ≤ 127
  · rw [if_pos hone, List.mem_singleton] at h
    left
    rw [h, UInt8.toNat_ofNat', Nat.mod_eq_of_lt (by omega)]
  · right
    rw [if_neg hone] at h
    split at h
    · simp only [List.mem_cons, List.not_mem_nil, or_false] at h
      rcases h with rfl | rfl <;> exact hbig _ (by omega) (by omega)
    split at h
    · simp only [List.mem_cons, List.not_mem_nil, or_false] at h
      rcases h with rfl | rfl | rfl <;> exact hbig _ (by omega) (by omega)
    · simp only [List.mem_cons, List.not_mem_nil, or_false] at h
      rcases h with rfl | rfl | rfl | rfl <;> exact hbig _ (by omega) (by omega)

/-! ## What the machine takes -/

section Inversion

variable {start low high value seen : Nat} {octets : List UInt8} {s : List Char}

/-- The first octet of a character of several octets says how many there are, and in which range the
second one lies. -/
theorem lead?_cases {n : Nat} {state : Utf8State} (h : Utf8State.lead? n = some state) :
    (state = ⟨1, 0x80, 0xBF, n - 0xC0, 1⟩ ∧ 0xC2 ≤ n ∧ n ≤ 0xDF) ∨
    (∃ low high, state = ⟨2, low, high, n - 0xE0, 1⟩ ∧ 0xE0 ≤ n ∧ n ≤ 0xEF ∧ 0x80 ≤ low ∧
      high ≤ 0xBF ∧ (n = 0xE0 → 0xA0 ≤ low) ∧ (n = 0xED → high ≤ 0x9F)) ∨
    ∃ low high, state = ⟨3, low, high, n - 0xF0, 1⟩ ∧ 0xF0 ≤ n ∧ n ≤ 0xF4 ∧ 0x80 ≤ low ∧
      high ≤ 0xBF ∧ (n = 0xF0 → 0x90 ≤ low) ∧ (n = 0xF4 → high ≤ 0x8F) := by
  unfold Utf8State.lead? at h
  -- the ranges of first octets, in the order in which they are looked at
  split_ifs at h <;> obtain rfl := Option.some.inj h
  · exact .inl ⟨rfl, by omega, by omega⟩
  · subst n
    exact .inr (.inl ⟨_, _, rfl, by omega, by omega, by omega, by omega, by omega, by omega⟩)
  · subst n
    exact .inr (.inl ⟨_, _, rfl, by omega, by omega, by omega, by omega, by omega, by omega⟩)
  · exact .inr (.inl ⟨_, _, rfl, by omega, by omega, by omega, by omega, by omega, by omega⟩)
  · subst n
    exact .inr (.inr ⟨_, _, rfl, by omega, by omega, by omega, by omega, by omega, by omega⟩)
  · exact .inr (.inr ⟨_, _, rfl, by omega, by omega, by omega, by omega, by omega, by omega⟩)
  · subst n
    exact .inr (.inr ⟨_, _, rfl, by omega, by omega, by omega, by omega, by omega, by omega⟩)

/-- Inside a character another octet follows. -/
theorem exists_of_decodeUtf8From_more {owed : Nat}
    (h : decodeUtf8From start ⟨owed + 2, low, high, value, seen⟩ octets = .ok s) :
    ∃ b rest, octets = b :: rest ∧ low ≤ b.toNat ∧ b.toNat ≤ high ∧
      decodeUtf8From start ⟨owed + 1, 0x80, 0xBF, value * 64 + (b.toNat - 0x80), seen + 1⟩ rest =
        .ok s := by
  cases octets with
  | nil => exact nomatch h
  | cons b rest =>
    rw [decodeUtf8From] at h
    by_cases hb : low ≤ b.toNat ∧ b.toNat ≤ high
    · simp only [if_pos hb] at h
      exact ⟨b, rest, rfl, hb.1, hb.2, h⟩
    · simp only [if_neg hb] at h
      exact nomatch h

/-- The last octet of a character completes it. -/
theorem exists_of_decodeUtf8From_last
    (h : decodeUtf8From start ⟨1, low, high, value, seen⟩ octets = .ok s) :
    ∃ b rest next t, octets = b :: rest ∧ low ≤ b.toNat ∧ b.toNat ≤ high ∧
      s = Char.ofNat (value * 64 + (b.toNat - 0x80)) :: t ∧
      decodeUtf8From next {} rest = .ok t := by
  cases octets with
  | nil => exact nomatch h
  | cons b rest =>
    by_cases hb : low ≤ b.toNat ∧ b.toNat ≤ high
    · rw [decodeUtf8From_last hb.1 hb.2] at h
      cases hrest : decodeUtf8From (start + seen + 1) {} rest with
      | error e => exact nomatch hrest ▸ h
      | ok t =>
        rw [hrest] at h
        exact ⟨b, rest, _, t, rfl, hb.1, hb.2, (Except.ok.inj h).symm, hrest⟩
    · rw [decodeUtf8From] at h
      simp only [if_neg hb] at h
      exact nomatch h

end Inversion

section Octets

variable {b b₁ b₂ b₃ : UInt8}

theorem toNat_ofNat_of_valid {v : Nat} (h : v.isValidChar) : (Char.ofNat v).val.toNat = v := by
  rw [Char.ofNat, dif_pos h]
  rfl

theorem ofNat_eq_of_toNat {n : Nat} (h : n = b.toNat) : UInt8.ofNat n = b := by
  rw [h, UInt8.ofNat_toNat]

/-- One octet is the character whose code point it is. -/
theorem encodeChar_one (h : b.toNat < 0x80) :
    String.utf8EncodeChar (Char.ofNat b.toNat) = [b] := by
  rw [String.utf8EncodeChar, toNat_ofNat_of_valid (.inl (by omega))]
  simp only [if_pos (show b.toNat ≤ 127 by omega), UInt8.ofNat_toNat]

/-- Two octets in their ranges are a character. -/
theorem encodeChar_two (hlow : 0xC2 ≤ b.toNat) (hhigh : b.toNat ≤ 0xDF) (hlow₁ : 0x80 ≤ b₁.toNat)
    (hhigh₁ : b₁.toNat ≤ 0xBF) :
    String.utf8EncodeChar (Char.ofNat ((b.toNat - 0xC0) * 64 + (b₁.toNat - 0x80))) = [b, b₁] := by
  obtain ⟨v, hv⟩ : ∃ v, v = (b.toNat - 0xC0) * 64 + (b₁.toNat - 0x80) := ⟨_, rfl⟩
  rw [← hv, String.utf8EncodeChar, toNat_ofNat_of_valid (.inl (by omega))]
  simp only [if_neg (show ¬ v ≤ 127 by omega), if_pos (show v ≤ 2047 by omega)]
  rw [ofNat_eq_of_toNat (b := b) (by omega), ofNat_eq_of_toNat (b := b₁) (by omega)]

/-- Three octets are a character, unless two would do or its code point is that of a surrogate. -/
theorem encodeChar_three (hlow : 0xE0 ≤ b.toNat) (hhigh : b.toNat ≤ 0xEF) (hlow₁ : 0x80 ≤ b₁.toNat)
    (hhigh₁ : b₁.toNat ≤ 0xBF) (hlow₂ : 0x80 ≤ b₂.toNat) (hhigh₂ : b₂.toNat ≤ 0xBF)
    (hfirst : b.toNat = 0xE0 → 0xA0 ≤ b₁.toNat) (hdense : b.toNat = 0xED → b₁.toNat ≤ 0x9F) :
    String.utf8EncodeChar (Char.ofNat
      (((b.toNat - 0xE0) * 64 + (b₁.toNat - 0x80)) * 64 + (b₂.toNat - 0x80))) = [b, b₁, b₂] := by
  obtain ⟨v, hv⟩ : ∃ v, v =
    ((b.toNat - 0xE0) * 64 + (b₁.toNat - 0x80)) * 64 + (b₂.toNat - 0x80) := ⟨_, rfl⟩
  -- the second octet keeps the code point out of the surrogates
  have hvalid : v.isValidChar := by
    unfold Nat.isValidChar
    omega
  rw [← hv, String.utf8EncodeChar, toNat_ofNat_of_valid hvalid]
  simp only [if_neg (show ¬ v ≤ 127 by omega), if_neg (show ¬ v ≤ 2047 by omega),
    if_pos (show v ≤ 65535 by omega)]
  rw [ofNat_eq_of_toNat (b := b) (by omega), ofNat_eq_of_toNat (b := b₁) (by omega),
    ofNat_eq_of_toNat (b := b₂) (by omega)]

/-- Four octets are a character, unless three would do or there is no such code point. -/
theorem encodeChar_four (hlow : 0xF0 ≤ b.toNat) (hhigh : b.toNat ≤ 0xF4) (hlow₁ : 0x80 ≤ b₁.toNat)
    (hhigh₁ : b₁.toNat ≤ 0xBF) (hlow₂ : 0x80 ≤ b₂.toNat) (hhigh₂ : b₂.toNat ≤ 0xBF)
    (hlow₃ : 0x80 ≤ b₃.toNat) (hhigh₃ : b₃.toNat ≤ 0xBF)
    (hfirst : b.toNat = 0xF0 → 0x90 ≤ b₁.toNat) (hlast : b.toNat = 0xF4 → b₁.toNat ≤ 0x8F) :
    String.utf8EncodeChar (Char.ofNat
      ((((b.toNat - 0xF0) * 64 + (b₁.toNat - 0x80)) * 64 + (b₂.toNat - 0x80)) * 64 +
        (b₃.toNat - 0x80))) = [b, b₁, b₂, b₃] := by
  obtain ⟨v, hv⟩ : ∃ v, v = (((b.toNat - 0xF0) * 64 + (b₁.toNat - 0x80)) * 64 +
    (b₂.toNat - 0x80)) * 64 + (b₃.toNat - 0x80) := ⟨_, rfl⟩
  have hvalid : v.isValidChar := by
    unfold Nat.isValidChar
    omega
  rw [← hv, String.utf8EncodeChar, toNat_ofNat_of_valid hvalid]
  simp only [if_neg (show ¬ v ≤ 127 by omega), if_neg (show ¬ v ≤ 2047 by omega),
    if_neg (show ¬ v ≤ 65535 by omega)]
  rw [ofNat_eq_of_toNat (b := b) (by omega), ofNat_eq_of_toNat (b := b₁) (by omega),
    ofNat_eq_of_toNat (b := b₂) (by omega), ofNat_eq_of_toNat (b := b₃) (by omega)]

end Octets

/-- **What the machine takes is the octets of a character**, or nothing is left. -/
theorem exists_of_decodeUtf8From {start : Nat} {octets : List UInt8} {s : List Char}
    (h : decodeUtf8From start {} octets = .ok s) :
    octets = [] ∧ s = [] ∨ ∃ c rest next t, octets = String.utf8EncodeChar c ++ rest ∧
      s = c :: t ∧ decodeUtf8From next {} rest = .ok t := by
  cases octets with
  | nil => exact .inl ⟨rfl, (Except.ok.inj h).symm⟩
  | cons b octets =>
  right
  by_cases hone : b.toNat < 0x80
  · rw [decodeUtf8From_ascii hone] at h
    cases hrest : decodeUtf8From (start + 1) {} octets with
    | error e => exact nomatch hrest ▸ h
    | ok t =>
      rw [hrest] at h
      refine ⟨_, octets, _, t, ?_, (Except.ok.inj h).symm, hrest⟩
      rw [encodeChar_one hone]
      rfl
  · cases hlead : Utf8State.lead? b.toNat with
    | none =>
      rw [decodeUtf8From] at h
      simp only [if_neg hone, hlead] at h
      exact nomatch h
    | some state =>
      rw [decodeUtf8From_lead (by omega) hlead] at h
      -- the first octet says how many follow, and the machine has taken all of them
      rcases lead?_cases hlead with ⟨rfl, hlow, hhigh⟩ |
        ⟨low, high, rfl, hlow, hhigh, hl, hh, hfirst, hdense⟩ |
        ⟨low, high, rfl, hlow, hhigh, hl, hh, hfirst, hlast⟩
      · obtain ⟨b₁, rest, next, t, rfl, hlow₁, hhigh₁, rfl, hrest⟩ := exists_of_decodeUtf8From_last h
        refine ⟨_, rest, next, t, ?_, rfl, hrest⟩
        rw [encodeChar_two hlow hhigh hlow₁ hhigh₁]
        rfl
      · obtain ⟨b₁, _, rfl, hlow₁, hhigh₁, h⟩ := exists_of_decodeUtf8From_more h
        obtain ⟨b₂, rest, next, t, rfl, hlow₂, hhigh₂, rfl, hrest⟩ := exists_of_decodeUtf8From_last h
        refine ⟨_, rest, next, t, ?_, rfl, hrest⟩
        rw [encodeChar_three hlow hhigh (Nat.le_trans hl hlow₁) (Nat.le_trans hhigh₁ hh) hlow₂ hhigh₂
          (fun hb => Nat.le_trans (hfirst hb) hlow₁) (fun hb => Nat.le_trans hhigh₁ (hdense hb))]
        rfl
      · obtain ⟨b₁, _, rfl, hlow₁, hhigh₁, h⟩ := exists_of_decodeUtf8From_more h
        obtain ⟨b₂, _, rfl, hlow₂, hhigh₂, h⟩ := exists_of_decodeUtf8From_more h
        obtain ⟨b₃, rest, next, t, rfl, hlow₃, hhigh₃, rfl, hrest⟩ := exists_of_decodeUtf8From_last h
        refine ⟨_, rest, next, t, ?_, rfl, hrest⟩
        rw [encodeChar_four hlow hhigh (Nat.le_trans hl hlow₁) (Nat.le_trans hhigh₁ hh) hlow₂ hhigh₂
          hlow₃ hhigh₃ (fun hb => Nat.le_trans (hfirst hb) hlow₁)
          (fun hb => Nat.le_trans hhigh₁ (hlast hb))]
        rfl

/-! ## Texts -/

/-- **Only a line feed has the octet of the line feed.** -/
theorem mem_encodeUtf8_iff (s : List Char) : 10 ∈ encodeUtf8 s ↔ '\n' ∈ s := by
  rw [encodeUtf8, List.mem_flatMap]
  constructor
  · rintro ⟨c, hc, hoctet⟩
    have hfeed : (10 : UInt8).toNat = c.toNat := by
      refine (toNat_of_mem_encodeChar hoctet).resolve_right ?_
      decide
    have : c = '\n' := Char.toNat_inj.mp hfeed.symm
    exact this ▸ hc
  · intro h
    exact ⟨'\n', h, by decide⟩

/-- **A text comes back from its octets.** -/
theorem decodeUtf8_encodeUtf8 (s : List Char) : decodeUtf8 (encodeUtf8 s) = .ok s := by
  -- where a character starts matters for errors only, so it may be anywhere
  have hfrom : ∀ start, decodeUtf8From start {} (encodeUtf8 s) = .ok s := by
    induction s with
    | nil => exact fun _ => rfl
    | cons c s ih =>
      intro start
      obtain ⟨next, hnext⟩ := decodeUtf8From_encodeChar start c (encodeUtf8 s)
      rw [encodeUtf8_cons, hnext, ih next]
      rfl
  exact hfrom 0

/-- **What is read as a text are its octets**, and nothing else. -/
theorem decodeUtf8_eq_ok_iff {octets : List UInt8} {s : List Char} :
    decodeUtf8 octets = .ok s ↔ encodeUtf8 s = octets := by
  constructor
  · have hfrom : ∀ s start octets, decodeUtf8From start {} octets = .ok s →
        encodeUtf8 s = octets := by
      intro s
      induction s with
      | nil =>
        intro start octets h
        rcases exists_of_decodeUtf8From h with ⟨rfl, -⟩ | ⟨c, rest, next, t, -, ht, -⟩
        · rfl
        · exact nomatch ht
      | cons c s ih =>
        intro start octets h
        rcases exists_of_decodeUtf8From h with ⟨-, hs⟩ | ⟨d, rest, next, t, rfl, ht, hrest⟩
        · exact nomatch hs
        · obtain ⟨rfl, rfl⟩ := List.cons.inj ht
          rw [encodeUtf8_cons, ih next rest hrest]
    exact hfrom s 0 octets
  · rintro rfl
    exact decodeUtf8_encodeUtf8 s

theorem encodeUtf8_eq_nil_iff {s : List Char} : encodeUtf8 s = [] ↔ s = [] := by
  constructor
  · intro h
    have hdecode := decodeUtf8_encodeUtf8 s
    rw [h] at hdecode
    exact (Except.ok.inj hdecode).symm
  · rintro rfl
    rfl

end KeyPlan.Text
