import KeyPlan.Modifier

/-!
# Modifier sets

The modifiers that are held together, packed into one word: each modifier has its bit, and no other
bit is set. So neither the order nor the number of insertions shows, and sets with the same members
are the same word.

## Main definitions

* `ModifierSet`: a set of modifiers
* `ModifierSet.contains`, `ModifierSet.insert`, `ModifierSet.ofList`, `ModifierSet.toList`
* `ModifierSet.size`: the number of bits that are set

## Main results

* `ModifierSet.foldl_bit_toList`: the word is made of the bits of the members
* `ModifierSet.ext_contains`: sets with the same members are equal
* `ModifierSet.contains_insert`, `ModifierSet.contains_ofList`: the members after each operation
-/

namespace KeyPlan

/-- **A set of modifiers**: a word that has no other bits than theirs. -/
structure ModifierSet where
  mask : UInt8
  mask_lt : mask < 16
  deriving DecidableEq, Repr

namespace ModifierSet

/-- The set without members. -/
def empty : ModifierSet := ⟨0, by decide⟩

/-- The modifier is a member: its bit is set. -/
def contains (s : ModifierSet) (m : Modifier) : Bool :=
  s.mask &&& m.bit != 0

theorem or_bit_lt {mask : UInt8} (h : mask < 16) (m : Modifier) : mask ||| m.bit < 16 := by
  rw [UInt8.lt_iff_toNat_lt] at h ⊢
  rw [UInt8.toNat_or]
  exact Nat.or_lt_two_pow (n := 4) h (UInt8.lt_iff_toNat_lt.mp m.bit_lt)

/-- The set with one more member. -/
def insert (s : ModifierSet) (m : Modifier) : ModifierSet :=
  ⟨s.mask ||| m.bit, or_bit_lt s.mask_lt m⟩

/-- The set of the listed modifiers. -/
def ofList (ms : List Modifier) : ModifierSet :=
  ms.foldl insert empty

/-- **The members**, in the order in which modifiers are shown. -/
def toList (s : ModifierSet) : List Modifier :=
  Modifier.all.filter s.contains

/-- The members in the order of their ranks. -/
def ranked (s : ModifierSet) : List Modifier :=
  Modifier.ranked.filter s.contains

/-- The number of bits that are set. -/
def size (s : ModifierSet) : Nat := s.mask.toBitVec.cpop.toNat

/-- There are no members: no bit is set. -/
def isEmpty (s : ModifierSet) : Bool := s.mask == 0

/-- The glyphs of the members. -/
def glyphs (s : ModifierSet) : List Char := s.toList.map Modifier.glyph

/-- A property of all words without other bits than those of modifiers is one of all sets. -/
theorem mask_induction {motive : UInt8 → Prop} (h : ∀ n < 16, motive (UInt8.ofNat n))
    (s : ModifierSet) : motive s.mask := by
  have hmask := h s.mask.toNat (UInt8.lt_iff_toNat_lt.mp s.mask_lt)
  rwa [UInt8.ofNat_toNat] at hmask

/-- **The word is made of the bits of the members.** -/
theorem foldl_bit_toList (s : ModifierSet) :
    s.toList.foldl (fun mask m => mask ||| m.bit) 0 = s.mask :=
  mask_induction
    (motive := fun mask => (Modifier.all.filter fun m => mask &&& m.bit != 0).foldl
      (fun word m => word ||| m.bit) 0 = mask) (by decide) s

/-- **Sets with the same members are equal.** -/
@[ext] theorem ext_contains {s t : ModifierSet} (h : ∀ m, s.contains m = t.contains m) : s = t := by
  have hmembers : s.toList = t.toList := List.filter_congr fun m _ => h m
  have hmask : s.mask = t.mask := by
    rw [← foldl_bit_toList s, hmembers, foldl_bit_toList]
  cases s
  cases t
  cases hmask
  rfl

@[simp] theorem contains_empty (m : Modifier) : empty.contains m = false := by
  cases m <;> rfl

@[simp] theorem contains_insert (s : ModifierSet) (m n : Modifier) :
    (s.insert n).contains m = (m == n || s.contains m) := by
  have hmask : (s.mask ||| n.bit) &&& m.bit = s.mask &&& m.bit ||| n.bit &&& m.bit :=
    UInt8.eq_of_toBitVec_eq BitVec.and_or_distrib_right
  have hbit : (n.bit &&& m.bit ≠ 0) ↔ m = n := by
    rw [Modifier.bit_and_bit]
    split
    · next h => exact ⟨fun _ => h.symm, fun _ => n.bit_ne_zero⟩
    · next h => exact ⟨fun h0 => absurd rfl h0, fun hm => absurd hm.symm h⟩
  rw [Bool.eq_iff_iff, Bool.or_eq_true, beq_iff_eq, ← hbit]
  simp only [contains, insert, hmask, bne_iff_ne, ne_eq, UInt8.or_eq_zero_iff]
  exact Decidable.not_and_iff_or_not.trans or_comm

theorem contains_foldl_insert (ms : List Modifier) (s : ModifierSet) (m : Modifier) :
    (ms.foldl insert s).contains m = (ms.contains m || s.contains m) := by
  induction ms generalizing s with
  | nil => simp
  | cons n ms ih =>
    rw [List.foldl_cons, ih, contains_insert, List.contains_cons, ← Bool.or_assoc,
      Bool.or_comm (ms.contains m)]

/-- The members of a set made from a list are those of the list. -/
@[simp] theorem contains_ofList (ms : List Modifier) (m : Modifier) :
    (ofList ms).contains m = ms.contains m := by
  simp [ofList, contains_foldl_insert]

@[simp] theorem mem_toList {s : ModifierSet} {m : Modifier} :
    m ∈ s.toList ↔ s.contains m = true := by
  simp [toList, Modifier.mem_all]

/-- The members make up the set. -/
theorem ofList_toList (s : ModifierSet) : ofList s.toList = s := by
  ext m
  simp

end ModifierSet

end KeyPlan
