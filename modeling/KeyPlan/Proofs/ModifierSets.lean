import Mathlib.Data.List.Basic
import Mathlib.Data.List.Induction
import KeyPlan.Modifier.Set

/-!
# Modifier sets as sets

A set of modifiers is a word of bits, made by any number of edits. What counts is which modifiers
the edits mention since the set was last replaced: neither their order nor their number shows in the
word, and the bits that are set are as many as the members.

## Main definitions

* `ModifierSet.Edit`, `ModifierSet.edited`: edits, and the set that they lead to
* `ModifierSet.Mentioned`: the modifiers that edits mention since the last replacement

## Main results

* `ModifierSet.contains_edited`: the members after edits
* `ModifierSet.size_eq_length_toList`: the bits that are set are the members
* `ModifierSet.edited_is_set`: edits make a set
-/

namespace KeyPlan.ModifierSet

/-! ## Edits -/

/-- **An edit of a set.** A modifier comes in, to the set itself or to a copy that is used from then
on, or a list of modifiers takes the place of the set. -/
inductive Edit where
  | insert (m : Modifier)
  | replace (ms : List Modifier)
  deriving DecidableEq, Repr

/-- The set after an edit. -/
def edit (s : ModifierSet) : Edit → ModifierSet
  | .insert m => s.insert m
  | .replace ms => ofList ms

/-- **The set after edits** of the set without members. -/
def edited (es : List Edit) : ModifierSet := es.foldl edit empty

/-- The modifiers that an edit mentions. -/
def Edit.mentions : Edit → List Modifier
  | insert m => [m]
  | replace ms => ms

/-- The edit keeps the members that are there. -/
def Edit.Keeps : Edit → Prop
  | insert _ => True
  | replace _ => False

/-- **The modifier is mentioned since the last replacement**: by an edit behind which there is no
replacement. -/
def Mentioned (es : List Edit) (m : Modifier) : Prop :=
  ∃ past e rest, es = past ++ e :: rest ∧ m ∈ e.mentions ∧ ∀ later ∈ rest, later.Keeps

theorem edited_concat (es : List Edit) (e : Edit) : edited (es ++ [e]) = (edited es).edit e := by
  simp [edited]

theorem not_mentioned_nil (m : Modifier) : ¬ Mentioned [] m := by
  rintro ⟨past, e, rest, h, -⟩
  exact absurd h.symm (List.append_ne_nil_of_right_ne_nil past (List.cons_ne_nil e rest))

/-- The last edit mentions the modifier, or an earlier one does and the last one keeps it. -/
theorem mentioned_concat {es : List Edit} {e : Edit} {m : Modifier} :
    Mentioned (es ++ [e]) m ↔ m ∈ e.mentions ∨ e.Keeps ∧ Mentioned es m := by
  constructor
  · rintro ⟨past, d, rest, h, hm, hrest⟩
    rcases List.eq_nil_or_concat' rest with rfl | ⟨rest, last, rfl⟩
    · obtain ⟨-, rfl⟩ := List.append_singleton_inj.mp h
      exact .inl hm
    · rw [← List.cons_append, ← List.append_assoc] at h
      obtain ⟨rfl, rfl⟩ := List.append_singleton_inj.mp h
      obtain ⟨hrest, hlast⟩ := List.forall_mem_append.mp hrest
      exact .inr ⟨hlast e (List.mem_singleton_self e), past, d, rest, rfl, hm, hrest⟩
  · rintro (hm | ⟨hkeeps, past, d, rest, rfl, hm, hrest⟩)
    · exact ⟨es, e, [], rfl, hm, List.forall_mem_nil _⟩
    · refine ⟨past, d, rest ++ [e], by simp, hm, List.forall_mem_append.mpr ⟨hrest, ?_⟩⟩
      exact List.forall_mem_singleton.mpr hkeeps

/-! ## Members -/

/-- The members after one edit. -/
theorem contains_edit (s : ModifierSet) (e : Edit) (m : Modifier) :
    (s.edit e).contains m = true ↔ m ∈ e.mentions ∨ e.Keeps ∧ s.contains m = true := by
  cases e with
  | insert n => simp [edit, Edit.mentions, Edit.Keeps]
  | replace ms => simp [edit, Edit.mentions, Edit.Keeps]

/-- **The members after edits** are the modifiers that are mentioned since the last replacement, by
induction on the edits. -/
theorem contains_edited (es : List Edit) (m : Modifier) :
    (edited es).contains m = true ↔ Mentioned es m := by
  induction es using List.reverseRecOn with
  | nil => simpa [edited] using not_mentioned_nil m
  | append_singleton es e ih => rw [edited_concat, contains_edit, mentioned_concat, ih]

/-- The order in which members are listed is fixed. -/
theorem toList_sublist (s : ModifierSet) :
    s.toList.Sublist [.control, .option, .shift, .command] :=
  List.filter_sublist

theorem nodup_toList (s : ModifierSet) : s.toList.Nodup :=
  s.toList_sublist.nodup (by decide)

/-- **The bits that are set are the members**: no other bit can be. -/
theorem size_eq_length_toList (s : ModifierSet) : s.size = s.toList.length :=
  mask_induction
    (motive := fun mask => mask.toBitVec.cpop.toNat =
      (Modifier.all.filter fun m => mask &&& m.bit != 0).length) (by decide) s

/-- **Edits make a set.** Its members are the modifiers that are mentioned since the last
replacement, and it is the same set whatever else is different about the edits. The members are
listed once each in a fixed order, the size is their number, and they make up the set again. Its word
has their bits and no others. -/
theorem edited_is_set :
    (∀ es m, (edited es).contains m = true ↔ Mentioned es m) ∧
      (∀ es es', edited es = edited es' ↔ ∀ m, Mentioned es m ↔ Mentioned es' m) ∧
      ∀ es, (edited es).toList.Sublist [.control, .option, .shift, .command] ∧
        (edited es).toList.Nodup ∧ (∀ m, m ∈ (edited es).toList ↔ Mentioned es m) ∧
        (edited es).size = (edited es).toList.length ∧ ofList (edited es).toList = edited es ∧
        (edited es).mask = (edited es).toList.foldl (fun mask m => mask ||| m.bit) 0 := by
  refine ⟨contains_edited, fun es es' => ⟨?_, ?_⟩, fun es => ⟨?_, ?_, fun m => ?_, ?_, ?_, ?_⟩⟩
  · intro h m
    rw [← contains_edited, h, contains_edited]
  · intro h
    ext m
    rw [Bool.eq_iff_iff, contains_edited, contains_edited]
    exact h m
  · exact toList_sublist _
  · exact nodup_toList _
  · exact mem_toList.trans (contains_edited es m)
  · exact size_eq_length_toList _
  · exact ofList_toList _
  · exact (foldl_bit_toList _).symm

end KeyPlan.ModifierSet
