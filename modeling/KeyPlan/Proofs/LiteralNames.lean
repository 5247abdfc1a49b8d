import KeyPlan.Proofs.Resolution

/-!
# Names that are parts of other names

A target without a bundle identifier is looked for in lower case, and the lower case of a capital
sigma depends on its neighbours: it has its final form at the end of a word. So a name that stands as
it is written in the name of an application need not stand there in lower case, where a sigma that
ends the part does not end the word around it. This is the only way to miss it: every other character
has the same lower case wherever it stands.

## Main definitions

* `Text.endsWord`: a capital sigma ends its word, as far as its neighbours tell
* `Text.lowerBetween`: the lower case of a text that stands between two others
* `Text.KeepsSigmas`: each capital sigma of a part has the form that it has in the part alone
* `Application.texts`: where a name is looked for

## Main results

* `Text.lowerBetween_eq_iff`: a part has the same lower case in two places exactly if its sigmas do
* `Text.KeepsSigmas.of_not_mem`, `Text.KeepsSigmas.of_apart`: parts without a capital sigma, and parts
  that no letter stands next to
* `Application.exists_resolve?_of_literal`: a literal part is found where its sigmas keep their form
* `Application.literal_part_missed`: it may be missed where they do not
-/

namespace KeyPlan

namespace Text

/-- **A capital sigma ends its word**: a letter stands before it, where the text is given backwards,
and none behind it. -/
def endsWord (before after : List Char) : Bool :=
  meetsCased before && !meetsCased after

/-- **The lower case of a text between two others**, of which the one before it is given backwards. -/
def lowerBetween (before : List Char) : List Char → List Char → List Char
  | [], _ => []
  | c :: s, after =>
    (if c = 'Σ' then [if endsWord before (s ++ after) then 'ς' else 'σ'] else lowerChar c) ++
      lowerBetween (c :: before) s after

/-- **The capital sigmas of a part keep their form**: each of them ends its word in the text around
the part exactly if it does so in the part alone. -/
def KeepsSigmas (before part after : List Char) : Prop :=
  ∀ u v, part = u ++ 'Σ' :: v →
    endsWord (u.reverse ++ before.reverse) (v ++ after) = endsWord u.reverse v

/-! ## The lower case of a part -/

theorem lowerAfter_append (before s t : List Char) :
    lowerAfter before (s ++ t) = lowerBetween before s t ++ lowerAfter (s.reverse ++ before) t := by
  induction s generalizing before with
  | nil => rfl
  | cons c s ih => simp [lowerAfter, lowerBetween, endsWord, ih]

theorem lower_eq_lowerBetween (s : List Char) : lower s = lowerBetween [] s [] := by
  have happend := lowerAfter_append [] s []
  simpa [lower, lowerAfter] using happend

/-- The lower case of a part stands where the part does. -/
theorem lowerBetween_infix_lower (before part after : List Char) :
    lowerBetween before.reverse part after <:+: lower (before ++ part ++ after) := by
  rw [lower, List.append_assoc, lowerAfter_append, lowerAfter_append, List.append_nil,
    ← List.append_assoc]
  exact List.infix_append _ _ _

/-- What holds where a character stands in a text holds for its head and in its tail. -/
theorem forall_split_cons {c d : Char} {s : List Char} {P : List Char → List Char → Prop} :
    (∀ u v, c :: s = u ++ d :: v → P u v) ↔
      (c = d → P [] s) ∧ ∀ u v, s = u ++ d :: v → P (c :: u) v := by
  constructor
  · intro h
    constructor
    · rintro rfl
      exact h [] s rfl
    · rintro u v rfl
      exact h (c :: u) v rfl
  · rintro ⟨hhead, htail⟩ u v heq
    cases u with
    | nil =>
      obtain ⟨rfl, rfl⟩ := List.cons.inj heq
      exact hhead rfl
    | cons e u =>
      obtain ⟨rfl, rfl⟩ := List.cons.inj heq
      exact htail u v rfl

/-- **A part has the same lower case in two places** exactly if each of its capital sigmas ends its
word in both of them or in neither. -/
theorem lowerBetween_eq_iff {before before' s after after' : List Char} :
    lowerBetween before s after = lowerBetween before' s after' ↔
      ∀ u v, s = u ++ 'Σ' :: v →
        endsWord (u.reverse ++ before) (v ++ after) =
          endsWord (u.reverse ++ before') (v ++ after') := by
  induction s generalizing before before' with
  | nil => simp [lowerBetween]
  | cons c s ih =>
    rw [forall_split_cons]
    simp only [List.reverse_cons, List.append_assoc, List.singleton_append, ← ih, lowerBetween,
      List.reverse_nil, List.nil_append]
    by_cases hc : c = 'Σ'
    · -- one sigma stands in front on both sides
      cases endsWord before (s ++ after) <;> cases endsWord before' (s ++ after') <;> simp [hc]
    · simp [hc]

theorem keepsSigmas_iff {before part after : List Char} :
    KeepsSigmas before part after ↔ lowerBetween before.reverse part after = lower part := by
  rw [lower_eq_lowerBetween, lowerBetween_eq_iff]
  simp [KeepsSigmas]

/-- Behind a text that no letter follows, the same letter is met as in the text alone. -/
theorem meetsCased_append {s t : List Char} (h : meetsCased t = false) :
    meetsCased (s ++ t) = meetsCased s := by
  unfold meetsCased
  rw [List.dropWhile_append]
  cases hs : s.dropWhile isCaseIgnorable with
  | nil => simpa [meetsCased] using h
  | cons c r => simp

namespace KeepsSigmas

variable {before part after : List Char}

/-- **A part stands in lower case** where it stands, if its sigmas keep their form. -/
theorem lower_infix (h : KeepsSigmas before part after) :
    lower part <:+: lower (before ++ part ++ after) := by
  rw [← keepsSigmas_iff.mp h]
  exact lowerBetween_infix_lower before part after

/-- A part without a capital sigma has nothing to keep. -/
theorem of_not_mem (h : 'Σ' ∉ part) : KeepsSigmas before part after := by
  rintro u v rfl
  simp at h

/-- **A part that no letter stands next to** keeps its sigmas, where characters that case ignores are
passed over. -/
theorem of_apart (hbefore : meetsCased before.reverse = false)
    (hafter : meetsCased after = false) : KeepsSigmas before part after := by
  intro u v _
  rw [endsWord, endsWord, meetsCased_append hbefore, meetsCased_append hafter]

end KeepsSigmas

end Text

namespace Application

open Text (KeepsSigmas)

/-- The texts in which a name is looked for: the name of the application, and its bundle identifier
if there is one. -/
def texts (a : Application) : List String :=
  a.name :: a.bundleId.toList

/-- An application matches a name that its texts have in lower case. -/
theorem rank?_ne_none {target : Target} (h : target.bundleId = none) {a : Application}
    {text : String} (ht : text ∈ a.texts)
    (hpart : Text.lower target.name.toList <:+: Text.lower text.toList) :
    rank? target a ≠ none := by
  intro hnone
  obtain ⟨hname, hbundle⟩ := (rank?_eq_none_iff h).mp hnone
  rcases List.mem_cons.mp ht with rfl | ht
  · exact hname hpart
  · exact hbundle ⟨text, Option.mem_toList.mp ht, hpart⟩

/-- **A literal part of a text is found** where its capital sigmas keep their form: some application
is then meant. -/
theorem exists_resolve?_of_literal {apps : List Application} {target : Target}
    (hname : target.bundleId = none)
    (h : ∃ a ∈ apps, ∃ text ∈ a.texts, ∃ before after,
      text.toList = before ++ target.name.toList ++ after ∧
        KeepsSigmas before target.name.toList after) :
    ∃ a, resolve? apps target = some a := by
  obtain ⟨a, ha, text, htext, before, after, heq, hkeeps⟩ := h
  have hpart : Text.lower target.name.toList <:+: Text.lower text.toList := by
    rw [heq]
    exact hkeeps.lower_infix
  rw [← Option.isSome_iff_exists, Option.isSome_iff_ne_none]
  intro hnone
  exact rank?_ne_none hname htext hpart (resolve?_eq_none_iff.mp hnone a ha)

/-- A word with a final sigma is found as a word of a longer name. -/
theorem exists_resolve?_of_literal_word :
    ∃ a, resolve? [⟨7, "Ο ΚΟΣΜΟΣ ΤΩΡΑ", none, false⟩] { name := "ΚΟΣΜΟΣ" } = some a := by
  apply exists_resolve?_of_literal rfl
  refine ⟨_, List.mem_singleton_self _, "Ο ΚΟΣΜΟΣ ΤΩΡΑ", List.mem_cons_self, "Ο ".toList,
    " ΤΩΡΑ".toList, by decide, ?_⟩
  exact KeepsSigmas.of_apart (by decide +kernel) (by decide +kernel)

/-- The start of a word is missed where its sigma would be a final one. -/
theorem literal_part_missed :
    "ΚΟΣ".toList <:+: "ΚΟΣΜΟΣ".toList ∧
      resolve? [⟨7, "ΚΟΣΜΟΣ", none, false⟩] { name := "ΚΟΣ" } = none := by
  decide +kernel

end Application

end KeyPlan
