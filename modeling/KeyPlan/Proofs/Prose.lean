import KeyPlan.Proofs.PlanText

/-!
# Plans with prose around them

What stands in front of a plan and behind it may hold fences, and removing some of them can bring
other accents together. Neither brackets nor what lies between them is touched by that, since a
match never reaches across a bracket. So the first opening bracket that is left is the one that the
plan begins with, the last closing one is the one that it ends with, and the plan is read as if it
stood alone.

## Main definitions

* `Step.Enclosed`: a text in brackets without a fence in it

## Main results

* `Step.removeAll_around`: fences are removed from what stands around the brackets
* `Step.decode_in_prose`: a plan is read as if nothing stood around it
-/

namespace KeyPlan.Step

open Text (removeAll removeAll_append_cons removeAll_eq_self_iff removeAll_sublist)

/-- **A text in brackets without a fence in it**: nothing else is said about what stands between
the brackets, so it need not be a plan. -/
structure Enclosed (text : List Char) : Prop where
  opens : text.head? = some '['
  closes : text.getLast? = some ']'
  plain : ¬ fence <:+: text

/-- The brackets are different characters, so there are two of them. -/
theorem Enclosed.exists_eq {text : List Char} (h : Enclosed text) :
    ∃ body, text = '[' :: (body ++ [']']) := by
  obtain ⟨front, rfl⟩ := List.getLast?_eq_some_iff.mp h.closes
  have hopens := h.opens
  cases front with
  | nil => exact absurd hopens (by decide)
  | cons c body =>
    rw [List.cons_append, List.head?_cons, Option.some_inj] at hopens
    exact ⟨body, by rw [hopens, List.cons_append]⟩

/-! ## What is removed -/

/-- A part without brackets that does not occur between two brackets is removed from what stands
around them. -/
theorem removeAll_around {part body : List Char} (hpart : part ≠ []) (hopen : '[' ∉ part)
    (hclose : ']' ∉ part) (hbody : ¬ part <:+: body) (before after : List Char) :
    removeAll part (before ++ '[' :: (body ++ ']' :: after)) =
      removeAll part before ++ '[' :: (body ++ ']' :: removeAll part after) := by
  rw [removeAll_append_cons hpart hopen, removeAll_append_cons hpart hclose,
    (removeAll_eq_self_iff hpart).mpr hbody]

/-- **A plan is read as if nothing stood around it**, and refused for the same cause, whatever prose
and fences stand in front of its opening bracket and behind its closing one. -/
theorem decode_in_prose {before text after : String} (hbefore : '[' ∉ before.toList)
    (htext : Enclosed text.toList) (hafter : ']' ∉ after.toList) :
    decode (before ++ text ++ after) =
      Json.readWholeText (Json.readList reader) text.toList := by
  obtain ⟨body, hbody⟩ := htext.exists_eq
  have hfence : ¬ fence <:+: body := by
    intro hpart
    refine htext.plain (List.IsInfix.trans hpart ?_)
    rw [hbody]
    exact ⟨['['], [']'], rfl⟩
  -- what is left of the prose still has no bracket that could be taken for one of the plan
  have hbefore' : '[' ∉ removeAll fence (removeAll jsonFence before.toList) := fun hmem =>
    hbefore ((removeAll_sublist isMark_jsonFence.ne_nil _).subset
      ((removeAll_sublist isMark_fence.ne_nil _).subset hmem))
  have hafter' : ']' ∉ removeAll fence (removeAll jsonFence after.toList) := fun hmem =>
    hafter ((removeAll_sublist isMark_jsonFence.ne_nil _).subset
      ((removeAll_sublist isMark_fence.ne_nil _).subset hmem))
  have hraw : (before ++ text ++ after).toList =
      before.toList ++ '[' :: (body ++ ']' :: after.toList) := by
    simp [hbody]
  rw [decode, hraw,
    removeAll_around isMark_jsonFence.ne_nil (by decide) (by decide)
      (jsonFence_not_part hfence),
    removeAll_around isMark_fence.ne_nil (by decide) (by decide) hfence,
    cutList_append hbefore' hafter', trim_brackets, hbody]

/-- Accents that come together when a fence between them is removed, and the other bracket on either
side. -/
theorem decode_in_prose_accents :
    let before := "Steps 1] to 2]: \x60\x60\x60\x60\x60json\x60 \x60\x60\x60json\n"
    let text := "[\x7b\"name\":\"\",\"instruction\":\"⌘ n\",\"description\":\"\"\x7d]"
    let after := "\x60\x60\x60\x60\x60\x60json\x60 [as asked"
    ('[' ∉ before.toList ∧ Enclosed text.toList ∧ ']' ∉ after.toList) ∧
      decode (before ++ text ++ after) = .ok [⟨"", "⌘ n", ""⟩] := by
  intro before text after
  have hbefore : '[' ∉ before.toList := by decide
  have hplain : ¬ fence <:+: text.toList := mt Text.occursIn_iff.mpr (by decide)
  have htext : Enclosed text.toList := ⟨by decide, by decide, hplain⟩
  have hafter : ']' ∉ after.toList := by decide
  have hwritten : text.toList = writeAll [⟨"", "⌘ n", ""⟩] := by decide +kernel
  refine ⟨⟨hbefore, htext, hafter⟩, ?_⟩
  rw [decode_in_prose hbefore htext hafter, hwritten]
  exact (reads_writeAll _).wholeText

end KeyPlan.Step
