import KeyPlan.Application
import Mathlib.Data.List.Find
import Mathlib.Data.List.Infix

/-!
# The application that a target means

A target with a bundle identifier means the first application that has exactly this identifier. A
name alone is looked for three times, and each time the first application wins. All of this is one
choice: an application has a rank or does not match at all, and of those that match, the one with the
best rank is taken, and of several with this rank the first one. So applications that do not match
have no say, nor have those behind the chosen one that are no better.

## Main definitions

* `Application.rank?`: how well an application matches a target, the lower the better
* `Application.matching`: the applications of a list that match at all
* `Application.BestAt`: the best match of a list and where it stands

## Main results

* `Application.resolve?_eq_findSome?`: the search is one search for each rank
* `Application.exists_bestAt`, `Application.BestAt.eq`: what is found is the best match, and there is
  no other one
* `Application.BestAt.append`, `Application.resolve?_matching`: what has no say in the choice
* `Application.resolve?_is_best`: the choice as a whole
-/

namespace KeyPlan.Application

/-- **How well an application matches a target**, the lower the better: its name is the target's, or
has it as a part, or its bundle identifier has it, all in lower case. A target with a bundle
identifier is matched by this identifier alone. -/
def rank? (target : Target) (a : Application) : Option Nat :=
  match target.bundleId with
  | some id => if a.bundleId = some id then some 0 else none
  | none =>
    let needle := Text.lower target.name.toList
    if a.lowerName = needle then some 0
    else if needle <:+: a.lowerName then some 1
    else if ∃ id ∈ a.bundleId, needle <:+: Text.lower id.toList then some 2
    else none

/-- The applications that match. -/
def matching (target : Target) (apps : List Application) : List Application :=
  apps.filter fun a => (rank? target a).isSome

/-- **The best match of a list**, at position `i` and with rank `r`: every other match has a worse
rank, or the same rank and a later position. -/
structure BestAt (target : Target) (apps : List Application) (i : Nat) (a : Application)
    (r : Nat) : Prop where
  here : apps[i]? = some a
  rank : rank? target a = some r
  minimal : ∀ j b s, apps[j]? = some b → rank? target b = some s → r < s ∨ r = s ∧ i ≤ j

variable {target : Target} {apps : List Application}

/-! ## Ranks -/

theorem rank?_of_bundleId {id : String} (h : target.bundleId = some id) (a : Application) :
    rank? target a = if a.bundleId = some id then some 0 else none := by
  simp only [rank?, h]

theorem rank?_of_name (h : target.bundleId = none) (a : Application) :
    rank? target a =
      if a.lowerName = Text.lower target.name.toList then some 0
      else if Text.lower target.name.toList <:+: a.lowerName then some 1
      else if ∃ id ∈ a.bundleId, Text.lower target.name.toList <:+: Text.lower id.toList then some 2
      else none := by
  simp only [rank?, h]

/-- There are three ranks. -/
theorem rank?_lt {a : Application} {r : Nat} (h : rank? target a = some r) : r < 3 := by
  cases hid : target.bundleId with
  | some id =>
    rw [rank?_of_bundleId hid] at h
    split_ifs at h
    · simp at h
      omega
  | none =>
    rw [rank?_of_name hid] at h
    split_ifs at h <;> obtain rfl := Option.some.inj h <;> decide

section Name

variable (h : target.bundleId = none) {a : Application}
include h

theorem rank?_eq_zero_iff :
    rank? target a = some 0 ↔ a.lowerName = Text.lower target.name.toList := by
  rw [rank?_of_name h]
  split_ifs <;> simp [*]

theorem rank?_eq_one_iff :
    rank? target a = some 1 ↔ a.lowerName ≠ Text.lower target.name.toList ∧
      Text.lower target.name.toList <:+: a.lowerName := by
  rw [rank?_of_name h]
  split_ifs <;> simp [*]

/-- A name that has no part has no whole either. -/
theorem rank?_eq_two_iff :
    rank? target a = some 2 ↔ ¬ Text.lower target.name.toList <:+: a.lowerName ∧
      ∃ id ∈ a.bundleId, Text.lower target.name.toList <:+: Text.lower id.toList := by
  rw [rank?_of_name h]
  split_ifs with hwhole hname hbundle
  · simp [hwhole]
  · simp [hname]
  · exact iff_of_true rfl ⟨hname, hbundle⟩
  · exact iff_of_false nofun fun hboth => hbundle hboth.2

/-- A name alone matches nothing where it is neither in the name nor in the bundle identifier. -/
theorem rank?_eq_none_iff :
    rank? target a = none ↔
      ¬ Text.lower target.name.toList <:+: a.lowerName ∧
        ¬ ∃ id ∈ a.bundleId, Text.lower target.name.toList <:+: Text.lower id.toList := by
  rw [rank?_of_name h]
  split_ifs with hwhole hname hbundle
  · simp [hwhole]
  · simp [hname]
  · exact iff_of_false nofun fun hneither => hneither.2 hbundle
  · exact iff_of_true rfl ⟨hname, hbundle⟩

end Name

theorem bundleHas_iff {needle : List Char} {a : Application} :
    a.bundleHas needle = true ↔ ∃ id ∈ a.bundleId, needle <:+: Text.lower id.toList := by
  simp [bundleHas, Option.any_eq_true, Text.occursIn_iff]

/-! ## One search for each rank -/

/-- The first application of a rank. -/
def firstOf (target : Target) (apps : List Application) (r : Nat) : Option Application :=
  apps.find? fun a => rank? target a = some r

theorem firstOf_eq_none_iff {r : Nat} :
    firstOf target apps r = none ↔ ∀ a ∈ apps, rank? target a ≠ some r := by
  simp [firstOf]

theorem find?_eq_firstOf {p : Application → Bool} {r : Nat}
    (h : ∀ a ∈ apps, p a = true ↔ rank? target a = some r) :
    apps.find? p = firstOf target apps r := by
  apply List.find?_congr
  intro a ha
  rw [Bool.eq_iff_iff, h a ha, decide_eq_true_iff]

/-- A further search matters only where the ones before it find nothing. -/
theorem or_find?_eq_firstOf {o : Option Application} {p : Application → Bool} {r : Nat}
    (h : o = none → ∀ a ∈ apps, p a = true ↔ rank? target a = some r) :
    o.or (apps.find? p) = o.or (firstOf target apps r) := by
  cases o with
  | some a => simp
  | none => rw [find?_eq_firstOf (h rfl)]

theorem resolve?_of_bundleId {id : String} (h : target.bundleId = some id)
    (apps : List Application) :
    resolve? apps target = firstOf target apps 0 := by
  simp only [resolve?, h]
  apply find?_eq_firstOf
  intro a _
  simp [rank?_of_bundleId h]

theorem resolve?_of_name (h : target.bundleId = none) (apps : List Application) :
    resolve? apps target =
      ((firstOf target apps 0).or (firstOf target apps 1)).or (firstOf target apps 2) := by
  simp only [resolve?, h]
  have hwhole : apps.find? (isNamed (Text.lower target.name.toList)) = firstOf target apps 0 := by
    apply find?_eq_firstOf
    intro a _
    rw [isNamed, beq_iff_eq, rank?_eq_zero_iff h]
  have hname : (firstOf target apps 0).or
      (apps.find? (nameHas (Text.lower target.name.toList))) =
        (firstOf target apps 0).or (firstOf target apps 1) := by
    apply or_find?_eq_firstOf
    intro hnone a ha
    -- no whole name is left among the names that have the part
    have hne := firstOf_eq_none_iff.mp hnone a ha
    rw [Ne, rank?_eq_zero_iff h] at hne
    rw [nameHas, Text.occursIn_iff, rank?_eq_one_iff h]
    exact (and_iff_right hne).symm
  rw [hwhole, hname]
  apply or_find?_eq_firstOf
  intro hnone a ha
  -- and no name that has the part is left for the bundle identifiers
  obtain ⟨h₀, h₁⟩ := Option.or_eq_none_iff.mp hnone
  have hne := firstOf_eq_none_iff.mp h₀ a ha
  have hout := firstOf_eq_none_iff.mp h₁ a ha
  rw [Ne, rank?_eq_zero_iff h] at hne
  rw [Ne, rank?_eq_one_iff h, and_iff_right hne] at hout
  rw [bundleHas_iff, rank?_eq_two_iff h]
  exact (and_iff_right hout).symm

/-- **The search is one search for each rank**, the best one first. -/
theorem resolve?_eq_findSome? (apps : List Application) (target : Target) :
    resolve? apps target = (List.range 3).findSome? (firstOf target apps) := by
  have hrange : (List.range 3).findSome? (firstOf target apps) =
      ((firstOf target apps 0).or (firstOf target apps 1)).or (firstOf target apps 2) := by
    simp only [List.range_succ, List.range_zero, List.nil_append, List.findSome?_append,
      List.findSome?_singleton]
  rw [hrange]
  cases h : target.bundleId with
  | none => exact resolve?_of_name h apps
  | some id =>
    -- no application has another rank than the best one
    have hnone (r : Nat) : firstOf target apps (r + 1) = none := by
      rw [firstOf_eq_none_iff]
      intro a _
      rw [rank?_of_bundleId h]
      split_ifs <;> simp
    rw [resolve?_of_bundleId h, hnone, hnone, Option.or_none, Option.or_none]

/-! ## The best match -/

/-- In a range, the first number with a result is found. -/
theorem exists_of_findSome?_range {α : Type*} {f : Nat → Option α} {n : Nat} {a : α}
    (h : (List.range n).findSome? f = some a) : ∃ r, f r = some a ∧ ∀ s < r, f s = none := by
  induction n with
  | zero => exact nomatch h
  | succ n ih =>
    rw [List.range_succ, List.findSome?_append, List.findSome?_singleton] at h
    cases hbefore : (List.range n).findSome? f with
    | some b =>
      rw [hbefore, Option.some_or] at h
      exact ih (hbefore.trans h)
    | none =>
      rw [hbefore, Option.none_or] at h
      refine ⟨n, h, fun s hs => ?_⟩
      exact List.findSome?_eq_none_iff.mp hbefore s (List.mem_range.mpr hs)

/-- Nothing is found where nothing matches. -/
theorem resolve?_eq_none_iff : resolve? apps target = none ↔ ∀ a ∈ apps, rank? target a = none := by
  rw [resolve?_eq_findSome?, List.findSome?_eq_none_iff]
  constructor
  · intro h a ha
    cases hrank : rank? target a with
    | none => rfl
    | some r =>
      have hnone := h r (List.mem_range.mpr (rank?_lt hrank))
      exact absurd hrank (firstOf_eq_none_iff.mp hnone a ha)
  · intro h r _
    rw [firstOf_eq_none_iff]
    intro a ha
    simp [h a ha]

/-- **What is found is the best match.** -/
theorem exists_bestAt {a : Application} (h : resolve? apps target = some a) :
    ∃ i r, BestAt target apps i a r := by
  rw [resolve?_eq_findSome?] at h
  obtain ⟨r, hr, hbetter⟩ := exists_of_findSome?_range h
  obtain ⟨hrank, i, hi, hhere, hbefore⟩ := List.find?_eq_some_iff_getElem.mp hr
  refine ⟨i, r, List.getElem?_eq_some_iff.mpr ⟨hi, hhere⟩, decide_eq_true_iff.mp hrank, ?_⟩
  intro j b s hj hs
  have hmem : b ∈ apps := List.mem_of_getElem? hj
  rcases Nat.lt_trichotomy s r with hlt | rfl | hgt
  · -- a better rank would have been found before
    exact absurd hs (firstOf_eq_none_iff.mp (hbetter s hlt) b hmem)
  · refine .inr ⟨rfl, Nat.le_of_not_lt fun hlt => ?_⟩
    -- so would an earlier application of the same rank
    have hne := hbefore j hlt
    rw [(List.getElem?_eq_some_iff.mp hj).2, hs] at hne
    simp at hne
  · exact .inl hgt

namespace BestAt

/-- **There is only one best match.** -/
theorem eq {a b : Application} {i j r s : Nat} (ha : BestAt target apps i a r)
    (hb : BestAt target apps j b s) : a = b := by
  have hab := ha.minimal j b s hb.here hb.rank
  have hba := hb.minimal i a r ha.here ha.rank
  obtain rfl : i = j := by omega
  exact Option.some.inj (ha.here.symm.trans hb.here)

theorem resolve?_eq {a : Application} {i r : Nat} (h : BestAt target apps i a r) :
    resolve? apps target = some a := by
  cases hfound : resolve? apps target with
  | none =>
    -- the best match is a match
    have hnone := resolve?_eq_none_iff.mp hfound a (List.mem_of_getElem? h.here)
    rw [h.rank] at hnone
    exact nomatch hnone
  | some b =>
    obtain ⟨j, s, hb⟩ := exists_bestAt hfound
    rw [hb.eq h]

/-- **What is no better does not matter behind the best match.** -/
theorem append {a : Application} {i r : Nat} (h : BestAt target apps i a r)
    {behind : List Application} (hbehind : ∀ b ∈ behind, ∀ s, rank? target b = some s → r ≤ s) :
    BestAt target (apps ++ behind) i a r where
  here := by
    rw [List.getElem?_append_left (List.getElem?_eq_some_iff.mp h.here).1]
    exact h.here
  rank := h.rank
  minimal j b s hj hs := by
    have hi := (List.getElem?_eq_some_iff.mp h.here).1
    by_cases hlt : j < apps.length
    · rw [List.getElem?_append_left hlt] at hj
      exact h.minimal j b s hj hs
    · rw [List.getElem?_append_right (Nat.le_of_not_lt hlt)] at hj
      have hle := hbehind b (List.mem_of_getElem? hj) s hs
      omega

end BestAt

/-- **What does not match does not matter** anywhere. -/
theorem resolve?_matching (apps : List Application) (target : Target) :
    resolve? (matching target apps) target = resolve? apps target := by
  rw [resolve?_eq_findSome?, resolve?_eq_findSome?]
  congr 1
  funext r
  rw [firstOf, matching, List.find?_filter, firstOf]
  congr 1
  funext a
  -- an application of some rank matches
  cases rank? target a <;> simp

/-- **The choice of an application.** It is the first one with the bundle identifier, if the target
has one; in any case it is the one with the best rank that comes first, and there is none exactly
where nothing matches. Two lists with the same matching applications have the same choice, and it
stays the same where applications that are no better are put behind. -/
theorem resolve?_is_best (apps : List Application) (target : Target) :
    (∀ id, target.bundleId = some id →
      (∀ a, resolve? apps target = some a ↔ ∃ before after, apps = before ++ a :: after ∧
        a.bundleId = some id ∧ ∀ b ∈ before, b.bundleId ≠ some id) ∧
      (resolve? apps target = none ↔ ∀ b ∈ apps, b.bundleId ≠ some id)) ∧
    (∀ a, resolve? apps target = some a ↔ ∃ i r, BestAt target apps i a r) ∧
    (resolve? apps target = none ↔ ∀ a ∈ apps, rank? target a = none) ∧
    (∀ others, matching target others = matching target apps →
      resolve? others target = resolve? apps target) ∧
    ∀ i a r behind, BestAt target apps i a r →
      (∀ b ∈ behind, ∀ s, rank? target b = some s → r ≤ s) →
      resolve? (apps ++ behind) target = some a := by
  refine ⟨?_, ?_, resolve?_eq_none_iff, ?_, ?_⟩
  · intro id hid
    have hfind : resolve? apps target = apps.find? fun a => a.bundleId == some id := by
      simp only [resolve?, hid]
    constructor
    · intro a
      rw [hfind, List.find?_eq_some_iff_append]
      simp [and_left_comm]
    · rw [hfind]
      simp
  · exact fun a => ⟨exists_bestAt, fun ⟨i, r, h⟩ => h.resolve?_eq⟩
  · intro others h
    rw [← resolve?_matching others, h, resolve?_matching]
  · intro i a r behind h hbehind
    exact (h.append hbehind).resolve?_eq

/-- A part of a name is chosen over a part of a bundle identifier in front of it, and over a part of
a name behind it. -/
theorem resolve?_is_best_notes :
    resolve? ([⟨1, "Editor", some "org.notes.editor", false⟩, ⟨2, "Notes Plus", none, true⟩] ++
        [⟨3, "My Notes", none, false⟩]) { name := "notes" } =
      some ⟨2, "Notes Plus", none, true⟩ := by
  obtain ⟨-, hbest, -, -, happend⟩ := resolve?_is_best
    [⟨1, "Editor", some "org.notes.editor", false⟩, ⟨2, "Notes Plus", none, true⟩] { name := "notes" }
  obtain ⟨i, r, h⟩ := (hbest ⟨2, "Notes Plus", none, true⟩).mp (by decide +kernel)
  apply happend i _ r _ h
  intro b hb s hs
  obtain rfl := List.mem_singleton.mp hb
  -- both have the name as a part
  have hchosen : some r = some 1 := h.rank.symm.trans (by decide +kernel)
  have hbehind : some s = some 1 := hs.symm.trans (by decide +kernel)
  obtain rfl := Option.some.inj hchosen
  obtain rfl := Option.some.inj hbehind
  exact le_rfl

end KeyPlan.Application
