import KeyPlan.Action
import Mathlib.Data.Option.Basic

/-!
# Targets that mean the same

Two targets that both have a bundle identifier mean the same application if the identifiers agree;
otherwise their names decide. Every target means the same as itself, and the order of two targets
does not matter. Of three targets, where the first one means the same as the second one and this the
same as the third one, the first and the last need not agree: a name in the middle hides that two
identifiers differ, and an identifier in the middle hides that two names do. In all other cases they
agree. Kinds of actions, and actions, are compared through their targets, so the same holds for them.

## Main definitions

* `EquivalenceUnless`: a comparison that is an equivalence but for gaps
* `Target.Gap`, `ActionKind.Gap`: three targets, or kinds, of which the one in the middle hides a
  difference

## Main results

* `EquivalenceUnless.and_eq`: a comparison with one more field that has to be equal
* `Target.equivalenceUnless`, `ActionKind.equivalenceUnless`: targets, and kinds of actions
* `Action.sameAs_equivalence_unless`: targets, kinds and actions
* `Target.sameAs_not_transitive`: there are gaps
-/

namespace KeyPlan

/-- **A comparison that is an equivalence but for gaps**: where the first of three is like the second
one and this is like the last one, the first is like the last one exactly if there is no gap. -/
structure EquivalenceUnless {α : Type*} (same : α → α → Bool) (gap : α → α → α → Prop) : Prop where
  refl : ∀ a, same a a = true
  symm : ∀ a b, same a b = true → same b a = true
  trans_iff : ∀ a b c, same a b = true → same b c = true → (same a c = true ↔ ¬ gap a b c)

/-- **One more field that has to be equal** makes no further gaps. -/
theorem EquivalenceUnless.and_eq {α β γ : Type*} [BEq γ] [LawfulBEq γ] {same : α → α → Bool}
    {gap : α → α → α → Prop} (h : EquivalenceUnless same gap) (f : β → α) (g : β → γ) :
    EquivalenceUnless (fun a b => same (f a) (f b) && g a == g b)
      (fun a b c => gap (f a) (f b) (f c)) where
  refl a := by simp [h.refl]
  symm a b hab := by
    rw [Bool.and_eq_true, beq_iff_eq] at hab ⊢
    exact ⟨h.symm _ _ hab.1, hab.2.symm⟩
  trans_iff a b c hab hbc := by
    rw [Bool.and_eq_true, beq_iff_eq] at hab hbc ⊢
    rw [h.trans_iff _ _ _ hab.1 hbc.1]
    exact and_iff_left (hab.2.trans hbc.2)

namespace Target

/-- **The target in the middle hides a difference**: by its name, of two identifiers; or by its
identifier, of its name and that of one of the others, where the third one has a name only. -/
def Gap (a b c : Target) : Prop :=
  match a.bundleId, b.bundleId, c.bundleId with
  | some i, none, some k => i ≠ k
  | some _, some _, none => a.name ≠ b.name
  | none, some _, some _ => b.name ≠ c.name
  | _, _, _ => False

theorem sameAs_refl (a : Target) : a.sameAs a = true := by
  cases h : a.bundleId <;> simp [sameAs, h]

theorem sameAs_comm (a b : Target) : a.sameAs b = b.sameAs a := by
  cases ha : a.bundleId <;> cases hb : b.bundleId <;> simp [sameAs, ha, hb, Bool.beq_comm]

/-- **Targets are compared by an equivalence** but for a target in the middle that hides a
difference. -/
theorem equivalenceUnless : EquivalenceUnless sameAs Gap where
  refl := sameAs_refl
  symm a b hab := by rwa [sameAs_comm]
  trans_iff a b c hab hbc := by
    -- an identifier is compared with identifiers, and all else by names
    cases ha : a.bundleId <;> cases hb : b.bundleId <;> cases hc : c.bundleId <;>
      simp [sameAs, Gap, ha, hb, hc] at hab hbc ⊢ <;> simp [hab, hbc]

/-- Two applications of one name have different identifiers, and one application may have two
names. -/
theorem sameAs_not_transitive :
    (Target.mk (some "com.apple.Notes") "Notes").sameAs { name := "Notes" } = true ∧
      Target.sameAs { name := "Notes" } ⟨some "com.example.Notes", "Notes"⟩ = true ∧
      (Target.mk (some "com.apple.Notes") "Notes").sameAs ⟨some "com.example.Notes", "Notes"⟩ =
        false := by
  decide

end Target

namespace ActionKind

/-- **Three kinds that switch to targets with a gap.** -/
def Gap : ActionKind → ActionKind → ActionKind → Prop
  | switchTo a, switchTo b, switchTo c => a.Gap b c
  | _, _, _ => False

theorem sameAs_refl (a : ActionKind) : a.sameAs a = true := by
  cases a <;> simp [sameAs, Target.sameAs_refl]

theorem sameAs_comm (a b : ActionKind) : a.sameAs b = b.sameAs a := by
  cases a <;> cases b <;> simp [sameAs, Target.sameAs_comm, Bool.beq_comm]

/-- A switch is like switches to the same target. -/
theorem sameAs_switchTo {a : ActionKind} {t : Target} :
    a.sameAs (switchTo t) = true ↔ ∃ s, a = switchTo s ∧ s.sameAs t = true := by
  cases a <;> simp [sameAs]

/-- Everything else is like itself only. -/
theorem sameAs_of_not_isSwitch {a b : ActionKind} (h : b.isSwitch = false) :
    a.sameAs b = true ↔ a = b := by
  cases b <;> cases a <;> simp_all [sameAs, isSwitch]

/-- **Kinds of actions are compared by an equivalence** but for the gaps of their targets. -/
theorem equivalenceUnless : EquivalenceUnless sameAs Gap where
  refl := sameAs_refl
  symm a b hab := by rwa [sameAs_comm]
  trans_iff a b c hab hbc := by
    rw [sameAs_comm] at hbc
    cases b with
    | switchTo t =>
      obtain ⟨s, rfl, hst⟩ := sameAs_switchTo.mp hab
      obtain ⟨u, rfl, hut⟩ := sameAs_switchTo.mp hbc
      rw [Target.sameAs_comm] at hut
      exact Target.equivalenceUnless.trans_iff s t u hst hut
    | _ =>
      -- all three are equal, and no switches
      obtain rfl := (sameAs_of_not_isSwitch rfl).mp hab
      obtain rfl := (sameAs_of_not_isSwitch rfl).mp hbc
      simp [sameAs_refl, Gap]

end ActionKind

/-- **Targets, kinds of actions and actions are compared by equivalences** but for the gaps of
targets: each is like itself, the order of two does not matter, and of three of which the neighbours
are alike the first is like the last, exactly if the target in the middle hides no difference. -/
theorem Action.sameAs_equivalence_unless :
    EquivalenceUnless Target.sameAs Target.Gap ∧
      EquivalenceUnless ActionKind.sameAs ActionKind.Gap ∧
      EquivalenceUnless Action.sameAs fun a b c => a.kind.Gap b.kind c.kind := by
  refine ⟨Target.equivalenceUnless, ActionKind.equivalenceUnless, ?_⟩
  exact ActionKind.equivalenceUnless.and_eq Action.kind Action.description

end KeyPlan
