import KeyPlan.Proofs.Operations
import KeyPlan.Proofs.Unlogged

/-!
# The previous application and the run

Before a plan is run, the application that was in front may be brought back. This depends on the
actions of the plan and not on its steps, and nothing of it is left but its calls, its time and its
lines in the log: the run behind it is the run of the plan in the world that it leaves.

## Main definitions

* `Engine.KeepsFront`: nothing is done for the previous application
* `Engine.behindRestore`: the world that the restore of the previous application leaves

## Main results

* `World.pause_cases`: how a pause ends
* `Engine.sameButLog_execute`: a plan comes to the run of its actions
* `Engine.execute_keepsFront`, `Engine.execute_restores`: the two ways to begin a plan
* `Engine.restore_transparent`: executing a plan is a restore, a pause and a run
-/

namespace KeyPlan

open World (SameButLog Grows Leaves)
open Trace (Extends)

/-- **How a pause ends**: it has passed, or the session is cancelled. Then no time has passed at
all, or it is the very time of the cancellation. -/
theorem World.pause_cases {w v : World} {ms : Nat} (h : (w.pause ms).2 = v) :
    v.session.token = false ∧ v.now = w.now + ms ∨
      v.session.token = true ∧ v.now ≤ w.now + ms ∧
        (v.now = w.now ∨ w.interrupt.atTime = some v.now) := by
  unfold pause at h
  split at h
  next hc => exact .inr ⟨h ▸ hc, h ▸ Nat.le_add_right .., .inl (h ▸ rfl)⟩
  next hc =>
    have htoken : w.session.token = false := Bool.not_eq_true _ ▸ hc
    split at h
    next hms => exact .inl ⟨h ▸ htoken, by rw [← h, hms, Nat.add_zero]⟩
    next =>
      split at h
      next t ht =>
        split at h
        -- the pause is cut short at the time of the cancellation, or at once if that is over
        next hle =>
          have hdue : t ≤ max t w.now := Nat.le_max_left ..
          have hv : v = { w with now := max t w.now }.cancel := by
            rw [← h]
            simp only [advanceTo, ht, hdue, if_true]
          rw [hv]
          refine .inr ⟨Session.token_cancel _, Nat.max_le.mpr ⟨hle, Nat.le_add_right ..⟩, ?_⟩
          rcases Nat.le_total t w.now with hnow | hnow
          · exact .inl (Nat.max_eq_right hnow)
          · exact .inr (ht.trans (congrArg some (Nat.max_eq_left hnow).symm))
        next hle =>
          have hv : v = { w with now := w.now + ms } := by
            rw [← h]
            simp [advanceTo, ht, hle]
          exact .inl (hv ▸ ⟨htoken, rfl⟩)
      next ht =>
        have hv : v = { w with now := w.now + ms } := by
          rw [← h]
          simp [advanceTo, ht]
        exact .inl (hv ▸ ⟨htoken, rfl⟩)

namespace Engine

variable (e : Engine)

/-- **Nothing is done for the previous application**: the plan is empty or opens with a switch, or
the run will not perform anything. -/
def KeepsFront (actions : List Action) (w : World) : Prop :=
  actions = [] ∨
    (∃ target description rest, actions = ⟨.switchTo target, description⟩ :: rest) ∨
    w.isCancelled = true ∨ e.backend.permitted = false

/-- **The world that the restore of the previous application leaves**: the application is activated,
and if that worked there is a pause. -/
def behindRestore (target : Target) (w : World) : World :=
  match Activation.activate e.backend e.timing target e.timing.defaultTimeout w with
  | (.ok (), w) => (w.pause e.settings.appSwitchDelay).2
  | (.error _, w) => w

variable {e} {observed : Bool} {actions : List Action} {target : Target} {w v : World}

theorem needsRestore_eq_false_iff :
    needsRestore actions = false ↔
      actions = [] ∨
        ∃ target description rest, actions = ⟨.switchTo target, description⟩ :: rest := by
  rcases actions with _ | ⟨⟨kind, description⟩, rest⟩
  · simp [needsRestore]
  · cases kind <;> simp [needsRestore, Action.isSwitch, ActionKind.isSwitch]

theorem keepsFront_iff :
    e.KeepsFront actions w ↔
      (needsRestore actions && !w.isCancelled && e.backend.permitted) = false := by
  rw [KeepsFront, ← or_assoc, ← needsRestore_eq_false_iff, Bool.and_eq_false_iff,
    Bool.and_eq_false_iff, Bool.not_eq_false', or_assoc]

theorem prepare_of_keepsFront (h : e.KeepsFront actions w) (previous : Option Target) :
    e.prepare previous actions w = w := by
  cases previous with
  | none => rfl
  | some target => simp [prepare, keepsFront_iff.mp h]

theorem prepare_of_not_keepsFront (h : ¬ e.KeepsFront actions w) :
    e.prepare (some target) actions w = e.restorePrevious target w := by
  rw [keepsFront_iff, Bool.not_eq_false] at h
  simp only [prepare, h, if_true]

/-! ## The restore -/

theorem behindRestore_withPast (past : List LogLine) (w : World) :
    e.behindRestore target (w.withPast past) = (e.behindRestore target w).withPast past := by
  unfold behindRestore
  rw [(World.unnoticed_withPast past).activation]
  rcases Activation.activate e.backend e.timing target e.timing.defaultTimeout w with ⟨_ | _, v⟩
  · rfl
  · simp only [World.pause_withPast]

theorem unlogged_behindRestore (h : w.unlogged = v.unlogged) :
    (e.behindRestore target w).unlogged = (e.behindRestore target v).unlogged :=
  (World.sameButLog_of_withPast (f := fun w => ((), e.behindRestore target w))
    (fun past w => congrArg (Prod.mk ()) (behindRestore_withPast past w)) h).2

/-- The restore of the previous application, up to what the log tells of it. -/
theorem unlogged_restorePrevious (h : w.unlogged = v.unlogged) :
    (e.restorePrevious target w).unlogged = (e.behindRestore target v).unlogged := by
  have htold : (e.restorePrevious target w).unlogged =
      (e.behindRestore target (w.tell .info
        ("↩️ [Engine] Restoring previous app '" ++ target.display ++ "'"))).unlogged := by
    unfold restorePrevious behindRestore
    dsimp only
    rcases Activation.activate e.backend e.timing target e.timing.defaultTimeout _ with ⟨_ | _, u⟩
    · rfl
    · rfl
  exact htold.trans (unlogged_behindRestore ((World.unlogged_tell ..).trans h))

/-- A failed restore leaves the session as it was, and so does any other one that is not
cancelled. -/
theorem grows_behindRestore (e : Engine) (target : Target) (w : World) :
    Grows Event.IsCall w (e.behindRestore target w)
      ((e.behindRestore target w).session.token = true) := by
  have hsame : (e.restorePrevious target w).unlogged = (e.behindRestore target w).unlogged :=
    unlogged_restorePrevious rfl
  have hsession : (e.restorePrevious target w).session = (e.behindRestore target w).session :=
    (congrArg World.session hsame :)
  have hgrows := e.grows_restorePrevious target w
  rw [hsession] at hgrows
  exact hgrows.congr (congrArg World.trace hsame.symm :) (congrArg World.now hsame.symm :)
    (congrArg World.interrupt hsame.symm :) hsession.symm

/-! ## Executing a plan -/

theorem keepsFront_tellPlan (steps : List Step) :
    e.KeepsFront actions (tellPlan steps w) ↔ e.KeepsFront actions w := Iff.rfl

/-- The run of a plan does not look at the log. -/
theorem run_congr (h : w.unlogged = v.unlogged) :
    SameButLog (Run.run e observed actions w) (Run.run e observed actions v) :=
  World.sameButLog_of_withPast (fun past w => Run.run_withPast e observed past actions w) h

/-- **What a plan comes to** is the run of its actions, with what is done before it. The steps
themselves are found in the log alone. -/
theorem sameButLog_execute (e : Engine) (observed : Bool) (steps : List Step)
    (previous : Option Target) (w : World) :
    SameButLog (e.execute observed steps previous w)
      (Run.run e observed (Step.actions steps) (e.prepare previous (Step.actions steps) w)) := by
  rw [execute]
  refine run_congr ?_
  by_cases h : e.KeepsFront (Step.actions steps) w
  · rw [prepare_of_keepsFront h, prepare_of_keepsFront ((keepsFront_tellPlan steps).mpr h)]
    rfl
  · cases previous with
    | none => rfl
    | some target =>
      rw [prepare_of_not_keepsFront h,
        prepare_of_not_keepsFront (mt (keepsFront_tellPlan steps).mp h)]
      have htold : (tellPlan steps w).unlogged = w.unlogged := rfl
      exact (unlogged_restorePrevious htold).trans (unlogged_restorePrevious rfl).symm

/-- A previous application for which nothing is to be done makes no difference. -/
theorem execute_keepsFront {steps : List Step} (h : e.KeepsFront (Step.actions steps) w)
    (previous : Option Target) :
    e.execute observed steps previous w = e.execute observed steps none w := by
  rw [execute, execute, prepare_of_keepsFront ((keepsFront_tellPlan steps).mpr h)]
  rfl

/-- **A plan with a restore** is its run in the world that the restore leaves. -/
theorem execute_restores {steps : List Step} (h : ¬ e.KeepsFront (Step.actions steps) w) :
    SameButLog (e.execute observed steps (some target) w)
      (Run.run e observed (Step.actions steps) (e.behindRestore target w)) := by
  refine (sameButLog_execute ..).trans ?_
  rw [prepare_of_not_keepsFront h]
  exact run_congr (unlogged_restorePrevious rfl)

theorem actions_filter (steps : List Step) :
    Step.actions (steps.filter (·.action?.isSome)) = Step.actions steps := by
  unfold Step.actions
  rw [List.filterMap_filter]
  congr
  funext s
  cases s.action? <;> rfl

/-- **A step without an action** leaves nothing but its line in the log. -/
theorem execute_filter (e : Engine) (observed : Bool) (steps : List Step)
    (previous : Option Target) (w : World) :
    SameButLog (e.execute observed steps previous w)
      (e.execute observed (steps.filter (·.action?.isSome)) previous w) := by
  have hfiltered :=
    sameButLog_execute e observed (steps.filter (·.action?.isSome)) previous w
  rw [actions_filter] at hfiltered
  exact (sameButLog_execute e observed steps previous w).trans hfiltered.symm

/-- **Executing a plan is transparent.** Steps without an action are as good as absent. Where
nothing is to be done for the previous application, it makes no difference that there is one.
Otherwise the plan is run in the world that the activation of the previous application leaves,
behind a pause if that activation worked; neither its failure nor anything else of it is found in
the session. -/
theorem restore_transparent (e : Engine) (observed : Bool) (steps : List Step) (w : World) :
    let actions := Step.actions steps
    (∀ previous, SameButLog (e.execute observed steps previous w)
      (e.execute observed (steps.filter (·.action?.isSome)) previous w)) ∧
    SameButLog (e.execute observed steps none w) (Run.run e observed actions w) ∧
    ∀ target,
      (e.KeepsFront actions w →
        e.execute observed steps (some target) w = e.execute observed steps none w) ∧
      (¬ e.KeepsFront actions w →
        let brought := Activation.activate e.backend e.timing target e.timing.defaultTimeout w
        let start := e.behindRestore target w
        let result := Run.run e observed actions start
        SameButLog (e.execute observed steps (some target) w) result ∧
        Extends Event.IsCall w.trace brought.2.trace ∧ start.trace = brought.2.trace ∧
        start.trace <+: result.2.trace ∧
        (∀ fault, brought.1 = .error fault → start = brought.2) ∧
        (brought.1 = .ok () →
          start = (brought.2.pause e.settings.appSwitchDelay).2 ∧
          (start.session.token = false ∧ start.now = brought.2.now + e.settings.appSwitchDelay ∨
            start.session.token = true ∧ start.now ≤ brought.2.now + e.settings.appSwitchDelay ∧
              (start.now = brought.2.now ∨ w.interrupt.atTime = some start.now))) ∧
        Leaves [] w start (start.session.token = true)) := by
  intro actions
  refine ⟨fun previous => execute_filter e observed steps previous w,
    sameButLog_execute e observed steps none w, fun target =>
      ⟨fun h => execute_keepsFront h (some target), fun h => ?_⟩⟩
  intro brought start result
  have hgrows := Activation.grows_activate e.backend e.timing target e.timing.defaultTimeout w
  have hstart : start = match brought with
      | (.ok (), v) => (v.pause e.settings.appSwitchDelay).2
      | (.error _, v) => v := rfl
  refine ⟨execute_restores h, hgrows.trace, ?_, ?_, ?_, ?_,
    (grows_behindRestore e target w).leaves⟩
  · rw [hstart]
    rcases brought with ⟨_ | _, v⟩
    · rfl
    · exact World.trace_pause ..
  · exact Run.leaves_run.isPrefix
  · intro fault hfault
    rw [hstart]
    rcases brought with ⟨_ | _, v⟩
    · rfl
    · exact nomatch hfault
  · intro hok
    have hpause : start = (brought.2.pause e.settings.appSwitchDelay).2 := by
      rw [hstart]
      rcases brought with ⟨_ | _, v⟩
      · exact nomatch hok
      · rfl
    have hinterrupt : brought.2.interrupt = w.interrupt := hgrows.interrupt
    exact ⟨hpause, hinterrupt ▸ World.pause_cases hpause.symm⟩

end Engine

end KeyPlan
