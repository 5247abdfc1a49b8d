import KeyPlan.Proofs.Operations

/-!
# Runs in a session that is cancelled already

A run in a session that was cancelled before it began stops before its first action: it makes no
call, and leaves the session as it was. A run without actions never looks at the session; it is
completed, whether the session is cancelled or not.

## Main results

* `Run.run_of_isCancelled`, `Run.run_nil_of_isCancelled`: such a run, with actions and without
* `History.answer_of_cancelled`: what comes of a run in a cancelled session
* `History.cancelled_session_completes`: a run without actions in a cancelled session
-/

namespace KeyPlan

namespace Run

variable {e : Engine} (observed : Bool) {actions : List Action} {w : World}

theorem events_finish (count : Nat) (w : World) :
    ∃ told, (finish observed count w).2.trace = w.trace ++ told ∧
      told.map (·.event.callback?) =
        if observed then [some (.completed true (completedMessage count))] else [] :=
  events_notify observed (.completed true (completedMessage count)) _

/-- What follows the launch of a run is told behind its start. -/
theorem events_of_launch {count : Nat} {v : World} {cs : List (Option Callback)}
    (h : ∃ ending, v.trace = (launch observed count w).trace ++ ending ∧
      ending.map (·.event.callback?) = if observed then cs else []) :
    ∃ told, v.trace = w.trace ++ told ∧
      told.map (·.event.callback?) = if observed then some .started :: cs else [] := by
  obtain ⟨ending, hending, hevents⟩ := h
  obtain ⟨told, htrace, htold⟩ : ∃ told, (launch observed count w).trace = w.trace ++ told ∧
      told.map (·.event.callback?) = if observed then [some .started] else [] :=
    events_notify observed .started _
  refine ⟨told ++ ending, by rw [hending, htrace, List.append_assoc], ?_⟩
  rw [List.map_append, htold, hevents]
  split <;> rfl

/-- A run without actions is finished behind its launch. -/
theorem run_nil (hperm : e.backend.permitted = true) (w : World) :
    run e observed [] w = finish observed 0 (launch observed 0 w) ∧
      performed e observed [] w = [] := by
  rw [run_of_permitted e observed hperm, performed_of_permitted e observed hperm]
  exact ⟨rfl, rfl⟩

/-- The session of a run that has no steps gets the verdict, and nothing else. -/
theorem session_of_performed_nil (hw : w.session.cancel = w.session)
    (hp : performed e observed actions w = []) :
    (run e observed actions w).2.session =
      w.session.markAll (Mark.ofRun [] (run e observed actions w).1.verdict?) := by
  have hleaves := @leaves_run e observed actions w
  rw [hp] at hleaves
  exact hleaves.session_of_cancelled hw

/-- **A run in a cancelled session is cancelled before its first action**, and leaves the session as
it is. -/
theorem run_of_isCancelled (hperm : e.backend.permitted = true)
    (hw : w.session.cancel = w.session) (hne : actions ≠ []) :
    ∃ v told, run e observed actions w = (⟨.cancelled, cancelledMessage, 0⟩, v) ∧
      v.trace = w.trace ++ told ∧
      told.map (·.event.callback?) =
        (if observed then
          [some .started, some (.cancelled 0), some (.completed false cancelledMessage)]
        else []) ∧
      v.session = w.session := by
  obtain ⟨hr, hp⟩ := run_eq_stop hperm (hw ▸ Session.token_cancel w.session) hne
  have hsession := session_of_performed_nil observed hw hp
  obtain ⟨told, htrace, htold⟩ :=
    events_of_launch observed (events_stop observed 0 (launch observed actions.length w))
  rw [hr] at hsession ⊢
  exact ⟨_, told, rfl, htrace, htold, hsession⟩

/-- **A run without actions in a cancelled session is completed**, and says so in the session. -/
theorem run_nil_of_isCancelled (hperm : e.backend.permitted = true)
    (hw : w.session.cancel = w.session) :
    ∃ v told, run e observed [] w = (⟨.completed, completedMessage 0, 0⟩, v) ∧
      v.trace = w.trace ++ told ∧
      told.map (·.event.callback?) =
        (if observed then [some .started, some (.completed true (completedMessage 0))] else []) ∧
      v.session = w.session.complete := by
  obtain ⟨hr, hp⟩ := run_nil observed hperm w
  have hsession := session_of_performed_nil observed hw hp
  obtain ⟨told, htrace, htold⟩ :=
    events_of_launch observed (events_finish observed 0 (launch observed 0 w))
  rw [hr] at hsession ⊢
  exact ⟨_, told, rfl, htrace, htold, hsession⟩

end Run

namespace History

/-- **What comes of a run in a cancelled session**, where input is permitted. A run with an action
is cancelled before that one: its observer is told of the start, of the cancellation and of the end,
nothing else is recorded, and the session stays as it was. A run without actions is completed. -/
theorem answer_of_cancelled {e : Engine} {op : Operation} {observed : Bool} {actions : List Action}
    (hop : op.run? = some (observed, actions)) (hperm : e.backend.permitted = true) (w : World) :
    ∃ o v told, answer e op w.cancel = (.outcome o, v) ∧ v.trace = w.trace ++ told ∧
      (actions ≠ [] →
        o = ⟨.cancelled, cancelledMessage, 0⟩ ∧
        told.map (·.event.callback?) =
          (if observed then
            [some .started, some (.cancelled 0), some (.completed false cancelledMessage)]
          else []) ∧
        v.session = w.session.cancel ∧
        (w.session.Unused → v.session.snapshot = { isCancelled := true })) ∧
      (actions = [] →
        o = ⟨.completed, completedMessage 0, 0⟩ ∧
        told.map (·.event.callback?) =
          (if observed then [some .started, some (.completed true (completedMessage 0))] else []) ∧
        v.session = w.session.cancel.complete ∧
        (w.session.Unused → v.session.snapshot = { isCancelled := true, isComplete := true })) := by
  obtain ⟨htrace, hsession⟩ :=
    op.runWorld_of_isCancelled e (w := w.cancel) (Session.token_cancel w.session)
  -- before the run, the operation has done nothing but write the log
  rw [answer_of_run? e hop]
  generalize op.runWorld e w.cancel = u at htrace hsession
  replace htrace : u.trace = w.trace := htrace
  replace hsession : u.session = w.session.cancel := hsession
  have hu : u.session.cancel = u.session := by rw [hsession, Session.cancel_cancel]
  by_cases hne : actions = []
  · subst hne
    obtain ⟨v, told, hr, ht, htold, hv⟩ := Run.run_nil_of_isCancelled observed hperm hu
    rw [htrace] at ht
    rw [hsession] at hv
    rw [hr]
    refine ⟨_, v, told, rfl, ht, fun h => absurd rfl h, fun _ => ⟨rfl, htold, hv, fun hw => ?_⟩⟩
    rw [hv, Session.complete_eq_mark, Session.snapshot_mark, hw.snapshot_cancel]
    rfl
  · obtain ⟨v, told, hr, ht, htold, hv⟩ := Run.run_of_isCancelled observed hperm hu hne
    rw [htrace] at ht
    rw [hsession] at hv
    rw [hr]
    refine ⟨_, v, told, rfl, ht, fun _ => ⟨rfl, htold, hv, fun hw => ?_⟩, fun h => absurd h hne⟩
    rw [hv, hw.snapshot_cancel]

/-- A plan with one action and a previous application, in a session that is cancelled already. -/
theorem answer_of_cancelled_undo :
    let op : Operation := .execute true [⟨"undo", "⌘ z", "Undo"⟩] (some ⟨none, "Notes"⟩)
    op.run? = some (true, [⟨.keyPress 'z' (.ofList [.command]), "Undo"⟩]) ∧
      Run.jammedEngine.backend.permitted = true ∧
      ∃ v, answer Run.jammedEngine op (World.cancel {}) =
          (.outcome ⟨.cancelled, "Execution cancelled", 0⟩, v) ∧
        v.trace.map (·.event.callback?) =
          [some .started, some (.cancelled 0), some (.completed false "Execution cancelled")] ∧
        v.session.snapshot = { isCancelled := true } := by
  intro op
  have hop : op.run? = some (true, [⟨.keyPress 'z' (.ofList [.command]), "Undo"⟩]) := by
    decide +kernel
  have hperm : Run.jammedEngine.backend.permitted = true := rfl
  obtain ⟨o, v, told, ha, htrace, hcancelled, -⟩ := answer_of_cancelled hop hperm {}
  obtain ⟨rfl, htold, -, hsnapshot⟩ := hcancelled nofun
  obtain rfl : v.trace = told := htrace
  exact ⟨hop, hperm, v, ha, htold, hsnapshot Session.unused_fresh⟩

/-- **A run without actions in a cancelled session is completed**: here all steps were dropped. -/
theorem cancelled_session_completes :
    let op : Operation := .execute true [⟨"wait", "DELAY:", ""⟩] none
    ∃ v, answer Run.jammedEngine op (World.cancel {}) =
        (.outcome ⟨.completed, "Successfully executed 0 actions", 0⟩, v) ∧
      v.trace.map (·.event.callback?) =
        [some .started, some (.completed true "Successfully executed 0 actions")] ∧
      v.session.snapshot = { isCancelled := true, isComplete := true } := by
  intro op
  have hop : op.run? = some (true, []) := by decide +kernel
  rw [answer_of_run? _ hop, (Run.run_nil (e := Run.jammedEngine) true rfl _).1]
  exact ⟨_, rfl, by decide +kernel, by decide +kernel⟩

end History

end KeyPlan
