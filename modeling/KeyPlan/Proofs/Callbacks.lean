import KeyPlan.Proofs.Steps

/-!
# What the observer of a run is told

The observer of a permitted run is told of the start, then of the start and the end of every action
that is finished, and then of the end of the run in one of four ways. The outcome says the same: how
many actions are finished, and the message of the last callback.

## Main definitions

* `Run.rounds`: the callbacks of finished actions
* `Run.Ending`: the ways in which a run ends

## Main results

* `Run.callbacks_runFrom`: the callbacks and the outcome of the rest of a run
* `Run.callbacks_run`: the callbacks and the outcome of a run
-/

namespace KeyPlan.Run

/-- **The callbacks of finished actions**, the first of which is at `index`. -/
def rounds (index : Nat) : List Action → List Callback
  | [] => []
  | a :: rest => .stepStarted index a :: .stepCompleted index :: rounds (index + 1) rest

/-- **How a run ends** behind its finished actions. It may be cancelled before the next action or
while it waits in it. -/
inductive Ending where
  | completed
  | failed (a : Action) (message : String)
  | cancelledBefore
  | cancelledIn (a : Action)

namespace Ending

/-- What the observer is told behind `n` finished actions. -/
def callbacks (n : Nat) : Ending → List Callback
  | completed => [.completed true ("Successfully executed " ++ toString n ++ " actions")]
  | failed a message => [.stepStarted n a, .completed false message]
  | cancelledBefore => [.cancelled n, .completed false "Execution cancelled"]
  | cancelledIn a => [.stepStarted n a, .cancelled n, .completed false "Execution cancelled"]

/-- The outcome behind `n` finished actions. -/
def outcome (n : Nat) : Ending → Outcome
  | completed => ⟨.completed, "Successfully executed " ++ toString n ++ " actions", n⟩
  | failed _ message => ⟨.failed, message, n⟩
  | cancelledBefore | cancelledIn _ => ⟨.cancelled, "Execution cancelled", n⟩

/-- **The ending is possible** behind the first `n` of the actions. Only a delay is cancelled while
the run waits in it. -/
def Fits (actions : List Action) (n : Nat) : Ending → Prop
  | completed => n = actions.length
  | failed a _ => actions[n]? = some a
  | cancelledBefore => n < actions.length
  | cancelledIn a => actions[n]? = some a ∧ ∃ ms, a.kind = .delay ms

theorem Fits.le_length {actions : List Action} {n : Nat} {ending : Ending}
    (h : ending.Fits actions n) : n ≤ actions.length := by
  cases ending with
  | completed => exact Nat.le_of_eq h
  | failed a message => exact Nat.le_of_lt (List.getElem?_eq_some_iff.mp h).1
  | cancelledBefore => exact Nat.le_of_lt h
  | cancelledIn a => exact Nat.le_of_lt (List.getElem?_eq_some_iff.mp h.1).1

/-- An ending behind one more action. -/
theorem Fits.cons {actions : List Action} {n : Nat} {ending : Ending}
    (h : ending.Fits actions n) (a : Action) : ending.Fits (a :: actions) (n + 1) := by
  cases ending with
  | completed => exact congrArg (· + 1) h
  | failed b message => exact h
  | cancelledBefore => exact Nat.succ_lt_succ h
  | cancelledIn b => exact h

@[simp] theorem executed_outcome (n : Nat) (ending : Ending) : (ending.outcome n).executed = n := by
  cases ending <;> rfl

/-- The callbacks tell the endings apart. -/
theorem eq_of_callbacks_eq {n : Nat} {x y : Ending} (h : x.callbacks n = y.callbacks n) :
    x = y := by
  cases x <;> cases y <;> simp_all [callbacks]

end Ending

section Pieces

variable (e : Engine) (index : Nat) (w : World)

theorem callbacks_notify (c : Callback) :
    Trace.callbacks (notify true c w).trace = Trace.callbacks w.trace ++ [c] := by
  simp only [notify, if_true, World.trace_record, Trace.callbacks_append]
  rfl

theorem callbacks_opening (a : Action) :
    Trace.callbacks (opening true index a w).trace =
      Trace.callbacks w.trace ++ [.stepStarted index a] := callbacks_notify ..

theorem callbacks_stop :
    Trace.callbacks (stop true index w).2.trace =
      Trace.callbacks w.trace ++ [.cancelled index, .completed false cancelledMessage] := by
  simp only [stop, callbacks_notify, List.append_assoc, List.singleton_append]

theorem callbacks_abort (message : String) :
    Trace.callbacks (abort true index message w).2.trace =
      Trace.callbacks w.trace ++ [.completed false message] := callbacks_notify ..

theorem callbacks_finish (count : Nat) :
    Trace.callbacks (finish true count w).2.trace =
      Trace.callbacks w.trace ++ [.completed true (completedMessage count)] := callbacks_notify ..

theorem callbacks_stepAt (a : Action) :
    Trace.callbacks (stepAt e true index a w).after.trace =
      Trace.callbacks w.trace ++ [.stepStarted index a] := by
  rw [← callbacks_opening]
  exact (grows_perform e a.kind _).trace.callbacks_eq fun _ => id

end Pieces

/-- **The callbacks and the outcome of the rest of a run.** -/
theorem callbacks_runFrom (e : Engine) (actions : List Action) :
    ∀ (index : Nat) (w : World), ∃ n ending, Ending.Fits actions n ending ∧
      Trace.callbacks (runFrom e true index actions w).2.trace =
        Trace.callbacks w.trace ++
          (rounds index (actions.take n) ++ ending.callbacks (index + n)) ∧
      (runFrom e true index actions w).1 = ending.outcome (index + n) := by
  induction actions with
  | nil => exact fun index w => ⟨0, .completed, rfl, callbacks_finish w index, rfl⟩
  | cons a rest ih =>
    intro index w
    have hstep := callbacks_stepAt e index w a
    have htold := callbacks_notify (stepAt e true index a w).after (.stepCompleted index)
    rcases runFrom_cons_cases e true index a rest w with
      ⟨-, hr, -⟩ | ⟨-, r, hs, hr, -⟩ | ⟨-, v, hs, hr, -⟩ <;> rw [hr]
    · -- cancelled before the action
      exact ⟨0, .cancelledBefore, Nat.succ_pos _, callbacks_stop .., rfl⟩
    · rcases settle_eq_error hs with ⟨hp, rfl⟩ | ⟨message, -, rfl⟩ | ⟨-, hlast, v, hp, rfl⟩
      · -- cancelled in the action, which is then a delay
        refine ⟨0, .cancelledIn a, ⟨rfl, kind_of_cancelled _ hp⟩, ?_, rfl⟩
        rw [callbacks_stop, hstep, List.append_assoc]
        rfl
      · -- the action has failed
        refine ⟨0, .failed a message, rfl, ?_, rfl⟩
        rw [callbacks_abort, hstep, List.append_assoc]
        rfl
      · -- cancelled in the pause behind the action, which counts as finished
        refine ⟨1, .cancelledBefore, ?_, ?_, rfl⟩
        · exact Nat.succ_lt_succ (List.length_pos_iff.mpr (by simpa using hlast))
        · rw [callbacks_stop, World.trace_of_pause hp, htold, hstep]
          simp [rounds, Ending.callbacks, cancelledMessage]
    · -- the action is finished, and the pause behind it tells the observer nothing
      have hv : Trace.callbacks v.trace =
          Trace.callbacks w.trace ++ [.stepStarted index a] ++ [.stepCompleted index] := by
        rw [← hstep, ← htold, trace_settle_ok hs]
      obtain ⟨n, ending, hfits, hcallbacks, houtcome⟩ := ih (index + 1) v
      -- the rest counts its actions from the next index
      have hindex : index + 1 + n = index + (n + 1) := by omega
      rw [hindex] at hcallbacks houtcome
      refine ⟨n + 1, ending, hfits.cons a, ?_, houtcome⟩
      rw [hcallbacks, hv]
      simp [rounds]

/-- **The callbacks and the outcome of a run.** Without permission the observer is told only of the
failure. With it there is exactly one way to read the callbacks: the start, the rounds of the first
`n` actions, and an ending, of which the outcome says the same. -/
theorem callbacks_run (e : Engine) (actions : List Action) (w : World) :
    (e.backend.permitted = false →
      let message := "Accessibility permission is required to send keyboard input. " ++
        "Grant access in System Settings > Privacy & Security > Accessibility, then run again."
      Trace.callbacks (run e true actions w).2.trace =
        Trace.callbacks w.trace ++ [.completed false message] ∧
      (run e true actions w).1 = ⟨.failed, message, 0⟩) ∧
    (e.backend.permitted = true →
      ∃ n ending, (n ≤ actions.length ∧ Ending.Fits actions n ending ∧
        Trace.callbacks (run e true actions w).2.trace =
          Trace.callbacks w.trace ++
            .started :: (rounds 0 (actions.take n) ++ ending.callbacks n) ∧
        (run e true actions w).1 = ending.outcome n) ∧
      ∀ n' ending', Ending.Fits actions n' ending' →
        Trace.callbacks (run e true actions w).2.trace =
          Trace.callbacks w.trace ++
            .started :: (rounds 0 (actions.take n') ++ ending'.callbacks n') →
        (run e true actions w).1 = ending'.outcome n' →
        n' = n ∧ ending' = ending) := by
  constructor
  · intro hperm message
    rw [run_of_not_permitted e true hperm]
    exact ⟨callbacks_notify .., rfl⟩
  · intro hperm
    rw [run_of_permitted e true hperm]
    have hlaunch : Trace.callbacks (launch true actions.length w).trace =
        Trace.callbacks w.trace ++ [.started] := callbacks_notify ..
    obtain ⟨n, ending, hfits, hcallbacks, houtcome⟩ :=
      callbacks_runFrom e actions 0 (launch true actions.length w)
    rw [Nat.zero_add] at hcallbacks houtcome
    rw [hlaunch, List.append_assoc] at hcallbacks
    refine ⟨n, ending, ⟨hfits.le_length, hfits, hcallbacks, houtcome⟩, ?_⟩
    -- the outcome tells how many actions are finished, and the callbacks tell the ending
    rintro n' ending' - hcallbacks' houtcome'
    obtain rfl : n' = n := by
      have := congrArg Outcome.executed (houtcome'.symm.trans houtcome)
      simpa using this
    refine ⟨rfl, Ending.eq_of_callbacks_eq (n := n') ?_⟩
    simpa using hcallbacks'.symm.trans hcallbacks

end KeyPlan.Run
