import KeyPlan.Proofs.Activation
import KeyPlan.Run

/-!
# The steps of a run

A run performs some of its actions, in order. `Run.performed` lists these steps, each with the
worlds before and after the performance. The trace of the run holds the traces of its steps one
behind the other, with nothing but callbacks around them; a step follows another one only if that
one was done.

## Main definitions

* `Run.Performed`: a step of a run
* `Run.performed`: the steps of a run, in order

## Main results

* `Run.grows_perform`, `Run.grows_perform_of_not_switch`: what an action records
* `Run.settle_eq_ok`, `Run.settle_eq_error`, `Run.runFrom_cons_cases`: what a run does with an
  action
* `Run.performedFrom_getElem?`: a step is the performance of its action
* `Run.performedFrom_succ`: a step follows one that was done
* `Run.exists_performedFrom`: all that is not a callback is recorded in a step
-/

namespace KeyPlan.Run

open World (Grows)
open Trace (Extends)

variable (e : Engine) (observed : Bool)

/-! ## What an action records -/

theorem grows_notify {P : Event → Prop} (c : Callback) (w : World)
    (h : P (.callback c w.session.snapshot)) : Grows P w (notify observed c w) := by
  unfold notify
  split
  · exact (World.grows_tell ..).trans (World.grows_record _ h)
  · exact .refl w

theorem grows_press (b : Backend) (gap : Nat) (stroke : KeyStroke) (w : World) :
    Grows Event.IsKey w (press b gap stroke w).2 := by
  have hd : Grows Event.IsKey w (w.post b ⟨.down, stroke⟩).2 :=
    World.grows_post b _ w fun _ => trivial
  unfold press
  rcases hr : w.post b ⟨.down, stroke⟩ with ⟨_ | _, v⟩ <;> rw [hr] at hd
  -- a press that fails has no release
  · exact hd
  · exact hd.trans ((World.grows_sleep ..).trans (World.grows_post b _ _ fun _ => trivial))

theorem grows_typeFrom (b : Backend) (s : Settings) (cs : List Char) :
    ∀ (first : Bool) (w : World), Grows Event.IsKey w (typeFrom b s first cs w).2 := by
  induction cs with
  | nil => exact fun first w => .refl w
  | cons c cs ih =>
    intro first w
    have hs : Grows Event.IsKey w (if first then w else w.sleep s.characterDelay) := by
      split
      · exact .refl w
      · exact World.grows_sleep ..
    unfold typeFrom
    dsimp only
    have hp := hs.trans (grows_press b s.keyEventDelay (strokeFor c) _)
    rcases hr : press b s.keyEventDelay (strokeFor c)
      (if first then w else w.sleep s.characterDelay) with ⟨_ | _, v⟩ <;> rw [hr] at hp
    · exact hp
    · exact hp.trans (ih false v)

/-- The performance of a delay is a pause. -/
theorem perform_delay (ms : UInt64) (w : World) :
    perform e (.delay ms) w =
      (if (w.pause ms.toNat).1 then .done else .cancelled, (w.pause ms.toNat).2) := rfl

/-- An action that is no switch records only key events. -/
theorem grows_perform_of_not_switch {kind : ActionKind} (h : kind.isSwitch = false) (w : World) :
    Grows Event.IsKey w (perform e kind w).2 ((perform e kind w).1 = .cancelled) := by
  cases kind with
  | keyPress key modifiers => exact (grows_press ..).uncut
  | typeText text => exact (grows_typeFrom ..).uncut
  | delay ms =>
    refine (World.grows_pause w ms.toNat).mono_cut fun hcut => ?_
    rw [perform_delay, hcut]
    rfl
  | switchTo target => exact nomatch h

/-- The performance of a switch is an activation. -/
theorem perform_switchTo (target : Target) (w : World) :
    perform e (.switchTo target) w =
      (match (Activation.activate e.backend e.timing target e.timing.defaultTimeout w).1 with
        | .ok () => .done
        | .error fault => .failed fault.message,
        (Activation.activate e.backend e.timing target e.timing.defaultTimeout w).2) := by
  unfold perform
  dsimp only
  split <;> simp [*]

theorem ofResult_ne_cancelled (r : Except Fault Unit) : Performance.ofResult r ≠ .cancelled := by
  cases r <;> exact nofun

/-- Only a delay is cancelled. -/
theorem kind_of_cancelled {kind : ActionKind} {w : World}
    (h : (perform e kind w).1 = .cancelled) : ∃ ms, kind = .delay ms := by
  cases kind with
  | keyPress key modifiers => exact absurd h (ofResult_ne_cancelled _)
  | typeText text => exact absurd h (ofResult_ne_cancelled _)
  | delay ms => exact ⟨ms, rfl⟩
  | switchTo target =>
    rw [perform_switchTo] at h
    dsimp only at h
    split at h <;> exact nomatch h

/-- An action tells the observer nothing. -/
theorem grows_perform (kind : ActionKind) (w : World) :
    Grows (fun ev => ¬ ev.IsCallback) w (perform e kind w).2
      ((perform e kind w).1 = .cancelled) := by
  cases hk : kind.isSwitch with
  | false => exact (grows_perform_of_not_switch e hk w).mono fun _ => Event.IsKey.not_isCallback
  | true =>
    cases kind with
    | switchTo target =>
      rw [perform_switchTo]
      exact ((Activation.grows_activate ..).mono fun _ => Event.IsCall.not_isCallback).uncut
    | _ => exact nomatch hk

/-! ## What stands around an action -/

theorem extends_refuse (w : World) :
    Extends Event.IsReport w.trace (refuse observed w).2.trace :=
  (grows_notify observed (.completed false permissionDeniedMessage) _ trivial).trace

theorem grows_launch (count : Nat) (w : World) :
    Grows Event.IsReport w (launch observed count w) :=
  (World.grows_tell ..).trans (grows_notify observed .started _ trivial)

theorem extends_opening {P : Event → Prop} (index : Nat) (a : Action) (w : World)
    (h : P (.callback (.stepStarted index a) (w.session.startStep index).snapshot)) :
    Extends P w.trace (opening observed index a w).trace :=
  (grows_notify observed (.stepStarted index a)
    { w with session := w.session.startStep index } h).trace

theorem isPrefix_opening (index : Nat) (a : Action) (w : World) :
    w.trace <+: (opening observed index a w).trace :=
  (extends_opening (P := Event.IsCallback) observed index a w trivial).isPrefix

theorem extends_stop (index : Nat) (w : World) :
    Extends Event.IsReport w.trace (stop observed index w).2.trace := by
  have hcancelled : Grows Event.IsReport w (notify observed (.cancelled index) w) :=
    grows_notify observed _ _ trivial
  exact (hcancelled.trans
    (grows_notify observed (.completed false cancelledMessage) _ trivial)).trace

theorem extends_abort (index : Nat) (message : String) (w : World) :
    Extends Event.IsReport w.trace (abort observed index message w).2.trace :=
  (grows_notify observed (.completed false message) _ trivial).trace

theorem extends_finish (count : Nat) (w : World) :
    Extends Event.IsReport w.trace (finish observed count w).2.trace :=
  (grows_notify observed (.completed true (completedMessage count)) _ trivial).trace

section Settle

variable {e observed} {index : Nat} {a : Action} {isLast : Bool} {p : Performance × World}

/-- **A run goes on behind an action** that was done: at once if it was the last one, else after a
pause. -/
theorem settle_eq_ok {v : World} (h : settle e observed index a isLast p = .ok v) :
    let told := notify observed (.stepCompleted index) p.2
    p.1 = .done ∧ (isLast = true ∧ v = told ∨
      isLast = false ∧ told.pause (gapAfter e.settings a) = (true, v)) := by
  intro told
  rcases p with ⟨_ | message | _, w⟩
  · refine ⟨rfl, ?_⟩
    cases isLast with
    | true => exact .inl ⟨rfl, (Except.ok.inj h).symm⟩
    | false =>
      rcases hp : told.pause (gapAfter e.settings a) with ⟨_ | _, u⟩
      · simp [settle, told, hp] at h
      · exact .inr ⟨rfl, by simpa [settle, told, hp] using h⟩
  · exact nomatch h
  · exact nomatch h

/-- **A run ends behind an action** that was cancelled or failed, or in the pause behind it. -/
theorem settle_eq_error {r : Outcome × World}
    (h : settle e observed index a isLast p = .error r) :
    let told := notify observed (.stepCompleted index) p.2
    (p.1 = .cancelled ∧ r = stop observed index p.2) ∨
    (∃ message, p.1 = .failed message ∧ r = abort observed index message p.2) ∨
    (p.1 = .done ∧ isLast = false ∧ ∃ v, told.pause (gapAfter e.settings a) = (false, v) ∧
      r = stop observed (index + 1) v) := by
  intro told
  rcases p with ⟨_ | message | _, w⟩
  · refine .inr (.inr ⟨rfl, ?_⟩)
    cases isLast with
    | true => exact nomatch h
    | false =>
      rcases hp : told.pause (gapAfter e.settings a) with ⟨_ | _, u⟩
      · exact ⟨rfl, u, rfl, by simpa [settle, told, hp] using h.symm⟩
      · simp [settle, told, hp] at h
  · exact .inr (.inl ⟨message, rfl, (Except.error.inj h).symm⟩)
  · exact .inl ⟨rfl, (Except.error.inj h).symm⟩

/-- A run that goes on behind an action has recorded that the action is completed. -/
theorem trace_settle_ok {v : World} (h : settle e observed index a isLast p = .ok v) :
    v.trace = (notify observed (.stepCompleted index) p.2).trace := by
  obtain ⟨-, ⟨-, rfl⟩ | ⟨-, hp⟩⟩ := settle_eq_ok h
  · rfl
  · exact World.trace_of_pause hp

theorem grows_settle_ok {v : World} (h : settle e observed index a isLast p = .ok v) :
    Grows Event.IsReport p.2 v := by
  have hn : Grows Event.IsReport p.2 (notify observed (.stepCompleted index) p.2) :=
    grows_notify observed _ _ trivial
  obtain ⟨-, ⟨-, rfl⟩ | ⟨-, hp⟩⟩ := settle_eq_ok h
  · exact hn
  · have hpause := World.grows_pause (P := Event.IsReport)
      (notify observed (.stepCompleted index) p.2) (gapAfter e.settings a)
    rw [hp] at hpause
    -- the run goes on, so the pause was not cut short
    exact hn.trans (hpause.mono_cut nofun)

theorem extends_settle_error {r : Outcome × World}
    (h : settle e observed index a isLast p = .error r) :
    Extends Event.IsReport p.2.trace r.2.trace := by
  rcases settle_eq_error h with ⟨-, rfl⟩ | ⟨message, -, rfl⟩ | ⟨-, -, v, hp, rfl⟩
  · exact extends_stop ..
  · exact extends_abort ..
  · have hn : Grows Event.IsReport p.2 (notify observed (.stepCompleted index) p.2) :=
      grows_notify observed _ _ trivial
    exact (World.trace_of_pause hp ▸ hn.trace).trans (extends_stop ..)

end Settle

/-! ## Steps -/

/-- **A step of a run**: the performance of an action. -/
structure Performed where
  index : Nat
  action : Action
  before : World
  result : Performance
  after : World

/-- The step at `index`, in the world in which the run comes to its action. -/
def stepAt (index : Nat) (a : Action) (w : World) : Performed :=
  let before := opening observed index a w
  ⟨index, a, before, (perform e a.kind before).1, (perform e a.kind before).2⟩

/-- The steps of the rest of a run. -/
def performedFrom (index : Nat) : List Action → World → List Performed
  | [], _ => []
  | a :: rest, w =>
    if w.isCancelled then []
    else
      let s := stepAt e observed index a w
      s :: match settle e observed index a rest.isEmpty (s.result, s.after) with
        | .error _ => []
        | .ok w => performedFrom (index + 1) rest w

/-- **The steps of a run**, in order. -/
def performed (actions : List Action) (w : World) : List Performed :=
  if e.backend.permitted then
    performedFrom e observed 0 actions (launch observed actions.length w)
  else []

theorem run_of_not_permitted (h : e.backend.permitted = false) (actions : List Action) (w : World) :
    run e observed actions w = refuse observed w := by simp [run, h]

theorem run_of_permitted (h : e.backend.permitted = true) (actions : List Action) (w : World) :
    run e observed actions w =
      runFrom e observed 0 actions (launch observed actions.length w) := by simp [run, h]

theorem performed_of_permitted (h : e.backend.permitted = true) (actions : List Action)
    (w : World) :
    performed e observed actions w =
      performedFrom e observed 0 actions (launch observed actions.length w) := by
  simp [performed, h]

theorem runFrom_of_settle {index : Nat} {a : Action} {rest : List Action} {w : World}
    (hw : w.isCancelled = false) :
    runFrom e observed index (a :: rest) w =
      match settle e observed index a rest.isEmpty
        ((stepAt e observed index a w).result, (stepAt e observed index a w).after) with
      | .error result => result
      | .ok v => runFrom e observed (index + 1) rest v := by
  rw [runFrom, hw]
  rfl

theorem performedFrom_of_settle {index : Nat} {a : Action} {rest : List Action} {w : World}
    (hw : w.isCancelled = false) :
    performedFrom e observed index (a :: rest) w =
      stepAt e observed index a w ::
        match settle e observed index a rest.isEmpty
          ((stepAt e observed index a w).result, (stepAt e observed index a w).after) with
        | .error _ => []
        | .ok v => performedFrom e observed (index + 1) rest v := by
  rw [performedFrom, hw]
  rfl

/-- **What a run does with its next action**: it is cancelled before it, it ends with it, or it goes
on behind it. -/
theorem runFrom_cons_cases (index : Nat) (a : Action) (rest : List Action) (w : World) :
    let s := stepAt e observed index a w
    (w.isCancelled = true ∧ runFrom e observed index (a :: rest) w = stop observed index w ∧
      performedFrom e observed index (a :: rest) w = []) ∨
    (w.isCancelled = false ∧ ∃ r,
      settle e observed index a rest.isEmpty (s.result, s.after) = .error r ∧
      runFrom e observed index (a :: rest) w = r ∧
      performedFrom e observed index (a :: rest) w = [s]) ∨
    (w.isCancelled = false ∧ ∃ v,
      settle e observed index a rest.isEmpty (s.result, s.after) = .ok v ∧
      runFrom e observed index (a :: rest) w = runFrom e observed (index + 1) rest v ∧
      performedFrom e observed index (a :: rest) w =
        s :: performedFrom e observed (index + 1) rest v) := by
  intro s
  -- the run looks at the token before anything else
  cases hc : w.isCancelled with
  | true => exact .inl ⟨rfl, by simp [runFrom, hc], by simp [performedFrom, hc]⟩
  | false =>
    refine .inr ?_
    rw [runFrom_of_settle e observed hc, performedFrom_of_settle e observed hc]
    cases hs : settle e observed index a rest.isEmpty (s.result, s.after) with
    | error r => exact .inl ⟨rfl, r, rfl, rfl, rfl⟩
    | ok v => exact .inr ⟨rfl, v, rfl, rfl, rfl⟩

variable {e observed}

/-- The trace of a run begins with what was there before it. -/
theorem isPrefix_runFrom {actions : List Action} :
    ∀ {index : Nat} {w : World}, w.trace <+: (runFrom e observed index actions w).2.trace := by
  induction actions with
  | nil => exact (extends_finish ..).isPrefix
  | cons a rest ih =>
    intro index w
    have hstep : w.trace <+: (stepAt e observed index a w).after.trace :=
      (isPrefix_opening ..).trans (grows_perform ..).trace.isPrefix
    -- what was recorded last are the callbacks of the stop, those behind the action, or the rest
    rcases runFrom_cons_cases e observed index a rest w with
      ⟨-, hr, -⟩ | ⟨-, r, hs, hr, -⟩ | ⟨-, v, hs, hr, -⟩ <;> rw [hr]
    · exact (extends_stop ..).isPrefix
    · exact hstep.trans (extends_settle_error hs).isPrefix
    · exact (hstep.trans (grows_settle_ok hs).trace.isPrefix).trans ih

/-- **A step is the performance of its action**, and the actions are performed in order. -/
theorem performedFrom_getElem? {actions : List Action} :
    ∀ {index : Nat} {w : World} {k : Nat} {s : Performed},
      (performedFrom e observed index actions w)[k]? = some s →
      s.index = index + k ∧ actions[k]? = some s.action ∧
        perform e s.action.kind s.before = (s.result, s.after) ∧
        s.after.trace <+: (runFrom e observed index actions w).2.trace := by
  induction actions with
  | nil => intro index w k s h; simp [performedFrom] at h
  | cons a rest ih =>
    intro index w k s h
    rcases runFrom_cons_cases e observed index a rest w with
      ⟨-, -, hp⟩ | ⟨-, r, hs, hr, hp⟩ | ⟨-, v, hs, hr, hp⟩ <;> rw [hp] at h
    · simp at h
    -- the first step is the last one, too
    · obtain ⟨rfl, rfl⟩ : k = 0 ∧ stepAt e observed index a w = s := by
        cases k <;> simp_all
      rw [hr]
      exact ⟨rfl, rfl, rfl, (extends_settle_error hs).isPrefix⟩
    · rw [hr]
      cases k with
      | zero =>
        obtain rfl : stepAt e observed index a w = s := by simpa using h
        exact ⟨rfl, rfl, rfl, (grows_settle_ok hs).trace.isPrefix.trans isPrefix_runFrom⟩
      | succ k =>
        obtain ⟨hi, ha, hperf, htrace⟩ := ih (by simpa using h)
        exact ⟨by omega, by simpa using ha, hperf, htrace⟩

/-- **A step follows one that was done**, with only callbacks between them. -/
theorem performedFrom_succ {actions : List Action} :
    ∀ {index : Nat} {w : World} {k : Nat} {s s' : Performed},
      (performedFrom e observed index actions w)[k]? = some s →
      (performedFrom e observed index actions w)[k + 1]? = some s' →
      s.result = .done ∧ Extends Event.IsCallback s.after.trace s'.before.trace := by
  induction actions with
  | nil => intro index w k s s' h; simp [performedFrom] at h
  | cons a rest ih =>
    intro index w k s s' h h'
    rcases runFrom_cons_cases e observed index a rest w with
      ⟨-, -, hp⟩ | ⟨-, r, -, -, hp⟩ | ⟨-, v, hs, -, hp⟩ <;> rw [hp] at h h'
    · simp at h
    · simp at h'
    · cases k with
      | succ k => exact ih (by simpa using h) (by simpa using h')
      | zero =>
        obtain rfl : stepAt e observed index a w = s := by simpa using h
        refine ⟨(settle_eq_ok hs).1,
          ((grows_settle_ok hs).trace.mono fun _ => Event.IsReport.isCallback).trans ?_⟩
        -- the next step is the first one of the rest, behind its opening
        cases rest with
        | nil => simp [performedFrom] at h'
        | cons a' rest =>
          rcases runFrom_cons_cases e observed (index + 1) a' rest v with
            ⟨-, -, hp'⟩ | ⟨-, r, -, -, hp'⟩ | ⟨-, u, -, -, hp'⟩ <;> simp [hp'] at h'
          · subst h'
            exact extends_opening observed _ _ _ trivial
          · subst h'
            exact extends_opening observed _ _ _ trivial

/-- **All that is not a callback is recorded in a step.** -/
theorem exists_performedFrom {actions : List Action} :
    ∀ {index : Nat} {w : World} {n : Nat} {x : Entry},
      (runFrom e observed index actions w).2.trace[n]? = some x → w.trace.length ≤ n →
      ¬ x.event.IsCallback →
      ∃ s ∈ performedFrom e observed index actions w,
        s.before.trace.length ≤ n ∧ n < s.after.trace.length := by
  induction actions with
  | nil => exact fun hx hn hnot => absurd ((extends_finish ..).of_getElem? hn hx).isCallback hnot
  | cons a rest ih =>
    intro index w n x hx hn hnot
    have hopen : Extends Event.IsCallback w.trace (opening observed index a w).trace :=
      extends_opening observed index a w trivial
    have hperf : (opening observed index a w).trace <+: (stepAt e observed index a w).after.trace :=
      (grows_perform ..).trace.isPrefix
    rcases runFrom_cons_cases e observed index a rest w with
      ⟨-, hr, -⟩ | ⟨-, r, hs, hr, hp⟩ | ⟨-, v, hs, hr, hp⟩ <;> rw [hr] at hx
    · exact absurd ((extends_stop ..).of_getElem? hn hx).isCallback hnot
    · -- the last step: only callbacks stand around it
      have hafter := extends_settle_error hs
      refine ⟨_, hp ▸ List.mem_singleton_self _, ?_, ?_⟩
      · exact hopen.length_le (hperf.trans hafter.isPrefix) hn hx hnot
      · exact Nat.lt_of_not_le fun hle => hnot (hafter.of_getElem? hle hx).isCallback
    · have hafter := (grows_settle_ok hs).trace
      have hrest : v.trace <+: (runFrom e observed (index + 1) rest v).2.trace := isPrefix_runFrom
      rcases Nat.lt_or_ge n (stepAt e observed index a w).after.trace.length with hlt | hge
      · -- the entry lies in this step
        refine ⟨_, hp ▸ List.mem_cons_self, ?_, hlt⟩
        exact hopen.length_le (hperf.trans (hafter.isPrefix.trans hrest)) hn hx hnot
      · -- the entry lies behind the step and its callbacks
        have hv : v.trace.length ≤ n :=
          hafter.length_le hrest hge hx (mt Event.IsReport.isCallback hnot)
        obtain ⟨s, hs, hsn⟩ := ih hx hv hnot
        exact ⟨s, hp ▸ List.mem_cons_of_mem _ hs, hsn⟩

end KeyPlan.Run
