import KeyPlan.Proofs.Calm

/-!
# Runs side by side

Two runs of the same plan start in worlds with the same calm counterpart, and the second world is
calm. Action by action they come to such worlds again, as long as the first run goes on: every
action that is not cancelled has the same result in both, and the second run is never cancelled.

## Main definitions

* `Run.Performed.Beside`: a step of the first run beside one of the second run

## Main results

* `Run.stepAt_calm`, `Run.settle_calm`: one action in both runs, and what follows it
* `Run.beside_performedFrom`: every step of the first run is beside one of the second run
* `Run.status_runFrom_of_isCalm`: the second run is not cancelled
-/

namespace KeyPlan.Run

variable (e : Engine) (observed : Bool)

/-! ## The same counterpart -/

theorem notify_calm (c : Callback) (w : World) :
    notify observed c w.calm = (notify observed c w).calm := by
  unfold notify
  split
  · exact (World.calm_record (w.tell c.logLine.level c.logLine.text)
      (.callback c w.session.snapshot)).symm
  · rfl

/-- Worlds with the same counterpart have the same one after a callback. -/
theorem notify_congr {w u : World} (h : w.calm = u.calm) (c : Callback) :
    (notify observed c w).calm = (notify observed c u).calm := by
  rw [← notify_calm, h, notify_calm]

/-- A mark in the session is a mark in the counterpart. -/
theorem calm_mark (w : World) (mark : Session → Session)
    (hmark : ∀ s : Session, (mark s.calm).calm = (mark s).calm) :
    { w with session := mark w.session }.calm =
      { w.calm with session := mark w.calm.session }.calm := by
  change { w.calm with session := (mark w.session).calm } =
    { w.calm.calm with session := (mark w.session.calm).calm }
  rw [World.calm_calm, hmark]

theorem mark_congr {w u : World} (h : w.calm = u.calm) (mark : Session → Session)
    (hmark : ∀ s : Session, (mark s.calm).calm = (mark s).calm) :
    { w with session := mark w.session }.calm = { u with session := mark u.session }.calm := by
  rw [calm_mark w mark hmark, h, ← calm_mark u mark hmark]

theorem tell_congr {w u : World} (h : w.calm = u.calm) (level : LogLevel) (text : String) :
    (w.tell level text).calm = (u.tell level text).calm := by
  rw [World.calm_tell, h, World.calm_tell]

theorem opening_congr {w u : World} (h : w.calm = u.calm) (index : Nat) (a : Action) :
    (opening observed index a w).calm = (opening observed index a u).calm :=
  notify_congr observed (mark_congr h (·.startStep index) fun s => s.calm_startStep index)
    (.stepStarted index a)

theorem abort_congr {w u : World} (h : w.calm = u.calm) (index : Nat) (message : String) :
    (abort observed index message w).2.calm = (abort observed index message u).2.calm :=
  notify_congr observed
    (mark_congr (tell_congr h ..) (·.fail message) fun s => s.calm_fail message)
    (.completed false message)

theorem finish_congr {w u : World} (h : w.calm = u.calm) (count : Nat) :
    (finish observed count w).2.calm = (finish observed count u).2.calm :=
  notify_congr observed (tell_congr (mark_congr h Session.complete Session.calm_complete) ..)
    (.completed true (completedMessage count))

theorem refuse_congr {w u : World} (h : w.calm = u.calm) :
    (refuse observed w).2.calm = (refuse observed u).2.calm :=
  notify_congr observed
    (mark_congr (tell_congr h ..) (·.fail permissionDeniedMessage) fun s =>
      s.calm_fail permissionDeniedMessage) (.completed false permissionDeniedMessage)

theorem launch_congr {w u : World} (h : w.calm = u.calm) (count : Nat) :
    (launch observed count w).calm = (launch observed count u).calm :=
  notify_congr observed (tell_congr h ..) .started

/-! ## Calm runs -/

theorem isCalm_notify {w : World} (h : w.IsCalm) (c : Callback) : (notify observed c w).IsCalm :=
  h.grows (P := Event.IsCallback) (grows_notify observed c w trivial)

theorem isCalm_opening {w : World} (h : w.IsCalm) (index : Nat) (a : Action) :
    (opening observed index a w).IsCalm := by
  refine isCalm_notify observed (w := { w with session := w.session.startStep index }) ?_ _
  exact ⟨(Session.token_startStep ..).trans h.token, h.interrupt⟩

theorem isCalm_stepAt {w : World} (h : w.IsCalm) (index : Nat) (a : Action) :
    (stepAt e observed index a w).after.IsCalm :=
  (isCalm_opening observed h index a).grows (grows_perform e a.kind _)

/-- **The same action in two worlds with the same counterpart**: it has the same result, unless it
is cancelled in the first one. -/
theorem stepAt_calm {w u : World} (h : w.calm = u.calm) (hu : u.IsCalm) (index : Nat) (a : Action) :
    let s := stepAt e observed index a w
    let s' := stepAt e observed index a u
    s.before.calm = s'.before.calm ∧
      (s.result ≠ .cancelled → s.result = s'.result ∧ s.after.calm = s'.after.calm) := by
  intro s s'
  have hbefore : s.before.calm = s'.before.calm := opening_congr observed h index a
  refine ⟨hbefore, fun hs => ?_⟩
  have hs' : s'.result ≠ .cancelled := perform_ne_cancelled e (isCalm_opening observed hu index a)
  have hw : perform e a.kind s.before.calm = (s.result, s.after.calm) := perform_calm e hs
  have hw' : perform e a.kind s'.before.calm = (s'.result, s'.after.calm) := perform_calm e hs'
  -- both are performances in the one counterpart
  rw [hbefore] at hw
  exact Prod.mk.inj (hw.symm.trans hw')

/-- **A step of a run beside the same step of one without a cancellation.** Only a delay is
cancelled; any other step has the same result, and records the same. -/
structure Performed.Beside (s s' : Performed) : Prop where
  index : s.index = s'.index
  action : s.action = s'.action
  before : s.before.timeline = s'.before.timeline
  whole : s.result ≠ .cancelled → s.result = s'.result ∧ s.after.timeline = s'.after.timeline
  delay : s.result = .cancelled → ∃ ms, s.action.kind = .delay ms

theorem beside_stepAt {w u : World} (h : w.calm = u.calm) (hu : u.IsCalm) (index : Nat)
    (a : Action) : (stepAt e observed index a w).Beside (stepAt e observed index a u) := by
  obtain ⟨hbefore, hdone⟩ := stepAt_calm e observed h hu index a
  refine ⟨rfl, rfl, World.timeline_eq_of_calm_eq hbefore, fun hs => ?_, kind_of_cancelled e⟩
  obtain ⟨hresult, hafter⟩ := hdone hs
  exact ⟨hresult, World.timeline_eq_of_calm_eq hafter⟩

/-- A calm run goes on behind an action that was done. -/
theorem settle_of_isCalm {u : World} (hu : u.IsCalm) (index : Nat) (a : Action) (isLast : Bool) :
    let told := notify observed (.stepCompleted index) u
    settle e observed index a isLast (.done, u) =
      .ok (if isLast then told else told.sleep (gapAfter e.settings a)) := by
  intro told
  have hp := (isCalm_notify observed hu (.stepCompleted index)).pause (gapAfter e.settings a)
  cases isLast with
  | true => rfl
  | false => simp [settle, hp, told]

/-- **What follows the same action**: if the first run goes on behind it, the other one does so
too. -/
theorem settle_calm {w u v : World} (h : w.calm = u.calm) (hu : u.IsCalm) {index : Nat} {a : Action}
    {isLast : Bool}
    (hs : settle e observed index a isLast
      ((stepAt e observed index a w).result, (stepAt e observed index a w).after) = .ok v) :
    ∃ v', settle e observed index a isLast
        ((stepAt e observed index a u).result, (stepAt e observed index a u).after) = .ok v' ∧
      v.calm = v'.calm ∧ v'.IsCalm := by
  obtain ⟨-, hstep⟩ := stepAt_calm e observed h hu index a
  have hcalm := isCalm_stepAt e observed hu index a
  obtain ⟨hp, hv⟩ := settle_eq_ok hs
  replace hp : (stepAt e observed index a w).result = .done := hp
  obtain ⟨hresult, hafter⟩ := hstep (by rw [hp]; exact nofun)
  have htold := notify_congr observed hafter (.stepCompleted index)
  have hcalm' := isCalm_notify observed hcalm (.stepCompleted index)
  rw [← hresult, hp]
  refine ⟨_, settle_of_isCalm e observed hcalm index a isLast, ?_⟩
  obtain ⟨rfl, rfl⟩ | ⟨rfl, hpause⟩ := hv
  · exact ⟨htold, hcalm'⟩
  · -- a pause that is not cancelled takes both runs equally long
    rw [World.pause_eq_true hpause]
    refine ⟨?_, hcalm'.grows (P := fun _ => False) (World.grows_sleep ..)⟩
    simp only [World.calm_sleep, htold, Bool.false_eq_true, if_false]

/-! ## Steps -/

variable {e observed}

/-- Every step of the rest of a run is beside a step of the rest of the other one. -/
theorem beside_performedFrom {actions : List Action} :
    ∀ {index : Nat} {w u : World} {n : Nat} {s : Performed}, w.calm = u.calm → u.IsCalm →
      (performedFrom e observed index actions w)[n]? = some s →
      ∃ s', (performedFrom e observed index actions u)[n]? = some s' ∧ s.Beside s' := by
  induction actions with
  | nil => intro index w u n s h hu hs; simp [performedFrom] at hs
  | cons a rest ih =>
    intro index w u n s h hu hn
    have hfirst := beside_stepAt e observed h hu index a
    rw [performedFrom_of_settle e observed hu.isCancelled]
    rcases runFrom_cons_cases e observed index a rest w with
      ⟨-, -, hp⟩ | ⟨-, r, -, -, hp⟩ | ⟨-, v, hs, -, hp⟩ <;> rw [hp] at hn
    · simp at hn
    · -- the first run has only this step left
      obtain ⟨rfl, rfl⟩ : n = 0 ∧ stepAt e observed index a w = s := by
        cases n <;> simp_all
      exact ⟨_, rfl, hfirst⟩
    · cases n with
      | zero =>
        obtain rfl : stepAt e observed index a w = s := by simpa using hn
        exact ⟨_, rfl, hfirst⟩
      | succ n =>
        obtain ⟨v', hs', hv, hv'⟩ := settle_calm e observed h hu hs
        obtain ⟨s', hmem, hbeside⟩ := ih hv hv' (by simpa using hn)
        rw [hs']
        exact ⟨s', hmem, hbeside⟩

/-- A run without a cancellation is not cancelled. -/
theorem status_runFrom_of_isCalm {actions : List Action} :
    ∀ {index : Nat} {u : World}, u.IsCalm →
      (runFrom e observed index actions u).1.status ≠ .cancelled := by
  induction actions with
  | nil => exact fun _ => nofun
  | cons a rest ih =>
    intro index u hu
    have hcalm := isCalm_stepAt e observed hu index a
    have hp : (stepAt e observed index a u).result ≠ .cancelled :=
      perform_ne_cancelled e (isCalm_opening observed hu index a)
    rw [runFrom_of_settle e observed hu.isCancelled]
    cases hs : settle e observed index a rest.isEmpty
      ((stepAt e observed index a u).result, (stepAt e observed index a u).after) with
    | ok v => exact ih (hcalm.grows (grows_settle_ok hs))
    | error r =>
      -- of the three ends, the two cancellations do not occur
      rcases settle_eq_error hs with ⟨hc, -⟩ | ⟨message, -, rfl⟩ | ⟨-, -, v, hv, -⟩
      · exact absurd hc hp
      · exact nofun
      · rw [(isCalm_notify observed hcalm _).pause] at hv
        exact nomatch hv

end KeyPlan.Run
