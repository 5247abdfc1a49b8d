import KeyPlan.Proofs.Callbacks
import KeyPlan.Proofs.Cancellation

/-!
# What a run leaves in its session

A run marks the start of each of its steps in the session, and in the end its verdict, if it has
one. So the session of a run that was its first one says of that run what the outcome says.

## Main definitions

* `Outcome.verdict?`: the verdict of an outcome
* `Session.Unused`: a session before its first run
* `Trace.started`: the steps whose start the observer was told of

## Main results

* `Run.leaves_run`: the marks of a run
* `Run.index_performedFrom`, `Run.executed_runFrom`: how many steps a run has
* `Run.token_of_status`: a run is cancelled only if its session is
* `Run.session_agrees`: outcome and session agree
-/

namespace KeyPlan

/-- **The verdict on a run**, unless it was cancelled. -/
def Outcome.verdict? (o : Outcome) : Option Verdict :=
  match o.status with
  | .completed => some .completed
  | .failed => some (.failed o.message)
  | .cancelled => none

theorem Outcome.verdict?_eq_completed {o : Outcome} :
    o.verdict? = some .completed ↔ o.status = .completed := by
  unfold verdict?
  cases o.status <;> simp

theorem Outcome.verdict?_eq_failed {o : Outcome} {message : String} :
    o.verdict? = some (.failed message) ↔ o.status = .failed ∧ o.message = message := by
  unfold verdict?
  cases o.status <;> simp

/-- **A session before its first run**, which may be cancelled. -/
structure Session.Unused (s : Session) : Prop where
  published : s.Published
  currentStep : s.snapshot.currentStep = none
  bears : s.snapshot.Bears none

theorem Session.unused_fresh : ({} : Session).Unused := ⟨rfl, rfl, Snapshot.bears_default⟩

/-- A cancelled session before its first run has nothing but the cancellation. -/
theorem Session.Unused.snapshot_cancel {s : Session} (h : s.Unused) :
    s.cancel.snapshot = { isCancelled := true } := by
  rw [Session.cancel_eq, Snapshot.mk.injEq]
  exact ⟨rfl, h.currentStep, h.bears.isComplete_eq_false, h.bears.error_eq_none⟩

/-- The step whose start the event is. -/
def Event.started? : Event → Option Nat
  | callback (.stepStarted index _) _ => some index
  | _ => none

/-- **The steps whose start the observer was told of**, in order. -/
def Trace.started (es : List Entry) : List Nat := es.filterMap (·.event.started?)

theorem Event.IsReport.started?_eq_none {ev : Event} (h : ev.IsReport) : ev.started? = none := by
  cases ev with
  | callback c s =>
    cases c with
    | stepStarted index a => exact absurd h id
    | _ => rfl
  | _ => rfl

theorem Event.started?_eq_none {ev : Event} (h : ¬ ev.IsCallback) : ev.started? = none := by
  cases ev with
  | callback c s => exact absurd trivial h
  | _ => rfl

namespace World.Leaves

variable {ms : List Mark} {w v : World} {cut : Prop}

/-- A session that is cancelled stays so. -/
theorem token (h : Leaves ms w v cut) (hw : w.session.token = true) : v.session.token = true := by
  rcases h.session with ⟨hs, -⟩ | ⟨hs, -⟩ <;> rw [hs]
  · rwa [Session.token_markAll]
  · exact Session.token_cancel _

/-- Behind the planned cancellation the session is cancelled, if it is where a wait was cut
short. -/
theorem token_of_strikes {cut' : Prop} (h : Leaves ms w v cut) (hs : w.Strikes v cut')
    (hcut : cut' → v.session.token = true) : v.session.token = true := by
  rcases h.session with ⟨-, hnot⟩ | ⟨hs, -⟩
  · by_cases hc : cut'
    · exact hcut hc
    · exact absurd (hs.mono hc) hnot
  · rw [hs]
    exact Session.token_cancel _

theorem published (h : Leaves ms w v cut) (hw : w.session.Published) : v.session.Published := by
  rcases h.session with ⟨hs, -⟩ | ⟨hs, -⟩ <;> rw [hs]
  · rwa [Session.Published, Session.isCancelled_markAll, Session.token_markAll]
  · exact Session.published_cancel _

/-- The step of the session, cancelled or not. -/
theorem currentStep (h : Leaves ms w v cut) :
    v.session.snapshot.currentStep =
      (w.session.snapshot.currentStep.toList ++ ms.filterMap Mark.start?).max? := by
  rcases h.session with ⟨hs, -⟩ | ⟨hs, -⟩ <;> rw [hs]
  · exact Session.currentStep_markAll ..
  · rw [Session.currentStep_cancel, Session.currentStep_markAll]

/-- The verdict of the session, cancelled or not. -/
theorem bears {x : Option Verdict} (h : Leaves ms w v cut) (hw : w.session.snapshot.Bears x) :
    v.session.snapshot.Bears (x.or (ms.filterMap Mark.verdict?).head?) := by
  rcases h.session with ⟨hs, -⟩ | ⟨hs, -⟩ <;> rw [hs]
  · exact Session.bears_markAll hw ms
  · exact Session.bears_cancel (Session.bears_markAll hw ms)

end World.Leaves

namespace Run

open World (Leaves)

variable (e : Engine) (observed : Bool)

/-! ## Marks -/

theorem leaves_notify (c : Callback) (w : World) : Leaves [] w (notify observed c w) :=
  (grows_notify (P := Event.IsCallback) observed c w trivial).leaves

/-- A line in the log leaves no mark. -/
theorem leaves_tell (w : World) (level : LogLevel) (text : String) :
    Leaves [] w (w.tell level text) := (World.grows_tell (P := Event.IsCallback) ..).leaves

theorem leaves_stepAt (index : Nat) (a : Action) (w : World) :
    Leaves [.start index] w (stepAt e observed index a w).after
      ((stepAt e observed index a w).result = .cancelled) :=
  (((World.leaves_mark w (.start index)).trans (leaves_notify ..)).uncut).trans
    (grows_perform ..).leaves

theorem leaves_stop (index : Nat) (w : World) : Leaves [] w (stop observed index w).2 :=
  (leaves_notify observed (.cancelled index) w).trans (leaves_notify ..)

theorem leaves_abort (index : Nat) (message : String) (w : World) :
    Leaves [.verdict (.failed message)] w (abort observed index message w).2 :=
  ((leaves_tell w _ _).trans (World.leaves_mark _ (.verdict (.failed message)))).trans
    (leaves_notify ..)

theorem leaves_finish (count : Nat) (w : World) :
    Leaves [.verdict .completed] w (finish observed count w).2 :=
  ((World.leaves_mark w (.verdict .completed)).trans (leaves_tell _ _ _)).trans (leaves_notify ..)

theorem leaves_refuse (w : World) :
    Leaves [.verdict (.failed permissionDeniedMessage)] w (refuse observed w).2 :=
  ((leaves_tell w _ _).trans
    (World.leaves_mark _ (.verdict (.failed permissionDeniedMessage)))).trans (leaves_notify ..)

variable {e observed}

theorem status_of_cancelled {index : Nat} {a : Action} {isLast : Bool} {p : Performance × World}
    {r : Outcome × World} (h : settle e observed index a isLast p = .error r)
    (hp : p.1 = .cancelled) : r.1.status = .cancelled := by
  rcases settle_eq_error h with ⟨-, rfl⟩ | ⟨message, hm, -⟩ | ⟨hd, -⟩
  · rfl
  · exact nomatch hp.symm.trans hm
  · exact nomatch hp.symm.trans hd

theorem leaves_settle_error {index : Nat} {a : Action} {isLast : Bool} {p : Performance × World}
    {r : Outcome × World} (h : settle e observed index a isLast p = .error r) :
    Leaves (Mark.ofRun [] r.1.verdict?) p.2 r.2 (r.1.status = .cancelled) := by
  rcases settle_eq_error h with ⟨-, rfl⟩ | ⟨message, -, rfl⟩ | ⟨-, -, v, hp, rfl⟩
  · exact (leaves_stop ..).uncut
  · exact (leaves_abort ..).uncut
  · have hpause := (World.grows_pause (P := Event.IsCallback)
      (notify observed (.stepCompleted index) p.2) (gapAfter e.settings a)).leaves
    rw [hp] at hpause
    exact (((leaves_notify observed (.stepCompleted index) p.2).uncut).trans
      (hpause.mono fun _ => rfl)).trans ((leaves_stop ..).uncut)

/-- **The marks of the rest of a run** are the starts of its steps and its verdict. If a wait was
cut short, the run was cancelled. -/
theorem leaves_runFrom {actions : List Action} :
    ∀ {index : Nat} {w : World},
      Leaves (Mark.ofRun ((performedFrom e observed index actions w).map Performed.index)
        (runFrom e observed index actions w).1.verdict?) w
        (runFrom e observed index actions w).2
        ((runFrom e observed index actions w).1.status = .cancelled) := by
  induction actions with
  | nil => exact (leaves_finish ..).uncut
  | cons a rest ih =>
    intro index w
    have hstep := leaves_stepAt e observed index a w
    rcases runFrom_cons_cases e observed index a rest w with
      ⟨-, hr, hp⟩ | ⟨-, r, hs, hr, hp⟩ | ⟨-, v, hs, hr, hp⟩ <;> rw [hr, hp]
    · -- cancelled before the action, so the step has not started
      exact (leaves_stop ..).uncut
    · exact (hstep.mono (status_of_cancelled hs)).trans (leaves_settle_error hs)
    · -- the action is done, so no wait was cut short
      have hdone := (settle_eq_ok hs).1
      refine (hstep.mono fun hcut => nomatch hcut.symm.trans hdone).trans ?_
      exact ((grows_settle_ok hs).leaves.uncut).trans ih

/-- **The marks of a run.** -/
theorem leaves_run {actions : List Action} {w : World} :
    Leaves (Mark.ofRun ((performed e observed actions w).map Performed.index)
      (run e observed actions w).1.verdict?) w (run e observed actions w).2
      ((run e observed actions w).1.status = .cancelled) := by
  cases hperm : e.backend.permitted with
  | false =>
    have hsteps : performed e observed actions w = [] := by simp [performed, hperm]
    rw [run_of_not_permitted e observed hperm, hsteps]
    exact (leaves_refuse ..).uncut
  | true =>
    rw [run_of_permitted e observed hperm, performed_of_permitted e observed hperm]
    exact ((grows_launch observed actions.length w).leaves.uncut).trans leaves_runFrom

/-! ## Steps -/

/-- The steps of a run have consecutive indices. -/
theorem index_performedFrom {actions : List Action} {index : Nat} {w : World} :
    (performedFrom e observed index actions w).map Performed.index =
      List.range' index (performedFrom e observed index actions w).length := by
  apply List.ext_getElem?
  intro k
  rw [List.getElem?_map]
  cases hk : (performedFrom e observed index actions w)[k]? with
  | none =>
    rw [List.getElem?_eq_none_iff] at hk
    simpa using hk
  | some s =>
    obtain ⟨hlt, -⟩ := List.getElem?_eq_some_iff.mp hk
    obtain ⟨hindex, -⟩ := performedFrom_getElem? hk
    simp [hlt, hindex]

/-- **How many actions are finished**: as many as there are steps, or all but the last one. -/
theorem executed_runFrom {actions : List Action} :
    ∀ {index : Nat} {w : World},
      let executed := (runFrom e observed index actions w).1.executed
      let count := (performedFrom e observed index actions w).length
      executed ≤ index + count ∧ index + count ≤ executed + 1 := by
  induction actions with
  | nil => exact fun {index w} => ⟨Nat.le_refl _, Nat.le_succ _⟩
  | cons a rest ih =>
    intro index w
    rcases runFrom_cons_cases e observed index a rest w with
      ⟨-, hr, hp⟩ | ⟨-, r, hs, hr, hp⟩ | ⟨-, v, hs, hr, hp⟩ <;> rw [hr, hp]
    · exact ⟨Nat.le_refl _, Nat.le_succ _⟩
    · -- an action that was cancelled or failed is not finished, one behind which the pause was is
      rcases settle_eq_error hs with ⟨-, rfl⟩ | ⟨message, -, rfl⟩ | ⟨-, -, v, -, rfl⟩
      · exact ⟨Nat.le_succ _, Nat.le_refl _⟩
      · exact ⟨Nat.le_succ _, Nat.le_refl _⟩
      · exact ⟨Nat.le_refl _, Nat.le_succ _⟩
    · have hrest := @ih (index + 1) v
      simp only [List.length_cons]
      omega

/-- The observer is told of the start of every step. -/
theorem started_runFrom {actions : List Action} :
    ∀ {index : Nat} {w : World},
      Trace.started (runFrom e true index actions w).2.trace =
        Trace.started w.trace ++ (performedFrom e true index actions w).map Performed.index := by
  induction actions with
  | nil =>
    intro index w
    rw [performedFrom, List.map_nil, List.append_nil]
    exact (extends_finish ..).filterMap_eq fun _ => Event.IsReport.started?_eq_none
  | cons a rest ih =>
    intro index w
    have hstep : Trace.started (stepAt e true index a w).after.trace =
        Trace.started w.trace ++ [index] := by
      refine ((grows_perform ..).trace.filterMap_eq fun _ => Event.started?_eq_none).trans ?_
      simp only [opening, notify, if_true, World.trace_record, List.filterMap_append]
      rfl
    rcases runFrom_cons_cases e true index a rest w with
      ⟨-, hr, hp⟩ | ⟨-, r, hs, hr, hp⟩ | ⟨-, v, hs, hr, hp⟩ <;> rw [hr, hp]
    · rw [List.map_nil, List.append_nil]
      exact (extends_stop ..).filterMap_eq fun _ => Event.IsReport.started?_eq_none
    · refine Eq.trans ?_ hstep
      exact (extends_settle_error hs).filterMap_eq fun _ => Event.IsReport.started?_eq_none
    · have hv : Trace.started v.trace = Trace.started w.trace ++ [index] := by
        refine Eq.trans ?_ hstep
        exact (grows_settle_ok hs).trace.filterMap_eq fun _ => Event.IsReport.started?_eq_none
      rw [ih, hv, List.append_assoc]
      rfl

/-! ## Cancellation -/

/-- A pause is cut short only in a cancelled session. -/
theorem token_of_pause {w v : World} {ms : Nat} (h : w.pause ms = (false, v)) :
    v.session.token = true := by
  unfold World.pause at h
  split at h
  next hc => exact (Prod.mk.inj h).2 ▸ hc
  next =>
    split at h
    · simp at h
    · split at h
      next t ht =>
        split at h
        · obtain rfl := (Prod.mk.inj h).2
          have hle : t ≤ max t w.now := Nat.le_max_left ..
          simp [World.advanceTo, ht, hle, World.cancel]
        · simp at h
      next => simp at h

/-- An action is cancelled only in a cancelled session. -/
theorem token_of_perform {kind : ActionKind} {w : World}
    (h : (perform e kind w).1 = .cancelled) : (perform e kind w).2.session.token = true := by
  obtain ⟨ms, rfl⟩ := kind_of_cancelled e h
  rw [perform_delay] at h ⊢
  rcases hp : w.pause ms.toNat with ⟨_ | _, v⟩ <;> rw [hp] at h
  · exact token_of_pause hp
  · exact nomatch h

/-- **A run is cancelled only if its session is.** -/
theorem token_of_status {actions : List Action} :
    ∀ {index : Nat} {w : World}, (runFrom e observed index actions w).1.status = .cancelled →
      (runFrom e observed index actions w).2.session.token = true := by
  induction actions with
  | nil => exact fun h => nomatch h
  | cons a rest ih =>
    intro index w
    rcases runFrom_cons_cases e observed index a rest w with
      ⟨hc, hr, -⟩ | ⟨-, r, hs, hr, -⟩ | ⟨-, v, hs, hr, -⟩ <;> rw [hr]
    · exact fun _ => (leaves_stop ..).token hc
    · rcases settle_eq_error hs with ⟨hp, rfl⟩ | ⟨message, -, rfl⟩ | ⟨-, -, v, hp, rfl⟩
      · exact fun _ => (leaves_stop ..).token (token_of_perform hp)
      · exact fun h => nomatch h
      · exact fun _ => (leaves_stop ..).token (token_of_pause hp)
    · exact ih

/-! ## Outcome and session -/

section Whole

variable {actions : List Action} {w : World}

theorem token_run (h : (run e observed actions w).1.status = .cancelled) :
    (run e observed actions w).2.session.token = true := by
  cases hperm : e.backend.permitted with
  | false =>
    rw [run_of_not_permitted e observed hperm] at h
    exact nomatch h
  | true =>
    rw [run_of_permitted e observed hperm] at h ⊢
    exact token_of_status h

/-- In a cancelled session a run stops behind its launch, if it has an action before which it can
stop. -/
theorem run_eq_stop (hperm : e.backend.permitted = true) (hw : w.session.token = true)
    (hne : actions ≠ []) :
    run e observed actions w = stop observed 0 (launch observed actions.length w) ∧
      performed e observed actions w = [] := by
  have hc : (launch observed actions.length w).isCancelled = true :=
    (grows_launch ..).leaves.token hw
  obtain ⟨a, rest, rfl⟩ := List.exists_cons_of_ne_nil hne
  rw [run_of_permitted e observed hperm, performed_of_permitted e observed hperm]
  rcases runFrom_cons_cases e observed 0 a rest (launch observed (a :: rest).length w) with
    ⟨-, hr, hp⟩ | ⟨hf, -⟩ | ⟨hf, -⟩
  · exact ⟨hr, hp⟩
  · exact nomatch hc.symm.trans hf
  · exact nomatch hc.symm.trans hf

theorem started_run :
    Trace.started (run e true actions w).2.trace =
      Trace.started w.trace ++ (performed e true actions w).map Performed.index := by
  cases hperm : e.backend.permitted with
  | false =>
    have hsteps : performed e true actions w = [] := by simp [performed, hperm]
    rw [run_of_not_permitted e true hperm, hsteps, List.map_nil, List.append_nil]
    exact (extends_refuse ..).filterMap_eq fun _ => Event.IsReport.started?_eq_none
  | true =>
    have hlaunch : Trace.started (launch true actions.length w).trace = Trace.started w.trace :=
      (grows_launch ..).trace.filterMap_eq fun _ => Event.IsReport.started?_eq_none
    rw [run_of_permitted e true hperm, performed_of_permitted e true hperm, started_runFrom,
      hlaunch]

/-- All actions before the last step are finished, and that one may be. -/
theorem executed_run {index : Nat}
    (h : ((performed e observed actions w).map Performed.index).max? = some index) :
    (run e observed actions w).1.executed = index ∨
      (run e observed actions w).1.executed = index + 1 := by
  cases hperm : e.backend.permitted with
  | false => simp [performed, hperm] at h
  | true =>
    rw [performed_of_permitted e observed hperm, index_performedFrom, List.max?_eq_some_iff] at h
    rw [run_of_permitted e observed hperm]
    have hbounds := @executed_runFrom e observed actions 0 (launch observed actions.length w)
    generalize (performedFrom e observed 0 actions (launch observed actions.length w)).length = n
      at h hbounds
    obtain ⟨hmem, hmax⟩ := h
    rw [List.mem_range'_1] at hmem
    -- the largest index is that of the last step
    have hlast := hmax (n - 1) (List.mem_range'_1.mpr (by omega))
    omega

/-- The verdict of a session is that of the first run in it. -/
theorem bears_run (hw : w.session.Unused) :
    (run e observed actions w).2.session.snapshot.Bears
      (run e observed actions w).1.verdict? := by
  have hbears := (@leaves_run e observed actions w).bears hw.bears
  rwa [Mark.verdict?_ofRun, Option.none_or, Option.head?_toList] at hbears

/-- **Outcome and session agree** behind the first run in a session. The session is complete exactly
if the run has completed, and its error is the message of a run that has failed. If the run was
cancelled, so is the session, which then has no verdict. Its step is the largest one that has
started, and all actions before that one are finished. -/
theorem session_agrees (hw : w.session.Unused) :
    let o := (run e observed actions w).1
    let v := (run e observed actions w).2
    let steps := (performed e observed actions w).map Performed.index
    (v.session.snapshot.isComplete = true ↔ o.status = .completed) ∧
    (∀ message, v.session.snapshot.error = some message ↔
      o.status = .failed ∧ o.message = message) ∧
    (o.status = .cancelled → v.session.token = true ∧ v.session.snapshot.isCancelled = true ∧
      v.session.snapshot.isComplete = false ∧ v.session.snapshot.error = none) ∧
    (observed = true → Trace.started v.trace = Trace.started w.trace ++ steps) ∧
    v.session.snapshot.currentStep = steps.max? ∧
    ∀ index, v.session.snapshot.currentStep = some index →
      o.executed = index ∨ o.executed = index + 1 := by
  intro o v steps
  have hleaves : Leaves (Mark.ofRun steps o.verdict?) w v _ := leaves_run
  have hbears : v.session.snapshot.Bears o.verdict? := by
    have := hleaves.bears hw.bears
    rwa [Mark.verdict?_ofRun, Option.none_or, Option.head?_toList] at this
  -- the marks of the run are the only ones in the session
  have hstep : v.session.snapshot.currentStep = steps.max? := by
    rw [hleaves.currentStep, Mark.start?_ofRun, hw.currentStep]
    rfl
  refine ⟨hbears.isComplete.trans Outcome.verdict?_eq_completed,
    fun message => (hbears.error message).trans Outcome.verdict?_eq_failed, ?_, ?_, hstep, ?_⟩
  · intro hstatus
    have htoken : v.session.token = true := token_run hstatus
    have hnone : o.verdict? = none := by rw [Outcome.verdict?, hstatus]
    rw [hnone] at hbears
    exact ⟨htoken, (hleaves.published hw.published).trans htoken, hbears.isComplete_eq_false,
      hbears.error_eq_none⟩
  · rintro rfl
    exact started_run
  · intro index hindex
    exact executed_run (hstep.symm.trans hindex)

end Whole

/-- An engine under which the third key event is refused. -/
def jammedEngine : Engine where
  backend :=
    { permitted := true
      running := fun _ => ⟨0, .ok []⟩
      unhide := fun _ => ⟨0, .ok ()⟩
      hasMinimized := fun _ => ⟨0, .ok false⟩
      restore := fun _ => ⟨0, .ok 0⟩
      activate := fun _ => ⟨0, .ok ()⟩
      frontmost := fun _ => ⟨0, .ok (.pid none)⟩
      post := fun n => if n = 2 then .error (.input "jammed") else .ok () }

/-- A pause and a text of two characters. -/
def jammedPlan : List Action := [⟨.delay 20, "wait"⟩, ⟨.typeText "ab", "ab"⟩]

/-- The session is cancelled while the first of two characters is typed, and the second one cannot
be: the run has failed. -/
theorem session_agrees_jammed :
    ({ interrupt := { atEntry := some 5 } } : World).session.Unused ∧
      let v := (run jammedEngine true jammedPlan { interrupt := { atEntry := some 5 } }).2
      v.session.token = true ∧ v.session.snapshot.isComplete = false ∧
        v.session.snapshot.error = some "Input event error: jammed" ∧
        v.session.snapshot.currentStep = some 1 := by
  have hw : ({ interrupt := { atEntry := some 5 } } : World).session.Unused := Session.unused_fresh
  obtain ⟨hcomplete, herror, -, -, hstep, -⟩ :=
    @session_agrees jammedEngine true jammedPlan _ hw
  have hfailed :
      (run jammedEngine true jammedPlan { interrupt := { atEntry := some 5 } }).1 =
        ⟨.failed, "Input event error: jammed", 1⟩ := by decide +kernel
  refine ⟨hw, by decide +kernel, ?_, (herror _).mpr (by rw [hfailed]; exact ⟨rfl, rfl⟩), ?_⟩
  · rw [← Bool.not_eq_true, hcomplete, hfailed]
    exact nofun
  · rw [hstep]
    decide +kernel

end Run

end KeyPlan
