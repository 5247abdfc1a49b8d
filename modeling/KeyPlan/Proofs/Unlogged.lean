import KeyPlan.Execute
import KeyPlan.Proofs.Unnoticed

/-!
# The log is only written

Nothing that happens in a world depends on its log. Lines that were there before stay in front of
all that is told later, and nothing else changes with them. Hence worlds that differ in their logs
alone have the same activations, pauses and runs, up to the log.

## Main definitions

* `World.withPast`: a world whose log begins with earlier lines
* `World.unlogged`: a world without its log
* `World.SameButLog`: results that differ in the log alone

## Main results

* `Run.run_withPast`: a run behind earlier lines
* `World.sameButLog_of_withPast`: what leaves earlier lines alone does not look at the log
-/

namespace KeyPlan

namespace World

/-- **The world whose log begins with earlier lines.** -/
def withPast (past : List LogLine) (w : World) : World := { w with log := past ++ w.log }

/-- **The world without its log.** -/
def unlogged (w : World) : World := { w with log := [] }

/-- **Two results that differ in the log alone**: the values are the same, and so are clock, calls,
session and trace of the worlds. -/
def SameButLog {α : Type} (x y : α × World) : Prop := x.1 = y.1 ∧ x.2.unlogged = y.2.unlogged

theorem SameButLog.symm {α : Type} {x y : α × World} (h : SameButLog x y) : SameButLog y x :=
  ⟨h.1.symm, h.2.symm⟩

theorem SameButLog.trans {α : Type} {x y z : α × World} (h : SameButLog x y)
    (h' : SameButLog y z) : SameButLog x z := ⟨h.1.trans h'.1, h.2.trans h'.2⟩

theorem withPast_unlogged (w : World) : w.unlogged.withPast w.log = w := by
  simp [withPast, unlogged]

theorem unlogged_withPast (past : List LogLine) (w : World) :
    (w.withPast past).unlogged = w.unlogged := rfl

@[simp] theorem unlogged_tell (w : World) (level : LogLevel) (text : String) :
    (w.tell level text).unlogged = w.unlogged := rfl

/-- **What leaves earlier lines alone does not look at the log.** -/
theorem sameButLog_of_withPast {α : Type} {f : World → α × World}
    (hf : ∀ past w, f (w.withPast past) = ((f w).1, (f w).2.withPast past)) {w v : World}
    (h : w.unlogged = v.unlogged) : SameButLog (f w) (f v) := by
  have hbare (u : World) : SameButLog (f u) (f u.unlogged) := by
    have hu := hf u.log u.unlogged
    rw [withPast_unlogged] at hu
    rw [hu]
    exact ⟨rfl, unlogged_withPast ..⟩
  exact (hbare w).trans (h ▸ (hbare v).symm)

variable (past : List LogLine) (w : World)

theorem tell_withPast (level : LogLevel) (text : String) :
    (w.withPast past).tell level text = (w.tell level text).withPast past := by
  simp [tell, withPast]

theorem record_withPast (event : Event) :
    (w.withPast past).record event = (w.record event).withPast past := by
  unfold record
  rw [show (w.withPast past).interrupt = w.interrupt from rfl,
    show (w.withPast past).trace = w.trace from rfl]
  split <;> rfl

theorem advanceTo_withPast (time : Nat) :
    (w.withPast past).advanceTo time = (w.advanceTo time).withPast past := by
  unfold advanceTo
  rw [show (w.withPast past).interrupt = w.interrupt from rfl]
  split
  · split <;> rfl
  · rfl

theorem sleep_withPast (ms : Nat) :
    (w.withPast past).sleep ms = (w.sleep ms).withPast past := by
  unfold sleep
  split
  · rfl
  · exact advanceTo_withPast ..

theorem pause_withPast (ms : Nat) :
    (w.withPast past).pause ms = ((w.pause ms).1, (w.pause ms).2.withPast past) := by
  rw [pause, pause]
  simp only [advanceTo_withPast, show (w.withPast past).isCancelled = w.isCancelled from rfl,
    show (w.withPast past).interrupt = w.interrupt from rfl,
    show (w.withPast past).now = w.now from rfl]
  split
  · rfl
  · split
    · rfl
    · split
      · split <;> rfl
      · rfl

/-- **No call notices earlier lines.** -/
theorem unnoticed_withPast : Unnoticed (withPast past) where
  now _ := rfl
  calls _ := rfl
  activated _ := rfl
  tell := tell_withPast past
  recordCall w c := record_withPast past w (.call c)
  recordKey w e result := record_withPast past w (.key e result)
  sleep := sleep_withPast past
  withCalls _ _ := rfl
  withActivated _ _ := rfl

end World

/-! ## Runs -/

namespace Run

variable (e : Engine) (observed : Bool) (past : List LogLine)

theorem notify_withPast (c : Callback) (w : World) :
    notify observed c (w.withPast past) = (notify observed c w).withPast past := by
  unfold notify
  split
  · dsimp only
    rw [World.tell_withPast, World.record_withPast]
    rfl
  · rfl

theorem opening_withPast (index : Nat) (a : Action) (w : World) :
    opening observed index a (w.withPast past) = (opening observed index a w).withPast past :=
  notify_withPast observed past (.stepStarted index a)
    { w with session := w.session.startStep index }

theorem perform_withPast (kind : ActionKind) (w : World) :
    perform e kind (w.withPast past) =
      ((perform e kind w).1, (perform e kind w).2.withPast past) :=
  (World.unnoticed_withPast past).perform e fun ms _ => World.pause_withPast past w ms.toNat

theorem stop_withPast (index : Nat) (w : World) :
    stop observed index (w.withPast past) =
      ((stop observed index w).1, (stop observed index w).2.withPast past) := by
  simp only [stop, notify_withPast]

theorem abort_withPast (index : Nat) (message : String) (w : World) :
    abort observed index message (w.withPast past) =
      ((abort observed index message w).1, (abort observed index message w).2.withPast past) := by
  unfold abort
  dsimp only
  rw [World.tell_withPast, ← notify_withPast]
  rfl

theorem finish_withPast (count : Nat) (w : World) :
    finish observed count (w.withPast past) =
      ((finish observed count w).1, (finish observed count w).2.withPast past) := by
  unfold finish
  dsimp only
  rw [← notify_withPast, ← World.tell_withPast]
  rfl

theorem refuse_withPast (w : World) :
    refuse observed (w.withPast past) =
      ((refuse observed w).1, (refuse observed w).2.withPast past) := by
  unfold refuse
  dsimp only
  rw [World.tell_withPast, ← notify_withPast]
  rfl

theorem launch_withPast (count : Nat) (w : World) :
    launch observed count (w.withPast past) = (launch observed count w).withPast past := by
  simp only [launch, World.tell_withPast, notify_withPast]

/-- What follows the performance of an action, behind earlier lines. -/
theorem settle_withPast (index : Nat) (a : Action) (isLast : Bool) (p : Performance) (w : World) :
    settle e observed index a isLast (p, w.withPast past) =
      match settle e observed index a isLast (p, w) with
      | .error (o, v) => .error (o, v.withPast past)
      | .ok v => .ok (v.withPast past) := by
  cases p with
  | cancelled => simp only [settle, stop_withPast]
  | failed message => simp only [settle, abort_withPast]
  | done =>
    simp only [settle, notify_withPast]
    split
    · rfl
    · rw [World.pause_withPast]
      rcases (notify observed (.stepCompleted index) w).pause (gapAfter e.settings a) with
        ⟨_ | _, v⟩
      · simp only [stop_withPast]
      · rfl

theorem runFrom_withPast (actions : List Action) :
    ∀ (index : Nat) (w : World), runFrom e observed index actions (w.withPast past) =
      ((runFrom e observed index actions w).1,
        (runFrom e observed index actions w).2.withPast past) := by
  induction actions with
  | nil => exact fun index w => finish_withPast observed past index w
  | cons a rest ih =>
    intro index w
    rw [runFrom, runFrom, opening_withPast, perform_withPast, settle_withPast,
      show (w.withPast past).isCancelled = w.isCancelled from rfl]
    split
    · exact stop_withPast ..
    · rcases settle e observed index a rest.isEmpty
        (perform e a.kind (opening observed index a w)) with r | v
      · rfl
      · exact ih (index + 1) v

/-- **A run behind earlier lines** is the same run. -/
theorem run_withPast (actions : List Action) (w : World) :
    run e observed actions (w.withPast past) =
      ((run e observed actions w).1, (run e observed actions w).2.withPast past) := by
  unfold run
  split
  · rw [launch_withPast, runFrom_withPast]
  · exact refuse_withPast ..

end Run

end KeyPlan
