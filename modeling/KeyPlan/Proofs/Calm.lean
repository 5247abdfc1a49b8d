import KeyPlan.Proofs.Unnoticed

/-!
# Calm worlds

A world is calm if its session is not cancelled and never will be. Every world has a calm
counterpart, in which nothing of a cancellation is left. All calls, and all ways to wait that a
cancellation does not end, take a world and its counterpart to worlds that are again counterparts,
with the same results. Hence so does every action that is not cancelled.

## Main definitions

* `World.calm`: the calm counterpart of a world
* `World.IsCalm`: a world without a cancellation
* `World.timeline`: the trace of a world without the marks of a cancellation

## Main results

* `World.calm_record`, `World.calm_sleep`: the counterpart later on
* `World.pause_eq_true`: a pause that is not cancelled is like any other way to wait
* `World.unnoticed_calm`: no call notices whether the world is calm
* `Run.perform_calm`: an action in the counterpart
-/

namespace KeyPlan

/-! ## Without a cancellation -/

/-- The snapshot without the mark of a cancellation. -/
def Snapshot.calm (s : Snapshot) : Snapshot := { s with isCancelled := false }

/-- The session without a cancellation. A cancellation counts among the changes, so these are not
counted any more. -/
def Session.calm (s : Session) : Session where
  snapshot := s.snapshot.calm

/-- The event, where a callback has the snapshot without the mark of a cancellation. -/
def Event.calm : Event → Event
  | callback c snapshot => callback c snapshot.calm
  | call c => call c
  | key e result => key e result

/-- The entry without the mark of a cancellation. -/
def Entry.calm (x : Entry) : Entry := { x with event := x.event.calm }

/-- **The calm counterpart of a world**: nothing was cancelled, and nothing will be. -/
def World.calm (w : World) : World :=
  { w with session := w.session.calm, interrupt := {}, trace := w.trace.map Entry.calm }

/-- **The trace of a world**, with the times of its entries, without the marks of a cancellation. -/
def World.timeline (w : World) : List Entry := w.trace.map Entry.calm

/-- **A world without a cancellation**, now or later on. -/
structure World.IsCalm (w : World) : Prop where
  token : w.session.token = false
  interrupt : w.interrupt = {}

namespace Session

@[simp] theorem calm_calm (s : Session) : s.calm.calm = s.calm := rfl

@[simp] theorem calm_cancel (s : Session) : s.cancel.calm = s.calm := by
  unfold cancel publishCancel requestCancel update Snapshot.cancel?
  by_cases h : s.snapshot.isCancelled <;> simp [h, calm, Snapshot.calm]

/-- A change that does not look at the cancellation changes the counterpart in the same way. -/
theorem calm_update {change : Snapshot → Option Snapshot}
    (h : ∀ s, change s.calm = (change s).map Snapshot.calm) (s : Session) :
    (s.calm.update change).calm = (s.update change).calm := by
  have hs := h s.snapshot
  unfold update
  rw [show s.calm.snapshot = s.snapshot.calm from rfl, hs]
  cases change s.snapshot <;> rfl

theorem calm_startStep (s : Session) (index : Nat) :
    (s.calm.startStep index).calm = (s.startStep index).calm := by
  refine calm_update (fun x => ?_) s
  unfold Snapshot.startStep?
  rw [show x.calm.currentStep = x.currentStep from rfl]
  cases x.currentStep with
  | none => rfl
  | some current =>
    dsimp only
    split <;> rfl

theorem calm_complete (s : Session) : s.calm.complete.calm = s.complete.calm := by
  refine calm_update (fun x => ?_) s
  unfold Snapshot.complete?
  rw [show x.calm.isComplete = x.isComplete from rfl, show x.calm.error = x.error from rfl]
  split <;> rfl

theorem calm_fail (s : Session) (message : String) :
    (s.calm.fail message).calm = (s.fail message).calm := by
  refine calm_update (fun x => ?_) s
  unfold Snapshot.fail?
  rw [show x.calm.isComplete = x.isComplete from rfl, show x.calm.error = x.error from rfl]
  split <;> rfl

end Session

/-! ## Worlds and calls -/

namespace World

@[simp] theorem calm_calm (w : World) : w.calm.calm = w.calm := by
  have h : Entry.calm ∘ Entry.calm = Entry.calm := by
    funext ⟨t, ev⟩
    cases ev <;> rfl
  simp [calm, h]

theorem timeline_eq_of_calm_eq {w u : World} (h : w.calm = u.calm) : w.timeline = u.timeline :=
  congrArg World.trace h

theorem isCalm_calm (w : World) : w.calm.IsCalm := ⟨rfl, rfl⟩

/-- Where the session is fresh, the counterpart is the same world without an interrupt. -/
example (w : World) (i : Interrupt) :
    { w with session := {}, interrupt := i, trace := [] }.calm =
      { w with session := {}, interrupt := {}, trace := [] } := rfl

theorem IsCalm.isCancelled {w : World} (h : w.IsCalm) : w.isCancelled = false := h.token

/-- A calm world stays calm. -/
theorem IsCalm.grows {P : Event → Prop} {w v : World} {cut : Prop} (h : w.IsCalm)
    (hg : Grows P w v cut) : v.IsCalm := by
  refine ⟨?_, hg.interrupt.trans h.interrupt⟩
  rcases hg.session with hs | ⟨-, hi⟩
  · rw [hs]
    exact h.token
  · exact absurd h.interrupt hi

@[simp] theorem calm_cancel (w : World) : w.cancel.calm = w.calm := by
  simp [cancel, calm]

@[simp] theorem calm_tell (w : World) (level : LogLevel) (text : String) :
    (w.tell level text).calm = w.calm.tell level text := rfl

theorem calm_record (w : World) (ev : Event) : (w.record ev).calm = w.calm.record ev.calm := by
  -- the counterpart has no interrupt, so recording does not cancel it
  have hcalm : w.calm.record ev.calm =
      { w.calm with trace := w.calm.trace ++ [⟨w.now, ev.calm⟩] } := rfl
  rw [hcalm]
  unfold record
  dsimp only
  split <;> simp [calm, cancel, Entry.calm]

theorem calm_advanceTo (w : World) (time : Nat) :
    (w.advanceTo time).calm = w.calm.advanceTo time := by
  have hcalm : w.calm.advanceTo time = { w.calm with now := time } := rfl
  rw [hcalm]
  unfold advanceTo
  dsimp only
  split
  · split
    · exact calm_cancel _
    · rfl
  · rfl

@[simp] theorem calm_sleep (w : World) (ms : Nat) : (w.sleep ms).calm = w.calm.sleep ms := by
  unfold sleep
  split
  · rfl
  · exact calm_advanceTo ..

/-- **A pause that is not cancelled** is like any other way to wait. -/
theorem pause_eq_true {w v : World} {ms : Nat} (h : w.pause ms = (true, v)) : v = w.sleep ms := by
  unfold pause at h
  unfold sleep
  by_cases hc : w.isCancelled
  · simp [hc] at h
  · rw [if_neg hc] at h
    by_cases hms : ms = 0
    · simpa [hms] using h.symm
    · rw [if_neg hms] at h ⊢
      split at h
      · split at h
        · exact nomatch h
        · exact (Prod.mk.inj h).2.symm
      · exact (Prod.mk.inj h).2.symm

/-- In a calm world no pause is cancelled. -/
theorem IsCalm.pause {w : World} (h : w.IsCalm) (ms : Nat) : w.pause ms = (true, w.sleep ms) := by
  unfold World.pause sleep
  rw [h.isCancelled, h.interrupt]
  by_cases hms : ms = 0 <;> simp [hms]

/-- **No call notices whether the world is calm.** -/
theorem unnoticed_calm : Unnoticed World.calm where
  now _ := rfl
  calls _ := rfl
  activated _ := rfl
  tell _ _ _ := rfl
  recordCall w c := (calm_record w (.call c)).symm
  recordKey w e result := (calm_record w (.key e result)).symm
  sleep w ms := (calm_sleep w ms).symm
  withCalls _ _ := rfl
  withActivated _ _ := rfl

end World

/-! ## Actions -/

namespace Run

/-- **An action in the counterpart** has the same result, unless it is cancelled. -/
theorem perform_calm (e : Engine) {kind : ActionKind} {w : World}
    (h : (perform e kind w).1 ≠ .cancelled) :
    perform e kind w.calm = ((perform e kind w).1, (perform e kind w).2.calm) := by
  refine World.unnoticed_calm.perform e fun ms hkind => ?_
  subst hkind
  rw [perform_delay] at h
  rw [(World.isCalm_calm w).pause]
  -- only in the first world the pause may be cancelled, and there `h` excludes it
  rcases hp : w.pause ms.toNat with ⟨_ | _, v⟩ <;> rw [hp] at h
  · exact absurd rfl h
  · rw [World.pause_eq_true hp, World.calm_sleep]

/-- In a calm world no action is cancelled. -/
theorem perform_ne_cancelled (e : Engine) {kind : ActionKind} {w : World} (h : w.IsCalm) :
    (perform e kind w).1 ≠ .cancelled := by
  intro hp
  obtain ⟨ms, rfl⟩ := kind_of_cancelled e hp
  rw [perform_delay, h.pause] at hp
  exact nomatch hp

end Run

end KeyPlan
