import KeyPlan.Session

/-!
# Marks in a session

A run leaves marks in its session: that a step has started, and in the end a verdict. The session
keeps the largest index of a step and the first verdict, whatever marks come later and wherever
between them it is cancelled.

## Main definitions

* `Verdict`: what is said of a run that was not cancelled
* `Mark`, `Session.mark`, `Session.markAll`: a mark, and what it does to a session
* `Mark.ofRun`: the marks of a run
* `Snapshot.Bears`: the verdict in a snapshot
* `Snapshot.Precedes`: a snapshot and a later one

## Main results

* `Mark.precedes_change`, `Mark.change_ne`: a mark takes nothing back, and it counts if it changes
  something
* `Session.cancel_markAll`: it does not matter when a session is cancelled
* `Session.currentStep_markAll`: the step of a session is the largest one that has started
* `Session.bears_markAll`: the verdict of a session is its first one
-/

namespace KeyPlan

/-- **What is said of a run** that was not cancelled. -/
inductive Verdict where
  | completed
  | failed (message : String)
  deriving DecidableEq, Repr

/-- **A mark that a run leaves in its session.** -/
inductive Mark where
  | start (index : Nat)
  | verdict (v : Verdict)
  deriving DecidableEq, Repr

namespace Mark

/-- The step that has started. -/
def start? : Mark → Option Nat
  | start index => some index
  | verdict _ => none

/-- The verdict. -/
def verdict? : Mark → Option Verdict
  | start _ => none
  | verdict v => some v

/-- What the mark makes of a snapshot, if it changes it. -/
def change : Mark → Snapshot → Option Snapshot
  | start index => Snapshot.startStep? index
  | verdict .completed => Snapshot.complete?
  | verdict (.failed message) => Snapshot.fail? message

/-- **The marks of a run**: the starts of its steps, and its verdict if it has one. -/
def ofRun (steps : List Nat) (v : Option Verdict) : List Mark :=
  steps.map start ++ (v.map verdict).toList

@[simp] theorem start?_ofRun (steps : List Nat) (v : Option Verdict) :
    (ofRun steps v).filterMap start? = steps := by
  have hverdict : (v.map verdict).toList.filterMap start? = [] := by cases v <;> rfl
  rw [ofRun, List.filterMap_append, hverdict, List.append_nil, List.filterMap_map]
  exact List.filterMap_some

@[simp] theorem verdict?_ofRun (steps : List Nat) (v : Option Verdict) :
    (ofRun steps v).filterMap verdict? = v.toList := by
  have hstarts : (steps.map start).filterMap verdict? = [] := by
    rw [List.filterMap_map]
    exact List.filterMap_eq_nil_iff.mpr fun _ _ => rfl
  rw [ofRun, List.filterMap_append, hstarts]
  cases v <;> rfl

end Mark

/-! ## Marks in a snapshot -/

namespace Snapshot

/-- **The verdict that a snapshot bears**, if there is one. -/
structure Bears (s : Snapshot) (v : Option Verdict) : Prop where
  isComplete : s.isComplete = true ↔ v = some .completed
  error : ∀ message, s.error = some message ↔ v = some (.failed message)

/-- **A snapshot and a later one.** What is set stays as it is, and the step does not go back. -/
structure Precedes (s s' : Snapshot) : Prop where
  isCancelled : s.isCancelled = true → s'.isCancelled = true
  currentStep : ∀ index, s.currentStep = some index →
    ∃ index', s'.currentStep = some index' ∧ index ≤ index'
  isComplete : s.isComplete = true → s'.isComplete = true
  error : ∀ message, s.error = some message → s'.error = some message

theorem bears_default : ({} : Snapshot).Bears none := ⟨by simp, by simp⟩

namespace Bears

variable {s : Snapshot} {v : Option Verdict}

theorem isComplete_eq_false (h : s.Bears none) : s.isComplete = false := by
  simpa using h.isComplete

theorem error_eq_none (h : s.Bears none) : s.error = none := by
  simpa [Option.eq_none_iff_forall_ne_some] using h.error

/-- A snapshot that bears a verdict is either complete or has an error. -/
theorem not_both (h : s.Bears v) : ¬ (s.isComplete = true ∧ s.error.isSome = true) := by
  rintro ⟨hcomplete, herror⟩
  obtain ⟨message, hmessage⟩ := Option.isSome_iff_exists.mp herror
  have := (h.isComplete.mp hcomplete).symm.trans ((h.error message).mp hmessage)
  exact nomatch this

/-- Two snapshots with one verdict say the same of it. -/
theorem congr {s' : Snapshot} (h : s.Bears v) (h' : s'.Bears v) :
    s'.isComplete = s.isComplete ∧ s'.error = s.error := by
  constructor
  · rw [Bool.eq_iff_iff, h.isComplete, h'.isComplete]
  · refine Option.ext fun message => ?_
    exact (h'.error message).trans (h.error message).symm

end Bears

namespace Precedes

variable {s s' s'' : Snapshot}

theorem refl (s : Snapshot) : s.Precedes s :=
  ⟨id, fun index h => ⟨index, h, Nat.le_refl index⟩, id, fun _ => id⟩

theorem trans (h : s.Precedes s') (h' : s'.Precedes s'') : s.Precedes s'' := by
  refine ⟨h'.isCancelled ∘ h.isCancelled, ?_, h'.isComplete ∘ h.isComplete, ?_⟩
  · intro index hindex
    obtain ⟨i, hi, hle⟩ := h.currentStep index hindex
    obtain ⟨j, hj, hle'⟩ := h'.currentStep i hi
    exact ⟨j, hj, Nat.le_trans hle hle'⟩
  · exact fun message hmessage => h'.error message (h.error message hmessage)

end Precedes

end Snapshot

namespace Mark

variable {s s' : Snapshot}

/-- A start counts if no later step has started. -/
theorem change_start (index : Nat) (s : Snapshot) :
    (start index).change s =
      if s.currentStep.any (index ≤ ·) then none
      else some { s with currentStep := some index } := by
  rcases s with ⟨isCancelled, _ | current, isComplete, error⟩
  · rfl
  · by_cases h : index ≤ current <;> simp [change, Snapshot.startStep?, h]

/-- A verdict counts if there is none yet. -/
theorem change_verdict (v : Verdict) (s : Snapshot) :
    (verdict v).change s =
      if s.isComplete || s.error.isSome then none
      else some (match v with
        | .completed => { s with isComplete := true }
        | .failed message => { s with error := some message }) := by
  cases v with
  | completed => rfl
  | failed message =>
    rw [Bool.or_comm]
    rfl

/-- A mark does not look at the cancellation. -/
theorem change_cancelled (m : Mark) (s : Snapshot) :
    m.change { s with isCancelled := true } =
      (m.change s).map fun s => { s with isCancelled := true } := by
  cases m with
  | start index =>
    rw [change_start, change_start]
    dsimp only
    split <;> rfl
  | verdict v =>
    rw [change_verdict, change_verdict]
    dsimp only
    split
    · rfl
    · cases v <;> rfl

/-- A mark does not change the cancellation. -/
theorem isCancelled_change {m : Mark} (h : m.change s = some s') :
    s'.isCancelled = s.isCancelled := by
  cases m with
  | start index =>
    rw [change_start, Option.ite_none_left_eq_some] at h
    obtain ⟨-, h⟩ := h
    exact Option.some.inj h ▸ rfl
  | verdict v =>
    rw [change_verdict, Option.ite_none_left_eq_some] at h
    obtain ⟨-, h⟩ := h
    cases v <;> exact Option.some.inj h ▸ rfl

/-- Behind a start the snapshot has the larger one of the two steps. -/
theorem currentStep_start (index : Nat) (s : Snapshot) :
    (((start index).change s).getD s).currentStep =
      some (s.currentStep.elim index (max · index)) := by
  rw [change_start]
  rcases s with ⟨isCancelled, _ | current, isComplete, error⟩
  · rfl
  · by_cases h : index ≤ current
    · simp [h]
    · simp [h, Nat.le_of_not_le h]

/-- A verdict does not change the step. -/
theorem currentStep_verdict (v : Verdict) (s : Snapshot) :
    (((verdict v).change s).getD s).currentStep = s.currentStep := by
  rw [change_verdict]
  split
  · rfl
  · cases v <;> rfl

/-- A start does not change the verdict. -/
theorem bears_start (index : Nat) {v : Option Verdict} (h : s.Bears v) :
    (((start index).change s).getD s).Bears v := by
  rw [change_start]
  split
  · exact h
  · exact ⟨h.isComplete, h.error⟩

/-- **A verdict counts if it is the first one.** -/
theorem bears_verdict (x : Verdict) {v : Option Verdict} (h : s.Bears v) :
    (((verdict x).change s).getD s).Bears (v.or (some x)) := by
  rw [change_verdict]
  cases v with
  | none =>
    have hcomplete := h.isComplete_eq_false
    have herror := h.error_eq_none
    cases x <;> constructor <;> simp [hcomplete, herror, eq_comm]
  | some y =>
    -- the snapshot has a verdict, and the mark leaves it as it is
    have hset : (s.isComplete || s.error.isSome) = true := by
      cases y with
      | completed => rw [h.isComplete.mpr rfl, Bool.true_or]
      | failed message => rw [(h.error message).mpr rfl, Option.isSome_some, Bool.or_true]
    rw [if_pos hset]
    exact h

/-- A mark that counts changes the snapshot. -/
theorem change_ne {m : Mark} (h : m.change s = some s') : s' ≠ s := by
  rintro rfl
  cases m with
  | start index =>
    rw [change_start, Option.ite_none_left_eq_some] at h
    obtain ⟨hlate, h⟩ := h
    have hstep := (congrArg Snapshot.currentStep (Option.some.inj h)).symm
    simp [hstep] at hlate
  | verdict v =>
    rw [change_verdict, Option.ite_none_left_eq_some] at h
    obtain ⟨hunset, h⟩ := h
    cases v with
    | completed =>
      have hcomplete := congrArg Snapshot.isComplete (Option.some.inj h)
      simp [← hcomplete] at hunset
    | failed message =>
      have herror := congrArg Snapshot.error (Option.some.inj h)
      simp [← herror] at hunset

/-- A mark takes nothing back. -/
theorem precedes_change {m : Mark} (h : m.change s = some s') : s.Precedes s' := by
  cases m with
  | start index =>
    rw [change_start, Option.ite_none_left_eq_some] at h
    obtain ⟨hlate, h⟩ := h
    obtain rfl := Option.some.inj h
    refine ⟨id, fun i hi => ⟨index, rfl, ?_⟩, id, fun _ => id⟩
    have : ¬ index ≤ i := by simpa [hi] using hlate
    omega
  | verdict v =>
    rw [change_verdict, Option.ite_none_left_eq_some] at h
    obtain ⟨hunset, h⟩ := h
    have hstep : ∀ i, s.currentStep = some i → ∃ j, s.currentStep = some j ∧ i ≤ j :=
      fun i hi => ⟨i, hi, Nat.le_refl i⟩
    cases v with
    | completed =>
      obtain rfl := Option.some.inj h
      exact ⟨id, hstep, fun _ => rfl, fun _ => id⟩
    | failed message =>
      obtain rfl := Option.some.inj h
      refine ⟨id, hstep, id, fun _ herror => ?_⟩
      -- there was no error before this one
      simp [herror] at hunset

end Mark

/-! ## Marks in a session -/

namespace Session

/-- The session after a mark. -/
def mark (s : Session) (m : Mark) : Session := s.update m.change

/-- **The session after some marks**, in order. -/
def markAll (s : Session) (ms : List Mark) : Session := ms.foldl mark s

theorem complete_eq_mark (s : Session) : s.complete = s.mark (.verdict .completed) := rfl

theorem markAll_cons (s : Session) (m : Mark) (ms : List Mark) :
    s.markAll (m :: ms) = (s.mark m).markAll ms := rfl

theorem markAll_append (s : Session) (ms ms' : List Mark) :
    s.markAll (ms ++ ms') = (s.markAll ms).markAll ms' := List.foldl_append

theorem snapshot_update (s : Session) (change : Snapshot → Option Snapshot) :
    (s.update change).snapshot = (change s.snapshot).getD s.snapshot := by
  unfold update
  cases change s.snapshot <;> rfl

theorem snapshot_mark (s : Session) (m : Mark) :
    (s.mark m).snapshot = (m.change s.snapshot).getD s.snapshot := snapshot_update ..

/-! ### Cancelled in between -/

theorem cancel_eq (s : Session) :
    s.cancel = ⟨true, { s.snapshot with isCancelled := true },
      s.revision + (if s.snapshot.isCancelled then 0 else 1)⟩ := by
  unfold cancel publishCancel requestCancel update Snapshot.cancel?
  by_cases h : s.snapshot.isCancelled = true
  · rcases s with ⟨token, ⟨isCancelled, currentStep, isComplete, error⟩, revision⟩
    simp_all
  · simp [h]

/-- A mark in a cancelled session. -/
theorem cancel_mark (s : Session) (m : Mark) : (s.mark m).cancel = s.cancel.mark m := by
  have hchange := m.change_cancelled s.snapshot
  rw [cancel_eq s, cancel_eq (s.mark m)]
  unfold mark update
  dsimp only
  rw [hchange]
  cases hs : m.change s.snapshot with
  | none => rfl
  | some snapshot =>
    have hkept := Mark.isCancelled_change hs
    dsimp only [Option.map_some]
    rw [hkept, Nat.add_right_comm]

/-- **It does not matter when a session is cancelled.** -/
theorem cancel_markAll (s : Session) (ms : List Mark) :
    (s.markAll ms).cancel = s.cancel.markAll ms := by
  induction ms generalizing s with
  | nil => rfl
  | cons m ms ih => rw [markAll_cons, markAll_cons, ih, cancel_mark]

@[simp] theorem token_markAll (s : Session) (ms : List Mark) :
    (s.markAll ms).token = s.token := by
  induction ms generalizing s with
  | nil => rfl
  | cons m ms ih => rw [markAll_cons, ih, mark, token_update]

theorem isCancelled_mark (s : Session) (m : Mark) :
    (s.mark m).snapshot.isCancelled = s.snapshot.isCancelled := by
  rw [snapshot_mark]
  cases hs : m.change s.snapshot with
  | none => rfl
  | some snapshot => exact Mark.isCancelled_change hs

@[simp] theorem isCancelled_markAll (s : Session) (ms : List Mark) :
    (s.markAll ms).snapshot.isCancelled = s.snapshot.isCancelled := by
  induction ms generalizing s with
  | nil => rfl
  | cons m ms ih => rw [markAll_cons, ih, isCancelled_mark]

@[simp] theorem currentStep_cancel (s : Session) :
    s.cancel.snapshot.currentStep = s.snapshot.currentStep := by rw [cancel_eq]

theorem bears_cancel {s : Session} {v : Option Verdict} (h : s.snapshot.Bears v) :
    s.cancel.snapshot.Bears v := by
  rw [cancel_eq]
  exact ⟨h.isComplete, h.error⟩

/-! ### Step and verdict -/

/-- **The step of a session** is the largest one that has started. -/
theorem currentStep_markAll (s : Session) (ms : List Mark) :
    (s.markAll ms).snapshot.currentStep =
      (s.snapshot.currentStep.toList ++ ms.filterMap Mark.start?).max? := by
  induction ms generalizing s with
  | nil => cases hc : s.snapshot.currentStep <;> exact hc
  | cons m ms ih =>
    rw [markAll_cons, ih, snapshot_mark]
    cases m with
    | verdict v =>
      rw [Mark.currentStep_verdict]
      rfl
    | start index =>
      rw [Mark.currentStep_start]
      cases s.snapshot.currentStep with
      | none => rfl
      | some current => exact (List.max?_cons' ..).trans (List.max?_cons' ..).symm

/-- **The verdict of a session** is its first one. -/
theorem bears_markAll {s : Session} {v : Option Verdict} (h : s.snapshot.Bears v)
    (ms : List Mark) :
    (s.markAll ms).snapshot.Bears (v.or (ms.filterMap Mark.verdict?).head?) := by
  induction ms generalizing s v with
  | nil => simpa [markAll] using h
  | cons m ms ih =>
    rw [markAll_cons]
    cases m with
    | start index =>
      refine ih ?_
      rw [snapshot_mark]
      exact Mark.bears_start index h
    | verdict x =>
      have hx : (s.mark (.verdict x)).snapshot.Bears (v.or (some x)) := by
        rw [snapshot_mark]
        exact Mark.bears_verdict x h
      have := ih hx
      rwa [Option.or_assoc] at this

end Session

end KeyPlan
