/-!
# Sessions

A session is what a run shares with whoever started it. It has a token that says whether cancelling
was requested, and a snapshot of the run that subscribers are told of whenever it changes. Marks that
a run sets once are never taken back, and the step index only moves forward.

## Main definitions

* `Snapshot`: what a subscriber sees
* `Session`: token, snapshot and number of changes
* `Session.cancel`: a request to cancel, in two parts
* `Session.startStep`, `Session.complete`, `Session.fail`: the marks of a run

## Main results

* `Session.revision_update`: subscribers are told exactly of the changes
* `Session.cancel_cancel`: a second request changes nothing
-/

namespace KeyPlan

/-- **What a subscriber sees** of a run. -/
structure Snapshot where
  isCancelled : Bool := false
  currentStep : Option Nat := none
  isComplete : Bool := false
  error : Option String := none
  deriving DecidableEq, Repr

namespace Snapshot

/-- The snapshot after a request to cancel, if that is the first one. -/
def cancel? (s : Snapshot) : Option Snapshot :=
  if s.isCancelled then none else some { s with isCancelled := true }

/-- The snapshot after the start of a step, if no later step has started. -/
def startStep? (index : Nat) (s : Snapshot) : Option Snapshot :=
  match s.currentStep with
  | some current => if index ≤ current then none else some { s with currentStep := some index }
  | none => some { s with currentStep := some index }

/-- The snapshot after completion, if there is no verdict yet. -/
def complete? (s : Snapshot) : Option Snapshot :=
  if s.isComplete || s.error.isSome then none else some { s with isComplete := true }

/-- The snapshot after a failure, if there is no verdict yet. -/
def fail? (message : String) (s : Snapshot) : Option Snapshot :=
  if s.error.isSome || s.isComplete then none else some { s with error := some message }

end Snapshot

/-- **A session**: the token, the snapshot, and how often subscribers were told of a change. -/
structure Session where
  token : Bool := false
  snapshot : Snapshot := {}
  revision : Nat := 0
  deriving DecidableEq, Repr

namespace Session

/-- The session after a change of its snapshot, if there is one; subscribers are told of it. -/
def update (s : Session) (change : Snapshot → Option Snapshot) : Session :=
  match change s.snapshot with
  | some snapshot => { s with snapshot, revision := s.revision + 1 }
  | none => s

/-- The first part of a request to cancel: the token. -/
def requestCancel (s : Session) : Session := { s with token := true }

/-- The second part of a request to cancel: the snapshot. -/
def publishCancel (s : Session) : Session := s.update Snapshot.cancel?

/-- **A request to cancel.** -/
def cancel (s : Session) : Session := s.requestCancel.publishCancel

/-- A step has started. -/
def startStep (s : Session) (index : Nat) : Session := s.update (Snapshot.startStep? index)

/-- The run has completed. -/
def complete (s : Session) : Session := s.update Snapshot.complete?

/-- The run has failed. -/
def fail (s : Session) (message : String) : Session := s.update (Snapshot.fail? message)

@[simp] theorem token_update (s : Session) (change : Snapshot → Option Snapshot) :
    (s.update change).token = s.token := by
  unfold update
  split <;> rfl

@[simp] theorem token_cancel (s : Session) : s.cancel.token = true := by
  simp [cancel, publishCancel, requestCancel]

@[simp] theorem token_startStep (s : Session) (index : Nat) :
    (s.startStep index).token = s.token := token_update ..

@[simp] theorem token_complete (s : Session) : s.complete.token = s.token := token_update ..

@[simp] theorem token_fail (s : Session) (message : String) : (s.fail message).token = s.token :=
  token_update ..

/-- Subscribers are told exactly of the changes. -/
theorem revision_update (s : Session) (change : Snapshot → Option Snapshot) :
    (s.update change).revision = s.revision + (change s.snapshot).toList.length := by
  unfold update
  split <;> simp [*]

@[simp] theorem isCancelled_cancel (s : Session) : s.cancel.snapshot.isCancelled = true := by
  unfold cancel publishCancel requestCancel update Snapshot.cancel?
  by_cases h : s.snapshot.isCancelled <;> simp [h]

/-- A second request changes nothing. -/
@[simp] theorem cancel_cancel (s : Session) : s.cancel.cancel = s.cancel := by
  have h : s.cancel.snapshot.isCancelled = true := isCancelled_cancel s
  have t : s.cancel.requestCancel = s.cancel := by
    have := token_cancel s
    cases hs : s.cancel
    simp_all [requestCancel]
  rw [show s.cancel.cancel = s.cancel.requestCancel.publishCancel from rfl, t]
  simp [publishCancel, update, Snapshot.cancel?]

end Session

end KeyPlan
