import KeyPlan.Proofs.Steps

/-!
# What no call notices

A call looks at the clock, at the calls so far and at the application that was activated last; a
wait looks at the clock. A change of the world that leaves these alone, and that may as well be made
before the next line, entry or wait as behind it, is not noticed by any activation or key press: the
results are the same, and the change may as well be made afterwards.

## Main definitions

* `World.Unnoticed`: a change that no call notices

## Main results

* `World.Unnoticed.activation`: a changed world before an activation
* `World.Unnoticed.perform`: a changed world before an action
-/

namespace KeyPlan.World

/-- **A change that no call notices.** It may be put off until a line is told, a call or a key event
is recorded, time has passed, or the calls are counted. -/
structure Unnoticed (change : World → World) : Prop where
  now : ∀ w, (change w).now = w.now
  calls : ∀ w, (change w).calls = w.calls
  activated : ∀ w, (change w).activated = w.activated
  tell : ∀ w level text, (change w).tell level text = change (w.tell level text)
  recordCall : ∀ w (c : Call), (change w).record (.call c) = change (w.record (.call c))
  recordKey : ∀ w (e : KeyEvent) result,
    (change w).record (.key e result) = change (w.record (.key e result))
  sleep : ∀ w ms, (change w).sleep ms = change (w.sleep ms)
  withCalls : ∀ w tally, { change w with calls := tally } = change { w with calls := tally }
  withActivated : ∀ w pid,
    { change w with activated := pid } = change { w with activated := pid }

namespace Unnoticed

variable {change : World → World} (h : Unnoticed change)

include h

/-! ## Calls -/

theorem call (w : World) (c : Call) (latency : Nat) :
    (change w).call c latency = change (w.call c latency) := by
  rw [World.call, h.recordCall, h.calls, h.withCalls, h.sleep]
  rfl

theorem running (w : World) (b : Backend) :
    (change w).running b = ((w.running b).1, change (w.running b).2) := by
  simp only [World.running, h.calls, h.call]

theorem unhide (w : World) (b : Backend) (app : Application) :
    (change w).unhide b app = ((w.unhide b app).1, change (w.unhide b app).2) := by
  simp only [World.unhide, h.calls, h.call]

theorem hasMinimized (w : World) (b : Backend) (app : Application) :
    (change w).hasMinimized b app =
      ((w.hasMinimized b app).1, change (w.hasMinimized b app).2) := by
  simp only [World.hasMinimized, h.calls, h.call]

theorem restore (w : World) (b : Backend) (app : Application) :
    (change w).restore b app = ((w.restore b app).1, change (w.restore b app).2) := by
  simp only [World.restore, h.calls, h.call]

theorem activate (w : World) (b : Backend) (app : Application) :
    (change w).activate b app = ((w.activate b app).1, change (w.activate b app).2) := by
  unfold World.activate
  rw [h.calls]
  dsimp only
  rw [h.call]
  cases (b.activate w.calls.activate).result with
  | error fault => rfl
  | ok _ => exact Prod.ext rfl (h.withActivated ..)

theorem frontPid (w : World) : (change w).frontPid = w.frontPid := by
  funext answer
  cases answer with
  | pid p => rfl
  | lastActivated => exact h.activated w

theorem frontmostWithin (w : World) (b : Backend) (left : Nat) :
    (change w).frontmostWithin b left =
      ((w.frontmostWithin b left).1, change (w.frontmostWithin b left).2) := by
  simp only [World.frontmostWithin, h.calls, h.frontPid, h.call]

theorem post (w : World) (b : Backend) (e : KeyEvent) :
    (change w).post b e = ((w.post b e).1, change (w.post b e).2) := by
  simp only [World.post, h.calls, h.recordKey, h.withCalls]

/-! ## Activations -/

section Activation

open Activation

variable (b : Backend) (timing : Timing) (app : Application) (w : World)

theorem resolved (target : Target) :
    resolve b target (change w) = ((resolve b target w).1, change (resolve b target w).2) := by
  rw [resolve_eq, resolve_eq, h.running]

theorem shown : Activation.unhide b timing app (change w) =
    change (Activation.unhide b timing app w) := by
  unfold Activation.unhide
  split
  · rw [h.unhide]
    rcases w.unhide b app with ⟨_ | _, v⟩ <;> simp only [h.tell, h.sleep]
  · rfl

theorem restoreCounted :
    restoreCount b app (change w) =
      ((restoreCount b app w).1, change (restoreCount b app w).2) := by
  unfold restoreCount
  rw [h.hasMinimized]
  rcases w.hasMinimized b app with ⟨_ | _ | _, v⟩ <;> simp only [h.restore]

theorem restored : Activation.restore b timing app (change w) =
    change (Activation.restore b timing app w) := by
  unfold Activation.restore
  rw [h.restoreCounted]
  rcases restoreCount b app w with ⟨_ | _ | n, v⟩ <;> simp only [h.tell, h.sleep]

theorem toldUnconfirmed (answer : Option (Except Fault (Option Int32))) :
    tellUnconfirmed (change w) answer = change (tellUnconfirmed w answer) := by
  rcases answer with _ | _ | _
  · exact h.tell ..
  · exact h.tell ..
  · rfl

theorem madeReady : ready b timing app (change w) = change (ready b timing app w) := by
  unfold ready
  rw [h.tell, h.shown, h.restored]

theorem confirmedFrom (interval limit deadline rounds : Nat) :
    ∀ w : World, confirmFrom b interval limit deadline app rounds (change w) =
      ((confirmFrom b interval limit deadline app rounds w).1,
        change (confirmFrom b interval limit deadline app rounds w).2) := by
  induction rounds with
  | zero => exact fun w => rfl
  | succ rounds ih =>
    intro w
    rw [confirmFrom, confirmFrom, h.now, h.frontmostWithin]
    -- the answer and the clock are the same, so both ask again or neither does
    rcases w.frontmostWithin b (deadline - w.now) with ⟨answer, v⟩
    by_cases ha : answer = some (.ok (some app.pid))
    · simp only [ha, if_true, h.tell]
    · simp only [ha, if_false]
      rw [h.toldUnconfirmed]
      generalize tellUnconfirmed v answer = u
      rw [h.now, h.sleep, ih]
      by_cases hd : deadline ≤ u.now
      · simp only [hd, if_true]
      · simp only [hd, if_false]

theorem confirmed (limit : Nat) :
    confirm b timing app limit (change w) =
      ((confirm b timing app limit w).1, change (confirm b timing app limit w).2) := by
  unfold confirm
  rw [h.now, h.confirmedFrom]

theorem brought (limit : Nat) :
    bring b timing app limit (change w) =
      ((bring b timing app limit w).1, change (bring b timing app limit w).2) := by
  unfold bring
  rw [h.madeReady, h.activate]
  rcases (ready b timing app w).activate b app with ⟨_ | _, v⟩
  · rfl
  · exact h.confirmed b timing app v limit

/-- **A changed world before an activation**: the result is the same. -/
theorem activation (target : Target) (limit : Nat) :
    Activation.activate b timing target limit (change w) =
      ((Activation.activate b timing target limit w).1,
        change (Activation.activate b timing target limit w).2) := by
  unfold Activation.activate
  rw [h.resolved]
  rcases resolve b target w with ⟨_ | app, v⟩
  · rfl
  · exact h.brought b timing app v limit

end Activation

/-! ## Actions -/

theorem pressed (b : Backend) (gap : Nat) (stroke : KeyStroke) (w : World) :
    Run.press b gap stroke (change w) =
      ((Run.press b gap stroke w).1, change (Run.press b gap stroke w).2) := by
  unfold Run.press
  rw [h.post]
  rcases w.post b ⟨.down, stroke⟩ with ⟨_ | _, v⟩
  · rfl
  · simp only [h.sleep, h.post]

theorem typedFrom (b : Backend) (s : Settings) (cs : List Char) :
    ∀ (first : Bool) (w : World), Run.typeFrom b s first cs (change w) =
      ((Run.typeFrom b s first cs w).1, change (Run.typeFrom b s first cs w).2) := by
  induction cs with
  | nil => exact fun first w => rfl
  | cons c cs ih =>
    intro first w
    have hw : (if first then change w else (change w).sleep s.characterDelay) =
        change (if first then w else w.sleep s.characterDelay) := by
      split
      · rfl
      · exact h.sleep ..
    unfold Run.typeFrom
    dsimp only
    rw [hw, h.pressed]
    rcases Run.press b s.keyEventDelay (Run.strokeFor c)
      (if first then w else w.sleep s.characterDelay) with ⟨_ | _, v⟩
    · rfl
    · exact ih false v

/-- **A changed world before an action**: the result is the same. A delay looks at the session, so
it is asked of the change that it does not touch what the delay finds there. -/
theorem perform (e : Engine) {kind : ActionKind} {w : World}
    (hdelay : ∀ ms, kind = .delay ms →
      (change w).pause ms.toNat = ((w.pause ms.toNat).1, change (w.pause ms.toNat).2)) :
    Run.perform e kind (change w) =
      ((Run.perform e kind w).1, change (Run.perform e kind w).2) := by
  cases kind with
  | keyPress key modifiers =>
    unfold Run.perform
    dsimp only
    rw [h.pressed]
  | typeText text =>
    unfold Run.perform
    dsimp only
    rw [h.typedFrom]
  | delay ms => rw [Run.perform_delay, Run.perform_delay, hdelay ms rfl]
  | switchTo target =>
    rw [Run.perform_switchTo, Run.perform_switchTo, h.activation]

end Unnoticed

end KeyPlan.World
