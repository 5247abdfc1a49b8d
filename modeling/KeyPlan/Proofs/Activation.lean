import KeyPlan.Activation
import KeyPlan.Proofs.Trace

/-!
# What an activation does

An activation asks once which applications are running. If one of them is meant, every later call is
about that one or about the one in front, and the activation is successful only if the last answer
on the application in front was the number of the one that is meant.

## Main definitions

* `Event.IsAid`: the calls that make an application ready to come to the front

## Main results

* `Activation.resolve_eq`: the first call
* `Activation.confirmFrom_cases`: one round of asking
* `Activation.grows_activate`: an activation records only calls about applications
* `Activation.activate_ok`: what a successful activation has recorded
-/

namespace KeyPlan.Activation

variable (b : Backend) (timing : Timing)

/-- The answer to the first call decides which application is meant. -/
theorem resolve_eq (target : Target) (w : World) :
    resolve b target w =
      (match (w.running b).1 with
        | .error e => .error (.refused target.name e.message)
        | .ok apps =>
          match Application.resolve? apps target with
          | some app => .ok app
          | none => .error (.notRunning target.name),
        (w.running b).2) := by
  unfold resolve
  rcases hr : w.running b with ⟨_ | apps, v⟩
  · rfl
  · dsimp only
    cases Application.resolve? apps target <;> rfl

/-- **One round of asking**: the application is confirmed, the time is up, or there is a pause and
another round. -/
theorem confirmFrom_cases (interval limit deadline : Nat) (app : Application) (rounds : Nat)
    (w : World) :
    let asked := w.frontmostWithin b (deadline - w.now)
    let v := tellUnconfirmed asked.2 asked.1
    (asked.1 = some (.ok (some app.pid)) ∧
      confirmFrom b interval limit deadline app (rounds + 1) w =
        (.ok (), asked.2.tell .info ("✅ [Activation] " ++ quotedName app ++ " is frontmost"))) ∨
    (asked.1 ≠ some (.ok (some app.pid)) ∧ deadline ≤ v.now ∧
      confirmFrom b interval limit deadline app (rounds + 1) w =
        (.error (.timedOut app.name limit), v)) ∨
    (asked.1 ≠ some (.ok (some app.pid)) ∧ v.now < deadline ∧
      confirmFrom b interval limit deadline app (rounds + 1) w =
        confirmFrom b interval limit deadline app rounds
          (v.sleep (min interval (deadline - v.now)))) := by
  intro asked v
  by_cases ha : asked.1 = some (.ok (some app.pid))
  · exact .inl ⟨ha, by rw [confirmFrom]; exact if_pos ha⟩
  · refine .inr ?_
    by_cases hd : deadline ≤ v.now
    · exact .inl ⟨ha, hd, by rw [confirmFrom]; exact (if_neg ha).trans (if_pos hd)⟩
    · exact .inr ⟨ha, by omega, by rw [confirmFrom]; exact (if_neg ha).trans (if_neg hd)⟩

end Activation

/-! ## Growth -/

/-- A call that makes an application ready to come to the front: whether it works or not, the
activation goes on. -/
def Event.IsAid (app : Application) : Event → Prop
  | call (.unhide a _) => a = app
  | call (.hasMinimized a _) => a = app
  | call (.restore a _) => a = app
  | _ => False

theorem Event.IsAid.isFocusCall {app : Application} {ev : Event} (h : ev.IsAid app) :
    ev.IsFocusCall := by
  cases ev with
  | call c =>
    cases c with
    | running r => exact h
    | _ => trivial
  | key e r => exact h
  | callback c s => exact h

namespace Activation

variable (b : Backend) (timing : Timing)

section Growth

variable {P : Event → Prop}

theorem grows_tellUnconfirmed (w : World) (answer : Option (Except Fault (Option Int32))) :
    World.Grows P w (tellUnconfirmed w answer) := by
  unfold tellUnconfirmed
  split
  · exact .refl w
  · exact World.grows_tell ..
  · exact World.grows_tell ..

theorem grows_unhide (app : Application) (w : World) :
    World.Grows (Event.IsAid app) w (unhide b timing app w) := by
  unfold unhide
  split
  · have hc : World.Grows (Event.IsAid app) w (w.unhide b app).2 := World.grows_call w _ rfl
    refine hc.trans ?_
    dsimp only
    split
    · exact (World.grows_tell ..).trans (World.grows_sleep ..)
    · exact (World.grows_tell ..).trans (World.grows_sleep ..)
  · exact .refl w

theorem grows_restoreCount (app : Application) (w : World) :
    World.Grows (Event.IsAid app) w (restoreCount b app w).2 := by
  have hm : World.Grows (Event.IsAid app) w (w.hasMinimized b app).2 := World.grows_call w _ rfl
  unfold restoreCount
  rcases hr : w.hasMinimized b app with ⟨_ | _ | _, v⟩ <;> rw [hr] at hm
  · exact hm
  · exact hm
  · exact hm.trans (World.grows_call v _ rfl)

theorem grows_restore (app : Application) (w : World) :
    World.Grows (Event.IsAid app) w (restore b timing app w) := by
  have hc := grows_restoreCount b app w
  unfold restore
  rcases hr : restoreCount b app w with ⟨_ | _ | n, v⟩ <;> rw [hr] at hc
  · exact hc.trans (World.grows_tell ..)
  · exact hc
  · exact hc.trans ((World.grows_tell ..).trans (World.grows_sleep ..))

theorem grows_frontmostWithin (w : World) (left : Nat) :
    World.Grows Event.IsFocusCall w (w.frontmostWithin b left).2 :=
  World.grows_call w _ trivial

theorem grows_confirmFrom (interval limit deadline : Nat) (app : Application) (rounds : Nat) :
    ∀ w, World.Grows Event.IsFocusCall w
      (confirmFrom b interval limit deadline app rounds w).2 := by
  induction rounds with
  | zero => exact fun w => .refl w
  | succ rounds ih =>
    intro w
    have ha := grows_frontmostWithin b w (deadline - w.now)
    have hv := ha.trans (grows_tellUnconfirmed _ (w.frontmostWithin b (deadline - w.now)).1)
    -- confirmed, out of time, or another round behind a pause
    rcases confirmFrom_cases b interval limit deadline app rounds w with
      ⟨-, h⟩ | ⟨-, -, h⟩ | ⟨-, -, h⟩ <;> rw [h]
    · exact ha.trans (World.grows_tell ..)
    · exact hv
    · exact hv.trans ((World.grows_sleep ..).trans (ih _))

theorem grows_ready (app : Application) (w : World) :
    World.Grows (Event.IsAid app) w (ready b timing app w) :=
  ((World.grows_tell ..).trans (grows_unhide b timing app _)).trans (grows_restore b timing app _)

theorem grows_bring (app : Application) (limit : Nat) (w : World) :
    World.Grows Event.IsFocusCall w (bring b timing app limit w).2 := by
  have ha := ((grows_ready b timing app w).mono fun _ => Event.IsAid.isFocusCall).trans
    (World.grows_activate b app (ready b timing app w) fun _ => trivial)
  unfold bring
  rcases hr : (ready b timing app w).activate b app with ⟨_ | _, v⟩ <;> rw [hr] at ha
  · exact ha
  · exact ha.trans (grows_confirmFrom b _ _ _ app _ _)

/-- An activation records only calls about applications. -/
theorem grows_activate (target : Target) (limit : Nat) (w : World) :
    World.Grows Event.IsCall w (activate b timing target limit w).2 := by
  have hr : World.Grows Event.IsCall w (w.running b).2 := World.grows_call w _ trivial
  rw [activate, resolve_eq]
  rcases hr' : (w.running b).1 with _ | apps
  · exact hr
  · dsimp only
    rcases Application.resolve? apps target with _ | app
    · exact hr
    · exact hr.trans ((grows_bring b timing app limit _).mono fun _ => Event.IsFocusCall.isCall)

end Growth

/-! ## Success -/

/-- Asking ends well only with the answer that the application is in front. -/
theorem answers_confirmFrom {interval limit deadline : Nat} {app : Application} {rounds : Nat} :
    ∀ {w : World}, (confirmFrom b interval limit deadline app rounds w).1 = .ok () →
      (Trace.answers (confirmFrom b interval limit deadline app rounds w).2.trace).getLast? =
        some (some (.ok (some app.pid))) := by
  induction rounds with
  | zero => exact fun h => nomatch h
  | succ rounds ih =>
    intro w hok
    rcases confirmFrom_cases b interval limit deadline app rounds w with
      ⟨ha, h⟩ | ⟨-, -, h⟩ | ⟨-, -, h⟩ <;> rw [h] at hok ⊢
    · -- the answer of this round is the last entry
      have ht : (w.frontmostWithin b (deadline - w.now)).2.trace = w.trace ++
          [⟨w.now, .call (.frontmost (w.frontmostWithin b (deadline - w.now)).1)⟩] :=
        World.trace_call ..
      change (Trace.answers (w.frontmostWithin b (deadline - w.now)).2.trace).getLast? = _
      rw [ht, ha, Trace.answers_append]
      exact List.getLast?_concat
    · exact nomatch hok
    · exact ih hok

/-- **What a successful activation has recorded**: which applications are running, then only calls
about the one of them that is meant or about the one in front, and as its last answer that the one
that is meant is in front. -/
theorem activate_ok {target : Target} {limit : Nat} {w : World}
    (h : (activate b timing target limit w).1 = .ok ()) :
    ∃ apps app more, Application.resolve? apps target = some app ∧
      (activate b timing target limit w).2.trace =
        w.trace ++ ⟨w.now, .call (.running (.ok apps))⟩ :: more ∧
      (∀ x ∈ more, x.event.IsFocusCall) ∧
      (Trace.answers (activate b timing target limit w).2.trace).getLast? =
        some (some (.ok (some app.pid))) := by
  have ht : (w.running b).2.trace = w.trace ++ [⟨w.now, .call (.running (w.running b).1)⟩] :=
    World.trace_call ..
  rw [activate, resolve_eq] at h ⊢
  rcases hr : (w.running b).1 with _ | apps
  · simp [hr] at h
  · cases happ : Application.resolve? apps target with
    | none => simp [hr, happ] at h
    | some app =>
      simp only [hr, happ] at h ⊢
      obtain ⟨more, hm, hfocus⟩ := (grows_bring b timing app limit (w.running b).2).trace
      refine ⟨apps, app, more, happ, ?_, hfocus, ?_⟩
      · rw [hm, ht, hr, List.append_assoc, List.singleton_append]
      · -- an activation that is refused is no success, so the application was confirmed
        unfold bring at h ⊢
        rcases hr' : (ready b timing app (w.running b).2).activate b app with ⟨_ | _, v⟩ <;>
          rw [hr'] at h
        · exact nomatch h
        · exact answers_confirmFrom b h

end KeyPlan.Activation
