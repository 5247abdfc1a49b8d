import KeyPlan.Proofs.Patience
import KeyPlan.Proofs.Readiness

/-!
# Best effort

What makes an application ready to come to the front takes time, and may fail, but it decides
nothing. The time limit is counted from the first question for the application in front, and from
then on only the questions and their replies matter. Two backends that agree on these, and on the
calls before them that may fail an activation, thus give it the same result after the same number of
questions, whatever they reply to the other calls and however long that takes.

## Main definitions

* `Backend.AgreesUpToAids`: two backends that may differ in what makes an application ready
* `World.InPhase`: two worlds with the same time left, in which the same was asked

## Main results

* `Activation.confirmFrom_inPhase`: asking is the same at another time
* `Activation.activate_of_agrees`: what makes an application ready decides nothing
-/

namespace KeyPlan

/-- **Two backends that agree** on the running applications, on the requests to come to the front and
on the application that is there. What they reply when an application is made ready may differ. -/
structure Backend.AgreesUpToAids (b b' : Backend) : Prop where
  running : b'.running = b.running
  activate : b'.activate = b.activate
  frontmost : b'.frontmost = b.frontmost

/-! ## Worlds with the same time left -/

/-- **Two worlds with the same time left**, each until its own deadline, in which as many questions
for the application in front were asked, and got the same answers. -/
structure World.InPhase (deadline deadline' : Nat) (w v : World) : Prop where
  left : deadline' - v.now = deadline - w.now
  asked : v.calls.frontmost = w.calls.frontmost
  activated : v.activated = w.activated
  answers : Trace.answers v.trace = Trace.answers w.trace

namespace World.InPhase

variable {deadline deadline' : Nat} {w v : World} {b b' : Backend}

/-- The time is over in both of them, or in none. -/
theorem over_iff (h : InPhase deadline deadline' w v) : deadline' ≤ v.now ↔ deadline ≤ w.now := by
  have hleft := h.left
  omega

theorem tell (h : InPhase deadline deadline' w v) (level level' : LogLevel) (text text' : String) :
    InPhase deadline deadline' (w.tell level text) (v.tell level' text') :=
  ⟨h.left, h.asked, h.activated, h.answers⟩

/-- Waiting takes the same from the time that is left. -/
theorem sleep (h : InPhase deadline deadline' w v) (ms : Nat) :
    InPhase deadline deadline' (w.sleep ms) (v.sleep ms) := by
  have hleft := h.left
  obtain ⟨s, hs⟩ := exists_sleep_eq w ms
  obtain ⟨s', hs'⟩ := exists_sleep_eq v ms
  rw [hs, hs']
  refine ⟨?_, h.asked, h.activated, h.answers⟩
  change deadline' - (v.now + ms) = deadline - (w.now + ms)
  omega

/-- **A question gets the same answer.** -/
theorem ask (h : InPhase deadline deadline' w v) (hb : b'.frontmost = b.frontmost) :
    (v.frontmostWithin b' (deadline' - v.now)).1 = (w.frontmostWithin b (deadline - w.now)).1 ∧
      InPhase deadline deadline' (w.frontmostWithin b (deadline - w.now)).2
        (v.frontmostWithin b' (deadline' - v.now)).2 := by
  have hleft := h.left
  have hpid : v.frontPid = w.frontPid := by
    funext reply
    cases reply with
    | pid p => rfl
    | lastActivated => exact h.activated
  have hanswer : (v.frontmostWithin b' (deadline' - v.now)).1 =
      (w.frontmostWithin b (deadline - w.now)).1 := by
    unfold frontmostWithin
    rw [hb, h.asked, hleft, hpid]
  obtain ⟨s, hs⟩ := exists_call_eq w (.frontmost (w.frontmostWithin b (deadline - w.now)).1)
    (min (b.frontmost w.calls.frontmost).latency (deadline - w.now))
  obtain ⟨s', hs'⟩ := exists_call_eq v (.frontmost (v.frontmostWithin b' (deadline' - v.now)).1)
    (min (b'.frontmost v.calls.frontmost).latency (deadline' - v.now))
  have hw : (w.frontmostWithin b (deadline - w.now)).2 = w.call
    (.frontmost (w.frontmostWithin b (deadline - w.now)).1)
    (min (b.frontmost w.calls.frontmost).latency (deadline - w.now)) := rfl
  have hv : (v.frontmostWithin b' (deadline' - v.now)).2 = v.call
    (.frontmost (v.frontmostWithin b' (deadline' - v.now)).1)
    (min (b'.frontmost v.calls.frontmost).latency (deadline' - v.now)) := rfl
  refine ⟨hanswer, ?_⟩
  rw [hw, hs, hv, hs', hb, h.asked, hanswer, hleft]
  refine ⟨?_, congrArg (· + 1) h.asked, h.activated, ?_⟩
  · dsimp only
    omega
  · rw [Trace.answers_append, Trace.answers_append, h.answers]
    rfl

end World.InPhase

namespace Activation

open World (InPhase)

variable {b b' : Backend} {timing : Timing} {deadline deadline' : Nat}

theorem inPhase_tellUnconfirmed {w v : World} (h : InPhase deadline deadline' w v)
    (answer : Option (Except Fault (Option Int32))) :
    InPhase deadline deadline' (tellUnconfirmed w answer) (tellUnconfirmed v answer) := by
  unfold tellUnconfirmed
  split
  · exact h
  · exact h.tell ..
  · exact h.tell ..

/-- **Asking is the same at another time**, as long as the same time is left. -/
theorem confirmFrom_inPhase (hb : b'.frontmost = b.frontmost) (interval limit : Nat)
    (app : Application) (rounds : Nat) :
    ∀ {w v : World}, InPhase deadline deadline' w v →
      let r := confirmFrom b interval limit deadline app rounds w
      let r' := confirmFrom b' interval limit deadline' app rounds v
      r'.1 = r.1 ∧ InPhase deadline deadline' r.2 r'.2 := by
  induction rounds with
  | zero => exact fun h => ⟨rfl, h⟩
  | succ rounds ih =>
    intro w v h
    obtain ⟨hanswer, hasked⟩ := h.ask hb
    have htold := inPhase_tellUnconfirmed hasked (w.frontmostWithin b (deadline - w.now)).1
    unfold confirmFrom
    dsimp only
    rw [hanswer]
    split
    · exact ⟨rfl, hasked.tell ..⟩
    · -- the deadlines are met in the same round
      simp only [htold.left, htold.over_iff]
      split
      · exact ⟨rfl, htold⟩
      · exact ih (htold.sleep _)

/-! ## The whole activation -/

theorem activated_activate (app : Application) (w : World)
    (hok : (b.activate w.calls.activate).result = .ok ()) :
    (w.activate b app).2.activated = some app.pid := by
  unfold World.activate
  dsimp only
  rw [hok]

/-- **What an activation knows when it begins to ask** is not a matter of what made the application
ready: how many questions there were, their answers, and which application came to the front. -/
theorem asked_ready_activate (timing : Timing) (app : Application) (w : World) :
    let v := ((ready b timing app w).activate b app).2
    v.calls.frontmost = w.calls.frontmost ∧ Trace.answers v.trace = Trace.answers w.trace ∧
      ((b.activate w.calls.activate).result = .ok () → v.activated = some app.pid) := by
  intro v
  have hready := passes_ready b timing app w
  obtain ⟨hactivate, hfrontmost⟩ := count_readySpans b timing w.calls app
  rw [← hready.calls] at hactivate hfrontmost
  refine ⟨?_, answers_activate b timing app w, ?_⟩
  · exact (congrArg Tally.frontmost (passes_activate b app (ready b timing app w)).calls).trans
      hfrontmost
  · rw [← hactivate]
    exact activated_activate app (ready b timing app w)

/-- An application is confirmed in the same way, however long it took to make it ready. -/
theorem bring_of_agrees (h : Backend.AgreesUpToAids b b') (hinterval : 0 < timing.pollInterval)
    (app : Application) (limit : Nat) (w : World) :
    let r := bring b timing app limit w
    let r' := bring b' timing app limit w
    r'.1 = r.1 ∧ r'.2.calls.frontmost = r.2.calls.frontmost ∧
      Trace.answers r'.2.trace = Trace.answers r.2.trace := by
  obtain ⟨hasked, hanswers, hactivated⟩ := asked_ready_activate (b := b) timing app w
  obtain ⟨hasked', hanswers', hactivated'⟩ := asked_ready_activate (b := b') timing app w
  dsimp only
  rw [bring_eq, bring_eq, h.activate]
  rw [h.activate] at hactivated'
  rcases hres : (b.activate w.calls.activate).result with f | u
  · exact ⟨rfl, hasked'.trans hasked.symm, hanswers'.trans hanswers.symm⟩
  · -- both limits are counted from now on
    have hphase : InPhase (((ready b timing app w).activate b app).2.now + limit)
        (((ready b' timing app w).activate b' app).2.now + limit)
        ((ready b timing app w).activate b app).2 ((ready b' timing app w).activate b' app).2 := by
      refine ⟨?_, hasked'.trans hasked.symm, (hactivated' hres).trans (hactivated hres).symm,
        hanswers'.trans hanswers.symm⟩
      omega
    have hrounds : enoughRounds b' timing.pollInterval limit =
        enoughRounds b timing.pollInterval limit := by
      unfold enoughRounds
      rw [if_neg (Nat.ne_of_gt hinterval), if_neg (Nat.ne_of_gt hinterval)]
    obtain ⟨hresult, hend⟩ := confirmFrom_inPhase h.frontmost timing.pollInterval limit app
      (enoughRounds b timing.pollInterval limit) hphase
    dsimp only [confirm]
    rw [hrounds]
    exact ⟨hresult, hend.asked, hend.answers⟩

/-- **What makes an application ready decides nothing.** With two backends that agree on the other
calls an activation has the same result, with the same texts, and it asks as many questions for the
application in front and gets the same answers. -/
theorem activate_of_agrees (h : Backend.AgreesUpToAids b b') (hinterval : 0 < timing.pollInterval)
    (target : Target) (limit : Nat) (w : World) :
    let r := activate b timing target limit w
    let r' := activate b' timing target limit w
    r'.1 = r.1 ∧ r'.2.calls.frontmost = r.2.calls.frontmost ∧
      Trace.answers r'.2.trace = Trace.answers r.2.trace := by
  have hrunning : w.running b' = w.running b := by
    unfold World.running
    rw [h.running]
  dsimp only
  rw [activate_eq, activate_eq, h.running, hrunning]
  rcases (b.running w.calls.running).result with f | apps
  · exact ⟨rfl, rfl, rfl⟩
  · dsimp only
    rcases Application.resolve? apps target with _ | app
    · exact ⟨rfl, rfl, rfl⟩
    · exact bring_of_agrees h hinterval app limit (w.running b).2

/-- The tardy backend, where it takes long to show the application again and to restore its windows,
and neither works. -/
def laboriousBackend : Backend :=
  { tardyBackend with
    unhide := fun _ => ⟨700, .error (.scripting "busy")⟩
    hasMinimized := fun _ => ⟨30, .ok true⟩
    restore := fun _ => ⟨2000, .error (.scripting "busy")⟩ }

/-- With a limit of 100 ms both activations are confirmed by their second question, of which one is
asked after more than two seconds. -/
theorem activate_of_agrees_laborious :
    tardyBackend.AgreesUpToAids laboriousBackend ∧ 0 < ({} : Timing).pollInterval ∧
      (activate tardyBackend {} ⟨none, "notes"⟩ 100 {}).2.now = 175 ∧
      (activate laboriousBackend {} ⟨none, "notes"⟩ 100 {}).2.now = 2905 ∧
      (activate laboriousBackend {} ⟨none, "notes"⟩ 100 {}).1 = .ok () ∧
      (activate laboriousBackend {} ⟨none, "notes"⟩ 100 {}).2.calls.frontmost = 2 ∧
      Trace.answers (activate laboriousBackend {} ⟨none, "notes"⟩ 100 {}).2.trace =
        [some (.ok none), some (.ok (some 11))] := by
  have hagrees : tardyBackend.AgreesUpToAids laboriousBackend := ⟨rfl, rfl, rfl⟩
  have hinterval : 0 < ({} : Timing).pollInterval := by decide
  have hnow : (activate tardyBackend {} ⟨none, "notes"⟩ 100 {}).2.now = 175 ∧
      (activate laboriousBackend {} ⟨none, "notes"⟩ 100 {}).2.now = 2905 := by decide +kernel
  have hquick : (activate tardyBackend {} ⟨none, "notes"⟩ 100 {}).1 = .ok () ∧
      (activate tardyBackend {} ⟨none, "notes"⟩ 100 {}).2.calls.frontmost = 2 ∧
      Trace.answers (activate tardyBackend {} ⟨none, "notes"⟩ 100 {}).2.trace =
        [some (.ok none), some (.ok (some 11))] := by decide +kernel
  obtain ⟨hresult, hasked, hanswers⟩ := activate_of_agrees hagrees hinterval ⟨none, "notes"⟩ 100 {}
  exact ⟨hagrees, hinterval, hnow.1, hnow.2, hresult.trans hquick.1, hasked.trans hquick.2.1,
    hanswers.trans hquick.2.2⟩

end Activation

end KeyPlan
