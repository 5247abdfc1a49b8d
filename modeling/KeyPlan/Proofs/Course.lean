import KeyPlan.Proofs.Activation

/-!
# The course of an activation

An activation asks which applications are running, makes the one that is meant ready, asks it to the
front, and then asks which one is in front. It ends at the first of these calls that is refused, if
no application is meant, with the first answer that the one that is meant is in front, or with the
last answer before the time is up.

## Main definitions

* `Event.Misses`: an answer that does not confirm an application
* `Activation.Course`: what an activation records, and its result

## Main results

* `Activation.confirmFrom_trace`: the rounds of asking
* `Activation.deadline_le_now`: asking does not end early without a confirmation
* `Activation.course_activate`: the course of an activation
-/

namespace KeyPlan

/-- An answer on the application in front that is not the number of the given one: another one, none
at all, an error, or no answer in time. -/
def Event.Misses (app : Application) : Event → Prop
  | call (.frontmost answer) => answer ≠ some (.ok (some app.pid))
  | _ => False

/-- The answer that the application is in front. -/
def Event.confirmation (app : Application) : Event :=
  .call (.frontmost (some (.ok (some app.pid))))

/-- **The application was asked to the front**, and that was not refused. -/
def Event.IsActivated : Event → Prop
  | call (.activate _ (.ok ())) => True
  | _ => False

theorem Event.IsAid.not_isActivated {app : Application} {ev : Event} (h : ev.IsAid app) :
    ¬ ev.IsActivated := by
  cases ev with
  | call c =>
    cases c with
    | activate a r => exact absurd h id
    | _ => exact id
  | key e r => exact id
  | callback c s => exact id

theorem Event.Misses.not_isActivated {app : Application} {ev : Event} (h : ev.Misses app) :
    ¬ ev.IsActivated := by
  cases ev with
  | call c =>
    cases c with
    | activate a r => exact absurd h id
    | _ => exact id
  | key e r => exact id
  | callback c s => exact id

theorem Event.Misses.not_isAid {app app' : Application} {ev : Event} (h : ev.Misses app) :
    ¬ ev.IsAid app' := by
  cases ev with
  | call c =>
    cases c with
    | frontmost answer => exact id
    | _ => exact absurd h id
  | key e r => exact id
  | callback c s => exact id

theorem Event.not_isActivated_confirmation (app : Application) :
    ¬ (Event.confirmation app).IsActivated := id

namespace Activation

/-- **The course of an activation**: what it records up to the time `finish`, and its result. Where
it was not confirmed in time, every answer has missed, and the last one has come when the time was
over that is counted from the first question. -/
inductive Course (timing : Timing) (target : Target) (limit finish : Nat) :
    List Entry → Except ActivationFault Unit → Prop
  | refused (t : Nat) (f : Fault) :
    Course timing target limit finish [⟨t, .call (.running (.error f))⟩]
      (.error (.refused target.name f.message))
  | notRunning (t : Nat) {apps : List Application}
      (hnone : Application.resolve? apps target = none) :
    Course timing target limit finish [⟨t, .call (.running (.ok apps))⟩]
      (.error (.notRunning target.name))
  | notActivated (t t' : Nat) {apps : List Application} {app : Application} {aids : List Entry}
      (f : Fault) (happ : Application.resolve? apps target = some app)
      (haids : ∀ x ∈ aids, x.event.IsAid app) :
    Course timing target limit finish
      (⟨t, .call (.running (.ok apps))⟩ :: aids ++ [⟨t', .call (.activate app (.error f))⟩])
      (.error (.refused app.name f.message))
  | confirmed (t t' t'' : Nat) {apps : List Application} {app : Application}
      {aids misses : List Entry} (happ : Application.resolve? apps target = some app)
      (haids : ∀ x ∈ aids, x.event.IsAid app) (hmisses : ∀ x ∈ misses, x.event.Misses app) :
    Course timing target limit finish
      (⟨t, .call (.running (.ok apps))⟩ :: aids ++
        ⟨t', .call (.activate app (.ok ()))⟩ :: (misses ++ [⟨t'', .confirmation app⟩]))
      (.ok ())
  | timedOut (t t' : Nat) {apps : List Application} {app : Application} {aids : List Entry}
      {first : Entry} {more : List Entry} (happ : Application.resolve? apps target = some app)
      (haids : ∀ x ∈ aids, x.event.IsAid app)
      (hmisses : ∀ x ∈ first :: more, x.event.Misses app)
      (hover : 0 < timing.pollInterval → first.time + limit ≤ finish) :
    Course timing target limit finish
      (⟨t, .call (.running (.ok apps))⟩ :: aids ++
        ⟨t', .call (.activate app (.ok ()))⟩ :: first :: more)
      (.error (.timedOut app.name limit))

/-- What is different from all other entries of a list stands at one place in it. -/
theorem eq_of_split {p : Entry → Prop} {l r l' r' : List Entry} {x x' : Entry}
    (h : l ++ x :: r = l' ++ x' :: r') (hl : ∀ y ∈ l, ¬ p y) (hr : ∀ y ∈ r, ¬ p y) (hx : p x') :
    l = l' ∧ x = x' ∧ r = r' := by
  rcases List.append_eq_append_iff.mp h with ⟨mid, rfl, hmid⟩ | ⟨mid, rfl, hmid⟩
  · cases mid with
    | nil => simpa using hmid
    | cons y mid =>
      obtain ⟨-, rfl⟩ := List.cons.inj hmid
      exact absurd hx (hr x' (List.mem_append_right _ List.mem_cons_self))
  · cases mid with
    | nil => simpa [eq_comm] using hmid
    | cons y mid =>
      obtain ⟨rfl, -⟩ := List.cons.inj hmid
      exact absurd hx (hl x' (List.mem_append_right _ List.mem_cons_self))

theorem not_isActivated_of_mem {t : Nat} {apps : List Application} {app : Application}
    {aids : List Entry} (haids : ∀ x ∈ aids, x.event.IsAid app) :
    ∀ x ∈ (⟨t, .call (.running (.ok apps))⟩ :: aids : List Entry), ¬ x.event.IsActivated :=
  List.forall_mem_cons.mpr ⟨id, fun x hx => (haids x hx).not_isActivated⟩

/-- **What follows a request to come to the front** that was not refused: answers that miss and the
confirmation, or only answers that miss until the time is up. -/
theorem Course.of_activated {timing : Timing} {target : Target} {limit finish : Nat}
    {es : List Entry} {r : Except ActivationFault Unit}
    (h : Course timing target limit finish es r) {before polls : List Entry} {t : Nat}
    {app : Application} (hsplit : es = before ++ ⟨t, .call (.activate app (.ok ()))⟩ :: polls) :
    (r = .ok () ∧ ∃ misses t, polls = misses ++ [⟨t, .confirmation app⟩]) ∨
    (r = .error (.timedOut app.name limit) ∧ ∃ first more, polls = first :: more ∧
      (0 < timing.pollInterval → first.time + limit ≤ finish)) := by
  have hmem : (⟨t, .call (.activate app (.ok ()))⟩ : Entry) ∈ es := by
    rw [hsplit]
    exact List.mem_append_right _ List.mem_cons_self
  cases h with
  | refused t f => simp at hmem
  | notRunning t hnone => simp at hmem
  | notActivated t t' f happ haids =>
    rcases List.mem_append.mp hmem with hinit | hlast
    · exact absurd trivial (not_isActivated_of_mem haids _ hinit)
    · simp at hlast
  | confirmed t t' t'' happ haids hmisses =>
    obtain ⟨-, hx, rfl⟩ := eq_of_split (p := (·.event.IsActivated)) hsplit
      (not_isActivated_of_mem haids)
      (List.forall_mem_append.mpr ⟨fun y hy => (hmisses y hy).not_isActivated,
        List.forall_mem_singleton.mpr (Event.not_isActivated_confirmation _)⟩) trivial
    cases hx
    exact .inl ⟨rfl, _, _, rfl⟩
  | timedOut t t' happ haids hmisses hover =>
    obtain ⟨-, hx, rfl⟩ := eq_of_split (p := (·.event.IsActivated)) hsplit
      (not_isActivated_of_mem haids) (fun y hy => (hmisses y hy).not_isActivated) trivial
    cases hx
    exact .inr ⟨rfl, _, _, rfl, hover⟩

/-- The last call of an activation is not one that makes an application ready. -/
theorem Course.exists_last {timing : Timing} {target : Target} {limit finish : Nat}
    {es : List Entry} {r : Except ActivationFault Unit}
    (h : Course timing target limit finish es r) :
    ∃ init last, es = init ++ [last] ∧ ∀ app, ¬ last.event.IsAid app := by
  cases h with
  | refused t f => exact ⟨[], _, rfl, fun _ => id⟩
  | notRunning t hnone => exact ⟨[], _, rfl, fun _ => id⟩
  | notActivated t t' f happ haids => exact ⟨_, _, rfl, fun _ => id⟩
  | confirmed t t' t'' happ haids hmisses =>
    rw [← List.cons_append, ← List.append_assoc]
    exact ⟨_, _, rfl, fun _ => id⟩
  | @timedOut t t' apps app aids first more happ haids hmisses hover =>
    obtain ⟨polls, last, hlast⟩ := (List.eq_nil_or_concat (first :: more)).resolve_left nofun
    rw [List.concat_eq_append] at hlast
    have hmiss := hmisses last (hlast ▸ List.mem_append_right _ (List.mem_singleton_self last))
    rw [hlast, ← List.cons_append, ← List.append_assoc]
    exact ⟨_, last, rfl, fun _ => hmiss.not_isAid⟩

variable (b : Backend) (timing : Timing)

/-! ## Asking -/

section Asking

variable (interval limit deadline : Nat) (app : Application)

/-- An answer is recorded before anything is told of it. -/
theorem trace_asked (w : World) (left : Nat) :
    (tellUnconfirmed (w.frontmostWithin b left).2 (w.frontmostWithin b left).1).trace =
      w.trace ++ [⟨w.now, .call (.frontmost (w.frontmostWithin b left).1)⟩] := by
  rw [← World.trace_call]
  exact (grows_tellUnconfirmed _ _).trace.eq_of_false

/-- **The rounds of asking**: all answers miss, or all but the last one, which confirms the
application. The first question is asked at once. -/
theorem confirmFrom_trace (rounds : Nat) :
    ∀ w : World, ∃ asked,
      (confirmFrom b interval limit deadline app rounds w).2.trace = w.trace ++ asked ∧
      (0 < rounds → ∃ first more, asked = first :: more ∧ first.time = w.now) ∧
      ((confirmFrom b interval limit deadline app rounds w).1 = .ok () ∧
          (∃ misses t, asked = misses ++ [⟨t, .confirmation app⟩] ∧
            ∀ x ∈ misses, x.event.Misses app) ∨
        (confirmFrom b interval limit deadline app rounds w).1 =
            .error (.timedOut app.name limit) ∧
          ∀ x ∈ asked, x.event.Misses app) := by
  induction rounds with
  | zero =>
    intro w
    exact ⟨[], (List.append_nil _).symm, fun h => absurd h (Nat.lt_irrefl 0),
      .inr ⟨rfl, List.forall_mem_nil _⟩⟩
  | succ rounds ih =>
    intro w
    have htrace := trace_asked b w (deadline - w.now)
    rcases confirmFrom_cases b interval limit deadline app rounds w with
      ⟨ha, h⟩ | ⟨ha, -, h⟩ | ⟨ha, -, h⟩ <;> rw [h]
    · -- confirmed
      have hw : (w.frontmostWithin b (deadline - w.now)).2.trace =
          w.trace ++ [⟨w.now, .confirmation app⟩] := by
        rw [Event.confirmation, ← ha]
        exact World.trace_call ..
      exact ⟨_, hw, fun _ => ⟨_, _, rfl, rfl⟩, .inl ⟨rfl, [], w.now, rfl, List.forall_mem_nil _⟩⟩
    · -- out of time
      refine ⟨_, htrace, fun _ => ⟨_, _, rfl, rfl⟩, .inr ⟨rfl, ?_⟩⟩
      rintro x hx
      rw [List.mem_singleton.mp hx]
      exact ha
    · -- another round behind a pause, in which nothing is recorded
      obtain ⟨asked, hasked, -, hend⟩ := ih ((tellUnconfirmed
        (w.frontmostWithin b (deadline - w.now)).2 (w.frontmostWithin b (deadline - w.now)).1).sleep
          (min interval (deadline - (tellUnconfirmed (w.frontmostWithin b (deadline - w.now)).2
            (w.frontmostWithin b (deadline - w.now)).1).now)))
      rw [World.trace_sleep, htrace, List.append_assoc, List.singleton_append] at hasked
      refine ⟨_, hasked, fun _ => ⟨_, _, rfl, rfl⟩, ?_⟩
      rcases hend with ⟨hok, misses, t, rfl, hmisses⟩ | ⟨herror, hmisses⟩
      · refine .inl ⟨hok, _ :: misses, t, rfl, List.forall_mem_cons.mpr ⟨ha, hmisses⟩⟩
      · exact .inr ⟨herror, List.forall_mem_cons.mpr ⟨ha, hmisses⟩⟩

/-- **Asking does not end early**: without a confirmation it goes on until the time is up. Every
round but the last one takes at least as long as the pause behind it. -/
theorem deadline_le_now (hinterval : 0 < interval) (rounds : Nat) :
    ∀ w : World, deadline < w.now + rounds →
      (confirmFrom b interval limit deadline app rounds w).1 ≠ .ok () →
      deadline ≤ (confirmFrom b interval limit deadline app rounds w).2.now := by
  induction rounds with
  | zero => exact fun w hrounds _ => Nat.le_of_lt hrounds
  | succ rounds ih =>
    intro w hrounds hne
    rcases confirmFrom_cases b interval limit deadline app rounds w with
      ⟨-, h⟩ | ⟨-, hd, h⟩ | ⟨-, hd, h⟩ <;> rw [h] at hne ⊢
    · exact absurd rfl hne
    · exact hd
    · refine ih _ ?_ hne
      have hasked := (grows_frontmostWithin b w (deadline - w.now)).leaves.now
      have htold := (grows_tellUnconfirmed (P := Event.IsCall)
        (w.frontmostWithin b (deadline - w.now)).2
        (w.frontmostWithin b (deadline - w.now)).1).leaves.now
      rw [World.now_sleep]
      omega

end Asking

/-! ## The whole activation -/

/-- Where there is a pause between the rounds, they are enough to reach the deadline. -/
theorem lt_enoughRounds (interval limit : Nat) : limit < enoughRounds b interval limit := by
  unfold enoughRounds
  split <;> omega

/-- The course of an activation from the request to come to the front. -/
theorem confirm_trace (app : Application) (limit : Nat) (w : World) :
    ∃ asked, (confirm b timing app limit w).2.trace = w.trace ++ asked ∧
      ((confirm b timing app limit w).1 = .ok () ∧
          (∃ misses t, asked = misses ++ [⟨t, .confirmation app⟩] ∧
            ∀ x ∈ misses, x.event.Misses app) ∨
        (confirm b timing app limit w).1 = .error (.timedOut app.name limit) ∧
          ∃ first more, asked = first :: more ∧ (∀ x ∈ first :: more, x.event.Misses app) ∧
            (0 < timing.pollInterval →
              first.time + limit ≤ (confirm b timing app limit w).2.now)) := by
  have hrounds := lt_enoughRounds b timing.pollInterval limit
  obtain ⟨asked, htrace, hfirst, hend⟩ := confirmFrom_trace b timing.pollInterval limit
    (w.now + limit) app (enoughRounds b timing.pollInterval limit) w
  refine ⟨asked, htrace, hend.imp_right fun ⟨herror, hmisses⟩ => ⟨herror, ?_⟩⟩
  obtain ⟨first, more, rfl, htime⟩ := hfirst (Nat.zero_lt_of_lt hrounds)
  refine ⟨first, more, rfl, hmisses, fun hinterval => ?_⟩
  rw [htime]
  refine deadline_le_now b timing.pollInterval limit (w.now + limit) app hinterval _ w ?_ ?_
  · omega
  · exact fun hok => nomatch hok.symm.trans herror

/-- **The course of an activation.** -/
theorem course_activate (target : Target) (limit : Nat) (w : World) :
    ∃ es, (activate b timing target limit w).2.trace = w.trace ++ es ∧
      Course timing target limit (activate b timing target limit w).2.now es
        (activate b timing target limit w).1 := by
  have hrunning : (w.running b).2.trace = w.trace ++ [⟨w.now, .call (.running (w.running b).1)⟩] :=
    World.trace_call ..
  rw [activate, resolve_eq]
  rcases hr : (w.running b).1 with f | apps <;> rw [hr] at hrunning
  · exact ⟨_, hrunning, .refused w.now f⟩
  · dsimp only
    cases happ : Application.resolve? apps target with
    | none => exact ⟨_, hrunning, .notRunning w.now happ⟩
    | some app =>
      obtain ⟨aids, hready, haids⟩ := (grows_ready b timing app (w.running b).2).trace
      have hactivate := World.trace_activate b app (ready b timing app (w.running b).2)
      rw [hready, hrunning, List.append_assoc, List.append_assoc] at hactivate
      dsimp only
      unfold bring
      rcases ha : (ready b timing app (w.running b).2).activate b app with ⟨f | _, v⟩ <;>
        rw [ha] at hactivate <;> dsimp only at hactivate ⊢
      · exact ⟨_, hactivate, .notActivated _ _ f happ haids⟩
      · obtain ⟨asked, htrace, hend⟩ := confirm_trace b timing app limit v
        rw [hactivate, List.append_assoc, List.append_assoc, List.append_assoc] at htrace
        rcases hend with ⟨hok, misses, t, rfl, hmisses⟩ | ⟨herror, first, more, rfl, hmisses, hover⟩
        · refine ⟨_, htrace, ?_⟩
          rw [hok]
          exact .confirmed _ _ _ happ haids hmisses
        · refine ⟨_, htrace, ?_⟩
          rw [herror]
          exact .timedOut _ _ happ haids hmisses hover

end Activation

end KeyPlan
