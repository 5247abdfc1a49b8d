import KeyPlan.Proofs.Course
import KeyPlan.Proofs.RunSession

/-!
# A failure is the end of a run

An action fails at a key event that is refused, at a refused question for the running applications,
at a target that is not running, at a refused request to come to the front, or at the last answer if
none has confirmed the application. A run fails exactly if one of its actions does; it ends with that
call, and the text of the failure is what is said of it everywhere. The calls that make an
application ready never make an action fail.

## Main definitions

* `Event.Refuses`, `Run.FailsAt`: where an action fails, and what is said about it
* `Run.Performed.Fails`: a step that fails at an entry
* `Run.Accounts`: what an action has recorded tells how it ended

## Main results

* `Run.accounts_perform`: actions are accounted for by what they have recorded
* `Run.runFrom_of_failed`: a run ends with the action that fails
* `Run.failure_ends_run`: a failure is the end of the run
-/

namespace KeyPlan

/-- **A call that matters was refused**, and what is said about that: a key event, the question for
the running applications, the target that is not among them, or the request to come to the front. -/
inductive Event.Refuses : ActionKind → Event → String → Prop
  | key {kind : ActionKind} (e : KeyEvent) (f : Fault) : Refuses kind (.key e (.error f)) f.message
  | running (target : Target) (f : Fault) :
    Refuses (.switchTo target) (.call (.running (.error f)))
      (ActivationFault.refused target.name f.message).message
  | notRunning {target : Target} {apps : List Application}
      (h : Application.resolve? apps target = none) :
    Refuses (.switchTo target) (.call (.running (.ok apps)))
      (ActivationFault.notRunning target.name).message
  | activate (target : Target) (app : Application) (f : Fault) :
    Refuses (.switchTo target) (.call (.activate app (.error f)))
      (ActivationFault.refused app.name f.message).message

/-- A key event that was posted. -/
def Event.IsPosted : Event → Prop
  | key _ (.ok ()) => True
  | _ => False

namespace Event

theorem IsPosted.not_refuses {kind : ActionKind} {ev : Event} {message : String}
    (h : ev.IsPosted) : ¬ ev.Refuses kind message := by
  rintro (_ | _ | _ | _) <;> exact h

theorem IsPosted.not_isActivated {ev : Event} (h : ev.IsPosted) : ¬ ev.IsActivated := by
  cases ev with
  | call c => exact absurd h id
  | key e r => exact id
  | callback c s => exact id

theorem IsAid.not_refuses {app : Application} {kind : ActionKind} {ev : Event} {message : String}
    (h : ev.IsAid app) : ¬ ev.Refuses kind message := by
  rintro (_ | _ | _ | _) <;> exact h

theorem Misses.not_refuses {app : Application} {kind : ActionKind} {ev : Event} {message : String}
    (h : ev.Misses app) : ¬ ev.Refuses kind message := by
  rintro (_ | _ | _ | _) <;> exact h

end Event

namespace Run

/-- **Where an action fails**, and what is said about it: at an entry `x` that is a refusal, or at the
last answer if the application was asked to the front and no answer has confirmed it. What the action
has recorded before the entry is `asked`, and what it has recorded behind it is `behind`. -/
inductive FailsAt (limit : Nat) (kind : ActionKind) (asked : List Entry) (x : Entry)
    (behind : List Entry) : String → Prop
  | refused {message : String} (h : x.event.Refuses kind message) :
    FailsAt limit kind asked x behind message
  | unconfirmed {before polls : List Entry} {t : Nat} (app : Application)
      (hasked : asked = before ++ ⟨t, .call (.activate app (.ok ()))⟩ :: polls)
      (hpolls : ∀ y ∈ polls, y.event.Misses app) (hx : x.event.Misses app) (hlast : behind = []) :
    FailsAt limit kind asked x behind (ActivationFault.timedOut app.name limit).message

/-- **What an action has recorded tells how it ended**: it has failed exactly if it fails at an entry,
and that entry is the last one. -/
structure Accounts (limit : Nat) (kind : ActionKind) (es : List Entry) (p : Performance) : Prop where
  exists_failsAt : ∀ {message}, p = .failed message →
    ∃ asked x, es = asked ++ [x] ∧ FailsAt limit kind asked x [] message
  of_failsAt : ∀ {asked x behind message}, es = asked ++ x :: behind →
    FailsAt limit kind asked x behind message → behind = [] ∧ p = .failed message

/-! ## Key events -/

/-- **Key events that were posted**, up to the first one that was refused. -/
inductive Posts : List Entry → Except Fault Unit → Prop
  | done {es : List Entry} (h : ∀ x ∈ es, x.event.IsPosted) : Posts es (.ok ())
  | refused {es : List Entry} (h : ∀ x ∈ es, x.event.IsPosted) (t : Nat) (e : KeyEvent) (f : Fault) :
    Posts (es ++ [⟨t, .key e (.error f)⟩]) (.error f)

theorem Posts.append {es es' : List Entry} {r : Except Fault Unit} (h : Posts es (.ok ()))
    (h' : Posts es' r) : Posts (es ++ es') r := by
  obtain ⟨hes⟩ := h
  cases h' with
  | done hes' => exact .done (List.forall_mem_append.mpr ⟨hes, hes'⟩)
  | refused hes' t e f =>
    rw [← List.append_assoc]
    exact .refused (List.forall_mem_append.mpr ⟨hes, hes'⟩) t e f

theorem posts_post (b : Backend) (e : KeyEvent) (w : World) :
    Posts [⟨w.now, .key e (w.post b e).1⟩] (w.post b e).1 := by
  cases (w.post b e).1 with
  | error f => exact .refused (List.forall_mem_nil _) w.now e f
  | ok u => exact .done (List.forall_mem_singleton.mpr trivial)

theorem posts_press (b : Backend) (gap : Nat) (stroke : KeyStroke) (w : World) :
    ∃ es, (press b gap stroke w).2.trace = w.trace ++ es ∧ Posts es (press b gap stroke w).1 := by
  have htrace := World.trace_post b ⟨.down, stroke⟩ w
  have hdown := posts_post b ⟨.down, stroke⟩ w
  unfold press
  rcases hr : w.post b ⟨.down, stroke⟩ with ⟨f | _, v⟩ <;> rw [hr] at htrace hdown
  · exact ⟨_, htrace, hdown⟩
  · refine ⟨_, ?_, hdown.append (posts_post b ⟨.up, stroke⟩ (v.sleep gap))⟩
    dsimp only at htrace ⊢
    rw [World.trace_post, World.trace_sleep, htrace, List.append_assoc]

theorem posts_typeFrom (b : Backend) (s : Settings) (cs : List Char) :
    ∀ (first : Bool) (w : World), ∃ es,
      (typeFrom b s first cs w).2.trace = w.trace ++ es ∧ Posts es (typeFrom b s first cs w).1 := by
  induction cs with
  | nil => exact fun first w => ⟨[], (List.append_nil _).symm, .done (List.forall_mem_nil _)⟩
  | cons c cs ih =>
    intro first w
    have hw : (if first then w else w.sleep s.characterDelay).trace = w.trace := by
      split
      · rfl
      · exact World.trace_sleep ..
    obtain ⟨es, htrace, hpress⟩ := posts_press b s.keyEventDelay (strokeFor c)
      (if first then w else w.sleep s.characterDelay)
    rw [hw] at htrace
    unfold typeFrom
    dsimp only
    rcases hr : press b s.keyEventDelay (strokeFor c)
      (if first then w else w.sleep s.characterDelay) with ⟨f | _, v⟩ <;> rw [hr] at htrace hpress
    · exact ⟨es, htrace, hpress⟩
    · obtain ⟨es', htrace', hrest⟩ := ih false v
      refine ⟨es ++ es', ?_, hpress.append hrest⟩
      rw [← List.append_assoc, ← htrace]
      exact htrace'

/-- An entry of a list is its last one, or one of those before the last one. -/
theorem eq_last_or_mem {init asked behind : List Entry} {x y : Entry}
    (h : init ++ [y] = asked ++ x :: behind) :
    (behind = [] ∧ init = asked ∧ y = x) ∨ (behind ≠ [] ∧ x ∈ init) := by
  rcases List.eq_nil_or_concat behind with rfl | ⟨more, z, rfl⟩
  · obtain ⟨hinit, hxy⟩ := List.append_inj' h rfl
    exact .inl ⟨rfl, hinit, List.singleton_inj.mp hxy⟩
  · refine .inr ⟨by simp, ?_⟩
    rw [List.concat_eq_append, ← List.cons_append, ← List.append_assoc] at h
    rw [(List.append_inj' h rfl).1]
    exact List.mem_append_right _ List.mem_cons_self

/-- Where nothing was asked to the front, or something is recorded behind, an action fails only at a
refusal. -/
theorem FailsAt.refuses {limit : Nat} {kind : ActionKind} {asked behind : List Entry} {x : Entry}
    {message : String} (h : FailsAt limit kind asked x behind message)
    (hasked : behind = [] → ∀ y ∈ asked, ¬ y.event.IsActivated) :
    x.event.Refuses kind message := by
  cases h with
  | refused h => exact h
  | @unconfirmed before polls t app h hpolls hx hlast =>
    have hmem : (⟨t, .call (.activate app (.ok ()))⟩ : Entry) ∈ asked := by
      rw [h]
      exact List.mem_append_right _ List.mem_cons_self
    exact absurd trivial (hasked hlast _ hmem)

theorem Posts.accounts {limit : Nat} {kind : ActionKind} {es : List Entry} {r : Except Fault Unit}
    (h : Posts es r) : Accounts limit kind es (.ofResult r) := by
  cases h with
  | done hes =>
    refine ⟨nofun, fun hsplit hfails => ?_⟩
    obtain ⟨hasked, hx⟩ := List.forall_mem_append.mp (hsplit ▸ hes)
    have hrefuses := hfails.refuses fun _ y hy => (hasked y hy).not_isActivated
    exact absurd hrefuses (hx _ List.mem_cons_self).not_refuses
  | @refused es hes t e f =>
    constructor
    · rintro message ⟨⟩
      exact ⟨es, _, rfl, .refused (.key e f)⟩
    · intro asked x behind message hsplit hfails
      rcases eq_last_or_mem hsplit with ⟨rfl, rfl, rfl⟩ | ⟨hbehind, hx⟩
      · cases hfails.refuses fun _ y hy => (hes y hy).not_isActivated
        exact ⟨rfl, rfl⟩
      · exact absurd (hfails.refuses fun hnil => absurd hnil hbehind) (hes x hx).not_refuses

end Run

/-! ## Activations -/

theorem Event.not_refuses_of_resolved {target : Target} {apps : List Application}
    {app : Application} (h : Application.resolve? apps target = some app) (message : String) :
    ¬ (Event.call (.running (.ok apps))).Refuses (.switchTo target) message := by
  rintro (_ | _ | hnone | _)
  exact nomatch h.symm.trans hnone

namespace Activation.Course

variable {timing : Timing} {target : Target} {limit finish : Nat} {es : List Entry}
  {r : Except ActivationFault Unit}

/-- Nothing is refused up to the questions for the application in front, nor by their answers. -/
theorem not_refuses_of_mem {t t' : Nat} {apps : List Application} {app : Application}
    {aids polls : List Entry} {message : String}
    (happ : Application.resolve? apps target = some app) (haids : ∀ x ∈ aids, x.event.IsAid app)
    (hpolls : ∀ x ∈ polls, ¬ x.event.Refuses (.switchTo target) message) {x : Entry}
    (hx : x ∈ (⟨t, .call (.running (.ok apps))⟩ :: aids ++
      ⟨t', .call (.activate app (.ok ()))⟩ :: polls : List Entry)) :
    ¬ x.event.Refuses (.switchTo target) message := by
  rw [List.mem_append, List.mem_cons, List.mem_cons] at hx
  rcases hx with (rfl | haid) | rfl | hpoll
  · exact Event.not_refuses_of_resolved happ message
  · exact (haids x haid).not_refuses
  · rintro (_ | _ | _ | _)
  · exact hpolls x hpoll

/-- An activation records nothing behind a refusal, and its result is the fault of which the refusal
speaks. -/
theorem of_refuses (h : Course timing target limit finish es r) {asked behind : List Entry}
    {x : Entry} {message : String} (hsplit : es = asked ++ x :: behind)
    (hx : x.event.Refuses (.switchTo target) message) :
    behind = [] ∧ ∃ fault, r = .error fault ∧ fault.message = message := by
  have hmem : x ∈ es := by
    rw [hsplit]
    exact List.mem_append_right _ List.mem_cons_self
  cases h with
  | refused t f =>
    rcases Run.eq_last_or_mem (show [] ++ [_] = asked ++ x :: behind from hsplit) with
      ⟨rfl, -, rfl⟩ | ⟨-, hnil⟩
    · cases hx
      exact ⟨rfl, _, rfl, rfl⟩
    · exact nomatch hnil
  | notRunning t hnone =>
    rcases Run.eq_last_or_mem (show [] ++ [_] = asked ++ x :: behind from hsplit) with
      ⟨rfl, -, rfl⟩ | ⟨-, hnil⟩
    · cases hx
      exact ⟨rfl, _, rfl, rfl⟩
    · exact nomatch hnil
  | notActivated t t' f happ haids =>
    rcases Run.eq_last_or_mem hsplit with ⟨rfl, -, rfl⟩ | ⟨-, hinit⟩
    · cases hx
      exact ⟨rfl, _, rfl, rfl⟩
    · -- before the request to come to the front nothing is refused
      rcases List.mem_cons.mp hinit with rfl | haid
      · exact absurd hx (Event.not_refuses_of_resolved happ message)
      · exact absurd hx (haids x haid).not_refuses
  | confirmed t t' t'' happ haids hmisses =>
    refine absurd hx (not_refuses_of_mem happ haids (fun y hy => ?_) hmem)
    rcases List.mem_append.mp hy with hmiss | hlast
    · exact (hmisses y hmiss).not_refuses
    · rw [List.mem_singleton.mp hlast]
      rintro (_ | _ | _ | _)
  | timedOut t t' happ haids hmisses hover =>
    exact absurd hx (not_refuses_of_mem happ haids (fun y hy => (hmisses y hy).not_refuses) hmem)

end Activation.Course

namespace Run

/-- The performance that an activation amounts to. -/
def Performance.ofActivation : Except ActivationFault Unit → Performance
  | .ok () => .done
  | .error fault => .failed fault.message

theorem accounts_activate {timing : Timing} {target : Target} {limit finish : Nat} {es : List Entry}
    {r : Except ActivationFault Unit}
    (h : Activation.Course timing target limit finish es r) :
    Accounts limit (.switchTo target) es (.ofActivation r) := by
  constructor
  · intro message hp
    cases h with
    | refused t f =>
      cases hp
      exact ⟨[], _, rfl, .refused (.running target f)⟩
    | notRunning t hnone =>
      cases hp
      exact ⟨[], _, rfl, .refused (.notRunning hnone)⟩
    | notActivated t t' f happ haids =>
      cases hp
      exact ⟨_, _, rfl, .refused (.activate target _ f)⟩
    | confirmed t t' t'' happ haids hmisses => exact nomatch hp
    | @timedOut t t' apps app aids first more happ haids hmisses hover =>
      cases hp
      obtain ⟨polls, last, hlast⟩ := List.eq_nil_or_concat (first :: more) |>.resolve_left nofun
      rw [List.concat_eq_append] at hlast
      rw [hlast] at hmisses ⊢
      obtain ⟨hpolls, hx⟩ := List.forall_mem_append.mp hmisses
      refine ⟨⟨t, .call (.running (.ok apps))⟩ :: aids ++
        ⟨t', .call (.activate app (.ok ()))⟩ :: polls, last, ?_, ?_⟩
      · simp only [List.append_assoc, List.cons_append]
      · exact .unconfirmed app rfl hpolls (hx last (List.mem_singleton_self _)) rfl
  · intro asked x behind message hsplit hfails
    cases hfails with
    | refused hx =>
      obtain ⟨hbehind, fault, rfl, hmessage⟩ := h.of_refuses hsplit hx
      exact ⟨hbehind, congrArg Performance.failed hmessage⟩
    | unconfirmed app hasked hpolls hx hlast =>
      refine ⟨hlast, ?_⟩
      rw [hasked, hlast, List.append_assoc, List.cons_append] at hsplit
      rcases h.of_activated hsplit with ⟨-, misses, t, hm⟩ | ⟨hr, -⟩
      · obtain ⟨-, hx'⟩ := List.append_inj' hm rfl
        rw [List.singleton_inj.mp hx'] at hx
        exact absurd rfl hx
      · rw [hr]
        rfl

/-! ## Actions -/

/-- **An action is accounted for by what it has recorded.** -/
theorem accounts_perform (e : Engine) (kind : ActionKind) (w : World) :
    ∃ es, (perform e kind w).2.trace = w.trace ++ es ∧
      Accounts e.timing.defaultTimeout kind es (perform e kind w).1 := by
  cases kind with
  | keyPress key modifiers =>
    obtain ⟨es, htrace, hposts⟩ :=
      posts_press e.backend e.settings.keyEventDelay ⟨key, modifiers⟩ w
    exact ⟨es, htrace, hposts.accounts⟩
  | typeText text =>
    obtain ⟨es, htrace, hposts⟩ := posts_typeFrom e.backend e.settings text.toList true w
    exact ⟨es, htrace, hposts.accounts⟩
  | delay ms =>
    -- a delay records nothing, and does not fail
    refine ⟨[], (World.trace_pause w ms.toNat).trans (List.append_nil _).symm, ?_, ?_⟩
    · intro message hp
      rw [perform_delay] at hp
      dsimp only at hp
      split at hp <;> exact nomatch hp
    · intro asked x behind message hsplit
      simp at hsplit
  | switchTo target =>
    obtain ⟨es, htrace, hcourse⟩ :=
      Activation.course_activate e.backend e.timing target e.timing.defaultTimeout w
    rw [perform_switchTo]
    exact ⟨es, htrace, accounts_activate hcourse⟩

/-- What the step has recorded. -/
def Performed.recorded (s : Performed) : List Entry := s.after.trace.drop s.before.trace.length

/-- **The step fails at an entry** of what it has recorded, which stands between `asked` and
`behind`. -/
structure Performed.Fails (e : Engine) (s : Performed) (asked : List Entry) (x : Entry)
    (behind : List Entry) (message : String) : Prop where
  recorded_eq : s.recorded = asked ++ x :: behind
  failsAt : FailsAt e.timing.defaultTimeout s.action.kind asked x behind message

section Steps

variable {e : Engine} {observed : Bool} {s : Performed}

theorem recorded_eq {es : List Entry} (h : s.after.trace = s.before.trace ++ es) :
    s.recorded = es := by
  rw [Performed.recorded, h, List.drop_left]

/-- A step is accounted for by what it has recorded. -/
theorem accounts_recorded (h : perform e s.action.kind s.before = (s.result, s.after)) :
    s.after.trace = s.before.trace ++ s.recorded ∧
      Accounts e.timing.defaultTimeout s.action.kind s.recorded s.result := by
  obtain ⟨es, htrace, haccounts⟩ := accounts_perform e s.action.kind s.before
  rw [h] at htrace haccounts
  rw [recorded_eq htrace]
  exact ⟨htrace, haccounts⟩

/-- What a step has recorded is the course of an activation, or it consists of key events. -/
theorem course_recorded (h : perform e s.action.kind s.before = (s.result, s.after)) :
    (∀ x ∈ s.recorded, x.event.IsKey) ∨
    ∃ target r, Activation.Course e.timing target e.timing.defaultTimeout s.after.now s.recorded r :=
    by
  cases hk : s.action.kind.isSwitch with
  | false =>
    obtain ⟨es, htrace, hkeys⟩ := (grows_perform_of_not_switch e hk s.before).trace
    rw [h] at htrace
    rw [recorded_eq htrace]
    exact .inl hkeys
  | true =>
    cases hkind : s.action.kind with
    | switchTo target =>
      obtain ⟨es, htrace, hcourse⟩ :=
        Activation.course_activate e.backend e.timing target e.timing.defaultTimeout s.before
      rw [hkind, perform_switchTo] at h
      rw [(Prod.mk.inj h).2] at htrace hcourse
      rw [recorded_eq htrace]
      exact .inr ⟨target, _, hcourse⟩
    | _ => simp [hkind, ActionKind.isSwitch] at hk

/-- **A call that makes an application ready is never the last one** of a step, whatever came of
it. -/
theorem ne_nil_of_isAid (h : perform e s.action.kind s.before = (s.result, s.after))
    {asked behind : List Entry} {x : Entry} {app : Application}
    (hsplit : s.recorded = asked ++ x :: behind) (hx : x.event.IsAid app) : behind ≠ [] := by
  rintro rfl
  rcases course_recorded h with hkeys | ⟨target, r, hcourse⟩
  · have hkey := hkeys x (hsplit ▸ List.mem_append_right _ (List.mem_singleton_self x))
    exact hx.isFocusCall.isCall.not_isKey hkey
  · obtain ⟨init, last, hlast, hnot⟩ := hcourse.exists_last
    obtain ⟨-, hxl⟩ := List.append_inj' (hsplit.symm.trans hlast) rfl
    rw [List.singleton_inj.mp hxl] at hx
    exact hnot app hx

/-- **Asking does not end early**: a step in which no answer has confirmed the application has asked
until the time was up. -/
theorem time_up_of_misses (h : perform e s.action.kind s.before = (s.result, s.after))
    (hinterval : 0 < e.timing.pollInterval) {before polls : List Entry} {t : Nat}
    {app : Application}
    (hsplit : s.recorded = before ++ ⟨t, .call (.activate app (.ok ()))⟩ :: polls)
    (hpolls : ∀ y ∈ polls, y.event.Misses app) :
    ∃ first more, polls = first :: more ∧
      first.time + e.timing.defaultTimeout ≤ s.after.now := by
  rcases course_recorded h with hkeys | ⟨target, r, hcourse⟩
  · have hkey := hkeys _ (hsplit ▸ List.mem_append_right _ List.mem_cons_self)
    exact absurd hkey id
  · rcases hcourse.of_activated hsplit with ⟨-, misses, t', rfl⟩ | ⟨-, first, more, rfl, hover⟩
    · exact absurd rfl (hpolls _ (List.mem_append_right _ (List.mem_singleton_self _)))
    · exact ⟨first, more, rfl, hover hinterval⟩

/-! ## Runs -/

/-- **A run ends with the action that fails.** -/
theorem runFrom_of_failed {actions : List Action} :
    ∀ {index : Nat} {w : World} {k : Nat} {s : Performed} {message : String},
      (performedFrom e observed index actions w)[k]? = some s → s.result = .failed message →
      runFrom e observed index actions w = abort observed (index + k) message s.after ∧
        (performedFrom e observed index actions w).length = k + 1 := by
  induction actions with
  | nil => intro index w k s message h; simp [performedFrom] at h
  | cons a rest ih =>
    intro index w k s message h hfailed
    rcases runFrom_cons_cases e observed index a rest w with
      ⟨-, -, hp⟩ | ⟨-, r, hs, hr, hp⟩ | ⟨-, v, hs, hr, hp⟩ <;> rw [hp] at h ⊢
    · simp at h
    · obtain ⟨rfl, rfl⟩ : k = 0 ∧ stepAt e observed index a w = s := by
        cases k <;> simp_all
      rcases settle_eq_error hs with ⟨hc, -⟩ | ⟨message', hm, rfl⟩ | ⟨hd, -⟩
      · cases hc.symm.trans hfailed
      · cases hm.symm.trans hfailed
        exact ⟨hr, rfl⟩
      · cases hd.symm.trans hfailed
    · cases k with
      | zero =>
        -- a run that goes on behind an action has done it
        obtain rfl : stepAt e observed index a w = s := by simpa using h
        cases (settle_eq_ok hs).1.symm.trans hfailed
      | succ k =>
        obtain ⟨hrun, hlength⟩ := ih (by simpa using h) hfailed
        refine ⟨?_, congrArg (· + 1) hlength⟩
        rw [hr, hrun, Nat.add_right_comm, Nat.add_assoc]

/-- A run fails only in an action. -/
theorem exists_failed {actions : List Action} :
    ∀ {index : Nat} {w : World}, (runFrom e observed index actions w).1.status = .failed →
      ∃ s ∈ performedFrom e observed index actions w, ∃ message, s.result = .failed message := by
  induction actions with
  | nil => exact fun h => nomatch h
  | cons a rest ih =>
    intro index w h
    rcases runFrom_cons_cases e observed index a rest w with
      ⟨-, hr, hp⟩ | ⟨-, r, hs, hr, hp⟩ | ⟨-, v, hs, hr, hp⟩ <;> rw [hr] at h <;> rw [hp]
    · exact nomatch h
    · rcases settle_eq_error hs with ⟨-, rfl⟩ | ⟨message, hm, -⟩ | ⟨-, -, v, -, rfl⟩
      · exact nomatch h
      · exact ⟨_, List.mem_singleton_self _, message, hm⟩
      · exact nomatch h
    · obtain ⟨s, hs, hfailed⟩ := ih h
      exact ⟨s, List.mem_cons_of_mem _ hs, hfailed⟩

/-- A run that is completed has finished all of its actions. -/
theorem outcome_of_completed {actions : List Action} :
    ∀ {index : Nat} {w : World}, (runFrom e observed index actions w).1.status = .completed →
      (runFrom e observed index actions w).1 =
        ⟨.completed, completedMessage (index + actions.length), index + actions.length⟩ := by
  induction actions with
  | nil => exact fun _ => rfl
  | cons a rest ih =>
    intro index w h
    rcases runFrom_cons_cases e observed index a rest w with
      ⟨-, hr, -⟩ | ⟨-, r, hs, hr, -⟩ | ⟨-, v, -, hr, -⟩ <;> rw [hr] at h ⊢
    · exact nomatch h
    · rcases settle_eq_error hs with ⟨-, rfl⟩ | ⟨message, -, rfl⟩ | ⟨-, -, v, -, rfl⟩ <;>
        exact nomatch h
    · rw [ih h, List.length_cons, Nat.add_right_comm, Nat.add_assoc]

/-- A step of a run fails at an entry exactly if it has failed, and then that is its last entry. -/
theorem Performed.Fails.result {actions : List Action} {index k : Nat} {w : World}
    {asked behind : List Entry} {x : Entry} {message : String}
    (hs : (performedFrom e observed index actions w)[k]? = some s)
    (h : s.Fails e asked x behind message) :
    s.result = .failed message ∧ s.after.trace = s.before.trace ++ asked ++ [x] := by
  obtain ⟨-, -, hperf, -⟩ := performedFrom_getElem? hs
  obtain ⟨htrace, haccounts⟩ := accounts_recorded hperf
  obtain ⟨rfl, hfailed⟩ := haccounts.of_failsAt h.recorded_eq h.failsAt
  rw [htrace, h.recorded_eq, List.append_assoc]
  exact ⟨hfailed, rfl⟩

end Steps

section Whole

variable {e : Engine} {observed : Bool} {actions : List Action} {w : World}

theorem permitted_of_mem {s : Performed} (hs : s ∈ performed e observed actions w) :
    e.backend.permitted = true := by
  cases hperm : e.backend.permitted with
  | true => rfl
  | false => simp [performed, hperm] at hs

theorem perform_of_mem {s : Performed} (hs : s ∈ performed e observed actions w) :
    perform e s.action.kind s.before = (s.result, s.after) := by
  rw [performed_of_permitted e observed (permitted_of_mem hs)] at hs
  obtain ⟨k, hk⟩ := List.mem_iff_getElem?.mp hs
  exact (performedFrom_getElem? hk).2.2.1

/-- Where a step fails at an entry, the run is given up behind that entry. -/
theorem run_of_fails {k : Nat} {s : Performed} {asked behind : List Entry} {x : Entry}
    {message : String} (hs : (performed e observed actions w)[k]? = some s)
    (hfails : s.Fails e asked x behind message) :
    run e observed actions w = abort observed k message s.after ∧
      (performed e observed actions w).length = k + 1 ∧ actions[k]? = some s.action ∧
      s.after.trace = s.before.trace ++ asked ++ [x] := by
  have hperm := permitted_of_mem (List.mem_of_getElem? hs)
  rw [performed_of_permitted e observed hperm] at hs ⊢
  obtain ⟨hresult, htrace⟩ := hfails.result hs
  obtain ⟨habort, hlength⟩ := runFrom_of_failed hs hresult
  obtain ⟨-, ha, -⟩ := performedFrom_getElem? hs
  rw [Nat.zero_add] at habort
  exact ⟨(run_of_permitted e observed hperm actions w).trans habort, hlength, ha, htrace⟩

/-- A run that is permitted fails only at an entry. -/
theorem exists_fails (hperm : e.backend.permitted = true)
    (hstatus : (run e observed actions w).1.status = .failed) :
    ∃ s ∈ performed e observed actions w, ∃ asked x behind message,
      s.Fails e asked x behind message := by
  rw [run_of_permitted e observed hperm] at hstatus
  obtain ⟨s, hs, message, hresult⟩ := exists_failed hstatus
  rw [← performed_of_permitted e observed hperm] at hs
  obtain ⟨asked, x, hrecorded, hfails⟩ :=
    (accounts_recorded (perform_of_mem hs)).2.exists_failsAt hresult
  exact ⟨s, hs, asked, x, [], message, hrecorded, hfails⟩

/-- What a run that is given up still says. -/
theorem events_abort (index : Nat) (message : String) (w : World) :
    ∃ told, (abort observed index message w).2.trace = w.trace ++ told ∧
      told.map (·.event.callback?) =
        if observed then [some (.completed false message)] else [] :=
  events_notify observed (.completed false message) _

/-- Without a cancellation a run fails at an entry, or it is completed. -/
theorem outcome_of_isCalm (hperm : e.backend.permitted = true) (hw : w.IsCalm)
    (hnone : ∀ s ∈ performed e observed actions w, ∀ asked x behind message,
      ¬ s.Fails e asked x behind message) :
    (run e observed actions w).1 =
      ⟨.completed, completedMessage actions.length, actions.length⟩ := by
  have hrun := run_of_permitted e observed hperm actions w
  have hcalm : (run e observed actions w).1.status ≠ .cancelled := by
    rw [hrun]
    exact status_runFrom_of_isCalm (hw.grows (grows_launch observed actions.length w))
  cases hstatus : (run e observed actions w).1.status with
  | completed =>
    rw [hrun] at hstatus ⊢
    rw [outcome_of_completed hstatus, Nat.zero_add]
  | cancelled => exact absurd hstatus hcalm
  | failed =>
    obtain ⟨s, hs, asked, x, behind, message, hfails⟩ := exists_fails hperm hstatus
    exact absurd hfails (hnone s hs asked x behind message)

/-- **A failure is the end of the run**, where input is permitted. A run fails exactly if a step of it
fails at an entry. Then all actions before that step are finished, there is no later step, nothing
but the last callback is recorded behind that entry, and the text of the failure is the message of
the outcome, of the callback and of the session. Nothing else makes a run fail: without a
cancellation it is completed. A call that makes an application ready is followed by another one in
its step, whatever came of it, and the application in front is asked for until the time is up,
whatever came of each question. -/
theorem failure_ends_run (e : Engine) (observed : Bool) (actions : List Action) (w : World)
    (hperm : e.backend.permitted = true) :
    let o := (run e observed actions w).1
    let v := (run e observed actions w).2
    let steps := performed e observed actions w
    (o.status = .failed ↔ ∃ s ∈ steps, ∃ asked x behind message, s.Fails e asked x behind message) ∧
    (∀ (k : Nat) (s : Performed) asked x behind message, steps[k]? = some s →
      s.Fails e asked x behind message →
      actions[k]? = some s.action ∧ o = ⟨.failed, message, k⟩ ∧ steps.length = k + 1 ∧
      (∃ told, v.trace = s.before.trace ++ asked ++ [x] ++ told ∧
        told.map (·.event.callback?) =
          if observed then [some (.completed false message)] else []) ∧
      (w.session.Unused → v.session.snapshot.error = some message)) ∧
    (w.IsCalm → (∀ s ∈ steps, ∀ asked x behind message, ¬ s.Fails e asked x behind message) →
      o = ⟨.completed, completedMessage actions.length, actions.length⟩) ∧
    (∀ s ∈ steps, ∀ asked x behind app, s.recorded = asked ++ x :: behind → x.event.IsAid app →
      behind ≠ []) ∧
    (0 < e.timing.pollInterval → ∀ s ∈ steps, ∀ before t app polls,
      s.recorded = before ++ ⟨t, .call (.activate app (.ok ()))⟩ :: polls →
      (∀ y ∈ polls, y.event.Misses app) →
      ∃ first more, polls = first :: more ∧
        first.time + e.timing.defaultTimeout ≤ s.after.now) := by
  intro o v steps
  refine ⟨⟨exists_fails hperm, ?_⟩, ?_, outcome_of_isCalm hperm, ?_, ?_⟩
  · rintro ⟨s, hs, asked, x, behind, message, hfails⟩
    obtain ⟨k, hk⟩ := List.mem_iff_getElem?.mp hs
    exact congrArg (·.1.status) (run_of_fails hk hfails).1
  · intro k s asked x behind message hs hfails
    obtain ⟨habort, hlength, ha, htrace⟩ := run_of_fails hs hfails
    have ho : o = ⟨.failed, message, k⟩ := congrArg Prod.fst habort
    obtain ⟨told, htold, hevents⟩ := @events_abort observed k message s.after
    rw [← habort, htrace] at htold
    refine ⟨ha, ho, hlength, ⟨told, htold, hevents⟩, fun hw => ?_⟩
    have hbears : v.session.snapshot.Bears o.verdict? := bears_run hw
    rw [ho] at hbears
    exact (hbears.error message).mpr rfl
  · exact fun s hs asked x behind app => ne_nil_of_isAid (perform_of_mem hs)
  · exact fun hinterval s hs before t app polls => time_up_of_misses (perform_of_mem hs) hinterval

end Whole

/-- The hidden application Notes. -/
def hiddenNotes : Application := ⟨11, "Notes", some "com.apple.Notes", true⟩

/-- An engine under which Notes can neither be shown again nor looked at for minimized windows, the
first question for the application in front is refused, and Notes comes to the front only once. -/
def stubbornEngine : Engine where
  backend :=
    { permitted := true
      running := fun _ => ⟨5, .ok [hiddenNotes]⟩
      unhide := fun _ => ⟨0, .error (.scripting "busy")⟩
      hasMinimized := fun _ => ⟨0, .error (.scripting "busy")⟩
      restore := fun _ => ⟨0, .ok 0⟩
      activate := fun n => ⟨0, if n = 0 then .ok () else .error (.scripting "denied")⟩
      frontmost := fun n => ⟨0, if n = 0 then .error (.scripting "busy") else .ok .lastActivated⟩
      post := fun _ => .ok () }

/-- A switch and a key press, twice. -/
def stubbornPlan : List Action :=
  [⟨.switchTo ⟨none, "notes"⟩, "go"⟩, ⟨.keyPress 'a' .empty, "a"⟩,
    ⟨.switchTo ⟨none, "notes"⟩, "back"⟩, ⟨.keyPress 'b' .empty, "b"⟩]

/-- The first switch is done in spite of three refused calls, and the run ends in the second one. -/
theorem failure_ends_run_stubborn :
    stubbornEngine.backend.permitted = true ∧
      let r := run stubbornEngine true stubbornPlan {}
      r.1 = ⟨.failed, "Failed to activate 'Notes': Scripting error: denied", 2⟩ ∧
        (performed stubbornEngine true stubbornPlan {}).length = 3 ∧
        r.2.session.snapshot.error = some "Failed to activate 'Notes': Scripting error: denied" := by
  have hperm : stubbornEngine.backend.permitted = true := rfl
  have hthird : ((performed stubbornEngine true stubbornPlan {})[2]?).map
      (fun s => (s.action.kind, s.recorded.getLast?.map Entry.event)) =
        some (.switchTo ⟨none, "notes"⟩,
          some (.call (.activate hiddenNotes (.error (.scripting "denied"))))) := by
    decide +kernel
  obtain ⟨s, hs, hlast⟩ := Option.map_eq_some_iff.mp hthird
  obtain ⟨hkind, hrecorded⟩ := Prod.mk.inj hlast
  obtain ⟨x, hx, hevent⟩ := Option.map_eq_some_iff.mp hrecorded
  obtain ⟨asked, hasked⟩ := List.getLast?_eq_some_iff.mp hx
  have hfails : s.Fails stubbornEngine asked x []
      "Failed to activate 'Notes': Scripting error: denied" := by
    refine ⟨hasked, .refused ?_⟩
    rw [hkind, hevent]
    exact .activate ⟨none, "notes"⟩ hiddenNotes (.scripting "denied")
  obtain ⟨-, hend, -⟩ := failure_ends_run stubbornEngine true stubbornPlan {} hperm
  obtain ⟨-, ho, hlength, -, hsession⟩ := hend 2 s asked x [] _ hs hfails
  exact ⟨hperm, ho, hlength, hsession Session.unused_fresh⟩

end Run

end KeyPlan
