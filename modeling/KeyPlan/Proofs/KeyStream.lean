import KeyPlan.Proofs.KeyCodes
import KeyPlan.Proofs.Steps

/-!
# The key events of a run

The actions of a plan are a list of key strokes, and each stroke is a press and a release. A run
posts a beginning of these events, and all of them if it is completed. It never stops between a
press and its release, unless the press itself has failed.

## Main definitions

* `Run.strokes`, `Run.presses`, `Run.stream`: the strokes of an action, their events, and the events
  of a plan
* `Run.Released`: every press is followed by its release at once
* `Run.Posted`: a trace later on, with the events of strokes as far as they were posted

## Main results

* `Run.Posted.trans`: posted strokes compose
* `Run.posted_press`, `Run.posted_typeFrom`, `Run.posted_perform`: what an action posts
* `Run.keys_run`: what a run posts
-/

namespace KeyPlan.Run

open Trace (Extends)

/-! ## The events of a plan -/

/-- **The strokes of an action.** Each character of a text has one, with the modifiers that type
it. -/
def strokes : ActionKind → List KeyStroke
  | .keyPress key modifiers => [⟨key, modifiers⟩]
  | .typeText text => text.toList.map fun c => ⟨c, Keyboard.modifiersFor c .empty⟩
  | .delay _ => []
  | .switchTo _ => []

/-- Each stroke is a press and a release. -/
def presses (ss : List KeyStroke) : List KeyEvent :=
  ss.flatMap fun s => [⟨.down, s⟩, ⟨.up, s⟩]

/-- **The key events of a plan**, in order. -/
def stream (actions : List Action) : List KeyEvent :=
  actions.flatMap fun a => presses (strokes a.kind)

@[simp] theorem presses_append (ss ss' : List KeyStroke) :
    presses (ss ++ ss') = presses ss ++ presses ss' := List.flatMap_append

theorem length_presses (ss : List KeyStroke) : (presses ss).length = 2 * ss.length := by
  induction ss with
  | nil => rfl
  | cons s ss ih =>
    simp only [presses, List.flatMap_cons, List.length_append, List.length_cons] at ih ⊢
    rw [ih, List.length_nil]
    omega

theorem stream_eq_presses (actions : List Action) :
    stream actions = presses (actions.flatMap fun a => strokes a.kind) := by
  rw [presses, List.flatMap_assoc]
  rfl

/-! ## Releases -/

/-- **No key stays down**: a press that was posted is followed by its release at once, with nothing
in between. -/
def Released (es : List Entry) : Prop :=
  ∀ before t s behind, es = before ++ ⟨t, .key ⟨.down, s⟩ (.ok ())⟩ :: behind →
    ∃ t' r more, behind = ⟨t', .key ⟨.up, s⟩ r⟩ :: more

theorem Released.append {es es' : List Entry} (h : Released es) (h' : Released es') :
    Released (es ++ es') := by
  intro before t s behind he
  rcases List.append_eq_append_iff.mp he with ⟨mid, rfl, hmid⟩ | ⟨mid, hes, hmid⟩
  · exact h' mid t s behind hmid
  · -- the press is in the first part, so its release is there too
    cases mid with
    | nil => exact h' [] t s behind (by simpa using hmid.symm)
    | cons x mid =>
      obtain ⟨rfl, rfl⟩ := List.cons.inj hmid
      obtain ⟨t', r, more, rfl⟩ := h before t s mid hes
      exact ⟨t', r, more ++ es', rfl⟩

theorem released_of_not_isKey {es : List Entry} (h : ∀ x ∈ es, ¬ x.event.IsKey) :
    Released es := by
  rintro before t s behind rfl
  have hpress : (⟨t, .key ⟨.down, s⟩ (.ok ())⟩ : Entry) ∈
      before ++ ⟨t, .key ⟨.down, s⟩ (.ok ())⟩ :: behind := by simp
  exact absurd trivial (h _ hpress)

/-! ## Posted strokes -/

/-- **A trace later on**, with the events of the strokes as far as they were posted, and all of them
if `all` holds. There is an odd number of them only if the last one is a press that failed. -/
def Posted (ss : List KeyStroke) (all : Prop) (es es' : List Entry) : Prop :=
  ∃ new, es' = es ++ new ∧ (Trace.keys new).map Prod.fst <+: presses ss ∧
    (all → (Trace.keys new).map Prod.fst = presses ss) ∧
    ((Trace.keys new).length % 2 = 1 →
      ∃ s f, (Trace.keys new).getLast? = some (⟨.down, s⟩, .error f)) ∧
    Released new

namespace Posted

variable {ss ss' : List KeyStroke} {all all' : Prop} {es es' es'' : List Entry}

theorem refl (es : List Entry) : Posted [] all es es := by
  refine ⟨[], (List.append_nil es).symm, List.nil_prefix, fun _ => rfl, ?_, ?_⟩
  · exact fun h => nomatch h
  · exact released_of_not_isKey fun x hx => nomatch hx

/-- Where no key event is recorded any more, the strokes that were posted stay the same. -/
theorem extend {P : Event → Prop} (h : Posted ss all es es') (hx : Extends P es' es'')
    (hP : ∀ ev, P ev → ¬ ev.IsKey) : Posted ss all es es'' := by
  obtain ⟨new, rfl, hprefix, hall, hodd, hreleased⟩ := h
  obtain ⟨more, rfl, hmore⟩ := hx
  have hnone : ∀ x ∈ more, ¬ x.event.IsKey := fun x hx => hP _ (hmore x hx)
  have hkeys : Trace.keys (new ++ more) = Trace.keys new := by
    rw [Trace.keys_append, Trace.keys_eq_nil hnone, List.append_nil]
  refine ⟨new ++ more, List.append_assoc .., ?_, ?_, ?_,
    hreleased.append (released_of_not_isKey hnone)⟩ <;> rw [hkeys]
  · exact hprefix
  · exact hall
  · exact hodd

theorem mono (h : Posted ss all es es') (ha : all' → all) : Posted ss all' es es' := by
  obtain ⟨new, he, hprefix, hall, hodd, hreleased⟩ := h
  exact ⟨new, he, hprefix, fun h => hall (ha h), hodd, hreleased⟩

/-- A beginning of the strokes is a beginning of more strokes. -/
theorem append_right (h : Posted ss all es es') (ss' : List KeyStroke) :
    Posted (ss ++ ss') False es es' := by
  obtain ⟨new, he, hprefix, -, hodd, hreleased⟩ := h
  refine ⟨new, he, ?_, False.elim, hodd, hreleased⟩
  rw [presses_append]
  exact hprefix.trans (List.prefix_append ..)

/-- **Posted strokes compose**, if all of the first ones were posted. -/
theorem trans (h : Posted ss True es es') (h' : Posted ss' all es' es'') :
    Posted (ss ++ ss') all es es'' := by
  obtain ⟨new, rfl, -, hall, -, hreleased⟩ := h
  obtain ⟨new', rfl, hprefix', hall', hodd', hreleased'⟩ := h'
  have hfst := hall trivial
  -- all of the first strokes are an even number of events, so the odd one is among the others
  have heven : (Trace.keys new).length = 2 * ss.length := by
    rw [← length_presses, ← hfst, List.length_map]
  refine ⟨new ++ new', List.append_assoc .., ?_, ?_, ?_, hreleased.append hreleased'⟩ <;>
    simp only [Trace.keys_append, List.map_append, presses_append, hfst]
  · exact (List.prefix_append_right_inj _).mpr hprefix'
  · intro ha
    rw [hall' ha]
  · intro hodd
    rw [List.length_append, heven, Nat.mul_add_mod] at hodd
    obtain ⟨s, f, hlast⟩ := hodd' hodd
    exact ⟨s, f, by rw [List.getLast?_append, hlast]; rfl⟩

end Posted

/-! ## What an action posts -/

/-- A press that fails needs no release. -/
theorem posted_failed (s : KeyStroke) (f : Fault) (t : Nat) (es : List Entry) :
    Posted [s] False es (es ++ [⟨t, .key ⟨.down, s⟩ (.error f)⟩]) := by
  refine ⟨_, rfl, ⟨[⟨.up, s⟩], rfl⟩, False.elim, fun _ => ⟨s, f, rfl⟩, ?_⟩
  intro before t' s' behind he
  rcases before with _ | ⟨x, before⟩ <;> simp at he

/-- A press that succeeds is followed by its release. -/
theorem posted_stroke (s : KeyStroke) (r : Except Fault Unit) (t t' : Nat) (es : List Entry) :
    Posted [s] True es
      (es ++ [⟨t, .key ⟨.down, s⟩ (.ok ())⟩, ⟨t', .key ⟨.up, s⟩ r⟩]) := by
  refine ⟨_, rfl, List.prefix_rfl, fun _ => rfl, ?_, ?_⟩
  · intro h
    simp [Trace.keys, Event.key?] at h
  intro before u s' behind he
  rcases before with _ | ⟨x, _ | ⟨y, before⟩⟩ <;> simp at he
  obtain ⟨⟨rfl, rfl⟩, rfl⟩ := he
  exact ⟨t', r, [], rfl⟩

/-- A stroke is posted, unless its press or its release fails. -/
theorem posted_press (b : Backend) (gap : Nat) (s : KeyStroke) (w : World) :
    Posted [s] ((press b gap s w).1 = .ok ()) w.trace (press b gap s w).2.trace := by
  have hdown := World.trace_post b ⟨.down, s⟩ w
  unfold press
  rcases hr : w.post b ⟨.down, s⟩ with ⟨f | _, v⟩ <;> rw [hr] at hdown <;> dsimp only at hdown ⊢
  -- the press fails, or its release follows whether or not that one fails
  · rw [hdown]
    exact (posted_failed s f w.now w.trace).mono fun h => nomatch h
  · rw [World.trace_post b ⟨.up, s⟩ (v.sleep gap), World.trace_sleep, hdown, List.append_assoc]
    exact (posted_stroke s _ w.now _ w.trace).mono fun _ => trivial

/-- The strokes of a text are posted up to the first failure. -/
theorem posted_typeFrom (b : Backend) (s : Settings) (cs : List Char) :
    ∀ (first : Bool) (w : World),
      Posted (cs.map strokeFor) ((typeFrom b s first cs w).1 = .ok ()) w.trace
        (typeFrom b s first cs w).2.trace := by
  induction cs with
  | nil => exact fun first w => .refl _
  | cons c cs ih =>
    intro first w
    unfold typeFrom
    have hw : (if first then w else w.sleep s.characterDelay).trace = w.trace := by
      split
      · rfl
      · exact World.trace_sleep ..
    have hp := posted_press b s.keyEventDelay (strokeFor c)
      (if first then w else w.sleep s.characterDelay)
    rw [hw] at hp
    dsimp only
    rcases hr : press b s.keyEventDelay (strokeFor c)
      (if first then w else w.sleep s.characterDelay) with ⟨f | _, v⟩ <;> rw [hr] at hp
    -- the first stroke fails, or the rest of the text follows
    · exact (hp.append_right _).mono (by rintro ⟨⟩)
    · exact (hp.mono fun _ => rfl).trans (ih false v)

theorem ofResult_eq_done {r : Except Fault Unit} (h : Performance.ofResult r = .done) :
    r = .ok () := by
  cases r with
  | error f => exact nomatch h
  | ok u => rfl

/-- **The strokes of an action are posted**, and all of them if it is done. -/
theorem posted_perform (e : Engine) (kind : ActionKind) (w : World) :
    Posted (strokes kind) ((perform e kind w).1 = .done) w.trace (perform e kind w).2.trace := by
  cases kind with
  | keyPress key modifiers =>
    exact (posted_press e.backend e.settings.keyEventDelay ⟨key, modifiers⟩ w).mono ofResult_eq_done
  | typeText text =>
    exact (posted_typeFrom e.backend e.settings text.toList true w).mono ofResult_eq_done
  | delay ms =>
    have hpause := World.grows_pause (P := Event.IsCall) w ms.toNat
    exact (Posted.refl _).extend hpause.trace fun _ => Event.IsCall.not_isKey
  | switchTo target =>
    rw [perform_switchTo]
    have hcalls := Activation.grows_activate e.backend e.timing target e.timing.defaultTimeout w
    exact (Posted.refl _).extend hcalls.trace fun _ => Event.IsCall.not_isKey

/-! ## What a run posts -/

variable (e : Engine) (observed : Bool)

theorem status_of_settle {index : Nat} {a : Action} {isLast : Bool} {p : Performance × World}
    {r : Outcome × World} (h : settle e observed index a isLast p = .error r) :
    r.1.status ≠ .completed := by
  rcases settle_eq_error h with ⟨-, rfl⟩ | ⟨message, -, rfl⟩ | ⟨-, -, v, -, rfl⟩ <;>
    exact nofun

/-- The strokes of the rest of a run are posted, and all of them if it is completed. -/
theorem posted_runFrom (actions : List Action) :
    ∀ (index : Nat) (w : World),
      Posted (actions.flatMap fun a => strokes a.kind)
        ((runFrom e observed index actions w).1.status = .completed) w.trace
        (runFrom e observed index actions w).2.trace := by
  induction actions with
  | nil =>
    intro index w
    exact (Posted.refl _).extend (extends_finish ..) fun _ => Event.IsReport.not_isKey
  | cons a rest ih =>
    intro index w
    have hstart : Extends Event.IsCallback w.trace (opening observed index a w).trace :=
      extends_opening observed index a w trivial
    have hopen : Posted [] True w.trace (opening observed index a w).trace :=
      (Posted.refl _).extend hstart fun _ => Event.IsCallback.not_isKey
    have hstep := hopen.trans (posted_perform e a.kind (opening observed index a w))
    rw [List.nil_append] at hstep
    rw [List.flatMap_cons]
    rcases runFrom_cons_cases e observed index a rest w with
      ⟨-, hr, -⟩ | ⟨-, r, hs, hr, -⟩ | ⟨-, v, hs, hr, -⟩ <;> rw [hr]
    · have hstop : Posted [] True w.trace (stop observed index w).2.trace :=
        (Posted.refl _).extend (extends_stop ..) fun _ => Event.IsReport.not_isKey
      exact (hstop.append_right _).mono fun h => nomatch h
    · -- the action may not have posted all of its strokes, but then the run is not completed
      have hend := hstep.extend (extends_settle_error hs) fun _ => Event.IsReport.not_isKey
      exact (hend.append_right _).mono fun h => status_of_settle e observed hs h
    · -- the action is done, so it has posted all of them
      have hdone := hstep.extend (grows_settle_ok hs).trace fun _ => Event.IsReport.not_isKey
      exact (hdone.mono fun _ => (settle_eq_ok hs).1).trans (ih (index + 1) v)

/-- **What a run posts**: a beginning of the events of the plan, and all of them if it is completed.
There is an odd number of them only if the last one is a press that failed, and every press that was
posted is followed by its release before anything else is recorded. A text is typed with Shift for its
capitals and for the punctuation above other characters, and without modifiers otherwise. -/
theorem keys_run (actions : List Action) (w : World) :
    (∃ new, (run e observed actions w).2.trace = w.trace ++ new ∧
      (Trace.keys new).map Prod.fst <+: stream actions ∧
      ((run e observed actions w).1.status = .completed →
        (Trace.keys new).map Prod.fst = stream actions) ∧
      ((Trace.keys new).length % 2 = 1 →
        ∃ s f, (Trace.keys new).getLast? = some (⟨.down, s⟩, .error f)) ∧
      Released new) ∧
      ∀ c m, (Keyboard.modifiersFor c .empty).contains m = true ↔
        m = .shift ∧ Keyboard.TakesShift c := by
  refine ⟨?_, Keyboard.contains_modifiersFor⟩
  rw [stream_eq_presses]
  cases hperm : e.backend.permitted with
  | false =>
    rw [run_of_not_permitted e observed hperm]
    have hrefuse : Posted [] True w.trace (refuse observed w).2.trace :=
      (Posted.refl _).extend (extends_refuse ..) fun _ => Event.IsReport.not_isKey
    have hfailed : (refuse observed w).1.status = .completed → False := nofun
    exact (hrefuse.append_right (actions.flatMap fun a => strokes a.kind)).mono hfailed
  | true =>
    rw [run_of_permitted e observed hperm]
    have hlaunch : Posted [] True w.trace (launch observed actions.length w).trace :=
      (Posted.refl _).extend (grows_launch ..).trace fun _ => Event.IsReport.not_isKey
    exact hlaunch.trans (posted_runFrom e observed actions 0 (launch observed actions.length w))

end KeyPlan.Run
