import KeyPlan.History
import KeyPlan.Proofs.RunSession

/-!
# Operations and their sessions

An operation on an engine is a run, a request to cancel, or neither of them. A run leaves its marks
in the session of the operation; every other operation leaves none.

## Main definitions

* `Operation.run?`, `Operation.runWorld`: the run that an operation is
* `Operation.started`, `Answer.verdict?`, `Answer.IsCancelled`: the steps of an operation, and what
  its answer says of a run
* `Operation.marks`: the marks of an operation

## Main results

* `History.answer_of_run?`: the answer to an operation that is a run
* `Operation.grows_runWorld`: what is done before a run
* `History.leaves_answer`: the marks of an operation in its session
-/

namespace KeyPlan

open World (Grows Leaves)

/-! ## What is done before a run -/

namespace Engine

variable (e : Engine)

theorem grows_restorePrevious (target : Target) (w : World) :
    Grows Event.IsCall w (e.restorePrevious target w)
      ((e.restorePrevious target w).session.token = true) := by
  have hactivate := (World.grows_tell w .info
    ("↩️ [Engine] Restoring previous app '" ++ target.display ++ "'")).trans
      (Activation.grows_activate e.backend e.timing target e.timing.defaultTimeout _)
  unfold restorePrevious
  dsimp only
  split
  next v hr =>
    rw [hr] at hactivate
    refine hactivate.uncut.trans ((World.grows_pause ..).mono_cut fun hcut => ?_)
    exact Run.token_of_pause (Prod.ext hcut rfl)
  next fault v hr =>
    rw [hr] at hactivate
    exact (hactivate.trans (World.grows_tell ..)).uncut

/-- **What is done before a run.** If a wait was cut short, the run is cancelled. -/
theorem grows_prepare (observed : Bool) (previous : Option Target) (actions : List Action)
    (w : World) :
    Grows Event.IsCall w (e.prepare previous actions w)
      ((Run.run e observed actions (e.prepare previous actions w)).1.status = .cancelled) := by
  unfold prepare
  split
  next target =>
    split
    next hneeds =>
      simp only [Bool.and_eq_true] at hneeds
      refine (e.grows_restorePrevious target w).mono_cut fun htoken => ?_
      have hne : actions ≠ [] := by
        rintro rfl
        exact nomatch hneeds.1.1
      rw [(Run.run_eq_stop hneeds.2 htoken hne).1]
      rfl
    next => exact .refl w
  next => exact .refl w

/-- In a cancelled session nothing is done for the previous application. -/
theorem prepare_of_isCancelled (previous : Option Target) (actions : List Action) {w : World}
    (h : w.isCancelled = true) : e.prepare previous actions w = w := by
  unfold prepare
  cases previous with
  | none => rfl
  | some target => simp [h]

theorem grows_tellPlan {P : Event → Prop} (steps : List Step) (w : World) :
    Grows P w (tellPlan steps w) := (Grows.refl w).congr rfl rfl rfl rfl

end Engine

/-! ## Runs among the operations -/

/-- **The run that an operation is**: whether it is observed, and its actions. -/
def Operation.run? : Operation → Option (Bool × List Action)
  | execute observed steps _ => some (observed, Step.actions steps)
  | runActions observed actions => some (observed, actions)
  | _ => none

/-- The world in which the run of an operation begins. -/
def Operation.runWorld (e : Engine) (op : Operation) (w : World) : World :=
  match op with
  | execute _ steps previous => e.prepare previous (Step.actions steps) (Engine.tellPlan steps w)
  | _ => w

/-- **The steps that an operation starts**: those of its run, if it is one. -/
def Operation.started (e : Engine) (op : Operation) (w : World) : List Nat :=
  match op.run? with
  | some (observed, actions) =>
    (Run.performed e observed actions (op.runWorld e w)).map Run.Performed.index
  | none => []

/-- **The verdict in an answer**, if it is the outcome of a run that was not cancelled. -/
def Answer.verdict? : Answer → Option Verdict
  | outcome o => o.verdict?
  | _ => none

/-- The answer is the outcome of a run that was cancelled. -/
def Answer.IsCancelled : Answer → Prop
  | outcome o => o.status = .cancelled
  | _ => False

/-- **The marks of an operation**: the starts of its steps, and its verdict. -/
def Operation.marks (e : Engine) (op : Operation) (w : World) : List Mark :=
  Mark.ofRun (op.started e w) (History.answer e op w).1.verdict?

theorem Operation.grows_runWorld (e : Engine) {op : Operation} {observed : Bool}
    {actions : List Action} (h : op.run? = some (observed, actions)) (w : World) :
    Grows Event.IsCall w (op.runWorld e w)
      ((Run.run e observed actions (op.runWorld e w)).1.status = .cancelled) := by
  cases op with
  | execute observed' steps previous =>
    obtain ⟨rfl, rfl⟩ := Prod.mk.inj (Option.some.inj h)
    exact (Engine.grows_tellPlan steps w).uncut.trans (e.grows_prepare ..)
  | _ => exact .refl w

/-- In a cancelled session only the log is written before a run. -/
theorem Operation.runWorld_of_isCancelled (e : Engine) (op : Operation) {w : World}
    (h : w.isCancelled = true) :
    (op.runWorld e w).trace = w.trace ∧ (op.runWorld e w).session = w.session := by
  cases op with
  | execute observed steps previous =>
    have hc : (Engine.tellPlan steps w).isCancelled = true := h
    rw [runWorld, e.prepare_of_isCancelled previous _ hc]
    exact ⟨rfl, rfl⟩
  | _ => exact ⟨rfl, rfl⟩

namespace History

variable (e : Engine) {op : Operation}

/-- **The answer to an operation that is a run.** -/
theorem answer_of_run? {observed : Bool} {actions : List Action}
    (h : op.run? = some (observed, actions)) (w : World) :
    answer e op w = (.outcome (Run.run e observed actions (op.runWorld e w)).1,
      (Run.run e observed actions (op.runWorld e w)).2) := by
  cases op with
  | execute observed' steps previous =>
    obtain ⟨rfl, rfl⟩ := Prod.mk.inj (Option.some.inj h)
    rfl
  | runActions observed' actions' =>
    obtain ⟨rfl, rfl⟩ := Prod.mk.inj (Option.some.inj h)
    rfl
  | _ => exact nomatch h

/-- An operation that is neither a run nor a request to cancel gives no verdict, and leaves no
mark. -/
theorem grows_answer (h : op.run? = none) (hc : op ≠ .cancel) (w : World) :
    (answer e op w).1.verdict? = none ∧ Grows (fun _ => True) w (answer e op w).2 := by
  cases op with
  | execute observed steps previous => exact nomatch h
  | runActions observed actions => exact nomatch h
  | cancel => exact absurd rfl hc
  | permission => exact ⟨rfl, .refl w⟩
  | setSettings settings => exact ⟨rfl, .refl w⟩
  | activate target limit => exact ⟨rfl, (Activation.grows_activate ..).mono fun _ _ => trivial⟩
  | resolve target =>
    refine ⟨rfl, ?_⟩
    dsimp only [answer]
    rw [Activation.resolve_eq]
    exact World.grows_call w _ trivial
  | applications => exact ⟨rfl, World.grows_call w _ trivial⟩
  | post event => exact ⟨rfl, World.grows_post _ _ w fun _ => trivial⟩
  | unhide app => exact ⟨rfl, World.grows_call w _ trivial⟩
  | activateApp app => exact ⟨rfl, World.grows_activate _ app w fun _ => trivial⟩
  | hasMinimized app => exact ⟨rfl, World.grows_call w _ trivial⟩
  | restore app => exact ⟨rfl, World.grows_call w _ trivial⟩
  | frontmost => exact ⟨rfl, World.grows_call w _ trivial⟩

/-- **The marks of an operation in its session**, if it is no request to cancel. If a wait was cut
short, the answer is that the run was cancelled. -/
theorem leaves_answer (hc : op ≠ .cancel) (w : World) :
    Leaves (op.marks e w) w (answer e op w).2 (answer e op w).1.IsCancelled := by
  cases h : op.run? with
  | none =>
    obtain ⟨hverdict, hgrows⟩ := grows_answer e h hc w
    have hmarks : op.marks e w = [] := by
      simp only [Operation.marks, Operation.started, h, hverdict]
      rfl
    rw [hmarks]
    exact hgrows.leaves.uncut
  | some run =>
    obtain ⟨observed, actions⟩ := run
    simp only [Operation.marks, Operation.started, h, answer_of_run? e h]
    exact (op.grows_runWorld e h w).leaves.trans Run.leaves_run

/-- A run is cancelled only in a cancelled session. -/
theorem token_of_isCancelled {w : World} (h : (answer e op w).1.IsCancelled) :
    (answer e op w).2.session.token = true := by
  cases hr : op.run? with
  | some run =>
    obtain ⟨observed, actions⟩ := run
    rw [answer_of_run? e hr] at h ⊢
    exact Run.token_run h
  | none =>
    -- no other answer is the outcome of a run
    cases op with
    | execute observed steps previous => exact nomatch hr
    | runActions observed actions => exact nomatch hr
    | _ => exact absurd h id

/-- The observer of a run is told of the start of every step. -/
theorem started_answer {actions : List Action} (h : op.run? = some (true, actions)) (w : World) :
    Trace.started (answer e op w).2.trace = Trace.started w.trace ++ op.started e w := by
  have hbefore : Trace.started (op.runWorld e w).trace = Trace.started w.trace :=
    (op.grows_runWorld e h w).trace.filterMap_eq fun _ hc =>
      Event.started?_eq_none hc.not_isCallback
  simp only [answer_of_run? e h, Operation.started, h, Run.started_run, hbefore]

end History

end KeyPlan
