import KeyPlan.Proofs.Calm
import KeyPlan.Proofs.Failures
import KeyPlan.Proofs.KeyStream

/-!
# The times of a run

A run spends its time in its actions and in the pauses between them. An action that is done takes as
long as it says: a delay its milliseconds, a key press its gap, a text a gap for each character and a
pause between every two of them, a switch its activation. Behind every action but the last one there
is the pause of the settings, and nothing else takes any time.

## Main definitions

* `Trace.told`: what the observer was told, and when
* `Run.duration`, `Run.pauseBehind`: the time of an action that is done, and of the pause behind it
* `Run.totalTime`: the time of steps and of the pauses between them
* `Run.Times`: the times of a run by what its observer is told

## Main results

* `Run.now_perform`: an action that is done takes its time
* `Run.told_runFrom`: what a run tells, and when
* `Run.before_now_succ`, `Run.now_of_last`, `Run.now_runFrom`: when its steps are
* `Run.times_run`: the times of a run
-/

namespace KeyPlan

/-- **What the observer was told, and when.** -/
def Trace.told (es : List Entry) : List (Nat × Callback) :=
  es.filterMap fun x => x.event.callback?.map (x.time, ·)

theorem Trace.told_append (es es' : List Entry) : told (es ++ es') = told es ++ told es' :=
  List.filterMap_append

/-- Without callbacks the observer was told nothing more. -/
theorem Trace.Extends.told_eq {P : Event → Prop} {es es' : List Entry} (h : Extends P es es')
    (hP : ∀ ev, P ev → ¬ ev.IsCallback) : told es' = told es := by
  obtain ⟨new, rfl, hnew⟩ := h
  have hnone : told new = [] := by
    apply List.filterMap_eq_nil_iff.mpr
    intro x hx
    rw [Event.callback?_eq_none (hP _ (hnew x hx)), Option.map_none]
  rw [told_append, hnone, List.append_nil]

/-- **The end of a run** is told, or that it was cancelled. -/
def Callback.IsEnd : Callback → Prop
  | cancelled _ => True
  | completed .. => True
  | _ => False

namespace Run

variable (e : Engine)

/-! ## The time of an action -/

/-- The time of typing `n` characters: a gap for each, and a pause between every two. Each of them is
rounded up to whole milliseconds. -/
def typingTime (s : Settings) (n : Nat) : Nat :=
  n * ((s.keyEventDelayUs.toNat + 999) / 1000) +
    (n - 1) * ((s.characterDelayUs.toNat + 999) / 1000)

/-- **The time of an action** that is done. For a switch it is that of its activation. -/
def duration (kind : ActionKind) (w : World) : Nat :=
  match kind with
  | .keyPress _ _ => (e.settings.keyEventDelayUs.toNat + 999) / 1000
  | .typeText text => typingTime e.settings text.toList.length
  | .delay ms => ms.toNat
  | .switchTo target =>
    (Activation.activate e.backend e.timing target e.timing.defaultTimeout w).2.now - w.now

/-- **The pause behind an action**, in milliseconds. -/
def pauseBehind (s : Settings) : ActionKind → Nat
  | .switchTo _ => s.appSwitchDelayMs.toNat
  | .keyPress _ _ => s.actionDelayMs.toNat
  | .typeText _ => s.actionDelayMs.toNat
  | .delay _ => s.actionDelayMs.toNat

theorem gapAfter_eq (s : Settings) (a : Action) : gapAfter s a = pauseBehind s a.kind := by
  unfold gapAfter Action.isSwitch
  cases a.kind <;> rfl

theorem now_post (b : Backend) (k : KeyEvent) (w : World) : (w.post b k).2.now = w.now :=
  World.now_record ..

theorem now_press {b : Backend} {gap : Nat} {stroke : KeyStroke} {w : World}
    (h : (press b gap stroke w).1 = .ok ()) : (press b gap stroke w).2.now = w.now + gap := by
  have hdown := now_post b ⟨.down, stroke⟩ w
  unfold press at h ⊢
  rcases hp : w.post b ⟨.down, stroke⟩ with ⟨f | _, v⟩ <;> rw [hp] at h hdown
  · exact nomatch h
  · dsimp only at hdown ⊢
    rw [now_post, World.now_sleep, hdown]

/-- The pause in front of a character is none in front of the first one. -/
theorem now_typeFrom {b : Backend} {s : Settings} (cs : List Char) :
    ∀ {first : Bool} {w : World}, (typeFrom b s first cs w).1 = .ok () →
      (typeFrom b s first cs w).2.now = w.now + cs.length * s.keyEventDelay +
        (if first then cs.length - 1 else cs.length) * s.characterDelay := by
  induction cs with
  | nil =>
    intro first w h
    simp [typeFrom]
  | cons c cs ih =>
    intro first w h
    have hw : (if first then w else w.sleep s.characterDelay).now =
        w.now + if first then 0 else s.characterDelay := by
      split
      · rfl
      · exact World.now_sleep ..
    unfold typeFrom at h ⊢
    dsimp only at h ⊢
    rcases hp : press b s.keyEventDelay (strokeFor c)
      (if first then w else w.sleep s.characterDelay) with ⟨f | _, v⟩ <;> rw [hp] at h
    · exact nomatch h
    · -- behind the first character there is a pause in front of each
      have hpress := now_press (congrArg Prod.fst hp)
      rw [hp] at hpress
      rw [ih h, hpress, hw, List.length_cons, Nat.succ_mul]
      cases first with
      | true =>
        simp only [if_true, Bool.false_eq_true, if_false, Nat.add_sub_cancel, Nat.add_zero]
        omega
      | false =>
        simp only [Bool.false_eq_true, if_false, Nat.succ_mul]
        omega

/-- **An action that is done takes its time.** -/
theorem now_perform {kind : ActionKind} {w : World} (h : (perform e kind w).1 = .done) :
    (perform e kind w).2.now = w.now + duration e kind w := by
  cases kind with
  | keyPress key modifiers => exact now_press (ofResult_eq_done h)
  | typeText text =>
    rw [duration, typingTime, ← Nat.add_assoc]
    exact now_typeFrom text.toList (ofResult_eq_done h)
  | delay ms =>
    rw [perform_delay] at h ⊢
    rcases hp : w.pause ms.toNat with ⟨_ | _, v⟩ <;> rw [hp] at h
    · exact nomatch h
    · -- a pause that is not cancelled takes its time
      rw [World.pause_eq_true hp]
      exact World.now_sleep ..
  | switchTo target =>
    have hlater : w.now ≤
        (Activation.activate e.backend e.timing target e.timing.defaultTimeout w).2.now :=
      (Activation.grows_activate ..).leaves.now
    rw [perform_switchTo, duration]
    exact (Nat.add_sub_cancel' hlater).symm

/-! ## What stands around an action -/

variable (observed : Bool)

@[simp] theorem now_notify (c : Callback) (w : World) : (notify observed c w).now = w.now := by
  unfold notify
  split
  · exact World.now_record ..
  · rfl

theorem now_opening (index : Nat) (a : Action) (w : World) :
    (opening observed index a w).now = w.now := now_notify ..

theorem now_settle_ok {index : Nat} {a : Action} {isLast : Bool} {p : Performance × World}
    {v : World} (h : settle e observed index a isLast p = .ok v) :
    v.now = p.2.now + if isLast then 0 else pauseBehind e.settings a.kind := by
  obtain ⟨-, ⟨rfl, rfl⟩ | ⟨rfl, hp⟩⟩ := settle_eq_ok h
  · exact now_notify ..
  · rw [World.pause_eq_true hp, World.now_sleep, now_notify, gapAfter_eq]
    rfl

/-! ## What the observer is told, and when -/

/-- **What the observer is told of a step**: its start, and its end if it is done. -/
def Performed.told (s : Performed) : List (Nat × Callback) :=
  (s.before.now, .stepStarted s.index s.action) ::
    if s.result = .done then [(s.after.now, .stepCompleted s.index)] else []

theorem Performed.told_of_done {s : Performed} (h : s.result = .done) :
    s.told = [(s.before.now, .stepStarted s.index s.action),
      (s.after.now, .stepCompleted s.index)] := by
  rw [told, if_pos h]

theorem Performed.told_of_not_done {s : Performed} (h : s.result ≠ .done) :
    s.told = [(s.before.now, .stepStarted s.index s.action)] := by
  rw [told, if_neg h]

/-- The two things that the observer is told of a step. -/
theorem Performed.mem_told {s : Performed} {t : Nat} {c : Callback} :
    (t, c) ∈ s.told ↔ t = s.before.now ∧ c = .stepStarted s.index s.action ∨
      s.result = .done ∧ t = s.after.now ∧ c = .stepCompleted s.index := by
  by_cases h : s.result = .done
  · simp [told_of_done h, h]
  · simp [told_of_not_done h, h]

/-- **The end of a run is told of without delay.** -/
structure TellsEnd (r : Outcome × World) (ending : List (Nat × Callback)) : Prop where
  completed : ∃ ok m, (r.2.now, .completed ok m) ∈ ending
  now : ∀ x ∈ ending, x.1 = r.2.now ∧ x.2.IsEnd

section Pieces

variable (index : Nat) (w : World)

theorem told_notify (c : Callback) :
    Trace.told (notify true c w).trace = Trace.told w.trace ++ [(w.now, c)] := by
  simp only [notify, if_true, World.trace_record, Trace.told_append]
  rfl

theorem told_opening (a : Action) :
    Trace.told (opening true index a w).trace =
      Trace.told w.trace ++ [(w.now, .stepStarted index a)] := told_notify ..

theorem told_stop :
    ∃ ending, Trace.told (stop true index w).2.trace = Trace.told w.trace ++ ending ∧
      TellsEnd (stop true index w) ending := by
  have hnow : (stop true index w).2.now = w.now := (now_notify ..).trans (now_notify ..)
  refine ⟨[(w.now, .cancelled index), (w.now, .completed false cancelledMessage)], ?_, ?_⟩
  · simp only [stop, told_notify, now_notify, List.append_assoc, List.singleton_append]
  · constructor <;> simp [hnow, Callback.IsEnd]

theorem told_abort (message : String) :
    ∃ ending, Trace.told (abort true index message w).2.trace = Trace.told w.trace ++ ending ∧
      TellsEnd (abort true index message w) ending := by
  have hnow : (abort true index message w).2.now = w.now := now_notify ..
  refine ⟨[(w.now, .completed false message)], told_notify .., ?_⟩
  constructor <;> simp [hnow, Callback.IsEnd]

theorem now_finish (count : Nat) : (finish observed count w).2.now = w.now := now_notify ..

theorem told_finish (count : Nat) :
    ∃ ending, Trace.told (finish true count w).2.trace = Trace.told w.trace ++ ending ∧
      TellsEnd (finish true count w) ending := by
  have hnow : (finish true count w).2.now = w.now := now_finish ..
  refine ⟨[(w.now, .completed true (completedMessage count))], told_notify .., ?_⟩
  constructor <;> simp [hnow, Callback.IsEnd]

/-- Between the start of a step and its end nothing is told. -/
theorem told_stepAt (a : Action) :
    Trace.told (stepAt e true index a w).after.trace =
      Trace.told w.trace ++ [((stepAt e true index a w).before.now, .stepStarted index a)] := by
  have hnow : (stepAt e true index a w).before.now = w.now := now_opening ..
  rw [hnow, ← told_opening]
  exact (grows_perform e a.kind _).trace.told_eq fun _ => id

/-- Of a step that is not done only the start is told. -/
theorem told_undone {a : Action} (h : (stepAt e true index a w).result ≠ .done) :
    Trace.told (stepAt e true index a w).after.trace =
      Trace.told w.trace ++ (stepAt e true index a w).told := by
  rw [told_stepAt, Performed.told_of_not_done h]
  rfl

/-- The end of a step that is done is told of without delay. -/
theorem told_completed {a : Action} (h : (stepAt e true index a w).result = .done) :
    Trace.told (notify true (.stepCompleted index) (stepAt e true index a w).after).trace =
      Trace.told w.trace ++ (stepAt e true index a w).told := by
  rw [told_notify, told_stepAt, Performed.told_of_done h, List.append_assoc]
  rfl

end Pieces

/-- **What the observer of the rest of a run is told**: of each step, and then of the end. -/
theorem told_runFrom (actions : List Action) :
    ∀ (index : Nat) (w : World), ∃ ending,
      Trace.told (runFrom e true index actions w).2.trace = Trace.told w.trace ++
        ((performedFrom e true index actions w).flatMap Performed.told ++ ending) ∧
      TellsEnd (runFrom e true index actions w) ending := by
  induction actions with
  | nil => exact fun index w => told_finish w index
  | cons a rest ih =>
    intro index w
    rcases runFrom_cons_cases e true index a rest w with
      ⟨-, hr, hp⟩ | ⟨-, r, hs, hr, hp⟩ | ⟨-, v, hs, hr, hp⟩ <;> rw [hr, hp]
    · exact told_stop index w
    · rw [List.flatMap_singleton]
      rcases settle_eq_error hs with ⟨hd, rfl⟩ | ⟨message, hd, rfl⟩ | ⟨hd, -, v, hpause, rfl⟩
      · obtain ⟨ending, htold, hend⟩ := told_stop index (stepAt e true index a w).after
        refine ⟨ending, ?_, hend⟩
        rw [htold, told_undone e index w (fun h => nomatch hd.symm.trans h), List.append_assoc]
      · obtain ⟨ending, htold, hend⟩ := told_abort index (stepAt e true index a w).after message
        refine ⟨ending, ?_, hend⟩
        rw [htold, told_undone e index w (fun h => nomatch hd.symm.trans h), List.append_assoc]
      · obtain ⟨ending, htold, hend⟩ := told_stop (index + 1) v
        refine ⟨ending, ?_, hend⟩
        rw [htold, World.trace_of_pause hpause, told_completed e index w hd, List.append_assoc]
    · -- the pause behind the action tells the observer nothing
      obtain ⟨ending, htold, hend⟩ := ih (index + 1) v
      refine ⟨ending, ?_, hend⟩
      rw [htold, trace_settle_ok hs, told_completed e index w (settle_eq_ok hs).1,
        List.flatMap_cons, List.append_assoc, List.append_assoc]

/-- **What the observer of a run is told**: first of the start, if there is one. -/
theorem told_run (actions : List Action) (w : World) : ∃ opening ending,
    Trace.told (run e true actions w).2.trace = Trace.told w.trace ++
      (opening ++ ((performed e true actions w).flatMap Performed.told ++ ending)) ∧
    (∀ x ∈ opening, x = (w.now, .started)) ∧ TellsEnd (run e true actions w) ending := by
  cases hperm : e.backend.permitted with
  | false =>
    rw [run_of_not_permitted e true hperm]
    have hsteps : performed e true actions w = [] := by simp [performed, hperm]
    have hnow : (refuse true w).2.now = w.now := now_notify ..
    refine ⟨[], [(w.now, .completed false permissionDeniedMessage)], ?_, List.forall_mem_nil _, ?_⟩
    · rw [hsteps]
      exact told_notify ..
    · constructor <;> simp [hnow, Callback.IsEnd]
  | true =>
    rw [run_of_permitted e true hperm, performed_of_permitted e true hperm]
    have hlaunch : Trace.told (launch true actions.length w).trace =
        Trace.told w.trace ++ [(w.now, .started)] := told_notify ..
    obtain ⟨ending, htold, hend⟩ := told_runFrom e actions 0 (launch true actions.length w)
    refine ⟨[(w.now, .started)], ending, ?_, fun x => List.mem_singleton.mp, hend⟩
    rw [htold, hlaunch, List.append_assoc]

/-! ## When the steps are -/

section Steps

variable {e observed} {actions : List Action}

/-- A run comes to its first action at once. -/
theorem before_now_zero {index : Nat} {w : World} {s : Performed}
    (h : (performedFrom e observed index actions w)[0]? = some s) : s.before.now = w.now := by
  cases actions with
  | nil => exact nomatch h
  | cons a rest =>
    rcases runFrom_cons_cases e observed index a rest w with
      ⟨-, -, hp⟩ | ⟨-, r, -, -, hp⟩ | ⟨-, v, -, -, hp⟩ <;> rw [hp] at h
    · exact nomatch h
    all_goals
      obtain rfl : stepAt e observed index a w = s := Option.some.inj h
      exact now_opening ..

/-- **Between two steps** there is the pause behind the action of the first one. -/
theorem before_now_succ : ∀ {index : Nat} {w : World} {k : Nat} {s s' : Performed},
    (performedFrom e observed index actions w)[k]? = some s →
    (performedFrom e observed index actions w)[k + 1]? = some s' →
    s'.before.now = s.after.now + pauseBehind e.settings s.action.kind := by
  induction actions with
  | nil => exact fun h _ => nomatch h
  | cons a rest ih =>
    intro index w k s s' h h'
    rcases runFrom_cons_cases e observed index a rest w with
      ⟨-, -, hp⟩ | ⟨-, r, -, -, hp⟩ | ⟨-, v, hs, -, hp⟩ <;> rw [hp] at h h'
    · exact nomatch h
    · exact nomatch h'
    · rw [List.getElem?_cons_succ] at h'
      cases k with
      | succ k => exact ih (by simpa using h) h'
      | zero =>
        obtain rfl : stepAt e observed index a w = s := Option.some.inj h
        -- there is another action, so there is a pause behind this one
        have hrest : rest.isEmpty = false := by
          cases rest with
          | nil => exact nomatch h'
          | cons a' rest => rfl
        rw [before_now_zero h', now_settle_ok e observed hs, hrest]
        rfl

/-- **A run ends with its last step**, unless it is cancelled in the pause behind it. -/
theorem now_of_last : ∀ {index : Nat} {w : World} {k : Nat} {s : Performed},
    (performedFrom e observed index actions w)[k]? = some s →
    (performedFrom e observed index actions w)[k + 1]? = none →
    ((runFrom e observed index actions w).1.status = .cancelled → s.result = .done →
      k + 1 = actions.length) →
    (runFrom e observed index actions w).2.now = s.after.now := by
  induction actions with
  | nil => exact fun h _ _ => nomatch h
  | cons a rest ih =>
    intro index w k s h h' hcut
    rcases runFrom_cons_cases e observed index a rest w with
      ⟨-, hr, hp⟩ | ⟨-, r, hs, hr, hp⟩ | ⟨-, v, hs, hr, hp⟩ <;> rw [hp] at h h' <;>
      rw [hr] at hcut ⊢
    · exact nomatch h
    · obtain ⟨rfl, rfl⟩ : k = 0 ∧ stepAt e observed index a w = s := by
        cases k <;> simp_all
      rcases settle_eq_error hs with ⟨-, rfl⟩ | ⟨message, -, rfl⟩ | ⟨hd, hlast, v, -, rfl⟩
      · exact (now_notify ..).trans (now_notify ..)
      · exact now_notify ..
      · -- the pause is not behind the last action
        obtain rfl : rest = [] := List.length_eq_zero_iff.mp (Nat.succ.inj (hcut rfl hd)).symm
        exact nomatch hlast
    · rw [List.getElem?_cons_succ] at h'
      cases k with
      | succ k =>
        refine ih (by simpa using h) h' fun hstatus hd => ?_
        exact Nat.succ.inj (hcut hstatus hd)
      | zero =>
        obtain rfl : stepAt e observed index a w = s := Option.some.inj h
        have hv := now_settle_ok e observed hs
        cases rest with
        | nil => exact (now_finish ..).trans hv
        | cons a' rest =>
          -- there is another action, so the run is cancelled before it
          rcases runFrom_cons_cases e observed (index + 1) a' rest v with
            ⟨-, hr', -⟩ | ⟨-, r, -, -, hp'⟩ | ⟨-, u, -, -, hp'⟩
          · exact nomatch hcut (by rw [hr']; rfl) (settle_eq_ok hs).1
          · exact nomatch hp' ▸ h'
          · exact nomatch hp' ▸ h'

end Steps

/-- A run that goes on behind an action has taken its time, and that of the pause behind it. -/
theorem now_of_settle_stepAt {index : Nat} {a : Action} {isLast : Bool} {w v : World}
    (h : settle e observed index a isLast
      ((stepAt e observed index a w).result, (stepAt e observed index a w).after) = .ok v) :
    v.now = w.now + (duration e (stepAt e observed index a w).action.kind
      (stepAt e observed index a w).before +
        if isLast then 0 else pauseBehind e.settings (stepAt e observed index a w).action.kind) := by
  have hbefore : (stepAt e observed index a w).before.now = w.now := now_opening ..
  have hafter : (stepAt e observed index a w).after.now = _ := now_perform e (settle_eq_ok h).1
  rw [now_settle_ok e observed h, hafter, ← hbefore]
  exact Nat.add_assoc ..

/-- **The time of steps**, and of the pauses between them. -/
def totalTime : List Performed → Nat
  | [] => 0
  | s :: rest =>
    duration e s.action.kind s.before +
      (if rest.isEmpty then 0 else pauseBehind e.settings s.action.kind) + totalTime rest

/-- **A completed run performs all of its actions**, and takes the time of its steps. -/
theorem now_runFrom (actions : List Action) :
    ∀ (index : Nat) (w : World), (runFrom e observed index actions w).1.status = .completed →
      (performedFrom e observed index actions w).map Performed.action = actions ∧
      (runFrom e observed index actions w).2.now =
        w.now + totalTime e (performedFrom e observed index actions w) := by
  induction actions with
  | nil => exact fun index w _ => ⟨rfl, now_finish ..⟩
  | cons a rest ih =>
    intro index w h
    rcases runFrom_cons_cases e observed index a rest w with
      ⟨-, hr, -⟩ | ⟨-, r, hs, hr, -⟩ | ⟨-, v, hs, hr, hp⟩ <;> rw [hr] at h
    · exact nomatch h
    · exact absurd h (status_of_settle e observed hs)
    · obtain ⟨hrest, hnow⟩ := ih (index + 1) v h
      -- each action of the rest has its step, so both are at their end together
      have hempty : (performedFrom e observed (index + 1) rest v).isEmpty = rest.isEmpty := by
        rw [← List.isEmpty_map, hrest]
      rw [hr, hp, List.map_cons, hrest, hnow, totalTime, hempty]
      refine ⟨rfl, ?_⟩
      rw [now_of_settle_stepAt e observed hs, Nat.add_assoc]

/-! ## The times of a run -/

section Whole

variable {e : Engine} {observed : Bool} {actions : List Action} {w : World}

theorem performed_getElem? {k : Nat} {s : Performed}
    (h : (performed e observed actions w)[k]? = some s) :
    s.index = k ∧ actions[k]? = some s.action ∧
      perform e s.action.kind s.before = (s.result, s.after) := by
  rw [performed_of_permitted e observed (permitted_of_mem (List.mem_of_getElem? h))] at h
  obtain ⟨hindex, ha, hperf, -⟩ := performedFrom_getElem? h
  exact ⟨hindex.trans (Nat.zero_add k), ha, hperf⟩

theorem before_now_of_performed {k : Nat} {s s' : Performed}
    (h : (performed e observed actions w)[k]? = some s)
    (h' : (performed e observed actions w)[k + 1]? = some s') :
    s'.before.now = s.after.now + pauseBehind e.settings s.action.kind := by
  have hperm := permitted_of_mem (List.mem_of_getElem? h)
  rw [performed_of_permitted e observed hperm] at h h'
  exact before_now_succ h h'

theorem now_run_of_last {k : Nat} {s : Performed}
    (h : (performed e observed actions w)[k]? = some s)
    (h' : (performed e observed actions w)[k + 1]? = none)
    (hcut : (run e observed actions w).1.status = .cancelled → s.result = .done →
      k + 1 = actions.length) :
    (run e observed actions w).2.now = s.after.now := by
  have hperm := permitted_of_mem (List.mem_of_getElem? h)
  rw [performed_of_permitted e observed hperm] at h h'
  rw [run_of_permitted e observed hperm] at hcut ⊢
  exact now_of_last h h' hcut

theorem now_run (h : (run e observed actions w).1.status = .completed) :
    (performed e observed actions w).map Performed.action = actions ∧
      (run e observed actions w).2.now = w.now + totalTime e (performed e observed actions w) := by
  cases hperm : e.backend.permitted with
  | false =>
    rw [run_of_not_permitted e observed hperm] at h
    exact nomatch h
  | true =>
    rw [run_of_permitted e observed hperm] at h ⊢
    rw [performed_of_permitted e observed hperm]
    have hlaunch : (launch observed actions.length w).now = w.now := now_notify ..
    rw [← hlaunch]
    exact now_runFrom e observed actions 0 _ h

section Told

variable {opening ending : List (Nat × Callback)} (hopening : ∀ x ∈ opening, x = (w.now, .started))
  (hending : TellsEnd (run e true actions w) ending)

include hopening hending

/-- **What is told of the steps**, between the start of the run and its end. -/
theorem mem_told {t : Nat} {c : Callback} (hstarted : c ≠ .started) (hend : ¬ c.IsEnd) :
    (t, c) ∈ opening ++ ((performed e true actions w).flatMap Performed.told ++ ending) ↔
      ∃ i s, (performed e true actions w)[i]? = some s ∧
        (t = s.before.now ∧ c = .stepStarted i s.action ∨
          s.result = .done ∧ t = s.after.now ∧ c = .stepCompleted i) := by
  rw [List.mem_append, List.mem_append, List.mem_flatMap]
  constructor
  · rintro (h | ⟨s, hs, hx⟩ | h)
    · exact absurd (congrArg Prod.snd (hopening _ h)) hstarted
    · obtain ⟨i, hi⟩ := List.mem_iff_getElem?.mp hs
      obtain ⟨rfl, -⟩ := performed_getElem? hi
      exact ⟨s.index, s, hi, Performed.mem_told.mp hx⟩
    · exact absurd (hending.now _ h).2 hend
  · rintro ⟨i, s, hi, hx⟩
    obtain ⟨rfl, -⟩ := performed_getElem? hi
    exact .inr (.inl ⟨s, List.mem_of_getElem? hi, Performed.mem_told.mpr hx⟩)

theorem stepStarted_mem_told {i t : Nat} {a : Action} :
    (t, .stepStarted i a) ∈
        opening ++ ((performed e true actions w).flatMap Performed.told ++ ending) ↔
      ∃ s, (performed e true actions w)[i]? = some s ∧ a = s.action ∧ t = s.before.now := by
  refine (mem_told (c := .stepStarted i a) hopening hending nofun id).trans ⟨?_, ?_⟩
  · rintro ⟨i', s, hs, ⟨ht, hc⟩ | ⟨-, -, hc⟩⟩
    · obtain ⟨rfl, rfl⟩ := Callback.stepStarted.inj hc
      exact ⟨s, hs, rfl, ht⟩
    · exact nomatch hc
  · rintro ⟨s, hs, rfl, ht⟩
    exact ⟨i, s, hs, .inl ⟨ht, rfl⟩⟩

theorem stepCompleted_mem_told {i t : Nat} :
    (t, .stepCompleted i) ∈
        opening ++ ((performed e true actions w).flatMap Performed.told ++ ending) ↔
      ∃ s, (performed e true actions w)[i]? = some s ∧ s.result = .done ∧ t = s.after.now := by
  refine (mem_told (c := .stepCompleted i) hopening hending nofun id).trans ⟨?_, ?_⟩
  · rintro ⟨i', s, hs, ⟨-, hc⟩ | ⟨hd, ht, hc⟩⟩
    · exact nomatch hc
    · obtain rfl := Callback.stepCompleted.inj hc
      exact ⟨s, hs, hd, ht⟩
  · rintro ⟨s, hs, hd, ht⟩
    exact ⟨i, s, hs, .inr ⟨hd, ht, rfl⟩⟩

/-- The start of a run is told of only at its start, -/
theorem started_mem_told {t : Nat} (h : (t, .started) ∈
    opening ++ ((performed e true actions w).flatMap Performed.told ++ ending)) : t = w.now := by
  rw [List.mem_append, List.mem_append, List.mem_flatMap] at h
  rcases h with h | ⟨s, -, h⟩ | h
  · exact congrArg Prod.fst (hopening _ h)
  · rcases Performed.mem_told.mp h with ⟨-, hc⟩ | ⟨-, -, hc⟩ <;> exact nomatch hc
  · exact absurd (hending.now _ h).2 id

/-- and its end only at its end. -/
theorem completed_mem_told {t : Nat} :
    (∃ ok m, (t, .completed ok m) ∈
        opening ++ ((performed e true actions w).flatMap Performed.told ++ ending)) ↔
      t = (run e true actions w).2.now := by
  constructor
  · rintro ⟨ok, m, h⟩
    rw [List.mem_append, List.mem_append, List.mem_flatMap] at h
    rcases h with h | ⟨s, -, h⟩ | h
    · exact nomatch hopening _ h
    · rcases Performed.mem_told.mp h with ⟨-, hc⟩ | ⟨-, -, hc⟩ <;> exact nomatch hc
    · exact (hending.now _ h).1
  · rintro rfl
    obtain ⟨ok, m, h⟩ := hending.completed
    exact ⟨ok, m, List.mem_append_right _ (List.mem_append_right _ h)⟩

end Told

end Whole

/-- **The times of a run** that begins at `start`, by what its observer is told. -/
structure Times (e : Engine) (actions : List Action) (start : Nat) (steps : List Performed)
    (r : Outcome × World) (told : List (Nat × Callback)) : Prop where
  /-- The start is told of at once, -/
  started : ∀ t, (t, .started) ∈ told → t = start
  /-- the start of an action when the run comes to it, -/
  stepStarted : ∀ i t a, (t, .stepStarted i a) ∈ told ↔
    ∃ s, steps[i]? = some s ∧ a = s.action ∧ t = s.before.now
  /-- its end when it has taken its time, -/
  stepCompleted : ∀ i t, (t, .stepCompleted i) ∈ told ↔
    ∃ s, steps[i]? = some s ∧ s.result = .done ∧
      t = s.before.now + duration e s.action.kind s.before
  /-- and the end of the run when it ends. -/
  completed : ∀ t, (∃ ok m, (t, .completed ok m) ∈ told) ↔ t = r.2.now
  /-- The steps are those of the actions of the plan. -/
  action : ∀ (i : Nat) (s : Performed), steps[i]? = some s → actions[i]? = some s.action
  /-- Behind every action but the last one there is the pause of the settings, -/
  gap : ∀ i t t' a a', actions[i]? = some a →
    (t, .stepCompleted i) ∈ told → (t', .stepStarted (i + 1) a') ∈ told →
      t' = t + pauseBehind e.settings a.kind
  /-- and behind the last one there is none. -/
  last : ∀ i t, i + 1 = actions.length → (t, .stepCompleted i) ∈ told → r.2.now = t
  /-- A run that is not cancelled ends with its last step, whether or not it is done. -/
  ended : r.1.status ≠ .cancelled →
    ∀ s : Performed, steps.getLast? = some s → r.2.now = s.after.now
  /-- A completed run takes the time of its actions and of the pauses between them. -/
  total : r.1.status = .completed →
    steps.map Performed.action = actions ∧ r.2.now = start + totalTime e steps

/-- **The times of a run.** -/
theorem times_run (actions : List Action) (w : World) :
    ∃ told, Trace.told (run e true actions w).2.trace = Trace.told w.trace ++ told ∧
      Times e actions w.now (performed e true actions w) (run e true actions w) told := by
  obtain ⟨opening, ending, htold, hopening, hending⟩ := told_run e actions w
  have hstarted (i t a) := stepStarted_mem_told hopening hending (i := i) (t := t) (a := a)
  have hcompleted (i t) := stepCompleted_mem_told hopening hending (i := i) (t := t)
  have haction (i : Nat) (s : Performed) (hs : (performed e true actions w)[i]? = some s) :
      actions[i]? = some s.action := (performed_getElem? hs).2.1
  -- what is told is read off the steps, and the times are those of the steps
  refine ⟨_, htold, fun t => started_mem_told hopening hending, hstarted, ?_,
    fun t => completed_mem_told hopening hending, haction, ?_, ?_, ?_, now_run⟩
  · -- a step that is done takes its time
    intro i t
    rw [hcompleted]
    refine exists_congr fun s => and_congr_right fun hs => and_congr_right fun hd => ?_
    obtain ⟨-, -, hperf⟩ := performed_getElem? hs
    have hdone : (perform e s.action.kind s.before).1 = .done := by rw [hperf, hd]
    rw [← now_perform e hdone, hperf]
  · -- two neighbouring callbacks belong to neighbouring steps
    intro i t t' a a' ha htold htold'
    obtain ⟨s, hs, -, rfl⟩ := (hcompleted i t).mp htold
    obtain ⟨s', hs', -, rfl⟩ := (hstarted (i + 1) t' a').mp htold'
    obtain rfl : s.action = a := Option.some.inj ((haction i s hs).symm.trans ha)
    exact before_now_of_performed hs hs'
  · intro i t hlast htold
    obtain ⟨s, hs, -, rfl⟩ := (hcompleted i t).mp htold
    refine now_run_of_last hs ?_ fun _ _ => hlast
    -- there is no step without an action
    cases hs' : (performed e true actions w)[i + 1]? with
    | none => rfl
    | some s' =>
      have hlt := List.getElem?_eq_some_iff.mp (haction _ _ hs')
      exact absurd hlt.1 (by omega)
  · intro hstatus s hs
    rw [List.getLast?_eq_getElem?] at hs
    refine now_run_of_last hs ?_ fun h => absurd h hstatus
    exact List.getElem?_eq_none (by omega)

end Run

end KeyPlan
