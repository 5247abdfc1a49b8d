import KeyPlan.Proofs.Beside

/-!
# What a cancellation does to a run

A run is compared with the run in the calm counterpart of its world, which is the same run without
a cancellation. As long as the first one goes on, both record the same at the same times. A
cancelled run ends between two actions or in a delay; up to there it has recorded a beginning of
what the other one records.

## Main definitions

* `Callback.IsCut`, `Trace.AtCut`: where a run may be cancelled
* `Run.CutFrom`: a cancelled run beside one that is not
* `Event.StartsInTime`: no action starts in a cancelled session

## Main results

* `Run.cutFrom_runFrom`: the rest of a run beside the rest of the other one
* `Run.run_beside_calm`: a run beside the one without a cancellation
-/

namespace KeyPlan

/-- **A callback behind which a run may be cancelled**: the start of the run, the end of an action,
or the start of a delay. -/
def Callback.IsCut : Callback → Prop
  | started => True
  | stepStarted _ a => ∃ ms, a.kind = .delay ms
  | stepCompleted _ => True
  | cancelled _ => False
  | completed .. => False

/-- The last entry of the trace is a callback behind which a run may be cancelled. -/
def Trace.AtCut (es : List Entry) : Prop :=
  ∃ x c, es.getLast? = some x ∧ x.event.callback? = some c ∧ c.IsCut

theorem Trace.AtCut.of_append {es es' : List Entry} (h : AtCut (es ++ es')) (hne : es' ≠ []) :
    AtCut es' := by
  obtain ⟨x, c, hlast, hx, hc⟩ := h
  rw [List.getLast?_append, List.getLast?_eq_some_getLast hne, Option.some_or] at hlast
  exact ⟨x, c, (List.getLast?_eq_some_getLast hne).trans hlast, hx, hc⟩

/-- An event that is not the start of an action in a cancelled session. -/
def Event.StartsInTime (ev : Event) : Prop :=
  ∀ index a snapshot, ev = callback (.stepStarted index a) snapshot → snapshot.isCancelled = false

theorem Event.IsReport.startsInTime {ev : Event} (h : ev.IsReport) : ev.StartsInTime := by
  rintro index a snapshot rfl
  exact absurd h id

theorem Event.startsInTime_of_not_isCallback {ev : Event} (h : ¬ ev.IsCallback) :
    ev.StartsInTime := by
  rintro index a snapshot rfl
  exact absurd trivial h

/-- The snapshot of a session says of a cancellation what its token says. -/
def Session.Published (s : Session) : Prop := s.snapshot.isCancelled = s.token

namespace Session

theorem published_cancel (s : Session) : s.cancel.Published := by
  rw [Published, isCancelled_cancel, token_cancel]

@[simp] theorem isCancelled_startStep (s : Session) (index : Nat) :
    (s.startStep index).snapshot.isCancelled = s.snapshot.isCancelled := by
  unfold startStep update Snapshot.startStep?
  cases s.snapshot.currentStep with
  | none => rfl
  | some current => by_cases h : index ≤ current <;> simp [h]

theorem Published.startStep {s : Session} (h : s.Published) (index : Nat) :
    (s.startStep index).Published := by
  rw [Published, isCancelled_startStep, token_startStep]
  exact h

end Session

theorem World.Grows.published {P : Event → Prop} {w v : World} {cut : Prop}
    (hg : World.Grows P w v cut) (h : w.session.Published) : v.session.Published := by
  rcases hg.session with hs | ⟨hs, -⟩ <;> rw [hs]
  · exact h
  · exact w.session.published_cancel

namespace Run

open Trace (Extends AtCut)

variable (e : Engine) (observed : Bool)

/-! ## Callbacks at the end -/

theorem events_notify (c : Callback) (w : World) :
    ∃ told, (notify observed c w).trace = w.trace ++ told ∧
      told.map (·.event.callback?) = if observed then [some c] else [] := by
  unfold notify
  cases observed with
  | true => exact ⟨_, World.trace_record .., rfl⟩
  | false => exact ⟨[], (List.append_nil _).symm, rfl⟩

/-- The last two callbacks of a cancelled run. -/
theorem events_stop (k : Nat) (v : World) :
    ∃ ending, (stop observed k v).2.trace = v.trace ++ ending ∧
      ending.map (·.event.callback?) =
        if observed then [some (.cancelled k), some (.completed false cancelledMessage)]
        else [] := by
  obtain ⟨told, ht, htold⟩ := events_notify observed (.cancelled k) v
  obtain ⟨told', ht', htold'⟩ := events_notify observed
    (.completed false cancelledMessage) (notify observed (.cancelled k) v)
  refine ⟨told ++ told', ?_, ?_⟩
  · rw [← List.append_assoc, ← ht]
    exact ht'
  · rw [List.map_append, htold, htold']
    split <;> rfl

/-! ## The trace of a cancelled run -/

/-- **A run from `w` beside one without a cancellation.** If it is not cancelled, both have the same
outcome and the same timeline. If it is, it has come to a world `v` up to which both record the
same, and has stopped there. -/
structure CutFrom (w : World) (c u : Outcome × World) : Prop where
  same : c.1.status ≠ .cancelled → c.1 = u.1 ∧ c.2.timeline = u.2.timeline
  cut : c.1.status = .cancelled → ∃ k v, c = stop observed k v ∧ w.trace <+: v.trace ∧
    v.timeline <+: u.2.timeline ∧ (observed = true → v.trace = w.trace ∨ AtCut v.trace)

variable {e observed}

/-- A run beside another one, seen from an earlier world. -/
theorem CutFrom.of_earlier {w v : World} {c u : Outcome × World} (h : CutFrom observed v c u)
    (hp : w.trace <+: v.trace) (hv : observed = true → AtCut v.trace) : CutFrom observed w c u := by
  refine ⟨h.same, fun hc => ?_⟩
  obtain ⟨k, x, hstop, hx, htime, hcut⟩ := h.cut hc
  refine ⟨k, x, hstop, hp.trans hx, htime, fun ho => .inr ?_⟩
  rcases hcut ho with heq | hat
  -- where nothing was recorded since `v`, the trace ends as it did there
  · exact heq ▸ hv ho
  · exact hat

/-- A run that has stopped at `v`. -/
theorem CutFrom.of_stop {w v : World} {u : Outcome × World} (k : Nat) (hp : w.trace <+: v.trace)
    (ht : v.timeline <+: u.2.timeline)
    (hv : observed = true → v.trace = w.trace ∨ AtCut v.trace) :
    CutFrom observed w (stop observed k v) u :=
  ⟨fun h => absurd rfl h, fun _ => ⟨k, v, rfl, hp, ht, hv⟩⟩

/-- The observer was told something last. -/
theorem atCut_notify {c : Callback} (hc : c.IsCut) (ho : observed = true) (w : World) :
    AtCut (notify observed c w).trace := by
  rw [notify, if_pos ho, World.trace_record]
  exact ⟨_, c, List.getLast?_concat, rfl, hc⟩

theorem timeline_isPrefix {w v : World} (h : w.trace <+: v.trace) :
    w.timeline <+: v.timeline := h.map _

/-- A run that is not cancelled before its next action records its start. -/
theorem isPrefix_opening_runFrom {index : Nat} {a : Action} {rest : List Action} {w : World}
    (hw : w.isCancelled = false) :
    (opening observed index a w).trace <+: (runFrom e observed index (a :: rest) w).2.trace := by
  have hafter : (opening observed index a w).trace <+: (stepAt e observed index a w).after.trace :=
    (grows_perform ..).trace.isPrefix
  refine hafter.trans ?_
  rcases runFrom_cons_cases e observed index a rest w with
    ⟨hc, -, -⟩ | ⟨-, r, hs, hr, -⟩ | ⟨-, v, hs, hr, -⟩
  · rw [hw] at hc
    exact nomatch hc
  · rw [hr]
    exact (extends_settle_error hs).isPrefix
  · rw [hr]
    exact (grows_settle_ok hs).trace.isPrefix.trans isPrefix_runFrom

/-- **A run that is cancelled in an action**, beside one without a cancellation. The action is a
delay, and a cancelled pause records nothing. -/
theorem cutFrom_cancelled {index : Nat} {a : Action} {rest : List Action} {w u : World}
    (h : w.calm = u.calm) (hu : u.IsCalm)
    (hp : (stepAt e observed index a w).result = .cancelled) :
    CutFrom observed w (stop observed index (stepAt e observed index a w).after)
      (runFrom e observed index (a :: rest) u) := by
  obtain ⟨ms, hkind⟩ := kind_of_cancelled e hp
  have htrace : (stepAt e observed index a w).after.trace = (opening observed index a w).trace := by
    simp only [stepAt, hkind, perform_delay, World.trace_pause]
  have htime : (stepAt e observed index a w).after.timeline =
      (opening observed index a u).timeline :=
    (congrArg (List.map Entry.calm) htrace).trans
      (World.timeline_eq_of_calm_eq (opening_congr observed h index a))
  refine .of_stop index ?_ ?_ fun ho => .inr ?_
  · rw [htrace]
    exact isPrefix_opening ..
  · rw [htime]
    exact timeline_isPrefix (isPrefix_opening_runFrom hu.isCancelled)
  · rw [htrace]
    exact atCut_notify (c := .stepStarted index a) ⟨ms, hkind⟩ ho _

/-- **A run that ends behind an action** that was not cancelled, beside one without a
cancellation. -/
theorem cutFrom_settle_error {index : Nat} {a : Action} {rest : List Action} {w x y : World}
    {p : Performance} {r : Outcome × World} (hx : w.trace <+: x.trace) (h : x.calm = y.calm)
    (hy : y.IsCalm) (hp : p ≠ .cancelled)
    (hs : settle e observed index a rest.isEmpty (p, x) = .error r) :
    CutFrom observed w r
      (match settle e observed index a rest.isEmpty (p, y) with
        | .error r => r
        | .ok v => runFrom e observed (index + 1) rest v) := by
  rcases settle_eq_error hs with ⟨rfl, -⟩ | ⟨message, rfl, rfl⟩ | ⟨rfl, hlast, v, hv, rfl⟩
  · exact absurd rfl hp
  · -- both runs fail
    refine ⟨fun _ => ⟨rfl, ?_⟩, fun hc => nomatch hc⟩
    exact World.timeline_eq_of_calm_eq (abort_congr observed h index message)
  · -- the other run pauses to the end and goes on
    have htrace : v.trace = (notify observed (.stepCompleted index) x).trace :=
      World.trace_of_pause hv
    rw [settle_of_isCalm e observed hy]
    refine .of_stop (index + 1) ?_ ?_ fun ho => .inr ?_
    · rw [htrace]
      exact hx.trans (grows_notify (P := Event.IsCallback) observed _ x trivial).trace.isPrefix
    · have htime : v.timeline = (notify observed (.stepCompleted index) y).timeline :=
        (congrArg (List.map Entry.calm) htrace).trans
          (World.timeline_eq_of_calm_eq (notify_congr observed h _))
      rw [htime, hlast]
      refine timeline_isPrefix (.trans ?_ isPrefix_runFrom)
      simp
    · rw [htrace]
      exact atCut_notify (c := .stepCompleted index) trivial ho _

/-- **The rest of a run beside the rest of the run without a cancellation.** -/
theorem cutFrom_runFrom {actions : List Action} :
    ∀ {index : Nat} {w u : World}, w.calm = u.calm → u.IsCalm →
      CutFrom observed w (runFrom e observed index actions w)
        (runFrom e observed index actions u) := by
  induction actions with
  | nil =>
    intro index w u h hu
    refine ⟨fun _ => ⟨rfl, ?_⟩, fun hc => nomatch hc⟩
    exact World.timeline_eq_of_calm_eq (finish_congr observed h index)
  | cons a rest ih =>
    intro index w u h hu
    obtain ⟨-, hstep⟩ := stepAt_calm e observed h hu index a
    have hcalm := isCalm_stepAt e observed hu index a
    have hafter : w.trace <+: (stepAt e observed index a w).after.trace :=
      (isPrefix_opening ..).trans (grows_perform ..).trace.isPrefix
    rcases runFrom_cons_cases e observed index a rest w with
      ⟨-, hr, -⟩ | ⟨-, r, hs, hr, -⟩ | ⟨-, v, hs, hr, -⟩ <;> rw [hr]
    · -- the first run stops before the action
      refine .of_stop index List.prefix_rfl ?_ fun _ => .inl rfl
      rw [World.timeline_eq_of_calm_eq h]
      exact timeline_isPrefix isPrefix_runFrom
    · -- the first run ends in the action or behind it
      by_cases hp : (stepAt e observed index a w).result = .cancelled
      · rw [hp] at hs
        rw [← Except.error.inj hs]
        exact cutFrom_cancelled h hu hp
      · obtain ⟨hresult, heq⟩ := hstep hp
        rw [runFrom_of_settle e observed hu.isCancelled, ← hresult]
        exact cutFrom_settle_error hafter heq hcalm hp hs
    · -- both runs go on
      obtain ⟨v', hs', hv, hv'⟩ := settle_calm e observed h hu hs
      rw [runFrom_of_settle e observed hu.isCancelled, hs']
      refine (ih hv hv').of_earlier (hafter.trans (grows_settle_ok hs).trace.isPrefix) fun ho => ?_
      rw [trace_settle_ok hs]
      exact atCut_notify (c := .stepCompleted index) trivial ho _

/-! ## Starts of actions -/

theorem published_opening {w : World} (h : w.session.Published) (index : Nat) (a : Action) :
    (opening observed index a w).session.Published :=
  (grows_notify (P := Event.IsCallback) observed (.stepStarted index a) _ trivial).published
    (h.startStep index)

/-- **No action starts in a cancelled session.** -/
theorem startsInTime_runFrom {actions : List Action} :
    ∀ {index : Nat} {w : World}, w.session.Published →
      Extends Event.StartsInTime w.trace (runFrom e observed index actions w).2.trace := by
  induction actions with
  | nil => exact fun _ => (extends_finish ..).mono fun _ => Event.IsReport.startsInTime
  | cons a rest ih =>
    intro index w hw
    have hperform := grows_perform e a.kind (opening observed index a w)
    rcases runFrom_cons_cases e observed index a rest w with
      ⟨-, hr, -⟩ | ⟨hc, r, hs, hr, -⟩ | ⟨hc, v, hs, hr, -⟩ <;> rw [hr]
    · exact (extends_stop ..).mono fun _ => Event.IsReport.startsInTime
    all_goals
      -- the start of the action has the snapshot of a session that is not cancelled
      have hopen : Extends Event.StartsInTime w.trace (opening observed index a w).trace := by
        refine extends_opening observed index a w ?_
        rintro _ _ _ ⟨⟩
        rw [Session.isCancelled_startStep, hw]
        exact hc
      have hstep := hopen.trans (hperform.trace.mono fun _ => Event.startsInTime_of_not_isCallback)
    · exact hstep.trans ((extends_settle_error hs).mono fun _ => Event.IsReport.startsInTime)
    · have hsettle := (grows_settle_ok hs).trace.mono fun _ => Event.IsReport.startsInTime
      refine (hstep.trans hsettle).trans (ih ?_)
      exact (grows_settle_ok hs).published (hperform.published (published_opening hw index a))

/-! ## Two runs -/

/-- What a cancelled run has recorded since its launch, behind which it has stopped. -/
theorem exists_kept {count : Nat} {w v : World}
    (hp : (launch observed count w).trace <+: v.trace)
    (hcut : observed = true → v.trace = (launch observed count w).trace ∨ AtCut v.trace) :
    ∃ kept, v.trace = w.trace ++ kept ∧ (observed = true → AtCut kept) := by
  obtain ⟨told, ht, htold⟩ := events_notify observed .started
    (w.tell .info ("[Executor] Session <id> (started <time>) running " ++ toString count ++
      " action(s)"))
  obtain ⟨more, hmore⟩ := hp
  have hv : v.trace = w.trace ++ (told ++ more) := by
    rw [← hmore, ← List.append_assoc]
    exact congrArg (· ++ more) ht
  refine ⟨told ++ more, hv, fun ho => ?_⟩
  -- behind the launch the observer was last told of the start of the run
  have hat : AtCut v.trace := by
    rcases hcut ho with heq | hat
    · exact heq ▸ atCut_notify (c := .started) trivial ho _
    · exact hat
  rw [hv] at hat
  refine hat.of_append fun h => ?_
  rw [(List.append_eq_nil_iff.mp h).1, if_pos ho] at htold
  exact nomatch htold

/-- What a cancelled run has recorded: what it has since its launch, and its last two callbacks. -/
theorem CutFrom.exists_kept {count : Nat} {w : World} {c u : Outcome × World}
    (h : CutFrom observed (launch observed count w) c u) (hc : c.1.status = .cancelled) :
    ∃ k kept ending,
      c.1 = ⟨.cancelled, cancelledMessage, k⟩ ∧ c.2.trace = w.trace ++ kept ++ ending ∧
      ending.map (·.event.callback?) =
        (if observed then [some (.cancelled k), some (.completed false cancelledMessage)] else []) ∧
      w.timeline ++ kept.map Entry.calm <+: u.2.timeline ∧ (observed = true → AtCut kept) := by
  obtain ⟨k, v, rfl, hp, htime, hat⟩ := h.cut hc
  obtain ⟨kept, hkept, hcut⟩ := Run.exists_kept hp hat
  obtain ⟨ending, hending, hevents⟩ := events_stop observed k v
  rw [World.timeline, hkept, List.map_append] at htime
  refine ⟨k, kept, ending, rfl, ?_, hevents, htime, hcut⟩
  rw [hending, hkept]

variable (e observed)

/-- **A run beside the one in the calm counterpart of its world**, which is never cancelled. If the
first one is not cancelled either, both have the same outcome and the same timeline. If it is, it
stops where the observer was last told of the start of the run, of the end of an action or of the
start of a delay; all it has recorded up to there is a beginning of what the other one records, and
what it still says is that it is cancelled. No step but a delay ends early, and no action starts
after the cancellation. -/
theorem run_beside_calm (actions : List Action) (w : World) :
    let c := run e observed actions w
    let u := run e observed actions w.calm
    u.1.status ≠ .cancelled ∧
    (c.1.status ≠ .cancelled → c.1 = u.1 ∧ c.2.timeline = u.2.timeline) ∧
    (c.1.status = .cancelled → ∃ k kept ending,
      c.1 = ⟨.cancelled, cancelledMessage, k⟩ ∧ c.2.trace = w.trace ++ kept ++ ending ∧
      ending.map (·.event.callback?) =
        (if observed then [some (.cancelled k), some (.completed false cancelledMessage)] else []) ∧
      w.timeline ++ kept.map Entry.calm <+: u.2.timeline ∧ (observed = true → AtCut kept)) ∧
    (∀ (n : Nat) (s : Performed), (performed e observed actions w)[n]? = some s →
      ∃ s', (performed e observed actions w.calm)[n]? = some s' ∧ s.Beside s') ∧
    (w.session.Published → Extends Event.StartsInTime w.trace c.2.trace) := by
  intro c u
  have hcalm := (World.calm_calm w).symm
  cases hperm : e.backend.permitted with
  | false =>
    -- both runs are refused, and there are no steps
    have hc : c = refuse observed w := run_of_not_permitted e observed hperm actions w
    have hu : u = refuse observed w.calm := run_of_not_permitted e observed hperm actions w.calm
    rw [hc, hu]
    refine ⟨(fun h => nomatch h), fun _ => ⟨rfl, ?_⟩, (fun h => nomatch h), ?_, fun _ => ?_⟩
    · exact World.timeline_eq_of_calm_eq (refuse_congr observed hcalm)
    · intro n s hs
      simp [performed, hperm] at hs
    · exact (extends_refuse ..).mono fun _ => Event.IsReport.startsInTime
  | true =>
    have hlaunch := launch_congr observed hcalm actions.length
    have hcalmed : (launch observed actions.length w.calm).IsCalm :=
      w.isCalm_calm.grows (grows_launch ..)
    have hc : c = runFrom e observed 0 actions (launch observed actions.length w) :=
      run_of_permitted e observed hperm actions w
    have hu : u = runFrom e observed 0 actions (launch observed actions.length w.calm) :=
      run_of_permitted e observed hperm actions w.calm
    have hcut : CutFrom observed (launch observed actions.length w) c u := by
      rw [hc, hu]
      exact cutFrom_runFrom hlaunch hcalmed
    refine ⟨hu ▸ status_runFrom_of_isCalm hcalmed, hcut.same, hcut.exists_kept, ?_, fun hw => ?_⟩
    · rw [performed_of_permitted e observed hperm, performed_of_permitted e observed hperm]
      intro n s hs
      exact beside_performedFrom hlaunch hcalmed hs
    · have hstart := grows_launch observed actions.length w
      rw [hc]
      exact (hstart.trace.mono fun _ => Event.IsReport.startsInTime).trans
        (startsInTime_runFrom (hstart.published hw))

end Run

end KeyPlan
