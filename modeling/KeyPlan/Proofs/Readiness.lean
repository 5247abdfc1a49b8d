import KeyPlan.Proofs.Course

/-!
# The calls of an activation and their times

Before an activation asks which application is in front, it makes its calls in a fixed order: which
applications are running, the application is shown again if it is hidden, it is asked for minimized
windows, these are restored if there are any, and it is asked to the front. A call may be followed by
some time for it to settle. Each call thus has a time until the next one, and the times add up.

## Main definitions

* `Span`: a call and the time until what follows it
* `World.Passes`: a world after some calls, one behind the other
* `Activation.readySpans`: the calls that make an application ready to come to the front

## Main results

* `Activation.passes_ready`: what is done to make an application ready
* `Activation.activate_protocol`: the calls of an activation and their times
-/

namespace KeyPlan

/-- A question for the application in front. -/
def Event.IsQuestion : Event → Prop
  | call (.frontmost _) => True
  | _ => False

theorem Event.Misses.isQuestion {app : Application} {ev : Event} (h : ev.Misses app) :
    ev.IsQuestion := by
  cases ev with
  | call c =>
    cases c with
    | frontmost answer => trivial
    | _ => exact h
  | key e r => exact h
  | callback c s => exact h

/-! ## Calls one behind the other -/

/-- **A call and the time until what follows it.** -/
structure Span where
  call : Call
  takes : Nat

namespace Span

/-- The time of all of them. -/
def total : List Span → Nat
  | [] => 0
  | s :: rest => s.takes + total rest

/-- What a trace says of them, where the first one is made at the time `start`. -/
def entries (start : Nat) : List Span → List Entry
  | [] => []
  | s :: rest => ⟨start, .call s.call⟩ :: entries (start + s.takes) rest

/-- How many calls there were after them. -/
def count (calls : Tally) : List Span → Tally
  | [] => calls
  | s :: rest => count (calls.add s.call) rest

theorem total_append (ss ss' : List Span) : total (ss ++ ss') = total ss + total ss' := by
  induction ss with
  | nil => exact (Nat.zero_add _).symm
  | cons s ss ih => rw [List.cons_append, total, total, ih, Nat.add_assoc]

theorem entries_append (ss ss' : List Span) :
    ∀ start, entries start (ss ++ ss') = entries start ss ++ entries (start + total ss) ss' := by
  induction ss with
  | nil => exact fun start => rfl
  | cons s ss ih =>
    intro start
    rw [List.cons_append, entries, entries, ih, total, Nat.add_assoc, List.cons_append]

theorem count_append (ss ss' : List Span) :
    ∀ calls, count calls (ss ++ ss') = count (count calls ss) ss' := by
  induction ss with
  | nil => exact fun calls => rfl
  | cons s ss ih => exact fun calls => ih (calls.add s.call)

end Span

/-- **The world after some calls**, one behind the other: they are recorded and counted, and their
time has passed. -/
structure World.Passes (spans : List Span) (w v : World) : Prop where
  now : v.now = w.now + Span.total spans
  calls : v.calls = Span.count w.calls spans
  trace : v.trace = w.trace ++ Span.entries w.now spans

namespace World.Passes

variable {spans spans' : List Span} {w v u : World}

theorem refl (w : World) : Passes [] w w := ⟨rfl, rfl, (List.append_nil _).symm⟩

/-- **Calls add up.** -/
theorem trans (h : Passes spans w v) (h' : Passes spans' v u) : Passes (spans ++ spans') w u := by
  constructor
  · rw [h'.now, h.now, Span.total_append, Nat.add_assoc]
  · rw [h'.calls, h.calls, Span.count_append]
  · rw [h'.trace, h.trace, h.now, Span.entries_append, List.append_assoc]

/-- A call takes its latency. -/
theorem call (w : World) (c : Call) (latency : Nat) : Passes [⟨c, latency⟩] w (w.call c latency) := by
  obtain ⟨s, hs⟩ := exists_call_eq w c latency
  rw [hs]
  exact ⟨rfl, rfl, rfl⟩

theorem tell (h : Passes spans w v) (level : LogLevel) (text : String) :
    Passes spans w (v.tell level text) := ⟨h.now, h.calls, h.trace⟩

/-- **Time to settle** counts for the call before it. -/
theorem settle {c : Call} {latency : Nat} (h : Passes [⟨c, latency⟩] w v) (ms : Nat) :
    Passes [⟨c, latency + ms⟩] w (v.sleep ms) := by
  have hnow : v.now = w.now + latency := h.now
  obtain ⟨s, hs⟩ := exists_sleep_eq v ms
  rw [hs]
  refine ⟨?_, h.calls, h.trace⟩
  change v.now + ms = w.now + (latency + ms)
  rw [hnow, Nat.add_assoc]

end World.Passes

namespace Activation

variable (b : Backend) (timing : Timing)

/-! ## Making an application ready -/

/-- **The call that shows an application again**, if it is hidden. It gets some time in any case. -/
def showSpans (calls : Tally) (app : Application) : List Span :=
  let reply := b.unhide calls.unhide
  if app.hidden then [⟨.unhide app reply.result, reply.latency + timing.unhideSettle⟩] else []

/-- The time that restored windows get: none if there are none, or if they could not be restored. -/
def restorePause : Except Fault Nat → Nat
  | .ok 0 => 0
  | .ok (_ + 1) => timing.restoreSettle
  | .error _ => 0

/-- **The calls that restore minimized windows**: the question for them, and the restoring if there
are any. -/
def restoreSpans (calls : Tally) (app : Application) : List Span :=
  let minimized := b.hasMinimized calls.hasMinimized
  let restored := b.restore calls.restore
  ⟨.hasMinimized app minimized.result, minimized.latency⟩ ::
    if minimized.result = .ok true then
      [⟨.restore app restored.result, restored.latency + restorePause timing restored.result⟩]
    else []

/-- **The calls that make an application ready** to come to the front. -/
def readySpans (calls : Tally) (app : Application) : List Span :=
  showSpans b timing calls app ++ restoreSpans b timing calls app

/-- Showing an application again is no call about windows. -/
theorem restoreSpans_count (calls : Tally) (app : Application) :
    restoreSpans b timing (Span.count calls (showSpans b timing calls app)) app =
      restoreSpans b timing calls app := by
  unfold showSpans
  dsimp only
  split <;> rfl

/-- Making an application ready is neither a request to the front nor a question for the application
there. -/
theorem count_readySpans (calls : Tally) (app : Application) :
    (Span.count calls (readySpans b timing calls app)).activate = calls.activate ∧
      (Span.count calls (readySpans b timing calls app)).frontmost = calls.frontmost := by
  unfold readySpans showSpans restoreSpans
  dsimp only
  split <;> split <;> exact ⟨rfl, rfl⟩

theorem total_readySpans (calls : Tally) (app : Application) :
    Span.total (readySpans b timing calls app) =
      (if app.hidden then (b.unhide calls.unhide).latency + timing.unhideSettle else 0) +
      (b.hasMinimized calls.hasMinimized).latency +
      (if (b.hasMinimized calls.hasMinimized).result = .ok true then
        (b.restore calls.restore).latency + restorePause timing (b.restore calls.restore).result
      else 0) := by
  unfold readySpans showSpans restoreSpans
  dsimp only
  split <;> split <;> simp only [List.cons_append, List.nil_append, Span.total] <;> omega

section Ready

variable (app : Application) (w : World)

theorem passes_unhide :
    World.Passes (showSpans b timing w.calls app) w (unhide b timing app w) := by
  have hcall := World.Passes.call w (.unhide app (b.unhide w.calls.unhide).result)
    (b.unhide w.calls.unhide).latency
  unfold showSpans unhide World.unhide
  dsimp only
  split
  · -- whether it worked is only told
    split
    · exact (hcall.tell ..).settle timing.unhideSettle
    · exact (hcall.tell ..).settle timing.unhideSettle
  · exact .refl w

theorem passes_restore :
    World.Passes (restoreSpans b timing w.calls app) w (restore b timing app w) := by
  have hasked := World.Passes.call w (.hasMinimized app (b.hasMinimized w.calls.hasMinimized).result)
    (b.hasMinimized w.calls.hasMinimized).latency
  unfold restoreSpans restore restoreCount World.hasMinimized
  dsimp only
  cases hm : (b.hasMinimized w.calls.hasMinimized).result with
  | error f =>
    rw [hm] at hasked
    exact hasked.tell ..
  | ok found =>
    rw [hm] at hasked
    cases found with
    | false => exact hasked
    | true =>
      have hrestored := World.Passes.call
        (w.call (.hasMinimized app (.ok true)) (b.hasMinimized w.calls.hasMinimized).latency)
        (.restore app (b.restore w.calls.restore).result) (b.restore w.calls.restore).latency
      have hcalls := congrArg Tally.restore hasked.calls
      change _ = w.calls.restore at hcalls
      unfold World.restore
      dsimp only
      rw [hcalls, if_pos rfl]
      -- what there was to restore gets its time
      rcases hr : (b.restore w.calls.restore).result with f | _ | n <;> rw [hr] at hrestored
      · exact hasked.trans (hrestored.tell ..)
      · exact hasked.trans hrestored
      · exact hasked.trans ((hrestored.tell ..).settle timing.restoreSettle)

/-- **What is done to make an application ready.** -/
theorem passes_ready : World.Passes (readySpans b timing w.calls app) w (ready b timing app w) := by
  have htold : World.Passes [] w (w.tell .info ("🚀 [Activation] Activating " ++ quotedName app ++
      " (pid " ++ toString app.pid.toInt ++ ")")) := (World.Passes.refl w).tell ..
  have hshown := htold.trans (passes_unhide b timing app _)
  have hrestored := passes_restore b timing app (unhide b timing app
    (w.tell .info ("🚀 [Activation] Activating " ++ quotedName app ++ " (pid " ++
      toString app.pid.toInt ++ ")")))
  have htally : (unhide b timing app (w.tell .info ("🚀 [Activation] Activating " ++ quotedName app ++
      " (pid " ++ toString app.pid.toInt ++ ")"))).calls =
      Span.count w.calls (showSpans b timing w.calls app) := hshown.calls
  rw [htally, restoreSpans_count] at hrestored
  exact hshown.trans hrestored

end Ready

/-! ## The whole activation -/

theorem activate_fst (app : Application) (w : World) :
    (w.activate b app).1 = (b.activate w.calls.activate).result := by
  unfold World.activate
  dsimp only
  split <;> simp [*]

theorem passes_activate (app : Application) (w : World) :
    World.Passes [⟨.activate app (b.activate w.calls.activate).result,
      (b.activate w.calls.activate).latency⟩] w (w.activate b app).2 := by
  have hcall := World.Passes.call w (.activate app (b.activate w.calls.activate).result)
    (b.activate w.calls.activate).latency
  unfold World.activate
  dsimp only
  split
  · exact ⟨hcall.now, hcall.calls, hcall.trace⟩
  · exact hcall

/-- **An application is made ready and asked to the front.** -/
theorem passes_ready_activate (app : Application) (w : World) :
    ((ready b timing app w).activate b app).1 = (b.activate w.calls.activate).result ∧
    World.Passes (readySpans b timing w.calls app ++
        [⟨.activate app (b.activate w.calls.activate).result,
          (b.activate w.calls.activate).latency⟩])
      w ((ready b timing app w).activate b app).2 := by
  have hready := passes_ready b timing app w
  have hactivate := passes_activate b app (ready b timing app w)
  have htally : (ready b timing app w).calls.activate = w.calls.activate := by
    rw [hready.calls]
    exact (count_readySpans b timing w.calls app).1
  rw [htally] at hactivate
  refine ⟨?_, hready.trans hactivate⟩
  rw [activate_fst, htally]

/-- The questions for the application in front: there is one at least, and the first one is asked at
once. -/
theorem confirm_questions (app : Application) (limit : Nat) (w : World) :
    ∃ first more, (confirm b timing app limit w).2.trace = w.trace ++ first :: more ∧
      first.time = w.now ∧ ∀ x ∈ first :: more, x.event.IsQuestion := by
  obtain ⟨asked, htrace, hfirst, hend⟩ := confirmFrom_trace b timing.pollInterval limit
    (w.now + limit) app (enoughRounds b timing.pollInterval limit) w
  obtain ⟨first, more, rfl, htime⟩ :=
    hfirst (Nat.zero_lt_of_lt (lt_enoughRounds b timing.pollInterval limit))
  refine ⟨first, more, htrace, htime, ?_⟩
  intro x hx
  rcases hend with ⟨-, misses, t, hsplit, hmisses⟩ | ⟨-, hmisses⟩
  · rw [hsplit] at hx
    rcases List.mem_append.mp hx with hmiss | hlast
    · exact (hmisses x hmiss).isQuestion
    · rw [List.mem_singleton.mp hlast]
      trivial
  · exact (hmisses x hx).isQuestion

/-- The reply to the first call decides whether an application is brought to the front. -/
theorem activate_eq (target : Target) (limit : Nat) (w : World) :
    activate b timing target limit w =
      match (b.running w.calls.running).result with
      | .error f => (.error (.refused target.name f.message), (w.running b).2)
      | .ok apps =>
        match Application.resolve? apps target with
        | none => (.error (.notRunning target.name), (w.running b).2)
        | some app => bring b timing app limit (w.running b).2 := by
  have hreply : (w.running b).1 = (b.running w.calls.running).result := rfl
  rw [activate, resolve_eq, hreply]
  rcases (b.running w.calls.running).result with f | apps
  · rfl
  · dsimp only
    rcases Application.resolve? apps target with _ | app <;> rfl

/-- The reply to the request to come to the front decides whether there are questions. -/
theorem bring_eq (app : Application) (limit : Nat) (w : World) :
    bring b timing app limit w =
      match (b.activate w.calls.activate).result with
      | .error f =>
        (.error (.refused app.name f.message), ((ready b timing app w).activate b app).2)
      | .ok () => confirm b timing app limit ((ready b timing app w).activate b app).2 := by
  rw [← (passes_ready_activate b timing app w).1]
  unfold bring
  rcases (ready b timing app w).activate b app with ⟨_ | _, v⟩ <;> rfl

/-- **The calls that bring an application to the front**, with the time of the first question. -/
theorem bring_protocol (app : Application) (limit : Nat) (w : World) :
    let activated := b.activate w.calls.activate
    let r := bring b timing app limit w
    let spans := readySpans b timing w.calls app ++
      [⟨.activate app activated.result, activated.latency⟩]
    ∃ polls, r.2.trace = w.trace ++ (Span.entries w.now spans ++ polls) ∧
      match activated.result with
      | .error f => polls = [] ∧ r.1 = .error (.refused app.name f.message)
      | .ok () => ∃ first more, polls = first :: more ∧
        (∀ x ∈ first :: more, x.event.IsQuestion) ∧ first.time = w.now + Span.total spans := by
  intro activated r spans
  have hpasses : World.Passes spans w ((ready b timing app w).activate b app).2 :=
    (passes_ready_activate b timing app w).2
  have hr : r = bring b timing app limit w := rfl
  rw [bring_eq] at hr
  cases hres : activated.result with
  | error f =>
    rw [hres] at hr
    refine ⟨[], ?_, rfl, congrArg Prod.fst hr⟩
    rw [hr, List.append_nil]
    exact hpasses.trace
  | ok u =>
    obtain ⟨first, more, htrace, htime, hquestions⟩ := confirm_questions b timing app limit
      ((ready b timing app w).activate b app).2
    rw [hres] at hr
    refine ⟨first :: more, ?_, first, more, rfl, hquestions, htime.trans hpasses.now⟩
    rw [hr, ← List.append_assoc, ← hpasses.trace]
    exact htrace

/-- **The calls of an activation and their times.** It asks which applications are running, and ends
with that if this is refused or none of them is meant. Otherwise the application that is meant is
made ready and asked to the front, and nothing but a refusal of the latter ends the activation here.
Then there are questions for the application in front, and nothing else. The first one is asked when
the time of all calls since the reply to the first one has passed, with the time to settle behind the
call that shows the application again, and behind the one that restores windows if there were any. -/
theorem activate_protocol (target : Target) (limit : Nat) (w : World) :
    let asked := b.running w.calls.running
    let r := activate b timing target limit w
    ∃ es, r.2.trace = w.trace ++ ⟨w.now, .call (.running asked.result)⟩ :: es ∧
      match asked.result with
      | .error f => es = [] ∧ r.1 = .error (.refused target.name f.message)
      | .ok apps =>
        match Application.resolve? apps target with
        | none => es = [] ∧ r.1 = .error (.notRunning target.name)
        | some app =>
          let replied := w.now + asked.latency
          let unhidden := b.unhide w.calls.unhide
          let minimized := b.hasMinimized w.calls.hasMinimized
          let restored := b.restore w.calls.restore
          let activated := b.activate w.calls.activate
          ∃ polls, es = Span.entries replied (readySpans b timing w.calls app ++
              [⟨.activate app activated.result, activated.latency⟩]) ++ polls ∧
            match activated.result with
            | .error f => polls = [] ∧ r.1 = .error (.refused app.name f.message)
            | .ok () => ∃ first more, polls = first :: more ∧
              (∀ x ∈ first :: more, x.event.IsQuestion) ∧
              first.time = replied +
                (if app.hidden then unhidden.latency + timing.unhideSettle else 0) +
                minimized.latency +
                (if minimized.result = .ok true then
                  restored.latency + restorePause timing restored.result else 0) +
                activated.latency := by
  intro asked r
  have hasked : World.Passes [⟨.running asked.result, asked.latency⟩] w (w.running b).2 := .call ..
  have htrace : (w.running b).2.trace = w.trace ++ [⟨w.now, .call (.running asked.result)⟩] :=
    hasked.trace
  have hr : r = activate b timing target limit w := rfl
  rw [activate_eq] at hr
  cases hres : asked.result with
  | error f =>
    rw [hres] at hr htrace
    exact ⟨[], (congrArg (·.2.trace) hr).trans htrace, rfl, congrArg Prod.fst hr⟩
  | ok apps =>
    rw [hres] at hr htrace
    dsimp only at hr ⊢
    cases happ : Application.resolve? apps target with
    | none =>
      rw [happ] at hr
      exact ⟨[], (congrArg (·.2.trace) hr).trans htrace, rfl, congrArg Prod.fst hr⟩
    | some app =>
      rw [happ] at hr
      obtain ⟨polls, hpolls, hend⟩ := bring_protocol b timing app limit (w.running b).2
      -- the calls behind the first one are counted as if that had not been made
      have hready : readySpans b timing (w.running b).2.calls app =
          readySpans b timing w.calls app := by
        rw [hasked.calls]
        rfl
      have hactivate : (w.running b).2.calls.activate = w.calls.activate := by
        rw [hasked.calls]
        rfl
      rw [hready, hactivate, htrace, hasked.now, List.append_assoc] at hpolls
      rw [hready, hactivate, hasked.now, Span.total_append, total_readySpans] at hend
      refine ⟨_, (congrArg (·.2.trace) hr).trans hpolls, polls, rfl, ?_⟩
      rcases hactivated : (b.activate w.calls.activate).result with f | u
      · rw [hactivated] at hend
        exact ⟨hend.1, (congrArg Prod.fst hr).trans hend.2⟩
      · rw [hactivated] at hend
        obtain ⟨first, more, hsplit, hquestions, htime⟩ := hend
        refine ⟨first, more, hsplit, hquestions, htime.trans ?_⟩
        simp only [Span.total]
        omega

end Activation

end KeyPlan
