import KeyPlan.Proofs.Polling

/-!
# A longer limit

Two activations that differ only in their limits ask the same questions as long as none of them
meets the earlier deadline. If the one with the shorter limit is successful, only its last question
can meet it: that question may be asked earlier than in the other activation, but then its reply
took no time, so it is in time there too. A longer limit thus never costs an activation its success.

## Main definitions

* `Activation.ConfirmedAt`: an activation is confirmed by its n-th question

## Main results

* `Activation.answers_of_later_deadline`: the questions of two deadlines, side by side
* `Activation.activate_ok_of_le`: a longer limit never hurts
-/

namespace KeyPlan

/-- A call that makes an application ready is no answer on the one in front. -/
theorem Event.IsAid.answer?_eq_none {app : Application} {ev : Event} (h : ev.IsAid app) :
    ev.answer? = none := by
  cases ev with
  | call c =>
    cases c with
    | frontmost answer => exact absurd h id
    | _ => rfl
  | key e r => rfl
  | callback c s => rfl

namespace Activation

/-! ## Questions with two deadlines -/

section Deadlines

variable {front : Frontmost → Option Int32} {interval limit limit' deadline early late : Nat}
  {app : Application} {q q' : Query} {queries queries' : List Query}
  {r r' : Except ActivationFault Unit × World}

/-- A question that is confirmed is the last one. -/
theorem Ends.of_confirms (h : Ends front limit deadline app (q :: queries) r)
    (hq : q.Confirms front deadline app) : r.1 = .ok () ∧ queries = [] := by
  rcases h with ⟨hok, misses, x, hsplit, hmisses, -⟩ | ⟨-, -, hmisses, -⟩
  · refine ⟨hok, ?_⟩
    cases misses with
    | nil => exact (List.cons.inj hsplit).2
    | cons m misses =>
      obtain ⟨rfl, -⟩ := List.cons.inj hsplit
      exact absurd hq (hmisses q List.mem_cons_self)
  · exact absurd hq (hmisses q List.mem_cons_self)

/-- A question that misses before the deadline is followed by another one. -/
theorem Ends.of_miss (h : Ends front limit deadline app (q :: queries) r)
    (hq : ¬ q.Confirms front deadline app) (hbefore : q.answered < deadline) :
    queries ≠ [] ∧ Ends front limit deadline app queries r := by
  rcases h with ⟨hok, misses, x, hsplit, hmisses, hx, hnow⟩ |
    ⟨herror, hnow, hmisses, last, hlast, hle⟩
  · cases misses with
    | nil =>
      obtain ⟨rfl, -⟩ := List.cons.inj hsplit
      exact absurd hx hq
    | cons m misses =>
      obtain ⟨-, rfl⟩ := List.cons.inj hsplit
      have htail := (List.forall_mem_cons.mp hmisses).2
      exact ⟨by simp, .inl ⟨hok, misses, x, rfl, htail, hx, hnow⟩⟩
  · cases queries with
    | nil =>
      obtain rfl : q = last := by simpa using hlast
      omega
    | cons next queries =>
      have htail := (List.forall_mem_cons.mp hmisses).2
      rw [List.getLast?_cons_cons] at hlast
      exact ⟨by simp, .inr ⟨herror, hnow, htail, last, hlast, hle⟩⟩

/-- **Questions with the same number are in step**: they are asked at the same time, unless the one
with the earlier deadline is asked just then. -/
def InStep (early late : Nat) (q q' : Query) : Prop :=
  (q'.time = q.time ∨ q.time = early) ∧ q'.time ≤ late

/-- A reply that is in time for the earlier deadline is so for the later one. -/
theorem InStep.confirms (h : InStep early late q q') (hle : early ≤ late)
    (hreply : q'.reply = q.reply) (hq : q.Confirms front early app) :
    q'.Confirms front late app := by
  obtain ⟨htime, hlate⟩ := h
  obtain ⟨hanswered, hname⟩ := hq
  refine ⟨?_, hreply ▸ hname⟩
  unfold Query.answered at hanswered ⊢
  rw [hreply]
  -- a question that is asked at the earlier deadline is only confirmed at once
  omega

/-- Before the earlier deadline, questions that are in step are the same. -/
theorem InStep.eq (h : InStep early late q q') (hreply : q'.reply = q.reply)
    (hbefore : q.answered < early) : q' = q := by
  have hasked : q.time ≤ q.answered := Nat.le_add_right ..
  have htime : q'.time = q.time := h.1.resolve_right (by omega)
  cases q
  cases q'
  simp_all

/-- **The questions of two deadlines, side by side.** If those with the earlier deadline end with a
confirmation, those with the later one end with the same. -/
theorem answers_of_later_deadline (hle : early ≤ late) {r : Except ActivationFault Unit × World}
    (hok : r.1 = .ok ()) : ∀ {q q' : Query} {queries' : List Query},
      Paced interval early (q :: queries) → Paced interval late (q' :: queries') →
      (∀ (i : Nat) (x x' : Query), (q :: queries)[i]? = some x → (q' :: queries')[i]? = some x' →
        x'.reply = x.reply) →
      InStep early late q q' → Ends front limit early app (q :: queries) r →
      Ends front limit' late app (q' :: queries') r' →
      r'.1 = .ok () ∧ (q' :: queries').map (Query.answer? front late) =
        (q :: queries).map (Query.answer? front early) := by
  induction queries with
  | nil =>
    intro q q' queries' _ _ hreplies hstep hend hend'
    have hreply := hreplies 0 q q' rfl rfl
    have hq : q.Confirms front early app := by simpa using hend.ok_iff.mp hok
    have hq' := hstep.confirms hle hreply hq
    obtain ⟨hok', rfl⟩ := hend'.of_confirms hq'
    refine ⟨hok', ?_⟩
    rw [List.map_singleton, List.map_singleton, Query.answer?_eq_some_iff.mpr hq,
      Query.answer?_eq_some_iff.mpr hq']
  | cons next queries ih =>
    intro q q' queries' hpaced hpaced' hreplies hstep hend hend'
    obtain ⟨⟨hbefore, htime⟩, htail⟩ := List.isChain_cons_cons.mp hpaced
    have hmiss : ¬ q.Confirms front early app := by
      intro hq
      exact List.cons_ne_nil _ _ (hend.of_confirms hq).2
    obtain rfl := hstep.eq (hreplies 0 q q' rfl rfl) hbefore
    have hmiss' : ¬ q'.Confirms front late app := by
      intro hq
      exact hmiss ⟨Nat.le_of_lt hbefore, hq.2⟩
    have hbefore' : q'.answered < late := Nat.lt_of_lt_of_le hbefore hle
    obtain ⟨hne, hend'⟩ := hend'.of_miss hmiss' hbefore'
    obtain ⟨next', queries', rfl⟩ := List.exists_cons_of_ne_nil hne
    obtain ⟨⟨-, htime'⟩, htail'⟩ := List.isChain_cons_cons.mp hpaced'
    -- the next questions have the same pause in front of them, as far as their deadlines allow
    have hnext : InStep early late next next' := by
      unfold InStep
      omega
    obtain ⟨hok', hanswers⟩ := ih htail htail'
      (fun i x x' hx hx' => hreplies (i + 1) x x' hx hx') hnext (hend.of_miss hmiss hbefore).2 hend'
    refine ⟨hok', ?_⟩
    have hanswer : q'.answer? front late = q'.answer? front early := by
      rw [Query.answer?, Query.answer?, if_pos (Nat.le_of_lt hbefore),
        if_pos (Nat.le_of_lt hbefore')]
    rw [List.map_cons, hanswers, hanswer]
    rfl

end Deadlines

/-! ## Activations with two limits -/

/-- **The application is confirmed by the question with number `n`** of those that are asked since
the world `w`: all before it have missed, and there is none behind it. -/
def ConfirmedAt (app : Application) (n : Nat) (w : World)
    (r : Except ActivationFault Unit × World) : Prop :=
  r.1 = .ok () ∧ ∃ misses, misses.length = n ∧ (∀ a ∈ misses, a ≠ some (.ok (some app.pid))) ∧
    Trace.answers r.2.trace = Trace.answers w.trace ++ (misses ++ [some (.ok (some app.pid))])

variable {b : Backend} {timing : Timing}

theorem Polls.answers {interval limit deadline : Nat} {app : Application} {w : World}
    {queries : List Query} {r : Except ActivationFault Unit × World}
    (h : Polls b interval limit deadline app w queries r) :
    Trace.answers r.2.trace =
      Trace.answers w.trace ++ queries.map (Query.answer? w.frontPid deadline) := by
  have hentries : Trace.answers (queries.map (Query.entry w.frontPid deadline)) =
      queries.map (Query.answer? w.frontPid deadline) := by
    rw [Trace.answers, List.filterMap_map]
    exact congrFun List.filterMap_eq_map queries
  rw [h.trace, Trace.answers_append, hentries]

/-- Asking that is successful is confirmed by its last question. -/
theorem Polls.confirmedAt {interval limit deadline : Nat} {app : Application} {w : World}
    {queries : List Query} {r : Except ActivationFault Unit × World}
    (h : Polls b interval limit deadline app w queries r) (hok : r.1 = .ok ()) :
    ConfirmedAt app (queries.length - 1) w r := by
  rcases h.ending with ⟨-, misses, q, rfl, hmisses, hq, -⟩ | ⟨herror, -⟩
  · refine ⟨hok, misses.map (Query.answer? w.frontPid deadline), ?_, ?_, ?_⟩
    · simp
    · intro a ha
      obtain ⟨m, hm, rfl⟩ := List.mem_map.mp ha
      intro hconfirms
      exact hmisses m hm (Query.answer?_eq_some_iff.mp hconfirms)
    · rw [h.answers, List.map_append, List.map_singleton, Query.answer?_eq_some_iff.mpr hq]
  · exact nomatch hok.symm.trans herror

/-- A longer limit does not change the answers to questions that end with a confirmation. -/
theorem confirm_ok_of_le {limit limit' : Nat} (app : Application) (w : World)
    (hinterval : 0 < timing.pollInterval) (hle : limit ≤ limit')
    (hok : (confirm b timing app limit w).1 = .ok ()) :
    ∃ n, ConfirmedAt app n w (confirm b timing app limit w) ∧
      ConfirmedAt app n w (confirm b timing app limit' w) ∧
      Trace.answers (confirm b timing app limit' w).2.trace =
        Trace.answers (confirm b timing app limit w).2.trace := by
  obtain ⟨queries, hpolls⟩ := polls_confirm b timing app limit w hinterval
  obtain ⟨queries', hpolls'⟩ := polls_confirm b timing app limit' w hinterval
  have hreplies := hpolls.replies
  have hreplies' := hpolls'.replies
  obtain ⟨q, rest, rfl, htime⟩ := hpolls.first
  obtain ⟨q', rest', rfl, htime'⟩ := hpolls'.first
  have hstep : InStep (w.now + limit) (w.now + limit') q q' := by
    unfold InStep
    omega
  obtain ⟨hok', hanswers⟩ := answers_of_later_deadline (Nat.add_le_add_left hle w.now) hok
    hpolls.paced hpolls'.paced
    (fun i x x' hx hx' => (hreplies' i x' hx').trans (hreplies i x hx).symm)
    hstep hpolls.ending hpolls'.ending
  have hlength := congrArg List.length hanswers
  rw [List.length_map, List.length_map] at hlength
  refine ⟨_, hpolls.confirmedAt hok, ?_, ?_⟩
  · rw [← hlength]
    exact hpolls'.confirmedAt hok'
  · rw [hpolls.answers, hpolls'.answers, hanswers]

/-- What makes an application ready, or asks it to the front, is no answer on the one in front. -/
theorem answers_activate (b : Backend) (timing : Timing) (app : Application)
    (w : World) :
    Trace.answers ((ready b timing app w).activate b app).2.trace = Trace.answers w.trace := by
  have hready : Trace.answers (ready b timing app w).trace = Trace.answers w.trace :=
    (grows_ready b timing app w).trace.filterMap_eq fun ev hev => hev.answer?_eq_none
  rw [World.trace_activate, Trace.answers_append, hready]
  exact List.append_nil _

/-- **A longer limit never hurts.** If an activation is successful, it is so with any longer limit,
and the same question confirms the application. -/
theorem activate_ok_of_le {target : Target} {limit limit' : Nat} {w : World}
    (hinterval : 0 < timing.pollInterval) (hle : limit ≤ limit')
    (hok : (activate b timing target limit w).1 = .ok ()) :
    (activate b timing target limit' w).1 = .ok () ∧
      ∃ apps app n, (w.running b).1 = .ok apps ∧ Application.resolve? apps target = some app ∧
        ConfirmedAt app n w (activate b timing target limit w) ∧
        ConfirmedAt app n w (activate b timing target limit' w) ∧
        Trace.answers (activate b timing target limit' w).2.trace =
          Trace.answers (activate b timing target limit w).2.trace := by
  have hrunning : Trace.answers (w.running b).2.trace = Trace.answers w.trace := by
    have htrace : (w.running b).2.trace =
        w.trace ++ [⟨w.now, .call (.running (w.running b).1)⟩] := World.trace_call ..
    rw [htrace, Trace.answers_append]
    exact List.append_nil _
  unfold activate at hok ⊢
  rw [resolve_eq] at hok ⊢
  cases hr : (w.running b).1 with
  | error e => simp [hr] at hok
  | ok apps =>
    cases happ : Application.resolve? apps target with
    | none => simp [hr, happ] at hok
    | some app =>
      simp only [hr, happ] at hok ⊢
      have hactivate := answers_activate b timing app (w.running b).2
      unfold bring at hok ⊢
      rcases ha : (ready b timing app (w.running b).2).activate b app with ⟨_ | _, v⟩ <;>
        rw [ha] at hok hactivate
      · exact nomatch hok
      · -- both limits count from the same world
        obtain ⟨n, hshort, hlong, hanswers⟩ := confirm_ok_of_le app v hinterval hle hok
        unfold ConfirmedAt at hshort hlong
        rw [hactivate, hrunning] at hshort hlong
        exact ⟨hlong.1, apps, app, n, rfl, happ, hshort, hlong, hanswers⟩

/-- A backend with one application, that is in front from the second question on. -/
def tardyBackend : Backend :=
  { Backend.unsupported with
    running := fun _ => ⟨5, .ok [⟨11, "Notes", none, true⟩]⟩
    activate := fun _ => ⟨0, .ok ()⟩
    frontmost := fun n => if n = 0 then ⟨20, .ok (.pid none)⟩ else ⟨0, .ok .lastActivated⟩ }

/-- With the shorter limit the second question is asked at the deadline, with the longer one it is
asked after it; both times it confirms the application. -/
theorem activate_ok_of_le_tardy :
    0 < ({} : Timing).pollInterval ∧ 60 ≤ 100 ∧
      (activate tardyBackend {} ⟨none, "notes"⟩ 60 {}).1 = .ok () ∧
      (activate tardyBackend {} ⟨none, "notes"⟩ 100 {}).1 = .ok () ∧
      ((activate tardyBackend {} ⟨none, "notes"⟩ 60 {}).2.now = 165 ∧
        (activate tardyBackend {} ⟨none, "notes"⟩ 100 {}).2.now = 175) ∧
      ∃ app n, ConfirmedAt app n {} (activate tardyBackend {} ⟨none, "notes"⟩ 60 {}) ∧
        ConfirmedAt app n {} (activate tardyBackend {} ⟨none, "notes"⟩ 100 {}) := by
  have hinterval : 0 < ({} : Timing).pollInterval := by decide
  have hle : 60 ≤ 100 := by decide
  have hok : (activate tardyBackend {} ⟨none, "notes"⟩ 60 {}).1 = .ok () := by decide +kernel
  have hnow : (activate tardyBackend {} ⟨none, "notes"⟩ 60 {}).2.now = 165 ∧
      (activate tardyBackend {} ⟨none, "notes"⟩ 100 {}).2.now = 175 := by decide +kernel
  obtain ⟨hlong, _, app, n, _, _, hshort, hconfirmed, _⟩ := activate_ok_of_le hinterval hle hok
  exact ⟨hinterval, hle, hok, hlong, hnow, app, n, hshort, hconfirmed⟩

end Activation

end KeyPlan
