import KeyPlan.Proofs.Course
import Mathlib.Data.List.Chain

/-!
# Exact polling

The system is asked which application is in front until that is the one that is meant or the time
is up. Each question has its time and its reply. The next one is asked a pause after the reply, but
not later than the deadline, so the application is not given up while there is time for another
question, and what is asked at the deadline is the last question.

## Main definitions

* `Query`: a question for the application in front
* `Query.Confirms`: the reply is in time and names the application
* `Paced`: the times of the questions
* `Activation.Polls`: the questions between two worlds and what comes of them

## Main results

* `Paced.length_le`: how many questions there can be
* `Activation.polls_confirmFrom`: the rounds of asking
* `Activation.confirmFrom_of_enough`: asking ends by itself
* `Activation.confirm_exact`: polling is exact
-/

namespace KeyPlan

/-! ## Questions -/

/-- **A question for the application in front**: when it is asked, and the reply to it. -/
structure Query where
  time : Nat
  reply : Reply Frontmost

namespace Query

/-- When the reply is there. -/
def answered (q : Query) : Nat := q.time + q.reply.latency

/-- **The answer that counts**: one that is there by the deadline. What a reply stands for is told
by `front`. -/
def answer? (front : Frontmost → Option Int32) (deadline : Nat) (q : Query) :
    Option (Except Fault (Option Int32)) :=
  if q.answered ≤ deadline then some (q.reply.result.map front) else none

/-- What a trace says of the question. -/
def entry (front : Frontmost → Option Int32) (deadline : Nat) (q : Query) : Entry :=
  ⟨q.time, .call (.frontmost (q.answer? front deadline))⟩

/-- **The application is confirmed** by the reply: that is there by the deadline and names it. -/
def Confirms (front : Frontmost → Option Int32) (deadline : Nat) (app : Application) (q : Query) :
    Prop :=
  q.answered ≤ deadline ∧ q.reply.result.map front = .ok (some app.pid)

instance (front : Frontmost → Option Int32) (deadline : Nat) (app : Application) (q : Query) :
    Decidable (q.Confirms front deadline app) :=
  inferInstanceAs (Decidable (_ ∧ _))

theorem answer?_eq_some_iff {front : Frontmost → Option Int32} {deadline : Nat} {app : Application}
    {q : Query} :
    q.answer? front deadline = some (.ok (some app.pid)) ↔ q.Confirms front deadline app := by
  unfold answer? Confirms
  split
  next h => simp [h]
  next h => simp [h]

end Query

/-- **The times of questions**: a question is followed by another one only if its reply is there
before the deadline, and then a pause after the reply, or at the deadline if that comes first. -/
def Paced (interval deadline : Nat) (queries : List Query) : Prop :=
  queries.IsChain fun q next =>
    q.answered < deadline ∧ next.time = min (q.answered + interval) deadline

namespace Paced

variable {interval deadline : Nat} {q : Query} {queries : List Query}

theorem single (q : Query) : Paced interval deadline [q] := List.isChain_singleton q

/-- **How many questions there can be**: each but the last one takes a pause, and only the pause in
front of the last one may be cut short by the deadline. -/
theorem length_mul_lt (hinterval : 0 < interval) (h : Paced interval deadline (q :: queries))
    (hq : q.time ≤ deadline) :
    queries.length * interval < deadline - q.time + interval := by
  induction queries generalizing q with
  | nil =>
    rw [List.length_nil, Nat.zero_mul]
    omega
  | cons next queries ih =>
    obtain ⟨⟨hbefore, htime⟩, htail⟩ := List.isChain_cons_cons.mp h
    have hnext : next.time ≤ deadline := htime ▸ Nat.min_le_right ..
    have hasked : q.time ≤ q.answered := Nat.le_add_right ..
    have hlength := ih htail hnext
    rw [List.length_cons, Nat.succ_mul]
    by_cases hcut : next.time = deadline
    · -- a question at the deadline is the last one
      rw [hcut, Nat.sub_self, Nat.zero_add] at hlength
      have hlast : queries.length < 1 := by
        apply Nat.lt_of_mul_lt_mul_right (a := interval)
        rwa [Nat.one_mul]
      rw [Nat.lt_one_iff.mp hlast, Nat.zero_mul]
      omega
    · omega

theorem length_le (hinterval : 0 < interval) (h : Paced interval deadline (q :: queries))
    (hq : q.time ≤ deadline) :
    (q :: queries).length ≤ (deadline - q.time + interval - 1) / interval + 1 := by
  have hlength := length_mul_lt hinterval h hq
  apply Nat.succ_le_succ
  rw [Nat.le_div_iff_mul_le hinterval]
  omega

/-- No question is asked before the first one or after the deadline. -/
theorem time_mem (h : Paced interval deadline (q :: queries)) (hq : q.time ≤ deadline) :
    ∀ x ∈ q :: queries, q.time ≤ x.time ∧ x.time ≤ deadline := by
  induction queries generalizing q with
  | nil =>
    intro x hx
    rw [List.mem_singleton.mp hx]
    exact ⟨Nat.le_refl _, hq⟩
  | cons next queries ih =>
    obtain ⟨⟨hbefore, htime⟩, htail⟩ := List.isChain_cons_cons.mp h
    have hnext : next.time ≤ deadline := htime ▸ Nat.min_le_right ..
    have hasked : q.time ≤ q.answered := Nat.le_add_right ..
    have hlater : q.time ≤ next.time := by omega
    intro x hx
    rcases List.mem_cons.mp hx with rfl | hx
    · exact ⟨Nat.le_refl _, hq⟩
    · obtain ⟨hfirst, hlast⟩ := ih htail hnext x hx
      exact ⟨Nat.le_trans hlater hfirst, hlast⟩

end Paced

namespace Activation

variable (b : Backend)

/-! ## One question -/

/-- **A question is asked** between two worlds: its time passes as far as the deadline. -/
structure Asks (deadline : Nat) (w : World) (q : Query) (v : World) : Prop where
  time : q.time = w.now
  reply : q.reply = b.frontmost w.calls.frontmost
  trace : v.trace = w.trace ++ [q.entry w.frontPid deadline]
  now : v.now = min q.answered deadline
  calls : v.calls.frontmost = w.calls.frontmost + 1
  front : v.frontPid = w.frontPid

/-- What is only told does not count. -/
theorem Asks.unconfirmed {deadline : Nat} {w v : World} {q : Query} (h : Asks b deadline w q v)
    (answer : Option (Except Fault (Option Int32))) :
    Asks b deadline w q (tellUnconfirmed v answer) := by
  obtain ⟨htime, hreply, htrace, hnow, hcalls, hfront⟩ := h
  unfold tellUnconfirmed
  split <;> exact ⟨htime, hreply, htrace, hnow, hcalls, hfront⟩

theorem asks_frontmostWithin {deadline : Nat} {w : World} (h : w.now ≤ deadline) :
    let q : Query := ⟨w.now, b.frontmost w.calls.frontmost⟩
    (w.frontmostWithin b (deadline - w.now)).1 = q.answer? w.frontPid deadline ∧
      Asks b deadline w q (w.frontmostWithin b (deadline - w.now)).2 := by
  intro q
  have hintime : q.reply.latency ≤ deadline - w.now ↔ q.answered ≤ deadline := by
    change q.reply.latency ≤ deadline - w.now ↔ w.now + q.reply.latency ≤ deadline
    omega
  have hanswer : (w.frontmostWithin b (deadline - w.now)).1 = q.answer? w.frontPid deadline := by
    unfold Query.answer?
    rw [← ite_congr (propext hintime) (fun _ => rfl) (fun _ => rfl)]
    rfl
  obtain ⟨s, hs⟩ := World.exists_call_eq w
    (.frontmost (w.frontmostWithin b (deadline - w.now)).1)
    (min q.reply.latency (deadline - w.now))
  have hworld : (w.frontmostWithin b (deadline - w.now)).2 = w.call
    (.frontmost (w.frontmostWithin b (deadline - w.now)).1)
    (min q.reply.latency (deadline - w.now)) := rfl
  refine ⟨hanswer, ?_⟩
  rw [hworld, hs, hanswer]
  refine ⟨rfl, rfl, rfl, ?_, rfl, rfl⟩
  change w.now + min q.reply.latency (deadline - w.now) = min (w.now + q.reply.latency) deadline
  omega

/-- **One round of asking**: the reply confirms the application, it is not there before the
deadline, or there is a pause and another round. -/
theorem confirmFrom_round {deadline : Nat} {w : World} (interval limit : Nat) (app : Application)
    (rounds : Nat) (h : w.now ≤ deadline) :
    ∃ q v, Asks b deadline w q v ∧
      ((q.Confirms w.frontPid deadline app ∧
        confirmFrom b interval limit deadline app (rounds + 1) w = (.ok (), v)) ∨
      (¬ q.Confirms w.frontPid deadline app ∧ deadline ≤ q.answered ∧
        confirmFrom b interval limit deadline app (rounds + 1) w =
          (.error (.timedOut app.name limit), v)) ∨
      (¬ q.Confirms w.frontPid deadline app ∧ q.answered < deadline ∧
        confirmFrom b interval limit deadline app (rounds + 1) w =
          confirmFrom b interval limit deadline app rounds
            (v.sleep (min interval (deadline - q.answered))))) := by
  obtain ⟨hanswer, hasks⟩ := asks_frontmostWithin b h
  have htold := hasks.unconfirmed b (w.frontmostWithin b (deadline - w.now)).1
  have hnow := htold.now
  have hconfirms := @Query.answer?_eq_some_iff w.frontPid deadline app
    ⟨w.now, b.frontmost w.calls.frontmost⟩
  rw [← hanswer] at hconfirms
  rcases confirmFrom_cases b interval limit deadline app rounds w with
    ⟨ha, hround⟩ | ⟨ha, hd, hround⟩ | ⟨ha, hd, hround⟩
  · refine ⟨_, _, ?_, .inl ⟨hconfirms.mp ha, hround⟩⟩
    exact ⟨hasks.time, hasks.reply, hasks.trace, hasks.now, hasks.calls, hasks.front⟩
  · rw [hnow] at hd
    exact ⟨_, _, htold, .inr (.inl ⟨fun hc => ha (hconfirms.mpr hc), by omega, hround⟩)⟩
  · rw [hnow] at hd hround
    have hbefore : (Query.mk w.now (b.frontmost w.calls.frontmost)).answered < deadline := by omega
    rw [Nat.min_eq_left (Nat.le_of_lt hbefore)] at hround
    exact ⟨_, _, htold, .inr (.inr ⟨fun hc => ha (hconfirms.mpr hc), hbefore, hround⟩)⟩

/-! ## Rounds of questions -/

/-- **How asking ends**: with the first reply that confirms the application, or at the deadline,
when none has. -/
def Ends (front : Frontmost → Option Int32) (limit deadline : Nat) (app : Application)
    (queries : List Query) (r : Except ActivationFault Unit × World) : Prop :=
  (r.1 = .ok () ∧ ∃ misses q, queries = misses ++ [q] ∧
    (∀ m ∈ misses, ¬ m.Confirms front deadline app) ∧ q.Confirms front deadline app ∧
    r.2.now = q.answered) ∨
  (r.1 = .error (.timedOut app.name limit) ∧ r.2.now = deadline ∧
    (∀ q ∈ queries, ¬ q.Confirms front deadline app) ∧
    ∃ last, queries.getLast? = some last ∧ deadline ≤ last.answered)

theorem Ends.cons {front : Frontmost → Option Int32} {limit deadline : Nat} {app : Application}
    {q : Query} {queries : List Query} {r : Except ActivationFault Unit × World}
    (hq : ¬ q.Confirms front deadline app) (h : Ends front limit deadline app queries r) :
    Ends front limit deadline app (q :: queries) r := by
  rcases h with ⟨hok, misses, x, rfl, hmisses, hx, hnow⟩ | ⟨herror, hnow, hmisses, last, hlast, hle⟩
  · exact .inl ⟨hok, q :: misses, x, rfl, List.forall_mem_cons.mpr ⟨hq, hmisses⟩, hx, hnow⟩
  · refine .inr ⟨herror, hnow, List.forall_mem_cons.mpr ⟨hq, hmisses⟩, last, ?_, hle⟩
    rw [List.getLast?_cons, hlast]
    rfl

/-- **The questions between two worlds**, and what comes of them. -/
structure Polls (interval limit deadline : Nat) (app : Application) (w : World)
    (queries : List Query) (r : Except ActivationFault Unit × World) : Prop where
  first : ∃ q rest, queries = q :: rest ∧ q.time = w.now
  replies : ∀ i q, queries[i]? = some q → q.reply = b.frontmost (w.calls.frontmost + i)
  paced : Paced interval deadline queries
  trace : r.2.trace = w.trace ++ queries.map (Query.entry w.frontPid deadline)
  calls : r.2.calls.frontmost = w.calls.frontmost + queries.length
  ending : Ends w.frontPid limit deadline app queries r

namespace Polls

variable {b} {interval limit deadline : Nat} {app : Application} {w v u : World} {q : Query}
  {r : Except ActivationFault Unit × World}

/-- The last question. -/
theorem single (hq : Asks b deadline w q r.2)
    (hend : Ends w.frontPid limit deadline app [q] r) :
    Polls b interval limit deadline app w [q] r where
  first := ⟨q, _, rfl, hq.time⟩
  replies := by
    intro i x hx
    obtain ⟨rfl, rfl⟩ : i = 0 ∧ q = x := by simpa [List.getElem?_singleton] using hx
    exact hq.reply
  paced := .single q
  trace := hq.trace
  calls := hq.calls
  ending := hend

/-- **One more question** in front of others. -/
theorem cons {queries : List Query} (h : Polls b interval limit deadline app u queries r)
    (hq : Asks b deadline w q v) (hmiss : ¬ q.Confirms w.frontPid deadline app)
    (hbefore : q.answered < deadline) (htrace : u.trace = v.trace) (hcalls : u.calls = v.calls)
    (hfront : u.frontPid = v.frontPid) (hnow : u.now = min (q.answered + interval) deadline) :
    Polls b interval limit deadline app w (q :: queries) r where
  first := ⟨q, _, rfl, hq.time⟩
  replies := by
    intro i x hx
    cases i with
    | zero =>
      obtain rfl : q = x := by simpa using hx
      exact hq.reply
    | succ i =>
      rw [List.getElem?_cons_succ] at hx
      rw [h.replies i x hx, hcalls, hq.calls, Nat.add_assoc, Nat.add_comm 1]
  paced := by
    obtain ⟨next, rest, rfl, htime⟩ := h.first
    exact List.isChain_cons_cons.mpr ⟨⟨hbefore, htime.trans hnow⟩, h.paced⟩
  trace := by
    rw [h.trace, htrace, hq.trace, hfront, hq.front, List.append_assoc]
    rfl
  calls := by
    rw [h.calls, hcalls, hq.calls, List.length_cons]
    omega
  ending := by
    have hend := h.ending
    rw [hfront, hq.front] at hend
    exact hend.cons hmiss

end Polls

section Rounds

variable {interval limit deadline : Nat} {app : Application}

/-- **The rounds of asking** end with a confirmation or at the deadline. They are enough if there is
one for each millisecond, since each but the last one takes at least the pause behind it. -/
theorem polls_confirmFrom (hinterval : 0 < interval) (rounds : Nat) :
    ∀ w : World, w.now ≤ deadline → deadline < w.now + rounds →
      ∃ queries, Polls b interval limit deadline app w queries
        (confirmFrom b interval limit deadline app rounds w) := by
  induction rounds with
  | zero =>
    intro w hnow hrounds
    omega
  | succ rounds ih =>
    intro w hnow hrounds
    obtain ⟨q, v, hasks, ⟨hq, h⟩ | ⟨hq, hlate, h⟩ | ⟨hq, hbefore, h⟩⟩ :=
      confirmFrom_round b interval limit app rounds hnow <;> rw [h]
    · -- confirmed
      refine ⟨[q], .single hasks (.inl ⟨rfl, [], q, rfl, List.forall_mem_nil _, hq, ?_⟩)⟩
      exact hasks.now.trans (Nat.min_eq_left hq.1)
    · -- out of time
      refine ⟨[q], .single hasks (.inr ⟨rfl, ?_, List.forall_mem_singleton.mpr hq, q, rfl, hlate⟩)⟩
      exact hasks.now.trans (Nat.min_eq_right hlate)
    · -- another round behind a pause
      have hv := hasks.now
      have hasked : w.now ≤ q.answered := hasks.time ▸ Nat.le_add_right ..
      obtain ⟨s, hs⟩ := World.exists_sleep_eq v (min interval (deadline - q.answered))
      rw [hs]
      have hnext : v.now + min interval (deadline - q.answered) =
          min (q.answered + interval) deadline := by omega
      obtain ⟨queries, hpolls⟩ := ih
        { v with now := v.now + min interval (deadline - q.answered), session := s }
        (by dsimp only; omega) (by dsimp only; omega)
      exact ⟨q :: queries, hpolls.cons hasks hq hbefore rfl rfl rfl hnext⟩

/-- **Asking ends by itself**: more rounds than are enough do not change what comes of it. -/
theorem confirmFrom_of_enough (hinterval : 0 < interval) (rounds : Nat) :
    ∀ (w : World) (more : Nat), w.now ≤ deadline → deadline < w.now + rounds →
      confirmFrom b interval limit deadline app (rounds + more) w =
        confirmFrom b interval limit deadline app rounds w := by
  induction rounds with
  | zero =>
    intro w more hnow hrounds
    omega
  | succ rounds ih =>
    intro w more hnow hrounds
    obtain ⟨-, hasks⟩ := asks_frontmostWithin b hnow
    have hv := (hasks.unconfirmed b (w.frontmostWithin b (deadline - w.now)).1).now
    rw [Nat.add_right_comm, confirmFrom, confirmFrom]
    dsimp only
    split
    · rfl
    · split
      · rfl
      next hd =>
        -- the pause takes time, so one round less is enough behind it
        have hasked : w.now ≤ (Query.mk w.now (b.frontmost w.calls.frontmost)).answered :=
          Nat.le_add_right ..
        apply ih
        · rw [World.now_sleep]
          omega
        · rw [World.now_sleep]
          omega

end Rounds

/-! ## Exactness -/

theorem polls_confirm (timing : Timing) (app : Application) (limit : Nat) (w : World)
    (hinterval : 0 < timing.pollInterval) :
    ∃ queries, Polls b timing.pollInterval limit (w.now + limit) app w queries
      (confirm b timing app limit w) := by
  apply polls_confirmFrom b hinterval
  · exact Nat.le_add_right ..
  · exact Nat.add_lt_add_left (lt_enoughRounds b timing.pollInterval limit) w.now

/-- Asking is successful exactly if one of the questions is confirmed. -/
theorem Ends.ok_iff {front : Frontmost → Option Int32} {limit deadline : Nat} {app : Application}
    {queries : List Query} {r : Except ActivationFault Unit × World}
    (h : Ends front limit deadline app queries r) :
    r.1 = .ok () ↔ ∃ q ∈ queries, q.Confirms front deadline app := by
  rcases h with ⟨hok, misses, q, rfl, -, hq, -⟩ | ⟨herror, -, hmisses, -⟩
  · exact iff_of_true hok ⟨q, List.mem_append_right misses (List.mem_singleton_self q), hq⟩
  · apply iff_of_false
    · intro hok
      exact nomatch hok.symm.trans herror
    · rintro ⟨q, hq, hconfirms⟩
      exact hmisses q hq hconfirms

/-- Asking ends with the first question that is confirmed. -/
theorem Ends.of_find? {front : Frontmost → Option Int32} {limit deadline : Nat} {app : Application}
    {queries : List Query} {r : Except ActivationFault Unit × World} {q : Query}
    (h : Ends front limit deadline app queries r)
    (hq : queries.find? (·.Confirms front deadline app) = some q) :
    r.2.now = q.answered ∧ queries.getLast? = some q := by
  have hconfirms : q.Confirms front deadline app := by simpa using List.find?_some hq
  rcases h with ⟨-, misses, x, rfl, hmisses, hx, hnow⟩ | ⟨-, -, hmisses, -⟩
  · have hnone : misses.find? (·.Confirms front deadline app) = none := by
      apply List.find?_eq_none.mpr
      intro m hm
      simpa using hmisses m hm
    rw [List.find?_append, hnone, Option.none_or, List.find?_singleton, if_pos (by simpa using hx)]
      at hq
    obtain rfl := Option.some.inj hq
    exact ⟨hnow, List.getLast?_concat⟩
  · exact absurd hconfirms (hmisses q (List.mem_of_find?_eq_some hq))

/-- Without a confirmation asking ends at the deadline, with a question that was not over before. -/
theorem Ends.of_misses {front : Frontmost → Option Int32} {limit deadline : Nat} {app : Application}
    {queries : List Query} {r : Except ActivationFault Unit × World}
    (h : Ends front limit deadline app queries r)
    (hmisses : ∀ q ∈ queries, ¬ q.Confirms front deadline app) :
    r.1 = .error (.timedOut app.name limit) ∧ r.2.now = deadline ∧
      ∃ last, queries.getLast? = some last ∧ deadline ≤ last.answered := by
  rcases h with ⟨-, misses, x, rfl, -, hx, -⟩ | ⟨herror, hnow, -, hlast⟩
  · exact absurd hx (hmisses x (List.mem_append_right misses (List.mem_singleton_self x)))
  · exact ⟨herror, hnow, hlast⟩

/-- **Polling is exact.** However many rounds are allowed beyond those that are enough, asking ends
in the same way. Its questions get the replies of the backend in order. The first one is asked at
once, each other one a pause after the reply before it or at the deadline, and none after the
deadline, so there is at most one question more than there are pauses begun in the time. Asking is
successful exactly if one of the replies names the application in time, and it ends with the first
of these. Otherwise it ends at the deadline, and the last question was asked then, answered then, or
cut off then. -/
theorem confirm_exact (timing : Timing) (app : Application) (limit : Nat) (w : World)
    (hinterval : 0 < timing.pollInterval) :
    let deadline := w.now + limit
    let r := confirm b timing app limit w
    (∀ rounds, limit < rounds →
      confirmFrom b timing.pollInterval limit deadline app rounds w = r) ∧
    ∃ queries : List Query,
      r.2.trace = w.trace ++ queries.map (Query.entry w.frontPid deadline) ∧
      (∀ i q, queries[i]? = some q → q.reply = b.frontmost (w.calls.frontmost + i)) ∧
      queries.head?.map Query.time = some w.now ∧
      Paced timing.pollInterval deadline queries ∧
      (1 ≤ queries.length ∧
        queries.length ≤ (limit + timing.pollInterval - 1) / timing.pollInterval + 1) ∧
      (∀ q ∈ queries, w.now ≤ q.time ∧ q.time ≤ deadline) ∧
      (r.1 = .ok () ↔ ∃ q ∈ queries, q.Confirms w.frontPid deadline app) ∧
      (∀ q, queries.find? (·.Confirms w.frontPid deadline app) = some q →
        r.2.now = q.answered ∧ queries.getLast? = some q) ∧
      ((∀ q ∈ queries, ¬ q.Confirms w.frontPid deadline app) →
        r.1 = .error (.timedOut app.name limit) ∧ r.2.now = deadline ∧
          ∃ last, queries.getLast? = some last ∧
            (last.time = deadline ∨ last.answered = deadline ∨ deadline < last.answered)) := by
  intro deadline r
  obtain ⟨_, ⟨q, rest, rfl, hq⟩, hreplies, hpaced, htrace, -, hend⟩ :=
    polls_confirm b timing app limit w hinterval
  have hnow : w.now ≤ deadline := Nat.le_add_right ..
  have htime : q.time ≤ deadline := Nat.le_trans (Nat.le_of_eq hq) hnow
  have htimes := hpaced.time_mem htime
  refine ⟨?_, q :: rest, htrace, hreplies, congrArg some hq, hpaced, ⟨?_, ?_⟩, ?_, hend.ok_iff, ?_,
    ?_⟩
  · -- a round for each millisecond and one more are enough in any case
    intro rounds hrounds
    have henough {rounds : Nat} (h : limit < rounds) :
        confirmFrom b timing.pollInterval limit deadline app rounds w =
          confirmFrom b timing.pollInterval limit deadline app (limit + 1) w := by
      obtain ⟨more, rfl⟩ := Nat.exists_eq_add_of_le (Nat.succ_le_of_lt h)
      exact confirmFrom_of_enough b hinterval (limit + 1) w more hnow (Nat.lt_succ_self _)
    exact (henough hrounds).trans (henough (lt_enoughRounds b timing.pollInterval limit)).symm
  · exact Nat.succ_le_succ (Nat.zero_le _)
  · have hlength := hpaced.length_le hinterval htime
    rwa [hq, Nat.add_sub_cancel_left] at hlength
  · intro x hx
    rw [← hq]
    exact htimes x hx
  · intro x hx
    exact hend.of_find? hx
  · intro hmisses
    obtain ⟨herror, hfinish, last, hlast, hle⟩ := hend.of_misses hmisses
    exact ⟨herror, hfinish, last, hlast, .inr ((Nat.eq_or_lt_of_le hle).imp_left Eq.symm)⟩

/-- A backend that first fails slowly, and from then on takes 40 ms to name the application that was
activated last. -/
def hesitantBackend : Backend :=
  { Backend.unsupported with
    frontmost := fun n =>
      if n = 0 then ⟨10, .error (.scripting "busy")⟩ else ⟨40, .ok .lastActivated⟩ }

/-- The application that was activated last. -/
def hesitantApp : Application := ⟨11, "Notes", none, false⟩

/-- The world in which it was. -/
def hesitantWorld : World := { activated := some 11 }

/-- The second question is asked 60 ms after the first one, and answered just at the deadline. -/
theorem confirm_exact_hesitant :
    0 < ({} : Timing).pollInterval ∧
      (confirm hesitantBackend {} hesitantApp 100 hesitantWorld).1 = .ok () ∧
      ∃ q last : Query, (confirm hesitantBackend {} hesitantApp 100 hesitantWorld).2.trace =
          [q.entry hesitantWorld.frontPid 100, last.entry hesitantWorld.frontPid 100] ∧
        (last.time = 60 ∧ last.answered = 100) ∧
        ∃ x ∈ [q, last], x.Confirms hesitantWorld.frontPid 100 hesitantApp := by
  have hinterval : 0 < ({} : Timing).pollInterval := by decide
  have hok : (confirm hesitantBackend {} hesitantApp 100 hesitantWorld).1 = .ok () := by
    decide +kernel
  have htimes : (confirm hesitantBackend {} hesitantApp 100 hesitantWorld).2.trace.map Entry.time =
      [0, 60] := by decide +kernel
  obtain ⟨-, queries, htrace, hreplies, -, -, -, -, hsuccess, -⟩ :=
    confirm_exact hesitantBackend {} hesitantApp 100 hesitantWorld hinterval
  change _ = [] ++ queries.map (Query.entry hesitantWorld.frontPid 100) at htrace
  rw [htrace, List.nil_append, List.map_map] at htimes
  -- the trace has two entries, so there were two questions
  obtain ⟨q, last, rfl⟩ : ∃ q last, queries = [q, last] := by
    apply List.length_eq_two.mp
    simpa using congrArg List.length htimes
  obtain ⟨-, hlast⟩ : q.time = 0 ∧ last.time = 60 := by simpa [Query.entry] using htimes
  have hreply : last.reply = ⟨40, .ok .lastActivated⟩ := hreplies 1 last rfl
  refine ⟨hinterval, hok, q, last, htrace, ⟨hlast, ?_⟩, hsuccess.mp hok⟩
  simp [Query.answered, hlast, hreply]

end Activation

end KeyPlan
