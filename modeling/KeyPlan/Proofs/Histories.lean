import KeyPlan.Proofs.Operations

/-!
# Sessions over a history

An engine answers many requests, one after another, each of them on one of many sessions. A session
is known by the requests on it: it is cancelled if one of them has cancelled it, its step is the
largest one that they have started, and its verdict is that of the first run that was not cancelled.

## Main definitions

* `History.Request`, `History.after`: what is asked of an engine, and the state after it
* `History.Moment`, `History.moments`: a request and the world in which it was answered
* `Session.Recounts`: a session agrees with the requests on it

## Main results

* `Session.Recounts.next`: one more request
* `History.recounts_after`: the sessions after any requests
* `History.sessions_after`: what the sessions say
-/

namespace KeyPlan

namespace History

/-! ## Requests -/

/-- **What is asked of an engine**: an operation on a session, with the replies of the system and
the cancellation that is planned for it. -/
structure Request where
  session : Nat
  op : Operation
  backend : Backend
  interrupt : Interrupt := {}

/-- **A request at its moment**, with the engine and the world that it finds. -/
structure Moment where
  request : Request
  engine : Engine
  before : World

variable (timing : Timing)

/-- The moment of a request. -/
def moment (h : History) (r : Request) : Moment :=
  ⟨r, h.engine r.backend timing, h.enter r.session r.interrupt⟩

/-- The state after a request. -/
def next (h : History) (r : Request) : History :=
  (h.perform r.backend timing r.session r.interrupt r.op).2

/-- **The state after some requests**, in order. -/
def after (h : History) (rs : List Request) : History := rs.foldl (next timing) h

/-- **The moments of some requests**, in order. -/
def moments (h : History) : List Request → List Moment
  | [] => []
  | r :: rs => moment timing h r :: moments (next timing h r) rs

namespace Moment

/-- The answer to the request. -/
def answer (m : Moment) : Answer := (History.answer m.engine m.request.op m.before).1

/-- The world after the request. -/
def after (m : Moment) : World := (History.answer m.engine m.request.op m.before).2

/-- The steps that the request starts. -/
def started (m : Moment) : List Nat := m.request.op.started m.engine m.before

/-- **The request cancels its session**: it asks for that, or the planned cancellation takes place
before it is answered. One that is planned for the very beginning cuts the first wait short, and may
so end the run before the clock has moved. -/
def Cancels (m : Moment) : Prop :=
  m.request.op = .cancel ∨ m.before.Strikes m.after m.answer.IsCancelled

variable (m : Moment)

/-- A request to cancel cancels, and every other request leaves the marks of its run. -/
theorem cancels_or_leaves :
    (m.request.op = .cancel ∧ m.started = [] ∧ m.answer.verdict? = none ∧
      m.after.session = m.before.session.cancel) ∨
    (m.request.op ≠ .cancel ∧
      World.Leaves (Mark.ofRun m.started m.answer.verdict?) m.before m.after
        m.answer.IsCancelled) := by
  rcases m with ⟨⟨k, op, b, i⟩, e, w⟩
  by_cases hc : op = .cancel
  · subst hc
    exact .inl ⟨rfl, rfl, rfl, rfl⟩
  · exact .inr ⟨hc, leaves_answer e hc w⟩

/-- **A session is cancelled behind a request** if it was before or the request has cancelled it. -/
theorem token_after :
    m.after.session.token = true ↔ m.before.session.token = true ∨ m.Cancels := by
  rcases m.cancels_or_leaves with ⟨hc, -, -, hs⟩ | ⟨hc, hleaves⟩
  · rw [hs, Session.token_cancel]
    exact iff_of_true rfl (.inr (.inl hc))
  · -- nothing but the planned cancellation sets the token, and a run is cancelled only if it is set
    constructor
    · intro htoken
      rcases hleaves.session with ⟨hs, -⟩ | ⟨-, hstrikes⟩
      · rw [hs, Session.token_markAll] at htoken
        exact .inl htoken
      · exact .inr (.inr hstrikes)
    · rintro (htoken | hop | hstrikes)
      · exact hleaves.token htoken
      · exact absurd hop hc
      · exact hleaves.token_of_strikes hstrikes (token_of_isCancelled m.engine)

/-- The session says that it is cancelled if its token does. -/
theorem published_after (h : m.before.session.Published) : m.after.session.Published := by
  rcases m.cancels_or_leaves with ⟨-, -, -, hs⟩ | ⟨-, hleaves⟩
  · rw [hs]
    exact Session.published_cancel _
  · exact hleaves.published h

/-- **The step behind a request** is the largest one that has started before it or in it. -/
theorem currentStep_after :
    m.after.session.snapshot.currentStep =
      (m.before.session.snapshot.currentStep.toList ++ m.started).max? := by
  rcases m.cancels_or_leaves with ⟨-, hstarted, -, hs⟩ | ⟨-, hleaves⟩
  · rw [hs, Session.currentStep_cancel, hstarted]
    cases m.before.session.snapshot.currentStep <;> rfl
  · rw [hleaves.currentStep, Mark.start?_ofRun]

/-- **The verdict behind a request** is the one from before it, or else that of the request. -/
theorem bears_after {v : Option Verdict} (h : m.before.session.snapshot.Bears v) :
    m.after.session.snapshot.Bears (v.or m.answer.verdict?) := by
  rcases m.cancels_or_leaves with ⟨-, -, hverdict, hs⟩ | ⟨-, hleaves⟩
  · rw [hs, hverdict, Option.or_none]
    exact Session.bears_cancel h
  · have := hleaves.bears h
    rwa [Mark.verdict?_ofRun, Option.head?_toList] at this

end Moment

end History

/-! ## What a session says -/

/-- **A session agrees with the requests on it.** -/
structure Session.Recounts (s : Session) (ms : List History.Moment) : Prop where
  token : s.token = true ↔ ∃ m ∈ ms, m.Cancels
  published : s.Published
  currentStep : s.snapshot.currentStep = (ms.flatMap History.Moment.started).max?
  bears : s.snapshot.Bears (ms.filterMap (·.answer.verdict?)).head?

namespace Session.Recounts

open History

variable {s : Session} {ms : List Moment}

theorem max?_toList_append (l l' : List Nat) : (l.max?.toList ++ l').max? = (l ++ l').max? := by
  cases l with
  | nil => rfl
  | cons i l =>
    rw [List.max?_cons', Option.toList_some, List.singleton_append, List.cons_append,
      List.max?_cons', List.max?_cons', List.foldl_append]

theorem fresh : ({} : Session).Recounts [] :=
  ⟨by simp, rfl, rfl, Snapshot.bears_default⟩

/-- **One more request** on the session. -/
theorem next {m : Moment} (h : m.before.session.Recounts ms) :
    m.after.session.Recounts (ms ++ [m]) where
  token := by
    rw [m.token_after, h.token]
    simp [or_and_right, exists_or]
  published := m.published_after h.published
  currentStep := by
    rw [m.currentStep_after, h.currentStep, max?_toList_append, List.flatMap_append,
      List.flatMap_singleton]
  bears := by
    have hlast : ([m].filterMap (·.answer.verdict?)).head? = m.answer.verdict? := by
      cases hv : m.answer.verdict? <;> simp [hv]
    rw [List.filterMap_append, List.head?_append, hlast]
    exact m.bears_after h.bears

/-- **A verdict is kept**, whatever further requests there are. -/
theorem verdict_kept {s' : Session} {more : List Moment} (h : s.Recounts ms)
    (h' : s'.Recounts (ms ++ more)) (hms : ms.filterMap (·.answer.verdict?) ≠ []) :
    s'.snapshot.isComplete = s.snapshot.isComplete ∧ s'.snapshot.error = s.snapshot.error := by
  obtain ⟨v, rest, hv⟩ := List.exists_cons_of_ne_nil hms
  have hbears := h.bears
  have hbears' := h'.bears
  rw [List.filterMap_append, List.head?_append] at hbears'
  rw [hv, List.head?_cons] at hbears hbears'
  exact hbears.congr hbears'

end Session.Recounts

/-! ## Sessions after requests -/

namespace History

variable (timing : Timing)

/-- A request changes the session that it names, and no other one. -/
theorem sessions_next (h : History) (r : Request) (k : Nat) :
    (next timing h r).sessions k =
      if k = r.session then (moment timing h r).after.session else h.sessions k := rfl

theorem after_append (h : History) (rs later : List Request) :
    after timing h (rs ++ later) = after timing (after timing h rs) later := List.foldl_append

theorem trace_before {h : History} {rs : List Request} {m : Moment}
    (hm : m ∈ moments timing h rs) : m.before.trace = [] := by
  induction rs generalizing h with
  | nil => exact nomatch hm
  | cons r rs ih =>
    rcases List.mem_cons.mp hm with rfl | hm
    · rfl
    · exact ih hm

/-- **The sessions after any requests** agree with the requests on them. -/
theorem recounts_after {h : History} {k : Nat} {ms : List Moment}
    (hk : (h.sessions k).Recounts ms) (rs : List Request) :
    ((after timing h rs).sessions k).Recounts
      (ms ++ (moments timing h rs).filter (·.request.session = k)) := by
  induction rs generalizing h ms with
  | nil => simpa [after, moments] using hk
  | cons r rs ih =>
    by_cases hr : r.session = k
    · -- the request is one more on this session
      have hmoment : ((next timing h r).sessions k).Recounts (ms ++ [moment timing h r]) := by
        subst hr
        rw [sessions_next, if_pos rfl]
        exact Session.Recounts.next hk
      have hfilter : (moment timing h r).request.session = k := hr
      rw [moments, List.filter_cons_of_pos (by simpa using hfilter), List.append_cons]
      exact ih hmoment
    · -- the request is on another session, and does not count for this one
      have hother : ((next timing h r).sessions k).Recounts ms := by
        rw [sessions_next, if_neg (Ne.symm hr)]
        exact hk
      have hfilter : (moment timing h r).request.session ≠ k := hr
      rw [moments, List.filter_cons_of_neg (by simpa using hfilter)]
      exact ih hother

/-- **What the sessions say** after any requests to an engine with fresh sessions. A session is
cancelled if a request on it has cancelled it. Its step is the largest one that the requests on it
have started. It is complete, or has an error, if the first run on it that was not cancelled has
completed or failed; later requests do not change that. A request on another session does not change
it at all. -/
theorem sessions_after (settings : Settings) (world : World) (rs : List Request) (k : Nat) :
    let h : History := { settings, world }
    let s := (after timing h rs).sessions k
    let ms := (moments timing h rs).filter (·.request.session = k)
    let verdicts := ms.filterMap (·.answer.verdict?)
    (s.token = true ↔ ∃ m ∈ ms, m.Cancels) ∧
    s.snapshot.isCancelled = s.token ∧
    s.snapshot.currentStep = (ms.flatMap Moment.started).max? ∧
    (∀ m ∈ ms, ∀ actions, m.request.op.run? = some (true, actions) →
      Trace.started m.after.trace = m.started) ∧
    (s.snapshot.isComplete = true ↔ verdicts.head? = some .completed) ∧
    (∀ message, s.snapshot.error = some message ↔ verdicts.head? = some (.failed message)) ∧
    (verdicts ≠ [] → ∀ later,
      let s' := (after timing h (rs ++ later)).sessions k
      s'.snapshot.isComplete = s.snapshot.isComplete ∧ s'.snapshot.error = s.snapshot.error) ∧
    ∀ r : Request, r.session ≠ k → (next timing (after timing h rs) r).sessions k = s := by
  intro h s ms verdicts
  have hs : s.Recounts ms := recounts_after timing (h := h) (k := k) Session.Recounts.fresh rs
  refine ⟨hs.token, hs.published, hs.currentStep, ?_, hs.bears.isComplete, hs.bears.error, ?_, ?_⟩
  · intro m hm actions hop
    have hstarted := started_answer m.engine hop m.before
    rw [trace_before timing (List.mem_filter.mp hm).1] at hstarted
    exact hstarted
  · intro hverdicts later s'
    have hs' := recounts_after timing hs later
    rw [← after_append] at hs'
    exact hs.verdict_kept hs' hverdicts
  · intro r hr
    rw [sessions_next, if_neg hr.symm]

end History

end KeyPlan
