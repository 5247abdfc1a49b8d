import KeyPlan.Proofs.Marks
import KeyPlan.World

/-!
# Traces that grow

Whatever happens in a world is recorded at the end of its trace, and nothing but an interrupt
cancels its session. `World.Grows P` says this of two worlds of which the later one has recorded
only events with the property `P`; every call and every way to wait is such a growth, and growths
compose. `World.Leaves` says it of two worlds between which a run has left marks in the session.

## Main definitions

* `Event.IsCall`, `Event.IsFocusCall`, `Event.IsKey`, `Event.IsCallback`, `Event.IsReport`: kinds of
  events
* `Trace.callbacks`, `Trace.keys`, `Trace.answers`: what a trace says of one kind of events
* `Trace.Extends`: a trace later on
* `World.Strikes`: the planned cancellation takes place between two worlds
* `World.Leaves`, `World.Grows`: a world later on, with and without marks in its session

## Main results

* `Trace.Extends.filterMap_eq`: without events of a kind, a later trace says of that kind what the
  earlier one says
* `World.Leaves.trans`, `World.Grows.trans`: growths compose
-/

namespace KeyPlan

/-! ## Kinds of events -/

namespace Event

/-- A call about applications. -/
def IsCall : Event → Prop
  | call _ => True
  | _ => False

/-- A call about one application or about the one in front, but not about all that are running. -/
def IsFocusCall : Event → Prop
  | call (.running _) => False
  | call _ => True
  | _ => False

/-- A key event. -/
def IsKey : Event → Prop
  | key .. => True
  | _ => False

/-- A callback. -/
def IsCallback : Event → Prop
  | callback .. => True
  | _ => False

/-- A callback that is not the start of an action. -/
def IsReport : Event → Prop
  | callback (.stepStarted ..) _ => False
  | callback .. => True
  | _ => False

theorem IsFocusCall.isCall {ev : Event} (h : ev.IsFocusCall) : ev.IsCall := by
  cases ev with
  | call c => trivial
  | key e r => exact h
  | callback c s => exact h

theorem IsCall.not_isKey {ev : Event} (h : ev.IsCall) : ¬ ev.IsKey := by
  cases ev with
  | call c => exact id
  | key e r => exact absurd h id
  | callback c s => exact id

theorem IsCall.not_isCallback {ev : Event} (h : ev.IsCall) : ¬ ev.IsCallback := by
  cases ev with
  | call c => exact id
  | key e r => exact id
  | callback c s => exact absurd h id

theorem IsKey.not_isCallback {ev : Event} (h : ev.IsKey) : ¬ ev.IsCallback := by
  cases ev with
  | call c => exact id
  | key e r => exact id
  | callback c s => exact absurd h id

theorem IsKey.not_isCall {ev : Event} (h : ev.IsKey) : ¬ ev.IsCall := fun hc => hc.not_isKey h

theorem IsCallback.not_isCall {ev : Event} (h : ev.IsCallback) : ¬ ev.IsCall :=
  fun hc => hc.not_isCallback h

theorem IsCallback.not_isKey {ev : Event} (h : ev.IsCallback) : ¬ ev.IsKey :=
  fun hk => hk.not_isCallback h

theorem IsReport.isCallback {ev : Event} (h : ev.IsReport) : ev.IsCallback := by
  cases ev with
  | call c => exact h
  | key e r => exact h
  | callback c s => trivial

theorem IsReport.not_isKey {ev : Event} (h : ev.IsReport) : ¬ ev.IsKey := h.isCallback.not_isKey

/-- What an observer is told in the event. -/
def callback? : Event → Option Callback
  | callback c _ => some c
  | _ => none

/-- The key event, and what came of it. -/
def key? : Event → Option (KeyEvent × Except Fault Unit)
  | key e r => some (e, r)
  | _ => none

/-- The answer to a question for the application in front, which may have come too late. -/
def answer? : Event → Option (Option (Except Fault (Option Int32)))
  | call (.frontmost answer) => some answer
  | _ => none

theorem callback?_eq_none {ev : Event} (h : ¬ ev.IsCallback) : ev.callback? = none := by
  cases ev with
  | call c => rfl
  | key e r => rfl
  | callback c s => exact absurd trivial h

theorem key?_eq_none {ev : Event} (h : ¬ ev.IsKey) : ev.key? = none := by
  cases ev with
  | call c => rfl
  | key e r => exact absurd trivial h
  | callback c s => rfl

theorem answer?_eq_none {ev : Event} (h : ¬ ev.IsCall) : ev.answer? = none := by
  cases ev with
  | call c => exact absurd trivial h
  | key e r => rfl
  | callback c s => rfl

end Event

/-! ## What a trace says -/

namespace Trace

/-- **What the observer was told**, in order. -/
def callbacks (es : List Entry) : List Callback := es.filterMap (·.event.callback?)

/-- **The key events** with their results, in order. -/
def keys (es : List Entry) : List (KeyEvent × Except Fault Unit) := es.filterMap (·.event.key?)

/-- **The answers on the application in front**, in order. -/
def answers (es : List Entry) : List (Option (Except Fault (Option Int32))) :=
  es.filterMap (·.event.answer?)

@[simp] theorem callbacks_append (es es' : List Entry) :
    callbacks (es ++ es') = callbacks es ++ callbacks es' := List.filterMap_append

@[simp] theorem keys_append (es es' : List Entry) : keys (es ++ es') = keys es ++ keys es' :=
  List.filterMap_append

@[simp] theorem answers_append (es es' : List Entry) :
    answers (es ++ es') = answers es ++ answers es' := List.filterMap_append

theorem keys_eq_nil {es : List Entry} (h : ∀ x ∈ es, ¬ x.event.IsKey) : keys es = [] :=
  List.filterMap_eq_nil_iff.mpr fun x hx => Event.key?_eq_none (h x hx)

/-- **A trace later on**: what was recorded since has the property `P`. -/
def Extends (P : Event → Prop) (es es' : List Entry) : Prop :=
  ∃ new, es' = es ++ new ∧ ∀ x ∈ new, P x.event

namespace Extends

variable {P Q : Event → Prop} {es es' es'' : List Entry}

theorem refl (es : List Entry) : Extends P es es := ⟨[], by simp⟩

theorem single {ev : Event} (es : List Entry) (time : Nat) (h : P ev) :
    Extends P es (es ++ [⟨time, ev⟩]) := ⟨[⟨time, ev⟩], rfl, by simpa using h⟩

theorem trans (h : Extends P es es') (h' : Extends P es' es'') : Extends P es es'' := by
  obtain ⟨new, rfl, hP⟩ := h
  obtain ⟨new', rfl, hP'⟩ := h'
  refine ⟨new ++ new', List.append_assoc .., ?_⟩
  intro x hx
  exact (List.mem_append.mp hx).elim (hP x) (hP' x)

theorem mono (h : Extends P es es') (hPQ : ∀ ev, P ev → Q ev) : Extends Q es es' := by
  obtain ⟨new, he, hP⟩ := h
  exact ⟨new, he, fun x hx => hPQ _ (hP x hx)⟩

theorem isPrefix (h : Extends P es es') : es <+: es' := by
  obtain ⟨new, he, -⟩ := h
  exact ⟨new, he.symm⟩

/-- An entry that the earlier trace does not have has the property. -/
theorem of_getElem? (h : Extends P es es') {n : Nat} {x : Entry} (hn : es.length ≤ n)
    (hx : es'[n]? = some x) : P x.event := by
  obtain ⟨new, rfl, hP⟩ := h
  rw [List.getElem?_append_right hn] at hx
  exact hP x (List.mem_of_getElem? hx)

/-- An entry without the property was there before, or was recorded later still. -/
theorem length_le (h : Extends P es es') (hp : es' <+: es'') {n : Nat} {x : Entry}
    (hn : es.length ≤ n) (hx : es''[n]? = some x) (hnot : ¬ P x.event) : es'.length ≤ n := by
  rcases Nat.lt_or_ge n es'.length with hlt | hge
  · obtain ⟨more, rfl⟩ := hp
    rw [List.getElem?_append_left hlt] at hx
    exact absurd (h.of_getElem? hn hx) hnot
  · exact hge

/-- A trace in between is a trace later on. -/
theorem of_isPrefix (h : Extends P es es'') (hp : es <+: es') (hp' : es' <+: es'') :
    Extends P es es' := by
  obtain ⟨new, rfl⟩ := hp
  obtain ⟨more, rfl⟩ := hp'
  obtain ⟨all, he, hP⟩ := h
  rw [List.append_assoc, List.append_cancel_left_eq] at he
  exact ⟨new, rfl, fun x hx => hP x (he ▸ List.mem_append_left more hx)⟩

/-- Nothing was recorded since. -/
theorem eq_of_false (h : Extends (fun _ => False) es es') : es' = es := by
  obtain ⟨new, rfl, hP⟩ := h
  rw [List.eq_nil_iff_forall_not_mem.mpr hP, List.append_nil]

/-- A trace says nothing more of events that do not have the property. -/
theorem filterMap_eq {α : Type} {f : Event → Option α} (h : Extends P es es')
    (hP : ∀ ev, P ev → f ev = none) :
    es'.filterMap (f ·.event) = es.filterMap (f ·.event) := by
  obtain ⟨new, rfl, hnew⟩ := h
  have hnone : new.filterMap (f ·.event) = [] :=
    List.filterMap_eq_nil_iff.mpr fun x hx => hP _ (hnew x hx)
  rw [List.filterMap_append, hnone, List.append_nil]

/-- Without callbacks the observer was told nothing more. -/
theorem callbacks_eq (h : Extends P es es') (hP : ∀ ev, P ev → ¬ ev.IsCallback) :
    callbacks es' = callbacks es :=
  h.filterMap_eq fun ev hev => Event.callback?_eq_none (hP ev hev)

/-- Without calls there is no further answer on the application in front. -/
theorem answers_eq (h : Extends P es es') (hP : ∀ ev, P ev → ¬ ev.IsCall) :
    answers es' = answers es :=
  h.filterMap_eq fun ev hev => Event.answer?_eq_none (hP ev hev)

end Extends

end Trace

/-! ## Worlds later on -/

namespace World

/-- **The planned cancellation takes place** between two worlds: inside of its entry, or when its
time is over. By then the clock has moved, unless a wait was cut short before it could. -/
def Strikes (w w' : World) (cut : Prop) : Prop :=
  (∃ n, w.interrupt.atEntry = some n ∧ w.trace.length ≤ n ∧ n < w'.trace.length) ∨
    ∃ t, w.interrupt.atTime = some t ∧ t ≤ w'.now ∧ (w.now < w'.now ∨ cut)

theorem Strikes.mono {w w' : World} {cut cut' : Prop} (h : w.Strikes w' cut) (hc : cut → cut') :
    w.Strikes w' cut' :=
  h.imp_right fun ⟨t, ht, hle, hmoved⟩ => ⟨t, ht, hle, hmoved.imp_right hc⟩

/-- Nothing takes place where no time passes and nothing is recorded. -/
theorem not_strikes {w w' : World} (htrace : w'.trace = w.trace) (hnow : w'.now = w.now) :
    ¬ w.Strikes w' False := by
  rintro (⟨n, -, hle, hlt⟩ | ⟨t, -, -, hmoved | hcut⟩)
  · rw [htrace] at hlt
    omega
  · omega
  · exact hcut

/-- **A world later on, with marks in its session.** The session is cancelled besides if the planned
cancellation has taken place since; `cut` says that a wait may have been cut short by that. -/
structure Leaves (ms : List Mark) (w w' : World) (cut : Prop := False) : Prop where
  isPrefix : w.trace <+: w'.trace
  now : w.now ≤ w'.now
  interrupt : w'.interrupt = w.interrupt
  session : w'.session = w.session.markAll ms ∧ ¬ w.Strikes w' False ∨
    w'.session = (w.session.markAll ms).cancel ∧ w.Strikes w' cut

namespace Leaves

variable {ms ms' : List Mark} {w v u : World} {cut cut' : Prop}

theorem refl (w : World) : Leaves [] w w cut :=
  ⟨List.prefix_rfl, Nat.le_refl _, rfl, .inl ⟨rfl, not_strikes rfl rfl⟩⟩

theorem mono (h : Leaves ms w v cut) (hc : cut → cut') : Leaves ms w v cut' :=
  ⟨h.isPrefix, h.now, h.interrupt, h.session.imp_right fun ⟨hs, hd⟩ => ⟨hs, hd.mono hc⟩⟩

theorem uncut (h : Leaves ms w v) : Leaves ms w v cut := h.mono False.elim

/-- A cancellation in the first part of a stretch. -/
theorem strikes_left (h : Leaves ms v u cut) (hs : w.Strikes v cut') : w.Strikes u cut' := by
  have hlength := h.isPrefix.length_le
  have hnow := h.now
  rcases hs with ⟨n, hn, hle, hlt⟩ | ⟨t, ht, hle, hmoved⟩
  · exact .inl ⟨n, hn, hle, by omega⟩
  · exact .inr ⟨t, ht, by omega, hmoved.imp_left fun hmoved => by omega⟩

/-- A cancellation in the second part of a stretch. -/
theorem strikes_right (h : Leaves ms w v cut) (hs : v.Strikes u cut') : w.Strikes u cut' := by
  have hlength := h.isPrefix.length_le
  have hnow := h.now
  rw [Strikes, h.interrupt] at hs
  rcases hs with ⟨n, hn, hle, hlt⟩ | ⟨t, ht, hle, hmoved⟩
  · exact .inl ⟨n, hn, by omega, hlt⟩
  · exact .inr ⟨t, ht, hle, hmoved.imp_left fun hmoved => by omega⟩

/-- A cancellation is in the first or in the second part of a stretch. -/
theorem strikes_split (h : Leaves ms w v cut) (hs : w.Strikes u False) :
    w.Strikes v False ∨ v.Strikes u False := by
  rw [Strikes, Strikes, h.interrupt]
  rcases hs with ⟨n, hn, hle, hlt⟩ | ⟨t, ht, hle, hmoved⟩
  · rcases Nat.lt_or_ge n v.trace.length with hv | hv
    · exact .inl (.inl ⟨n, hn, hle, hv⟩)
    · exact .inr (.inl ⟨n, hn, hv, hlt⟩)
  · simp only [or_false] at hmoved ⊢
    rcases Nat.lt_or_ge v.now u.now with hv | hv
    · exact .inr (.inr ⟨t, ht, hle, hv⟩)
    · exact .inl (.inr ⟨t, ht, by omega, by omega⟩)

/-- **Marks add up.** -/
theorem trans (h : Leaves ms w v cut) (h' : Leaves ms' v u cut) : Leaves (ms ++ ms') w u cut := by
  refine ⟨h.isPrefix.trans h'.isPrefix, Nat.le_trans h.now h'.now,
    h'.interrupt.trans h.interrupt, ?_⟩
  rw [Session.markAll_append]
  -- the session may have been cancelled before the later marks, behind them, or both
  rcases h.session with ⟨hs, hd⟩ | ⟨hs, hd⟩ <;> rcases h'.session with ⟨hs', hd'⟩ | ⟨hs', hd'⟩
  · exact .inl ⟨hs'.trans (by rw [hs]), fun hd'' => (h.strikes_split hd'').elim hd hd'⟩
  · exact .inr ⟨hs'.trans (by rw [hs]), h.strikes_right hd'⟩
  · exact .inr ⟨hs'.trans (by rw [hs, ← Session.cancel_markAll]), h'.strikes_left hd⟩
  · refine .inr ⟨hs'.trans ?_, h.strikes_right hd'⟩
    rw [hs, ← Session.cancel_markAll, Session.cancel_cancel]

/-- A session that is cancelled already has the marks, and nothing else. -/
theorem session_of_cancelled (h : Leaves ms w v cut) (hw : w.session.cancel = w.session) :
    v.session = w.session.markAll ms := by
  rcases h.session with ⟨hs, -⟩ | ⟨hs, -⟩
  · exact hs
  · rw [hs, Session.cancel_markAll, hw]

end Leaves

/-- **A world later on**: it has recorded only events with the property `P`, and its session is the
same, unless the planned cancellation has taken place. -/
structure Grows (P : Event → Prop) (w w' : World) (cut : Prop := False) : Prop where
  trace : Trace.Extends P w.trace w'.trace
  leaves : Leaves [] w w' cut

namespace Grows

variable {P Q : Event → Prop} {w v u : World} {cut cut' : Prop}

theorem refl (w : World) : Grows P w w cut := ⟨.refl _, .refl w⟩

/-- **Growths compose.** -/
theorem trans (h : Grows P w v cut) (h' : Grows P v u cut) : Grows P w u cut :=
  ⟨h.trace.trans h'.trace, h.leaves.trans h'.leaves⟩

theorem mono (h : Grows P w v cut) (hPQ : ∀ ev, P ev → Q ev) : Grows Q w v cut :=
  ⟨h.trace.mono hPQ, h.leaves⟩

theorem mono_cut (h : Grows P w v cut) (hc : cut → cut') : Grows P w v cut' :=
  ⟨h.trace, h.leaves.mono hc⟩

/-- A growth in which no wait can be cut short. -/
theorem uncut (h : Grows P w v) : Grows P w v cut := h.mono_cut False.elim

theorem interrupt (h : Grows P w v cut) : v.interrupt = w.interrupt := h.leaves.interrupt

/-- Nothing but an interrupt cancels the session. -/
theorem session (h : Grows P w v cut) :
    v.session = w.session ∨ v.session = w.session.cancel ∧ w.interrupt ≠ {} := by
  rcases h.leaves.session with ⟨hs, -⟩ | ⟨hs, hd⟩
  · exact .inl hs
  · refine .inr ⟨hs, fun hi => ?_⟩
    rw [Strikes, hi] at hd
    rcases hd with ⟨n, hn, -⟩ | ⟨t, ht, -⟩
    · exact nomatch hn
    · exact nomatch ht

/-- What does not change trace, clock, interrupt and session is no growth at all. -/
theorem congr (h : Grows P w v cut) (htrace : u.trace = v.trace) (hnow : u.now = v.now)
    (hinterrupt : u.interrupt = v.interrupt) (hsession : u.session = v.session) :
    Grows P w u cut := by
  have hstrikes (cut : Prop) : w.Strikes u cut ↔ w.Strikes v cut := by
    rw [Strikes, Strikes, htrace, hnow]
  obtain ⟨ht, hp, hn, hi, hs⟩ := h
  refine ⟨htrace ▸ ht, htrace ▸ hp, hnow ▸ hn, hinterrupt ▸ hi, ?_⟩
  rwa [hsession, hstrikes, hstrikes]

end Grows

variable {P : Event → Prop}

/-! ## What grows the trace -/

/-- A mark is left in the session. -/
theorem leaves_mark (w : World) (m : Mark) :
    Leaves [m] w { w with session := w.session.mark m } :=
  ⟨List.prefix_rfl, Nat.le_refl _, rfl, .inl ⟨rfl, not_strikes rfl rfl⟩⟩

theorem grows_tell (w : World) (level : LogLevel) (text : String) :
    Grows P w (w.tell level text) := (Grows.refl w).congr rfl rfl rfl rfl

/-- Recording an event adds it to the trace, whether or not the session is cancelled inside of
it. -/
theorem trace_record (w : World) (ev : Event) :
    (w.record ev).trace = w.trace ++ [⟨w.now, ev⟩] := by
  unfold record
  split <;> rfl

theorem now_record (w : World) (ev : Event) : (w.record ev).now = w.now := by
  unfold record
  split <;> rfl

theorem grows_record {ev : Event} (w : World) (h : P ev) : Grows P w (w.record ev) := by
  have hlength : (w.record ev).trace.length = w.trace.length + 1 := by
    rw [trace_record, List.length_append, List.length_singleton]
  refine ⟨trace_record w ev ▸ .single _ _ h, trace_record w ev ▸ List.prefix_append ..,
    Nat.le_of_eq (now_record w ev).symm, ?_, ?_⟩
  · unfold record
    split <;> rfl
  · by_cases hi : w.interrupt.atEntry = some w.trace.length
    · refine .inr ⟨?_, .inl ⟨_, hi, Nat.le_refl _, by omega⟩⟩
      rw [record, if_pos hi]
      rfl
    · refine .inl ⟨?_, ?_⟩
      · rw [record, if_neg hi]
        rfl
      -- another entry than this one is the planned one
      · rintro (⟨n, hn, hle, hlt⟩ | ⟨t, -, -, hmoved | hcut⟩)
        · have hne : n ≠ w.trace.length := fun h => hi (h ▸ hn)
          omega
        · exact absurd (now_record w ev) (Nat.ne_of_gt hmoved)
        · exact hcut

theorem grows_advanceTo {w : World} {time : Nat} (h : w.now < time) :
    Grows P w (w.advanceTo time) := by
  unfold advanceTo
  split
  next t ht =>
    by_cases hle : t ≤ time
    · simp only [hle, if_true]
      exact ⟨.refl _, List.prefix_rfl, Nat.le_of_lt h, rfl, .inr ⟨rfl, .inr ⟨t, ht, hle, .inl h⟩⟩⟩
    · simp only [hle, if_false]
      refine ⟨.refl _, List.prefix_rfl, Nat.le_of_lt h, rfl, .inl ⟨rfl, ?_⟩⟩
      rintro (⟨n, -, hge, hlt⟩ | ⟨t', ht', hle', -⟩)
      · exact absurd hlt (Nat.not_lt.mpr hge)
      · obtain rfl : t' = t := Option.some.inj (ht'.symm.trans ht)
        exact hle hle'
  next ht =>
    refine ⟨.refl _, List.prefix_rfl, Nat.le_of_lt h, rfl, .inl ⟨rfl, ?_⟩⟩
    rintro (⟨n, -, hge, hlt⟩ | ⟨t, ht', -⟩)
    · exact absurd hlt (Nat.not_lt.mpr hge)
    · exact nomatch ht'.symm.trans ht

theorem grows_sleep (w : World) (ms : Nat) : Grows P w (w.sleep ms) := by
  unfold sleep
  split
  next => exact .refl w
  next hms => exact grows_advanceTo (Nat.lt_add_of_pos_right (Nat.pos_of_ne_zero hms))

/-- A pause in which the planned cancellation takes place is cut short, even before the clock has
moved. -/
theorem grows_pause (w : World) (ms : Nat) : Grows P w (w.pause ms).2 ((w.pause ms).1 = false) := by
  unfold pause
  split
  next => exact .refl w
  next =>
    split
    next => exact .refl w
    next hms =>
      have hlater : w.now < w.now + ms := Nat.lt_add_of_pos_right (Nat.pos_of_ne_zero hms)
      split
      next t ht =>
        split
        next =>
          have hle : t ≤ max t w.now := Nat.le_max_left ..
          simp only [advanceTo, ht, hle, if_true]
          exact ⟨.refl _, List.prefix_rfl, Nat.le_max_right .., rfl,
            .inr ⟨rfl, .inr ⟨t, ht, hle, .inr trivial⟩⟩⟩
        next => exact (grows_advanceTo hlater).uncut
      next => exact (grows_advanceTo hlater).uncut

theorem grows_call {c : Call} (w : World) (latency : Nat) (h : P (.call c)) :
    Grows P w (w.call c latency) := by
  have hr : Grows P w { w.record (.call c) with calls := w.calls.add c } :=
    (grows_record w h).congr rfl rfl rfl rfl
  exact hr.trans (grows_sleep _ latency)

theorem grows_activate (b : Backend) (app : Application) (w : World)
    (h : ∀ r, P (.call (.activate app r))) : Grows P w (w.activate b app).2 := by
  have hc := grows_call w (b.activate w.calls.activate).latency
    (h (b.activate w.calls.activate).result)
  unfold activate
  dsimp only
  split
  · exact hc.congr rfl rfl rfl rfl
  · exact hc

theorem grows_post (b : Backend) (e : KeyEvent) (w : World) (h : ∀ r, P (.key e r)) :
    Grows P w (w.post b e).2 :=
  (grows_record w (h (b.post w.calls.post))).congr rfl rfl rfl rfl

@[simp] theorem trace_sleep (w : World) (ms : Nat) : (w.sleep ms).trace = w.trace :=
  (grows_sleep w ms).trace.eq_of_false

@[simp] theorem trace_pause (w : World) (ms : Nat) : (w.pause ms).2.trace = w.trace :=
  (grows_pause w ms).trace.eq_of_false

theorem trace_of_pause {w v : World} {ms : Nat} {passed : Bool} (h : w.pause ms = (passed, v)) :
    v.trace = w.trace := by
  rw [← trace_pause w ms, h]

theorem trace_call (w : World) (c : Call) (latency : Nat) :
    (w.call c latency).trace = w.trace ++ [⟨w.now, .call c⟩] := by
  rw [call, trace_sleep]
  exact trace_record w _

theorem trace_activate (b : Backend) (app : Application) (w : World) :
    (w.activate b app).2.trace =
      w.trace ++ [⟨w.now, .call (.activate app (w.activate b app).1)⟩] := by
  have hc := trace_call w (.activate app (b.activate w.calls.activate).result)
    (b.activate w.calls.activate).latency
  unfold activate
  dsimp only
  split
  next h => simpa only [h] using hc
  next f h => simpa only [h] using hc

theorem now_sleep (w : World) (ms : Nat) : (w.sleep ms).now = w.now + ms := by
  unfold sleep advanceTo
  split
  next h => rw [h, Nat.add_zero]
  next =>
    dsimp only
    split
    · split <;> rfl
    · rfl

/-- **A wait** moves the clock, and changes nothing else but perhaps the session. -/
theorem exists_sleep_eq (w : World) (ms : Nat) :
    ∃ s, w.sleep ms = { w with now := w.now + ms, session := s } := by
  unfold sleep advanceTo
  split
  next h =>
    rw [h, Nat.add_zero]
    exact ⟨w.session, rfl⟩
  next =>
    dsimp only
    split
    · split
      · exact ⟨w.session.cancel, rfl⟩
      · exact ⟨w.session, rfl⟩
    · exact ⟨w.session, rfl⟩

/-- **A call** is recorded and counted and takes its time, and changes nothing else but perhaps the
session. -/
theorem exists_call_eq (w : World) (c : Call) (latency : Nat) :
    ∃ s, w.call c latency =
      { w with
        now := w.now + latency
        calls := w.calls.add c
        session := s
        trace := w.trace ++ [⟨w.now, .call c⟩] } := by
  have hrecord : ∃ s, w.record (.call c) =
      { w with session := s, trace := w.trace ++ [⟨w.now, .call c⟩] } := by
    unfold record
    split
    · exact ⟨w.session.cancel, rfl⟩
    · exact ⟨w.session, rfl⟩
  obtain ⟨s, hs⟩ := hrecord
  rw [call, hs]
  obtain ⟨s', hs'⟩ := exists_sleep_eq
    { w with calls := w.calls.add c, session := s, trace := w.trace ++ [⟨w.now, .call c⟩] } latency
  exact ⟨s', hs'⟩

theorem trace_post (b : Backend) (e : KeyEvent) (w : World) :
    (w.post b e).2.trace = w.trace ++ [⟨w.now, .key e (w.post b e).1⟩] :=
  trace_record w _

end World

end KeyPlan
