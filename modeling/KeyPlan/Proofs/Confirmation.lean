import KeyPlan.Proofs.Steps

/-!
# Keys reach a confirmed application

A key event is posted in a step of a run. If a switch to an application stands before that step, the
last one of them was done: its activation found the application among the running ones, and the last
answer before the key event was that this application is in front.

## Main definitions

* `Run.LastSwitch`: the last switch before an action
* `Run.Confirms`: a step that brought an application to the front

## Main results

* `Run.key_after_confirmation`: keys reach a confirmed application
-/

namespace KeyPlan.Run

open Trace (Extends)

variable {e : Engine} {observed : Bool} {actions : List Action} {index : Nat} {w : World}

/-- **Action `i` is the last switch before action `j`**, and it is one to the target. -/
structure LastSwitch (actions : List Action) (j i : Nat) (target : Target) : Prop where
  lt : i < j
  kind_eq : (actions[i]?).map Action.kind = some (.switchTo target)
  last : ∀ k a, i < k → k < j → actions[k]? = some a → a.isSwitch = false

/-- **The step has brought the application to the front**: its activation ended well, and the
application is the one that the target means among those that were running when the activation
asked for them. -/
structure Confirms (e : Engine) (target : Target) (s : Performed) (app : Application) : Prop where
  activated : Activation.activate e.backend e.timing target e.timing.defaultTimeout s.before =
    (.ok (), s.after)
  listed : ∃ t apps more, Application.resolve? apps target = some app ∧
    s.after.trace = s.before.trace ++ ⟨t, .call (.running (.ok apps))⟩ :: more ∧
    ∀ x ∈ more, x.event.IsFocusCall

/-- A switch that is done has brought an application to the front. -/
theorem exists_confirms {s : Performed} {target : Target} (hk : s.action.kind = .switchTo target)
    (hp : perform e s.action.kind s.before = (s.result, s.after)) (hd : s.result = .done) :
    ∃ app, Confirms e target s app ∧
      (Trace.answers s.after.trace).getLast? = some (some (.ok (some app.pid))) := by
  rw [hk, perform_switchTo, hd] at hp
  obtain ⟨hr, ha⟩ := Prod.mk.inj hp
  have hok : (Activation.activate e.backend e.timing target e.timing.defaultTimeout s.before).1 =
      .ok () := by
    split at hr
    next h => exact h
    next => exact nomatch hr
  obtain ⟨apps, app, more, happ, htrace, hmore, hlast⟩ := Activation.activate_ok _ _ hok
  rw [ha] at htrace hlast
  exact ⟨app, ⟨Prod.ext hok ha, _, apps, more, happ, htrace, hmore⟩, hlast⟩

/-- **Between a switch and the next one there is no further answer** on the application in front. -/
theorem answers_performedFrom {i : Nat} {s : Performed}
    (hi : (performedFrom e observed index actions w)[i]? = some s) :
    ∀ {j : Nat} {s' : Performed}, (performedFrom e observed index actions w)[j]? = some s' → i < j →
      (∀ k a, i < k → k < j → actions[k]? = some a → a.isSwitch = false) →
      Trace.answers s'.before.trace = Trace.answers s.after.trace := by
  intro j
  induction j with
  | zero => exact fun _ hlt => absurd hlt (Nat.not_lt_zero i)
  | succ j ih =>
    intro s' hs' hlt hnone
    obtain ⟨p, hp⟩ : ∃ p, (performedFrom e observed index actions w)[j]? = some p := by
      obtain ⟨hj, -⟩ := List.getElem?_eq_some_iff.mp hs'
      exact ⟨_, List.getElem?_eq_getElem (Nat.lt_of_succ_lt hj)⟩
    have hcalls := (performedFrom_succ hp hs').2.answers_eq fun _ => Event.IsCallback.not_isCall
    -- the step before `s'` is no switch, or it is `s` itself
    rcases Nat.lt_succ_iff_lt_or_eq.mp hlt with hlt' | rfl
    · obtain ⟨-, ha, hperf, -⟩ := performedFrom_getElem? hp
      have hkeys := grows_perform_of_not_switch e (hnone j _ hlt' (Nat.lt_succ_self j) ha) p.before
      rw [hperf] at hkeys
      rw [hcalls, hkeys.trace.answers_eq fun _ => Event.IsKey.not_isCall]
      exact ih hp hlt' fun k a hik hkj => hnone k a hik (Nat.lt_succ_of_lt hkj)
    · obtain rfl : p = s := Option.some.inj (hp.symm.trans hi)
      exact hcalls

/-- Every step before another one was done. -/
theorem result_of_lt {s s' : Performed} (hs : s ∈ performedFrom e observed index actions w)
    (hs' : s' ∈ performedFrom e observed index actions w) (hlt : s.index < s'.index) :
    s.result = .done := by
  obtain ⟨i, hi⟩ := List.mem_iff_getElem?.mp hs
  obtain ⟨j, hj⟩ := List.mem_iff_getElem?.mp hs'
  have hij : i < j := by
    have := (performedFrom_getElem? hi).1
    have := (performedFrom_getElem? hj).1
    omega
  obtain ⟨hlen, -⟩ := List.getElem?_eq_some_iff.mp hj
  exact (performedFrom_succ hi (List.getElem?_eq_getElem (Nat.lt_of_le_of_lt hij hlen))).1

/-- An action that records a key event is no switch. -/
theorem isSwitch_of_isKey {s : Performed}
    (hp : perform e s.action.kind s.before = (s.result, s.after))
    {n : Nat} {x : Entry} (hn : s.before.trace.length ≤ n) (hx : s.after.trace[n]? = some x)
    (hkey : x.event.IsKey) : s.action.kind.isSwitch = false := by
  cases hk : s.action.kind with
  | switchTo target =>
    have hcall :=
      Activation.grows_activate e.backend e.timing target e.timing.defaultTimeout s.before
    rw [hk, perform_switchTo] at hp
    rw [(Prod.mk.inj hp).2] at hcall
    exact absurd (hcall.trace.of_getElem? hn hx) hkey.not_isCall
  | _ => rfl

/-- The last answer before a key event is that the application of the last switch is in front. -/
theorem answers_take_of_key {s : Performed} (hs : s ∈ performedFrom e observed 0 actions w)
    {n : Nat} {x : Entry} (hx : (runFrom e observed 0 actions w).2.trace[n]? = some x)
    (hkey : x.event.IsKey) (hbefore : s.before.trace.length ≤ n) (hafter : n < s.after.trace.length)
    {i : Nat} {target : Target} (hlast : LastSwitch actions s.index i target) :
    ∃ s' ∈ performedFrom e observed 0 actions w, s'.index = i ∧ ∃ app, Confirms e target s' app ∧
      (Trace.answers ((runFrom e observed 0 actions w).2.trace.take n)).getLast? =
        some (some (.ok (some app.pid))) := by
  obtain ⟨j, hj⟩ := List.mem_iff_getElem?.mp hs
  obtain ⟨hindex, -, hperf, hprefix⟩ := performedFrom_getElem? hj
  rw [Nat.zero_add] at hindex
  rw [hindex] at hlast
  obtain ⟨hlen, -⟩ := List.getElem?_eq_some_iff.mp hj
  obtain ⟨s', hs'⟩ : ∃ s', (performedFrom e observed 0 actions w)[i]? = some s' :=
    ⟨_, List.getElem?_eq_getElem (Nat.lt_trans hlast.lt hlen)⟩
  obtain ⟨hindex', ha', hperf', -⟩ := performedFrom_getElem? hs'
  have hmem := List.mem_of_getElem? hs'
  have hkind : s'.action.kind = .switchTo target := by simpa [ha'] using hlast.kind_eq
  obtain ⟨app, hconfirms, hanswers⟩ := exists_confirms hkind hperf'
    (result_of_lt hmem hs (by have := hlast.lt; omega))
  refine ⟨s', hmem, by omega, app, hconfirms, ?_⟩
  -- the step of the key event makes no call, so the answers are those from before the step
  have hat : s.after.trace[n]? = some x := by
    obtain ⟨more, hmore⟩ := hprefix
    rwa [← hmore, List.getElem?_append_left hafter] at hx
  have hkeys := grows_perform_of_not_switch e (isSwitch_of_isKey hperf hbefore hat hkey) s.before
  rw [hperf] at hkeys
  -- the trace up to the key event lies between the two worlds of its step
  have hbetween := hkeys.trace.of_isPrefix
    (List.prefix_take_iff.mpr ⟨hkeys.trace.isPrefix.trans hprefix, hbefore⟩)
    (List.prefix_of_prefix_length_le (List.take_prefix ..) hprefix
      (Nat.le_trans (List.length_take_le ..) (Nat.le_of_lt hafter)))
  rw [hbetween.answers_eq fun _ => Event.IsKey.not_isCall,
    answers_performedFrom hs' hj hlast.lt hlast.last]
  exact hanswers

/-- **Keys reach a confirmed application.** A key event is posted in a step of the run, and every
step before that one was done. If there is a switch before that step, the last one of them has
brought an application to the front, and the last answer before the key event is that this
application is in front. -/
theorem key_after_confirmation {n t : Nat} {ev : KeyEvent} {r : Except Fault Unit}
    (hx : (run e observed actions w).2.trace[n]? = some ⟨t, .key ev r⟩) (hn : w.trace.length ≤ n) :
    ∃ s ∈ performed e observed actions w,
      (s.before.trace.length ≤ n ∧ n < s.after.trace.length ∧
        s.after.trace <+: (run e observed actions w).2.trace) ∧
      (actions[s.index]? = some s.action ∧
        perform e s.action.kind s.before = (s.result, s.after)) ∧
      (∀ s' ∈ performed e observed actions w, s'.index < s.index → s'.result = .done) ∧
      ∀ i target, LastSwitch actions s.index i target →
        ∃ s' ∈ performed e observed actions w, s'.index = i ∧ ∃ app, Confirms e target s' app ∧
          (Trace.answers ((run e observed actions w).2.trace.take n)).getLast? =
            some (some (.ok (some app.pid))) := by
  cases hperm : e.backend.permitted with
  | false =>
    rw [run_of_not_permitted e observed hperm] at hx
    exact absurd trivial ((extends_refuse observed w).of_getElem? hn hx).not_isKey
  | true =>
    rw [run_of_permitted e observed hperm] at hx ⊢
    rw [performed_of_permitted e observed hperm]
    have hlaunch := (grows_launch observed actions.length w).trace
    have hnot : ¬ (⟨t, .key ev r⟩ : Entry).event.IsCallback := id
    obtain ⟨s, hs, hbefore, hafter⟩ :=
      exists_performedFrom hx (hlaunch.length_le isPrefix_runFrom hn hx id) hnot
    obtain ⟨k, hk⟩ := List.mem_iff_getElem?.mp hs
    obtain ⟨hindex, ha, hperf, hprefix⟩ := performedFrom_getElem? hk
    refine ⟨s, hs, ⟨hbefore, hafter, hprefix⟩, ⟨?_, hperf⟩, ?_, ?_⟩
    · rw [hindex, Nat.zero_add]
      exact ha
    · intro s' hs' hlt
      exact result_of_lt hs' hs hlt
    · intro i target hlast
      exact answers_take_of_key hs hx trivial hbefore hafter hlast

/-- An engine under which the hidden application Notes is in front when asked for a second time. -/
def notesEngine : Engine where
  backend :=
    { permitted := true
      running := fun _ => ⟨5, .ok [⟨11, "Notes", some "com.apple.Notes", true⟩]⟩
      unhide := fun _ => ⟨0, .error (.scripting "busy")⟩
      hasMinimized := fun _ => ⟨0, .ok true⟩
      restore := fun _ => ⟨0, .ok 2⟩
      activate := fun _ => ⟨0, .ok ()⟩
      frontmost := fun n => if n = 0 then ⟨30, .ok (.pid none)⟩ else ⟨0, .ok .lastActivated⟩
      post := fun _ => .ok () }

/-- A switch to Notes and a key press. -/
def notesPlan : List Action :=
  [⟨.switchTo ⟨some "com.apple.Notes", "Notes"⟩, "go"⟩, ⟨.keyPress 'a' .empty, "a"⟩]

theorem key_after_confirmation_notes :
    (run notesEngine true notesPlan {}).2.trace[11]? =
        some ⟨985, .key ⟨.down, 'a', .empty⟩ (.ok ())⟩ ∧
      ({} : World).trace.length ≤ 11 ∧
      ∃ s ∈ performed notesEngine true notesPlan {}, s.index = 1 ∧
        ∃ s' ∈ performed notesEngine true notesPlan {}, s'.index = 0 ∧
          ∃ app, Confirms notesEngine ⟨some "com.apple.Notes", "Notes"⟩ s' app ∧
            (Trace.answers ((run notesEngine true notesPlan {}).2.trace.take 11)).getLast? =
              some (some (.ok (some app.pid))) := by
  have hx : (run notesEngine true notesPlan {}).2.trace[11]? =
      some ⟨985, .key ⟨.down, 'a', .empty⟩ (.ok ())⟩ := by decide +kernel
  have hn : ({} : World).trace.length ≤ 11 := Nat.zero_le 11
  obtain ⟨s, hs, ⟨hbefore, hafter, -⟩, -, -, hlast⟩ := key_after_confirmation hx hn
  -- of the two steps only the second one holds entry 11
  have hindex : ∀ s ∈ performed notesEngine true notesPlan {},
      s.before.trace.length ≤ 11 → 11 < s.after.trace.length → s.index = 1 := by decide +kernel
  have h1 := hindex s hs hbefore hafter
  refine ⟨hx, hn, s, hs, h1, hlast 0 _ ⟨by omega, rfl, ?_⟩⟩
  intro k a hk hk'
  omega

end KeyPlan.Run
