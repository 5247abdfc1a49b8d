import KeyPlan.Proofs.Marks

/-!
# Sessions that are shared

A session is shared by a run, which leaves its marks in it, and by any number of callers who ask for
a cancellation. A request to cancel has two parts, and everything else may happen between them:
first the token is set, then the snapshot. The moves of all of them come in any order.

## Main definitions

* `Session.Move`: what happens to a shared session in one step
* `Session.Shared`: a shared session, and the calls that are between their two parts
* `Session.Shared.run?`, `Session.Shared.told`: some moves, and those that subscribers are told of

## Main results

* `Session.Shared.Sound.step`, `Session.Shared.Sound.run`: what token and snapshot have in common
* `Session.Shared.precedes_run`: what is set stays set
* `Session.Shared.revision_step`: subscribers are told of the changes, and of nothing else
* `Session.Shared.interleaved`: a session under any moves
-/

namespace KeyPlan.Session

/-! ## Moves -/

/-- **What happens to a shared session in one step**: the first or the second part of a call of
`cancel`, or a mark. -/
inductive Move where
  | request (call : Nat)
  | publish (call : Nat)
  | mark (m : Mark)
  deriving DecidableEq, Repr

namespace Move

/-- The move is a part of a call of `cancel`. -/
def isCancel : Move → Bool
  | mark _ => false
  | _ => true

/-- The move is the second part of a call of `cancel`. -/
def isPublish : Move → Bool
  | publish _ => true
  | _ => false

/-- What the move makes of a snapshot, if it changes it. -/
def change : Move → Snapshot → Option Snapshot
  | request _, _ => none
  | publish _, s => s.cancel?
  | mark m, s => m.change s

theorem isPublish_iff {x : Move} : x.isPublish = true ↔ ∃ call, x = publish call := by
  cases x <;> simp [isPublish]

variable {x : Move} {s s' : Snapshot}

/-- A move that changes a snapshot takes nothing back. -/
theorem precedes_change (h : x.change s = some s') : s.Precedes s' := by
  cases x with
  | request call => exact nomatch h
  | publish call =>
    obtain ⟨-, h⟩ := Option.ite_none_left_eq_some.mp h
    obtain rfl := Option.some.inj h
    exact ⟨fun _ => rfl, fun i hi => ⟨i, hi, Nat.le_refl i⟩, id, fun _ => id⟩
  | mark m => exact Mark.precedes_change h

theorem change_ne (h : x.change s = some s') : s' ≠ s := by
  cases x with
  | request call => exact nomatch h
  | publish call =>
    obtain ⟨hnot, h⟩ := Option.ite_none_left_eq_some.mp h
    rintro rfl
    exact hnot (congrArg Snapshot.isCancelled (Option.some.inj h)).symm
  | mark m => exact Mark.change_ne h

end Move

/-! ## Shared sessions -/

/-- **A shared session**, with the calls of `cancel` that have done their first part only. -/
structure Shared where
  session : Session := {}
  between : List Nat := []
  deriving DecidableEq, Repr

namespace Shared

/-- **One move.** A call of `cancel` does its second part after its first one, and marks are
possible at any time. -/
def step? (s : Shared) : Move → Option Shared
  | .request call =>
    if call ∈ s.between then none else some ⟨s.session.requestCancel, call :: s.between⟩
  | .publish call =>
    if call ∈ s.between then some ⟨s.session.publishCancel, s.between.erase call⟩ else none
  | .mark m => some { s with session := s.session.mark m }

/-- **Some moves**, in order. -/
def run? (s : Shared) : List Move → Option Shared
  | [] => some s
  | x :: moves => (s.step? x).bind (run? · moves)

/-- **The moves that subscribers are told of.** -/
def told (s : Shared) : List Move → List Move
  | [] => []
  | x :: moves =>
    match s.step? x with
    | none => []
    | some t => (if t.session.revision = s.session.revision then [] else [x]) ++ told t moves

/-- A call of `cancel` that nobody interferes with. -/
theorem run?_cancel {s : Shared} {call : Nat} (h : call ∉ s.between) :
    s.run? [.request call, .publish call] = some { s with session := s.session.cancel } := by
  simp [run?, step?, h, cancel]

variable {s t : Shared} {x : Move} {moves : List Move}

/-! ### One move -/

/-- **What a move does.** -/
theorem step?_cases (h : s.step? x = some t) :
    (∃ call, x = .request call ∧ t = ⟨s.session.requestCancel, call :: s.between⟩) ∨
    (∃ call, x = .publish call ∧ call ∈ s.between ∧
      t = ⟨s.session.publishCancel, s.between.erase call⟩) ∨
    (∃ m, x = .mark m ∧ t = { s with session := s.session.mark m }) := by
  cases x with
  | request call =>
    obtain ⟨-, h⟩ := Option.ite_none_left_eq_some.mp h
    exact .inl ⟨call, rfl, (Option.some.inj h).symm⟩
  | publish call =>
    obtain ⟨hmem, h⟩ := Option.ite_none_right_eq_some.mp h
    exact .inr (.inl ⟨call, rfl, hmem, (Option.some.inj h).symm⟩)
  | mark m => exact .inr (.inr ⟨m, rfl, (Option.some.inj h).symm⟩)

/-- The snapshot and the number of changes behind a move. -/
theorem update_step (h : s.step? x = some t) :
    t.session.snapshot = (x.change s.session.snapshot).getD s.session.snapshot ∧
      t.session.revision =
        s.session.revision + (x.change s.session.snapshot).toList.length := by
  rcases step?_cases h with ⟨call, rfl, rfl⟩ | ⟨call, rfl, -, rfl⟩ | ⟨m, rfl, rfl⟩
  · exact ⟨rfl, rfl⟩
  · exact ⟨snapshot_update .., revision_update ..⟩
  · exact ⟨snapshot_update .., revision_update ..⟩

/-- **Subscribers are told of a move exactly if it changes the snapshot.** -/
theorem revision_step (h : s.step? x = some t) :
    t.session.revision =
      s.session.revision + if t.session.snapshot = s.session.snapshot then 0 else 1 := by
  obtain ⟨hsnapshot, hrevision⟩ := update_step h
  rw [hsnapshot, hrevision]
  cases hc : x.change s.session.snapshot with
  | none => simp
  | some snapshot => simp [Move.change_ne hc]

/-- A move takes nothing back. -/
theorem precedes_step (h : s.step? x = some t) :
    s.session.snapshot.Precedes t.session.snapshot := by
  rw [(update_step h).1]
  cases hc : x.change s.session.snapshot with
  | none => exact .refl _
  | some snapshot => exact Move.precedes_change hc

theorem token_step (h : s.step? x = some t) :
    t.session.token = true ↔ s.session.token = true ∨ ∃ call, x = .request call := by
  rcases step?_cases h with ⟨call, rfl, rfl⟩ | ⟨call, rfl, -, rfl⟩ | ⟨m, rfl, rfl⟩
  · simp [requestCancel]
  · simp [publishCancel]
  · simp [mark]

theorem isCancelled_step (h : s.step? x = some t) :
    t.session.snapshot.isCancelled = (s.session.snapshot.isCancelled || x.isPublish) := by
  rcases step?_cases h with ⟨call, rfl, rfl⟩ | ⟨call, rfl, -, rfl⟩ | ⟨m, rfl, rfl⟩
  · simp [requestCancel, Move.isPublish]
  · rw [publishCancel, snapshot_update, Snapshot.cancel?]
    split <;> simp [*, Move.isPublish]
  · simp [isCancelled_mark, Move.isPublish]

/-! ### Token and snapshot -/

/-- **What token and snapshot have in common**: the token is set if the snapshot says so or a call
of `cancel` is between its two parts, and the snapshot has at most one verdict. -/
structure Sound (s : Shared) : Prop where
  token : s.session.token = true ↔ s.session.snapshot.isCancelled = true ∨ s.between ≠ []
  bears : ∃ v, s.session.snapshot.Bears v

namespace Sound

theorem fresh : ({} : Shared).Sound := ⟨by simp, none, Snapshot.bears_default⟩

/-- **A move keeps token and snapshot together.** -/
theorem step (hs : s.Sound) (h : s.step? x = some t) : t.Sound := by
  obtain ⟨v, hv⟩ := hs.bears
  rcases step?_cases h with ⟨call, rfl, rfl⟩ | ⟨call, rfl, hmem, rfl⟩ | ⟨m, rfl, rfl⟩
  · exact ⟨by simp [requestCancel], v, hv⟩
  · have htoken : s.session.token = true := hs.token.mpr (.inr (List.ne_nil_of_mem hmem))
    have hcancelled : s.session.publishCancel.snapshot.isCancelled = true := by
      simpa [Move.isPublish] using isCancelled_step h
    refine ⟨?_, v, ?_⟩
    · exact iff_of_true (by rwa [publishCancel, token_update]) (.inl hcancelled)
    · -- the second part of `cancel` changes neither the verdict nor anything it depends on
      rw [publishCancel, snapshot_update, Snapshot.cancel?]
      split
      · exact hv
      · exact ⟨hv.isComplete, hv.error⟩
  · refine ⟨?_, _, bears_markAll hv [m]⟩
    rw [isCancelled_mark, ← hs.token, mark, token_update]

/-- **Moves keep token and snapshot together.** -/
theorem run (hs : s.Sound) (h : s.run? moves = some t) : t.Sound := by
  induction moves generalizing s with
  | nil => exact Option.some.inj h ▸ hs
  | cons x moves ih =>
    obtain ⟨u, hu, ht⟩ := Option.bind_eq_some_iff.mp h
    exact ih (hs.step hu) ht

end Sound

/-! ### Some moves -/

/-- **What is set stays set.** -/
theorem precedes_run (h : s.run? moves = some t) :
    s.session.snapshot.Precedes t.session.snapshot := by
  induction moves generalizing s with
  | nil => exact Option.some.inj h ▸ .refl _
  | cons x moves ih =>
    obtain ⟨u, hu, ht⟩ := Option.bind_eq_some_iff.mp h
    exact (precedes_step hu).trans (ih ht)

/-- What one part of `cancel` sets, and no other move sets or takes back, is set behind some moves
if it was before or that part is among them. -/
theorem set_run {p : Shared → Prop} {part : Nat → Move}
    (hstep : ∀ s t x, step? s x = some t → (p t ↔ p s ∨ ∃ call, x = part call))
    (h : s.run? moves = some t) : p t ↔ p s ∨ ∃ call, part call ∈ moves := by
  induction moves generalizing s with
  | nil =>
    obtain rfl := Option.some.inj h
    simp
  | cons x moves ih =>
    obtain ⟨u, hu, ht⟩ := Option.bind_eq_some_iff.mp h
    rw [ih ht, hstep s u x hu, or_assoc, ← exists_or]
    simp only [List.mem_cons, @eq_comm _ x]

/-- **The token is set by the first parts of the calls**, and by nothing else. -/
theorem token_run (h : s.run? moves = some t) :
    t.session.token = true ↔ s.session.token = true ∨ ∃ call, .request call ∈ moves :=
  set_run (p := fun s => s.session.token = true) (fun _ _ _ => token_step) h

/-- **The snapshot is cancelled by the second parts of the calls**, and by nothing else. -/
theorem isCancelled_run (h : s.run? moves = some t) :
    t.session.snapshot.isCancelled = true ↔
      s.session.snapshot.isCancelled = true ∨ ∃ call, .publish call ∈ moves := by
  refine set_run (p := fun s => s.session.snapshot.isCancelled = true) (fun s t x hx => ?_) h
  rw [isCancelled_step hx, Bool.or_eq_true, Move.isPublish_iff]

/-- Subscribers are told of a part of `cancel` exactly if the snapshot is cancelled by it. -/
theorem told_step (h : s.step? x = some t) :
    ((if t.session.revision = s.session.revision then [] else [x]).countP Move.isCancel) +
      s.session.snapshot.isCancelled.toNat = t.session.snapshot.isCancelled.toNat := by
  have hcancelled := isCancelled_step h
  obtain ⟨-, hrevision⟩ := update_step h
  cases x with
  | request call => simp [hcancelled, hrevision, Move.change, Move.isPublish]
  | publish call =>
    rw [hcancelled, hrevision, Move.change, Snapshot.cancel?]
    cases s.session.snapshot.isCancelled <;> simp [Move.isCancel, Move.isPublish]
  | mark m =>
    rw [hcancelled]
    split <;> simp [Move.isCancel, Move.isPublish]

/-- **Subscribers are told of a cancellation once**, however many calls there are. -/
theorem countP_told (h : s.run? moves = some t) :
    (told s moves).countP Move.isCancel + s.session.snapshot.isCancelled.toNat =
      t.session.snapshot.isCancelled.toNat := by
  induction moves generalizing s with
  | nil =>
    obtain rfl := Option.some.inj h
    simp [told]
  | cons x moves ih =>
    obtain ⟨u, hu, ht⟩ := Option.bind_eq_some_iff.mp h
    -- the snapshot is cancelled by this move, by one of the later ones, or was before
    have hstep := told_step hu
    have hrest := ih ht
    rw [told, hu, List.countP_append]
    omega

/-- **A session under any moves**, up to a state and on to a later one. The snapshot is cancelled
only if the token is, and they agree if no call of `cancel` is between its two parts; the token is
set by the first parts of the calls, and the snapshot is cancelled by the second ones. The snapshot
is never complete and in error at once. What is set stays as it is, and the step does not go back.
Subscribers are told of a move if it changes the snapshot, and so they are told of a cancellation
exactly once. -/
theorem interleaved {later : List Move} (hs : run? {} moves = some s)
    (ht : s.run? later = some t) :
    (s.session.snapshot.isCancelled = true → s.session.token = true) ∧
    (s.between = [] → s.session.snapshot.isCancelled = s.session.token) ∧
    (s.session.token = true ↔ ∃ call, .request call ∈ moves) ∧
    (s.session.snapshot.isCancelled = true ↔ ∃ call, .publish call ∈ moves) ∧
    ¬ (s.session.snapshot.isComplete = true ∧ s.session.snapshot.error.isSome = true) ∧
    (s.session.token = true → t.session.token = true) ∧
    s.session.snapshot.Precedes t.session.snapshot ∧
    (∀ x u, s.step? x = some u →
      u.session.revision =
        s.session.revision + if u.session.snapshot = s.session.snapshot then 0 else 1) ∧
    (told {} moves).countP Move.isCancel = if s.session.snapshot.isCancelled then 1 else 0 := by
  have hsound := Sound.fresh.run hs
  obtain ⟨v, hv⟩ := hsound.bears
  have htold := countP_told hs
  refine ⟨fun h => hsound.token.mpr (.inl h), ?_, ?_, ?_, hv.not_both, ?_, precedes_run ht,
    fun x u hu => revision_step hu, ?_⟩
  · intro hnone
    rw [Bool.eq_iff_iff, hsound.token]
    simp [hnone]
  · simpa using token_run hs
  · simpa using isCancelled_run hs
  · exact fun h => (token_run ht).mpr (.inl h)
  · cases hc : s.session.snapshot.isCancelled <;> simpa [hc] using htold

/-- Two calls of `cancel` overtake each other around the marks of a run, and a third mark comes too
late. -/
theorem interleaved_two_calls :
    let moves : List Move :=
      [.request 1, .mark (.start 0), .request 2, .publish 2, .mark (.verdict .completed)]
    let later : List Move := [.publish 1, .mark (.verdict (.failed "late"))]
    let s : Shared := ⟨⟨true, ⟨true, some 0, true, none⟩, 3⟩, [1]⟩
    let t : Shared := ⟨⟨true, ⟨true, some 0, true, none⟩, 3⟩, []⟩
    run? {} moves = some s ∧ s.run? later = some t ∧
      s.session.token = true ∧ t.session.token = true ∧
      s.session.snapshot.Precedes t.session.snapshot ∧
      (told {} moves).countP Move.isCancel = 1 := by
  intro moves later s t
  have hs : run? {} moves = some s := by decide +kernel
  have ht : s.run? later = some t := by decide +kernel
  obtain ⟨hcancelled, -, -, -, -, hkept, hprecedes, -, htold⟩ := interleaved hs ht
  exact ⟨hs, ht, hcancelled rfl, hkept (hcancelled rfl), hprecedes, htold⟩

end Shared

end KeyPlan.Session
