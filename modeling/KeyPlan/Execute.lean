import KeyPlan.Run
import KeyPlan.Step

/-!
# Executing plans

A plan is executed by running its actions. If the plan does not open with a switch of its own, the
application that was in front before is first brought back, as far as that works.

## Main definitions

* `Engine.restorePrevious`: the previous application is brought back
* `Engine.execute`: a plan is executed
-/

namespace KeyPlan.Engine

/-- **The previous application is brought back**, with a pause afterwards if that worked. -/
def restorePrevious (e : Engine) (target : Target) (w : World) : World :=
  let w := w.tell .info ("↩️ [Engine] Restoring previous app '" ++ target.display ++ "'")
  match Activation.activate e.backend e.timing target e.timing.defaultTimeout w with
  | (.ok (), w) => (w.pause e.settings.appSwitchDelay).2
  | (.error fault, w) =>
    w.tell .warn
      ("⚠️ [Engine] Could not restore '" ++ target.display ++ "': " ++ fault.message)

/-- The plan has a first action, and that is no switch. -/
def needsRestore : List Action → Bool
  | [] => false
  | a :: _ => !a.isSwitch

/-- The world in which a run of the actions begins. -/
def prepare (e : Engine) (previous : Option Target) (actions : List Action) (w : World) : World :=
  match previous with
  | some target =>
    if needsRestore actions && !w.isCancelled && e.backend.permitted then e.restorePrevious target w
    else w
  | none => w

/-- The log lines on the steps that become actions. -/
def tellPlan (steps : List Step) (w : World) : World :=
  let w := { w with log := w.log ++ Step.dropped steps }
  w.tell .info ("📋 [Engine] " ++ toString (Step.actions steps).length ++ " of " ++
    toString steps.length ++ " step(s) parsed into actions")

/-- **A plan is executed.** -/
def execute (e : Engine) (observed : Bool) (steps : List Step) (previous : Option Target)
    (w : World) : Outcome × World :=
  let actions := Step.actions steps
  Run.run e observed actions (e.prepare previous actions (tellPlan steps w))

end KeyPlan.Engine
