import KeyPlan.World

/-!
# Activation

An application is brought to the front in five steps: it is found among the running ones, shown again
if it is hidden, its minimized windows are restored, it is asked to the front, and then the system is
asked again and again until it is in front or the time is up. What fails in the second and third step
does not matter.

## Main definitions

* `Timing`: the pauses and limits of an activation
* `Activation.resolve`: the running application of a target
* `Activation.confirm`: asking until the application is in front
* `Activation.bring`, `Activation.activate`: the whole activation
-/

namespace KeyPlan

/-- **The pauses and limits of an activation**, in milliseconds. -/
structure Timing where
  pollInterval : Nat := 50
  unhideSettle : Nat := 100
  restoreSettle : Nat := 300
  defaultTimeout : Nat := 3000
  deriving DecidableEq, Repr

namespace Activation

/-- The name of an application between quotes. -/
def quotedName (app : Application) : String := "'" ++ app.name ++ "'"

/-- **The running application of a target.** -/
def resolve (b : Backend) (target : Target) (w : World) :
    Except ActivationFault Application × World :=
  match w.running b with
  | (.error e, w) => (.error (.refused target.name e.message), w)
  | (.ok apps, w) =>
    match Application.resolve? apps target with
    | some app => (.ok app, w)
    | none => (.error (.notRunning target.name), w)

/-- A hidden application is shown again, and gets some time for it in any case. -/
def unhide (b : Backend) (timing : Timing) (app : Application) (w : World) : World :=
  if app.hidden then
    let (result, w) := w.unhide b app
    let w := match result with
      | .ok () => w.tell .debug ("[Activation] Unhid " ++ quotedName app)
      | .error e =>
        w.tell .warn
          ("⚠️ [Activation] Unhide failed for " ++ quotedName app ++ ": " ++ e.message)
    w.sleep timing.unhideSettle
  else w

/-- How many minimized windows were restored. -/
def restoreCount (b : Backend) (app : Application) (w : World) : Except Fault Nat × World :=
  match w.hasMinimized b app with
  | (.ok true, w) => w.restore b app
  | (.ok false, w) => (.ok 0, w)
  | (.error e, w) => (.error e, w)

/-- Minimized windows are restored, and get some time for it if there were any. -/
def restore (b : Backend) (timing : Timing) (app : Application) (w : World) : World :=
  match restoreCount b app w with
  -- where nothing was restored there is nothing to wait for
  | (.ok 0, w) => w
  | (.ok count, w) =>
    (w.tell .debug
      ("[Activation] Restored " ++ toString count ++ " window(s) of " ++ quotedName app)).sleep
        timing.restoreSettle
  | (.error e, w) =>
    w.tell .warn
      ("⚠️ [Activation] Could not restore windows of " ++ quotedName app ++ ": " ++ e.message)

/-- What the log says about an answer that does not confirm the application. -/
def tellUnconfirmed (w : World) : Option (Except Fault (Option Int32)) → World
  | some (.ok _) => w
  | some (.error e) => w.tell .debug ("[Activation] Frontmost query failed: " ++ e.message)
  | none => w.tell .debug "[Activation] Frontmost query outlived the deadline"

/-- How many rounds of asking are enough. Where there is a pause between them, each but the last one
takes at least a millisecond. Without a pause only a round with a late answer does so; but once the
answers are settled, either all of them are late or no round differs from the one before. -/
def enoughRounds (b : Backend) (interval limit : Nat) : Nat :=
  if interval = 0 then limit + b.settled + 1 else limit + 1

/-- The rounds of asking, of which there are at most `rounds`. -/
def confirmFrom (b : Backend) (interval limit deadline : Nat) (app : Application) :
    Nat → World → Except ActivationFault Unit × World
  | 0, w => (.error (.timedOut app.name limit), w)
  | rounds + 1, w =>
    let (answer, w) := w.frontmostWithin b (deadline - w.now)
    if answer = some (.ok (some app.pid)) then
      (.ok (), w.tell .info ("✅ [Activation] " ++ quotedName app ++ " is frontmost"))
    else
      -- an error or a late answer is not the end, only the deadline is
      let w := tellUnconfirmed w answer
      if deadline ≤ w.now then (.error (.timedOut app.name limit), w)
      else
        confirmFrom b interval limit deadline app rounds (w.sleep (min interval (deadline - w.now)))

/-- **Asking until the application is in front**, for at most `limit` milliseconds. -/
def confirm (b : Backend) (timing : Timing) (app : Application) (limit : Nat) (w : World) :
    Except ActivationFault Unit × World :=
  confirmFrom b timing.pollInterval limit (w.now + limit) app
    (enoughRounds b timing.pollInterval limit) w

/-- An application is made ready to come to the front, as far as that works. -/
def ready (b : Backend) (timing : Timing) (app : Application) (w : World) : World :=
  restore b timing app (unhide b timing app
    (w.tell .info ("🚀 [Activation] Activating " ++ quotedName app ++ " (pid " ++
      toString app.pid.toInt ++ ")")))

/-- A running application is brought to the front. -/
def bring (b : Backend) (timing : Timing) (app : Application) (limit : Nat) (w : World) :
    Except ActivationFault Unit × World :=
  match (ready b timing app w).activate b app with
  | (.error e, w) => (.error (.refused app.name e.message), w)
  | (.ok (), w) => confirm b timing app limit w

/-- **The whole activation.** -/
def activate (b : Backend) (timing : Timing) (target : Target) (limit : Nat) (w : World) :
    Except ActivationFault Unit × World :=
  match resolve b target w with
  | (.error e, w) => (.error e, w)
  | (.ok app, w) => bring b timing app limit w

end Activation

end KeyPlan
