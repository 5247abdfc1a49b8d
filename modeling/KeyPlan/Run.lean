import KeyPlan.Activation
import KeyPlan.Keyboard
import KeyPlan.Settings

/-!
# Runs

A run performs the actions of a plan one after another. A key that is pressed is released before
anything else happens. Between actions and during a delay the run looks whether it is cancelled; the
first action that fails ends it. Its observer is told of every step.

## Main definitions

* `Engine`: what all runs share
* `Outcome`: how a run ended
* `Run.press`, `Run.typeFrom`, `Run.perform`: the single actions
* `Run.opening`, `Run.settle`: what stands around the performance of an action
* `Run.runFrom`, `Run.run`: the run
-/

namespace KeyPlan

/-- **What all runs share**: the backend, the timing of activations and the pauses. -/
structure Engine where
  backend : Backend
  timing : Timing := {}
  settings : Settings := Settings.normal

/-- How a run can end. -/
inductive RunStatus where
  | completed
  | failed
  | cancelled
  deriving DecidableEq, Repr

/-- **How a run ended**: what is said about it, and how many actions were finished. -/
structure Outcome where
  status : RunStatus
  message : String
  executed : Nat
  deriving DecidableEq, Repr

/-- The run did all it should. -/
def Outcome.isSuccess (o : Outcome) : Bool := o.status == .completed

/-- The run was cancelled. -/
def Outcome.isCancelled (o : Outcome) : Bool := o.status == .cancelled

/-- What is said about a run that is cancelled. -/
def cancelledMessage : String := "Execution cancelled"

/-- What is said about a run of `n` actions that is completed. -/
def completedMessage (n : Nat) : String :=
  "Successfully executed " ++ toString n ++ " actions"

/-- What the log says when an observer is told something. -/
def Callback.logLine : Callback → LogLine
  | started => ⟨.info, "▶️ [Run] Started"⟩
  | stepStarted index action =>
    ⟨.info, "   Step " ++ toString (index + 1) ++ ": " ++ action.description⟩
  | stepCompleted index => ⟨.info, "✅ Step " ++ toString (index + 1) ++ " done"⟩
  | cancelled index => ⟨.warn, "🛑 [Run] Cancelled before step " ++ toString (index + 1)⟩
  | completed true message => ⟨.info, "🏁 [Run] " ++ message⟩
  | completed false message => ⟨.error, "❌ [Run] " ++ message⟩

namespace Run

/-- **The observer is told something**, if there is one: first the log, then the trace. -/
def notify (observed : Bool) (c : Callback) (w : World) : World :=
  if observed then
    let line := c.logLine
    (w.tell line.level line.text).record (.callback c w.session.snapshot)
  else w

/-- How the performance of an action ended. -/
inductive Performance where
  | done
  | failed (message : String)
  | cancelled
  deriving DecidableEq, Repr

/-- The performance that a call without a value amounts to. -/
def Performance.ofResult : Except Fault Unit → Performance
  | .ok () => .done
  | .error e => .failed e.message

/-- **A key press**: down, a pause that nothing ends, and up. -/
def press (b : Backend) (gap : Nat) (stroke : KeyStroke) (w : World) : Except Fault Unit × World :=
  match w.post b ⟨.down, stroke⟩ with
  -- a key that did not go down needs no release
  | (.error e, w) => (.error e, w)
  | (.ok (), w) => (w.sleep gap).post b ⟨.up, stroke⟩

/-- The stroke that types a character. -/
def strokeFor (c : Char) : KeyStroke := ⟨c, Keyboard.modifiersFor c ModifierSet.empty⟩

/-- **A text is typed**, with a pause before every character but the first. -/
def typeFrom (b : Backend) (s : Settings) (first : Bool) : List Char → World →
    Except Fault Unit × World
  | [], w => (.ok (), w)
  | c :: cs, w =>
    let w := if first then w else w.sleep s.characterDelay
    match press b s.keyEventDelay (strokeFor c) w with
    | (.error e, w) => (.error e, w)
    | (.ok (), w) => typeFrom b s false cs w

/-- **An action is performed.** -/
def perform (e : Engine) (kind : ActionKind) (w : World) : Performance × World :=
  match kind with
  | .keyPress key modifiers =>
    let (result, w) := press e.backend e.settings.keyEventDelay ⟨key, modifiers⟩ w
    (.ofResult result, w)
  | .typeText text =>
    let (result, w) := typeFrom e.backend e.settings true text.toList w
    (.ofResult result, w)
  | .delay ms =>
    let (passed, w) := w.pause ms.toNat
    (if passed then .done else .cancelled, w)
  | .switchTo target =>
    match Activation.activate e.backend e.timing target e.timing.defaultTimeout w with
    | (.ok (), w) => (.done, w)
    | (.error fault, w) => (.failed fault.message, w)

/-- The run is cancelled before the action at `index`. -/
def stop (observed : Bool) (index : Nat) (w : World) : Outcome × World :=
  let w := notify observed (.cancelled index) w
  (⟨.cancelled, cancelledMessage, index⟩, notify observed (.completed false cancelledMessage) w)

/-- The run fails in the action at `index`. -/
def abort (observed : Bool) (index : Nat) (message : String) (w : World) : Outcome × World :=
  let w := w.tell .error
    ("❌ [Executor] Step " ++ toString (index + 1) ++ " failed: " ++ message)
  let w := { w with session := w.session.fail message }
  (⟨.failed, message, index⟩, notify observed (.completed false message) w)

/-- The run has performed its `count` actions. -/
def finish (observed : Bool) (count : Nat) (w : World) : Outcome × World :=
  let w := { w with session := w.session.complete }
  let w := w.tell .info "[Executor] Session <id> finished in <n>ms"
  let message := completedMessage count
  (⟨.completed, message, count⟩, notify observed (.completed true message) w)

/-- The pause after an action. -/
def gapAfter (s : Settings) (a : Action) : Nat :=
  if a.isSwitch then s.appSwitchDelay else s.actionDelay

/-- The action at `index` begins: it is marked and told of. -/
def opening (observed : Bool) (index : Nat) (a : Action) (w : World) : World :=
  notify observed (.stepStarted index a) { w with session := w.session.startStep index }

/-- **What follows the performance of an action**: the world in which the run goes on, or the end of
the run. There is a pause behind every action but the last one. -/
def settle (e : Engine) (observed : Bool) (index : Nat) (a : Action) (isLast : Bool) :
    Performance × World → Except (Outcome × World) World
  | (.cancelled, w) => .error (stop observed index w)
  | (.failed message, w) => .error (abort observed index message w)
  | (.done, w) =>
    let w := notify observed (.stepCompleted index) w
    if isLast then .ok w
    else
      match w.pause (gapAfter e.settings a) with
      -- the action is finished, so the run is cancelled before the next one
      | (false, w) => .error (stop observed (index + 1) w)
      | (true, w) => .ok w

/-- **The rest of a run**: the actions from `index` on. -/
def runFrom (e : Engine) (observed : Bool) (index : Nat) : List Action → World → Outcome × World
  | [], w => finish observed index w
  | a :: rest, w =>
    if w.isCancelled then stop observed index w
    else
      match settle e observed index a rest.isEmpty
          (perform e a.kind (opening observed index a w)) with
      | .error result => result
      | .ok w => runFrom e observed (index + 1) rest w

/-- The run is not permitted. -/
def refuse (observed : Bool) (w : World) : Outcome × World :=
  let w := w.tell .error "⛔️ [Executor] Input permission not granted"
  let w := { w with session := w.session.fail permissionDeniedMessage }
  (⟨.failed, permissionDeniedMessage, 0⟩,
    notify observed (.completed false permissionDeniedMessage) w)

/-- A run of `count` actions begins. -/
def launch (observed : Bool) (count : Nat) (w : World) : World :=
  notify observed .started (w.tell .info ("[Executor] Session <id> (started <time>) running " ++
    toString count ++ " action(s)"))

/-- **The run of a plan.** -/
def run (e : Engine) (observed : Bool) (actions : List Action) (w : World) : Outcome × World :=
  if e.backend.permitted then runFrom e observed 0 actions (launch observed actions.length w)
  else refuse observed w

end Run

end KeyPlan
