import KeyPlan.Execute

/-!
# Histories

Many operations on one engine, one after another, each on one of many sessions. The clock and the
calls go on from operation to operation; trace and log are those of the operation alone, and a
session that an operation does not name stays as it is.

## Main definitions

* `Operation`: what can be asked of an engine
* `History`: settings, world and sessions between operations
* `History.perform`: one operation
-/

namespace KeyPlan

/-- **What can be asked of an engine**, or directly of its backend. -/
inductive Operation where
  | execute (observed : Bool) (steps : List Step) (previous : Option Target)
  | runActions (observed : Bool) (actions : List Action)
  | activate (target : Target) (limit : Option Nat)
  | resolve (target : Target)
  | applications
  | permission
  | cancel
  | setSettings (settings : Settings)
  | post (event : KeyEvent)
  | unhide (app : Application)
  | activateApp (app : Application)
  | hasMinimized (app : Application)
  | restore (app : Application)
  | frontmost
  deriving DecidableEq, Repr

/-- The result of an operation. -/
inductive Answer where
  | nothing
  | outcome (o : Outcome)
  | activation (r : Except ActivationFault Unit)
  | application (r : Except ActivationFault Application)
  | applications (r : Except Fault (List Application))
  | permission (granted requested : Bool)
  | settings (s : Settings)
  | unit (r : Except Fault Unit)
  | flag (r : Except Fault Bool)
  | count (r : Except Fault Nat)
  | pid (r : Except Fault (Option Int32))

/-- **The state between operations.** -/
structure History where
  settings : Settings := Settings.normal
  world : World := {}
  sessions : Nat → Session := fun _ => {}

namespace History

/-- The engine at this moment. -/
def engine (b : Backend) (timing : Timing) (h : History) : Engine := ⟨b, timing, h.settings⟩

/-- The world in which an operation on a session begins, with a cancellation that is counted from
this moment. -/
def enter (h : History) (session : Nat) (interrupt : Interrupt) : World :=
  { h.world with
    session := h.sessions session
    interrupt := { interrupt with atTime := interrupt.atTime.map (h.world.now + ·) }
    trace := []
    log := [] }

/-- The state after an operation on a session. -/
def leave (h : History) (session : Nat) (w : World) : History :=
  { h with
    world := w
    sessions := fun k => if k = session then w.session else h.sessions k }

/-- The answer to an operation that changes no settings, and the world after it. -/
def answer (e : Engine) (op : Operation) (w : World) : Answer × World :=
  match op with
  | .execute observed steps previous =>
    let (o, w) := e.execute observed steps previous w
    (.outcome o, w)
  | .runActions observed actions =>
    let (o, w) := Run.run e observed actions w
    (.outcome o, w)
  | .activate target limit =>
    let (r, w) :=
      Activation.activate e.backend e.timing target (limit.getD e.timing.defaultTimeout) w
    (.activation r, w)
  | .resolve target =>
    let (r, w) := Activation.resolve e.backend target w
    (.application r, w)
  | .applications =>
    let (r, w) := w.running e.backend
    (.applications r, w)
  | .permission => (.permission e.backend.permitted e.backend.permitted, w)
  | .cancel => (.nothing, w.cancel)
  | .setSettings settings => (.settings settings, w)
  | .post event =>
    let (r, w) := w.post e.backend event
    (.unit r, w)
  | .unhide app =>
    let (r, w) := w.unhide e.backend app
    (.unit r, w)
  | .activateApp app =>
    let (r, w) := w.activate e.backend app
    (.unit r, w)
  | .hasMinimized app =>
    let (r, w) := w.hasMinimized e.backend app
    (.flag r, w)
  | .restore app =>
    let (r, w) := w.restore e.backend app
    (.count r, w)
  | .frontmost =>
    let (r, w) := w.frontmost e.backend
    (.pid r, w)

/-- The settings after an operation. -/
def nextSettings (settings : Settings) : Operation → Settings
  | .setSettings s => s
  | _ => settings

/-- **One operation** on a session: its answer and the state after it, whose world holds the trace
and the log of the operation. -/
def perform (b : Backend) (timing : Timing) (h : History) (session : Nat) (interrupt : Interrupt)
    (op : Operation) : Answer × History :=
  let (a, w) := answer (h.engine b timing) op (h.enter session interrupt)
  (a, { h.leave session w with settings := nextSettings h.settings op })

end History

end KeyPlan
