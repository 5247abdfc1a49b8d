import KeyPlan.Action
import KeyPlan.Backend
import KeyPlan.Log
import KeyPlan.Session

/-!
# The world of a run

A run takes place in a world with a clock of whole milliseconds and a session. The world keeps a trace
of every call with what came of it, and of every callback; each entry has the time at which it began.
The session may be cancelled at a time or inside of an entry of the trace. Only waiting moves the
clock.

## Main definitions

* `Event`, `Entry`: what a trace records
* `World`: clock, calls so far, session, planned cancellation, trace and log
* `World.record`, `World.sleep`, `World.pause`: an entry, and the two ways to wait
* `World.post`, `World.running`, ...: the calls of a backend
-/

namespace KeyPlan

/-- **What an observer of a run is told.** -/
inductive Callback where
  | started
  | stepStarted (index : Nat) (action : Action)
  | stepCompleted (index : Nat)
  | cancelled (index : Nat)
  | completed (success : Bool) (message : String)
  deriving DecidableEq, Repr

/-- **A call about applications** and what came of it. An answer on the application in front may come
too late to count. -/
inductive Call where
  | running (result : Except Fault (List Application))
  | unhide (app : Application) (result : Except Fault Unit)
  | hasMinimized (app : Application) (result : Except Fault Bool)
  | restore (app : Application) (result : Except Fault Nat)
  | activate (app : Application) (result : Except Fault Unit)
  | frontmost (answer : Option (Except Fault (Option Int32)))
  deriving DecidableEq, Repr

/-- **What a trace records**: a call, a key event and what came of it, or a callback with the snapshot
of its moment. -/
inductive Event where
  | call (c : Call)
  | key (e : KeyEvent) (result : Except Fault Unit)
  | callback (c : Callback) (snapshot : Snapshot)
  deriving DecidableEq, Repr

/-- An event and its time. -/
structure Entry where
  time : Nat
  event : Event
  deriving DecidableEq, Repr

/-- How many calls of each kind there were. -/
structure Tally where
  running : Nat := 0
  unhide : Nat := 0
  hasMinimized : Nat := 0
  restore : Nat := 0
  activate : Nat := 0
  frontmost : Nat := 0
  post : Nat := 0
  deriving DecidableEq, Repr

/-- The tally after one more call. -/
def Tally.add (t : Tally) : Call → Tally
  | .running .. => { t with running := t.running + 1 }
  | .unhide .. => { t with unhide := t.unhide + 1 }
  | .hasMinimized .. => { t with hasMinimized := t.hasMinimized + 1 }
  | .restore .. => { t with restore := t.restore + 1 }
  | .activate .. => { t with activate := t.activate + 1 }
  | .frontmost .. => { t with frontmost := t.frontmost + 1 }

/-- **When the world cancels the session**: at a time, inside of an entry of the trace, both or
never. -/
structure Interrupt where
  atTime : Option Nat := none
  atEntry : Option Nat := none
  deriving DecidableEq, Repr

/-- **The world of a run.** -/
structure World where
  now : Nat := 0
  calls : Tally := {}
  activated : Option Int32 := none
  session : Session := {}
  interrupt : Interrupt := {}
  trace : List Entry := []
  log : List LogLine := []
  deriving DecidableEq, Repr

namespace World

/-- The session is cancelled. -/
def isCancelled (w : World) : Bool := w.session.token

/-- One more line in the log. -/
def tell (w : World) (level : LogLevel) (text : String) : World :=
  { w with log := w.log ++ [⟨level, text⟩] }

/-- The world in which the session is cancelled. -/
def cancel (w : World) : World := { w with session := w.session.cancel }

/-- **One more entry in the trace**; the session may be cancelled inside of it. -/
def record (w : World) (event : Event) : World :=
  -- the entry has the place of the length that the trace had before it
  let next := { w with trace := w.trace ++ [⟨w.now, event⟩] }
  if w.interrupt.atEntry = some w.trace.length then next.cancel else next

/-- The clock moves on; a cancellation that is due by then takes place. -/
def advanceTo (w : World) (time : Nat) : World :=
  let next := { w with now := time }
  match w.interrupt.atTime with
  | some t => if t ≤ time then next.cancel else next
  | none => next

/-- **Waiting** that a cancellation does not end. -/
def sleep (w : World) (ms : Nat) : World :=
  if ms = 0 then w else w.advanceTo (w.now + ms)

/-- **Waiting** that a cancellation ends at once: whether the time has passed without one. -/
def pause (w : World) (ms : Nat) : Bool × World :=
  if w.isCancelled then (false, w)
  else if ms = 0 then (true, w)
  else
    match w.interrupt.atTime with
    | some t =>
      -- at the very end of the pause the cancellation is first
      if t ≤ w.now + ms then (false, w.advanceTo (max t w.now))
      else (true, w.advanceTo (w.now + ms))
    | none => (true, w.advanceTo (w.now + ms))

/-! ## Calls -/

/-- A call is recorded and counted, and its time passes. -/
def call (w : World) (c : Call) (latency : Nat) : World :=
  { w.record (.call c) with calls := w.calls.add c }.sleep latency

/-- The applications that are running. -/
def running (w : World) (b : Backend) : Except Fault (List Application) × World :=
  let reply := b.running w.calls.running
  (reply.result, w.call (.running reply.result) reply.latency)

/-- An application is shown again. -/
def unhide (w : World) (b : Backend) (app : Application) : Except Fault Unit × World :=
  let reply := b.unhide w.calls.unhide
  (reply.result, w.call (.unhide app reply.result) reply.latency)

/-- Whether an application has minimized windows. -/
def hasMinimized (w : World) (b : Backend) (app : Application) : Except Fault Bool × World :=
  let reply := b.hasMinimized w.calls.hasMinimized
  (reply.result, w.call (.hasMinimized app reply.result) reply.latency)

/-- The minimized windows of an application are restored: how many there were. -/
def restore (w : World) (b : Backend) (app : Application) : Except Fault Nat × World :=
  let reply := b.restore w.calls.restore
  (reply.result, w.call (.restore app reply.result) reply.latency)

/-- An application is asked to the front. -/
def activate (w : World) (b : Backend) (app : Application) : Except Fault Unit × World :=
  let reply := b.activate w.calls.activate
  let next := w.call (.activate app reply.result) reply.latency
  match reply.result with
  | .ok () => (.ok (), { next with activated := some app.pid })
  | .error e => (.error e, next)

/-- The number of the application in front that a reply names. -/
def frontPid (w : World) : Frontmost → Option Int32
  | .pid p => p
  | .lastActivated => w.activated

/-- The number of the application in front, however long the answer takes. -/
def frontmost (w : World) (b : Backend) : Except Fault (Option Int32) × World :=
  let reply := b.frontmost w.calls.frontmost
  let result := reply.result.map w.frontPid
  (result, w.call (.frontmost (some result)) reply.latency)

/-- **The number of the application in front, if the answer comes within `left` milliseconds.** An
answer that comes later is lost; its time passes only as far as the limit. -/
def frontmostWithin (w : World) (b : Backend) (left : Nat) :
    Option (Except Fault (Option Int32)) × World :=
  let reply := b.frontmost w.calls.frontmost
  -- an answer at the limit still counts
  let answer := if reply.latency ≤ left then some (reply.result.map w.frontPid) else none
  (answer, w.call (.frontmost answer) (min reply.latency left))

/-- **A key event is posted.** -/
def post (w : World) (b : Backend) (e : KeyEvent) : Except Fault Unit × World :=
  let result := b.post w.calls.post
  (result,
    { w.record (.key e result) with calls := { w.calls with post := w.calls.post + 1 } })

end World

end KeyPlan
