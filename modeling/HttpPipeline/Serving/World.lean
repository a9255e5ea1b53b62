import HttpPipeline.Serving.Request
import HttpPipeline.Snowflake.Generator
import HttpPipeline.Telemetry.Event
import HttpPipeline.Telemetry.Metric

/-!
# What serving a request depends on and leaves behind

A handler either returns or fails; a failure carries a payload (`Panic`). One payload
is no failure but a wish: `abort` asks for the connection to be dropped, and no stage
turns it into a reply.

Besides the request and the sink, serving depends on the `World`: two clocks, and the
thread's slot for a trace of the last failure. A failure is traced by a hook at the
place where it is raised, if any stage on the thread is there to log it; a failure
that is merely raised again passes the hook by. The world also collects what was
logged and measured.
-/

namespace HttpPipeline

/-- The payload of a failure. -/
inductive Panic
  /-- A text fixed in the program. -/
  | fixed (message : String)
  /-- A text made for the occasion. -/
  | owned (message : String)
  /-- Something that is no text. -/
  | opaqueValue (value : Int)
  /-- A wish for the connection to be dropped. -/
  | abort
  deriving DecidableEq, Repr, Inhabited

/-- A payload in words. -/
def Panic.message : Panic → String
  | .fixed message => message
  | .owned message => message
  | .opaqueValue _ => "Box<dyn Any>"
  | .abort => "Box<dyn Any>"

/-- How a handler came to its end. -/
inductive Ending
  | returned
  | panicked (payload : Panic)
  deriving DecidableEq, Repr, Inhabited

/-- What serving depends on besides the request and the sink, and what it leaves
behind. -/
structure World where
  /-- The wall clock, in nanoseconds since the beginning of 2024. -/
  wall : Int := 0
  /-- The clock that is never set, in nanoseconds since some instant. -/
  now : Int := 0
  /-- How many stages of the thread are there to log a failure. -/
  watchers : Nat := 0
  /-- Whether the thread's slot holds the trace of a failure. -/
  traced : Bool := false
  /-- What was logged, in order. -/
  events : List Event := []
  /-- What was measured, in order. -/
  measurements : List Measurement := []
  deriving Inhabited

namespace World

/-- Time passes on both clocks. -/
def sleep (w : World) (nanoseconds : Int) : World :=
  { w with wall := w.wall + nanoseconds, now := w.now + nanoseconds }

/-- An event is logged. -/
def log (w : World) (event : Event) : World := { w with events := w.events ++ [event] }

/-- Several events are logged. -/
def logAll (w : World) (events : List Event) : World := { w with events := w.events ++ events }

/-- Something was measured. -/
def measure (w : World) (m : Measurement) : World :=
  { w with measurements := w.measurements ++ [m] }

/-- A failure is raised, past the hook or not. The hook keeps a trace only while there
is a stage to log it. -/
def raise (w : World) (hooked : Bool) : World :=
  if hooked && 0 < w.watchers then { w with traced := true } else w

/-- The wall clock in milliseconds. -/
def wallMilliseconds (w : World) : Int := w.wall.fdiv 1000000

/-- The wall clock as a generator reads it. It stands still until it is waited for. -/
def clock (w : World) : Clock := .standing w.wallMilliseconds

/-- The world after a clock started from it was read. -/
def afterReading (w : World) (clock : Clock) : World :=
  match clock.taken with
  | latest :: _ =>
    -- only a wait moves the wall clock, and then to the reading that ended it
    if w.wallMilliseconds < latest then { w with wall := latest * 1000000 } else w
  | [] => w

end World

end HttpPipeline
