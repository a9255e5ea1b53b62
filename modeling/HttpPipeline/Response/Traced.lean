import HttpPipeline.Response.Sink

/-!
# Watching a sink

`Traced σ` is a sink of type `σ` together with a record of what reached it. The
record lists, in order, every status, the bytes that each write had accepted, every
flush and every attempt to take the connection over. It answers each request as
the watched sink does, so wrapping a sink changes no result.

The record is how a statement about an arbitrary sink speaks of what the sink
received: its `body` is the concatenation of what it accepted, whatever the sink
itself keeps.
-/

namespace HttpPipeline

/-- Something that reached a sink. -/
inductive Arrival
  | status (code : Status)
  /-- The bytes that a write had accepted. -/
  | bytes (accepted : Bytes)
  | flush
  /-- An attempt to take the connection over, successful or not. -/
  | hijack
  deriving DecidableEq, Repr, Inhabited

/-- A sink and what has reached it. -/
structure Traced (σ : Type) where
  sink : σ
  arrivals : List Arrival := []

namespace Traced

variable {σ : Type}

/-- The record with one more arrival. -/
def note (t : Traced σ) (a : Arrival) (sink : σ) : Traced σ :=
  { sink, arrivals := t.arrivals ++ [a] }

/-- The body bytes among the arrivals, in order. -/
def body (t : Traced σ) : Bytes :=
  t.arrivals.flatMap fun
    | .bytes accepted => accepted
    | _ => []

/-- The statuses among the arrivals, in order. -/
def statuses (t : Traced σ) : List Status :=
  t.arrivals.filterMap fun
    | .status code => some code
    | _ => none

/-- The part of an offer that an attempt took. -/
def taken (data : Bytes) : Attempt → Bytes
  | .accepted count => data.take count
  | _ => []

variable [Sink σ]

/-- A write is recorded with the bytes that were taken. -/
def write (t : Traced σ) (data : Bytes) : Attempt × Traced σ :=
  let (attempt, sink) := Sink.write t.sink data
  (attempt, t.note (.bytes (taken data attempt)) sink)

/-- A flush is recorded whatever comes of it. -/
def flush (t : Traced σ) : Except Fault Unit × Traced σ :=
  let (result, sink) := Sink.flush t.sink
  (result, t.note .flush sink)

/-- An attempt to take the connection over is recorded whatever comes of it. -/
def hijack (t : Traced σ) (answer : Bytes) : Except Fault Bytes × Traced σ :=
  let (result, sink) := Sink.hijack t.sink answer
  (result, t.note .hijack sink)

instance : Sink (Traced σ) where
  headers t := Sink.headers t.sink
  setHeaders t h := { t with sink := Sink.setHeaders t.sink h }
  sendStatus t status := t.note (.status status) (Sink.sendStatus t.sink status)
  write := Traced.write
  flush := Traced.flush
  hijack := Traced.hijack
  patience t := Sink.patience t.sink
  patience_lt := by
    intro t data message h
    exact @Sink.patience_lt σ _ t.sink data message h

end Traced

end HttpPipeline
