import HttpPipeline.Response.Channel

/-!
# A channel and its client

While a response is written to a channel, its client is at work at the other end. When the
client asks for the next part of the body is its own affair. A `Polled` channel goes with
one way of doing so: how often the client polls before each request that the writer is
still to make. What it receives is kept, and once the writer has ended it polls on until
nothing comes any more (`Polled.toEnd`).

A writer that is made to wait while the queue is long makes its requests later, after more
polls; so every course that writer and client can take is one of these.
-/

namespace HttpPipeline

/-- A channel and a client that polls it. -/
structure Polled where
  channel : Channel := {}
  /-- How often the client polls before each request of the writer; afterwards it waits for
  the writer to end. -/
  polls : List Nat := []
  /-- What the client has received of the body. -/
  received : List Chunk := []
  deriving DecidableEq, Inhabited

namespace Polled

/-- The client polls once. -/
def poll (p : Polled) : Polled :=
  match p.channel.receive with
  | (.chunk chunk, channel) => { p with channel, received := p.received ++ [chunk] }
  | (_, channel) => { p with channel }

/-- The client polls a number of times. -/
def pollTimes (p : Polled) : (times : Nat) → Polled
  | 0 => p
  | times + 1 => p.poll.pollTimes times

/-- The client takes its turn before a request of the writer. -/
def turn (p : Polled) : Polled :=
  match p.polls with
  | [] => p
  | times :: later => { p with polls := later }.pollTimes times

/-- The client receives all that is left. -/
def toEnd (p : Polled) : Polled := p.pollTimes p.channel.queue.length

/-! ### The writer's end -/

/-- A status is given, after the client's turn. -/
def sendStatus (p : Polled) (status : Status) : Polled :=
  { p.turn with channel := p.turn.channel.sendStatus status }

/-- Bytes are written, after the client's turn. -/
def write (p : Polled) (data : Bytes) : Attempt × Polled :=
  let (attempt, channel) := p.turn.channel.write data
  (attempt, { p.turn with channel })

/-- What is pending is pushed out, after the client's turn. -/
def flush (p : Polled) : Except Fault Unit × Polled :=
  let (result, channel) := p.turn.channel.flush
  (result, { p.turn with channel })

instance : Sink Polled where
  headers p := p.channel.headers
  setHeaders p h := { p with channel := { p.channel with headers := h } }
  sendStatus := Polled.sendStatus
  write := Polled.write
  flush := Polled.flush
  hijack p _ := (.error .hijackNotSupported, p.turn)
  patience _ := 0
  patience_lt := fun h => absurd h (Channel.write_ne_interrupted _ _ _)

/-- **The end of a response.** -/
def finish (p : Polled) : Polled := { p with channel := p.channel.finish }

/-- **The end of a writer** that did not finish. -/
def letGo (p : Polled) : Polled := { p with channel := p.channel.letGo }

end Polled

end HttpPipeline
