import HttpPipeline.Gzip.InUse
import HttpPipeline.Serving.Chain

/-!
# Many requests and one pool

A stage that compresses keeps its pool from one request to the next, and many requests may be on
their way through it at once. What is common to them is the pool only: a request takes a stream
out of it when it arrives (`Traffic.arrive`), has that stream to itself while it is served, and
gives it back when it leaves, however it ended (`Traffic.leave`). A request whose client does not
accept compression goes past the pool.

The streams are chunked. So what comes back is a stream with whatever is still in its buffer, and
the next request is given that buffer, emptied. A request that waits for an operation without an end
never leaves.

A request may also be stopped where nothing else of this library can fail, such as halfway through
a write to its sink (`Traffic.stop`). Then its stream is torn out of whatever it was doing. Nobody
can tell what state it is in, except that a stream never changes its level, and that room was made
in its buffer for one chunk or two.

`Traffic` is a pool in the middle of this. It also has what no request can see: a serial number
for each stream, given when the stream is made, and what came of the requests so far.
-/

namespace HttpPipeline

open ChunkedStream (InUse)

/-- A request on its way to a stage that compresses, with the stages further in and the tower
that the stage is given. Its handler has nothing but the requests of a sink to work with. -/
structure Visit (κ σ : Type) [Compressor κ] [Sink σ] where
  minSize : Nat
  inner : List (Stage (InUse κ))
  conduct : Request → World → Conduct
  request : Request
  shape : Stack
  writer : shape.Writer (InUse κ) σ
  world : World

namespace Visit

variable {κ σ : Type} [Compressor κ] [Sink σ]

/-- Whether a stream is needed. -/
def compresses (v : Visit κ σ) : Bool := AcceptEncoding.requestAcceptsGzip v.request.headers

/-- Serving the request with a stream, up to the end of the handler. -/
noncomputable def serveWith (v : Visit κ σ) (stream : ChunkedStream κ) :
    Run (GzipLayer (InUse κ) (v.shape.Writer (InUse κ) σ)) :=
  let layer : GzipLayer (InUse κ) (v.shape.Writer (InUse κ) σ) :=
    .around (Compression.announce v.writer) (.ready stream) v.minSize
  (Chain.serve v.inner (Conduct.handler v.conduct) v.request (.gzip v.shape) layer v.world).1

/-- Serving the request without one. -/
noncomputable def servePlain (v : Visit κ σ) : Run (v.shape.Writer (InUse κ) σ) :=
  (Chain.serve v.inner (Conduct.handler v.conduct) v.request v.shape
    (Compression.announce v.writer) v.world).1

/-- **The request alone**, served with a pool that no other request has used. -/
noncomputable def alone (v : Visit κ σ) (level maxIdle : Nat) :
    Run (v.shape.Writer (InUse κ) σ) :=
  (Chain.serve (.compression v.minSize (.ofSettings level maxIdle) :: v.inner)
    (Conduct.handler v.conduct) v.request v.shape v.writer v.world).1

end Visit

/-- A request that has a stream. -/
structure Flight (κ σ : Type) [Compressor κ] [Sink σ] where
  visit : Visit κ σ
  /-- The serial number of the stream. -/
  serial : Nat
  stream : ChunkedStream κ

/-- A request that was served, and what came of it. -/
structure Served (κ σ : Type) [Compressor κ] [Sink σ] where
  visit : Visit κ σ
  run : Run (visit.shape.Writer (InUse κ) σ)

/-- A pool and the requests that it is there for. -/
structure Traffic (κ σ : Type) [Compressor κ] [Sink σ] where
  pool : EncoderPool (ChunkedStream κ)
  /-- The serial numbers of the idle streams, in the order of the pool. -/
  idle : List Nat := []
  /-- The requests that have a stream. -/
  flights : List (Flight κ σ) := []
  /-- How many streams were made. -/
  made : Nat := 0
  /-- The requests that were served, in the order in which they left. -/
  served : List (Served κ σ) := []
  /-- The requests that were stopped. -/
  stopped : List (Visit κ σ) := []

namespace Traffic

variable {κ σ : Type} [Compressor κ] [Sink σ]

/-- **A request arrives.** It takes a stream if it needs one, and else is served at once. -/
noncomputable def arrive (t : Traffic κ σ) (v : Visit κ σ) : Traffic κ σ :=
  if v.compresses then
    let (stream, pool) := t.pool.acquire
    match t.idle with
    | [] =>
      { t with pool, flights := t.flights ++ [⟨v, t.made, stream⟩], made := t.made + 1 }
    | serial :: idle => { t with pool, idle, flights := t.flights ++ [⟨v, serial, stream⟩] }
  else { t with served := t.served ++ [⟨v, v.servePlain⟩] }

/-- A stream comes back from the request at some place, and its number with it. -/
def land (t : Traffic κ σ) (place : Nat) (flight : Flight κ σ) (stream : ChunkedStream κ) :
    Traffic κ σ :=
  { t with
    pool := t.pool.release stream
    idle := if t.pool.idle.length < t.pool.maxIdle then flight.serial :: t.idle else t.idle
    flights := t.flights.eraseIdx place }

/-- **A request leaves**, the one at some place among those that have a stream. -/
noncomputable def leave (t : Traffic κ σ) (place : Nat) : Traffic κ σ :=
  match t.flights[place]? with
  | none => t
  | some flight =>
    match Compression.settle (flight.visit.serveWith flight.stream) with
    | (run, .ready stream) =>
      { t.land place flight stream with served := t.served ++ [⟨flight.visit, run⟩] }
    -- the request waits for an operation without an end
    | (_, .stuck) => t

/-- **A request is stopped.** Its stream comes back in any state, but with the level it had and
a buffer of one chunk, or of two if it has grown. -/
def stop (t : Traffic κ σ) (place : Nat) (wreck : ChunkedStream κ) (grown : Bool) : Traffic κ σ :=
  match t.flights[place]? with
  | none => t
  | some flight =>
    let stream : ChunkedStream κ := { wreck with
      level := flight.stream.level
      capacity := if grown then 2 * ChunkedStream.chunk else ChunkedStream.chunk }
    { t.land place flight stream with stopped := t.stopped ++ [flight.visit] }

/-- What may happen next. -/
inductive Event (κ σ : Type) [Compressor κ] [Sink σ]
  | arrives (visit : Visit κ σ)
  | leaves (place : Nat)
  | stops (place : Nat) (wreck : ChunkedStream κ) (grown : Bool)

/-- One event. -/
noncomputable def next (t : Traffic κ σ) : Event κ σ → Traffic κ σ
  | .arrives visit => t.arrive visit
  | .leaves place => t.leave place
  | .stops place wreck grown => t.stop place wreck grown

/-- **A history**: some events, from an empty pool on. -/
noncomputable def history (level maxIdle : Nat) (events : List (Event κ σ)) : Traffic κ σ :=
  events.foldl next { pool := .ofSettings level maxIdle }

/-- The requests that arrive in some events. -/
def arrivals (events : List (Event κ σ)) : List (Visit κ σ) :=
  events.filterMap fun
    | .arrives visit => some visit
    | _ => none

end Traffic

end HttpPipeline
