import HttpPipeline.Origin.Policy
import HttpPipeline.RateLimit.Bucket
import HttpPipeline.Serving.AccessLog
import HttpPipeline.Serving.Compression
import HttpPipeline.Serving.Recovery
import HttpPipeline.Serving.Script

/-!
# Chains of stages

A chain is a list of stages around a handler, the outermost first. Each stage does
something before the stages inside it, may put a layer in front of the response, may
answer the request in their place, and does something after them. Some stages have a
state that lasts from one request to the next, so serving a request gives the chain as
it is afterwards.

`Chain.serve` goes through the list. What a stage does before and after is in a module of
its own; here it is said in which order this happens and what is handed on.
-/

namespace HttpPipeline

/-- A stage whose behaviour is data. -/
structure CustomStage where
  name : String
  /-- An identifier that the stage assigns to every request. -/
  assigns : Option String := none
  /-- What happens before and after the stages inside. -/
  before : Script := []
  after : Script := []
  deriving Inhabited

/-- A stage of a chain, with its state. -/
inductive Stage (τ : Type)
  | recovery
  | requestId (generator : Generator)
  | logging
  | cors (policy : CorsPolicy)
  | rateLimit (bucket : Bucket Binary64)
  | compression (minSize : Nat) (pool : EncoderPool τ)
  | custom (stage : CustomStage)

/-- What a stage is called. -/
def Stage.name {τ : Type} : Stage τ → String
  | .recovery => "recovery"
  | .requestId _ => "request_id"
  | .logging => "logging"
  | .cors _ => "cors"
  | .rateLimit _ => "rate_limit"
  | .compression .. => "compression"
  | .custom stage => stage.name

namespace Chain

variable {τ σ : Type} [MemberStream τ] [Sink σ]

/-- The steps of a stage are taken as those of a handler, but nobody looks at what they
saw. -/
def silently (script : Script) (request : Request) (s : Stack) (w : s.Writer τ σ)
    (world : World) : Run (s.Writer τ σ) :=
  { Step.runAll script request s w world with replies := [] }

/-- The answer to a preflight from an allowed origin. -/
def answerPreflight {ω : Type} [Sink ω] (policy : CorsPolicy) (w : ω) : ω :=
  Sink.sendStatus (Sink.editHeaders w policy.announce) 204

/-- The reply to a request that is turned away. -/
def turnAway {ω : Type} [Sink ω] (retryAfter : Duration) (w : ω) : ω :=
  Sink.errorReply
    (Sink.editHeaders w fun h =>
      h.insert "retry-after" (Bytes.ofString (Text.decimal retryAfter.retryAfterSeconds)))
    429 "Too Many Requests"

/-- **Serving a request.** The result is what came of it and the chain afterwards. -/
def serve (stages : List (Stage τ)) (handler : Handler τ σ) (request : Request) (s : Stack)
    (w : s.Writer τ σ) (world : World) : Run (s.Writer τ σ) × List (Stage τ) :=
  match stages with
  | [] => (handler request s w world, [])
  | .recovery :: inner =>
    -- the watch begins before anything further in can fail
    let layer : CommitLayer (s.Writer τ σ) := { inner := w }
    let (run, inner) := serve inner handler request (.commit s) layer (Recovery.enter world)
    (Recovery.leave request run, .recovery :: inner)
  | .requestId generator :: inner =>
    let (id, generator, world) := chooseId generator request.headers world
    -- the response carries the identifier even if the handler fails
    let w := carryId id w
    let (run, inner) := serve inner handler { request with id := some id } s w world
    (run, .requestId generator :: inner)
  | .logging :: inner =>
    let layer : StatusLayer (s.Writer τ σ) := { inner := w }
    let (run, inner) := serve inner handler request (.status s) layer world
    (AccessLog.leave request world.now run, .logging :: inner)
  | .cors policy :: inner =>
    -- a cache has to know this even of a response that grants nothing
    let w := Sink.editHeaders w fun h => CorsPolicy.vary h "Origin"
    match policy.allowedOrigin? request.headers with
    | none =>
      let (run, inner) := serve inner handler request s w world
      (run, .cors policy :: inner)
    | some origin =>
      let w := Sink.editHeaders w (policy.grant origin)
      if CorsPolicy.isPreflight request.method request.headers then
        -- the stages further in do not see a preflight
        (.returned [] (answerPreflight policy w) world, .cors policy :: inner)
      else
        let (run, inner) := serve inner handler request s w world
        (run, .cors policy :: inner)
  | .rateLimit bucket :: inner =>
    match bucket.acquireAt world.now with
    | (.admitted, bucket) =>
      let (run, inner) := serve inner handler request s w world
      (run, .rateLimit bucket :: inner)
    | (.rejected retryAfter, bucket) =>
      -- nor a request that is turned away
      (.returned [] (turnAway retryAfter w) (world.measure .rateLimited),
        .rateLimit bucket :: inner)
  | .compression minSize pool :: inner =>
    let w := Compression.announce w
    if AcceptEncoding.requestAcceptsGzip request.headers then
      let (stream, pool) := pool.acquire
      let layer : GzipLayer τ (s.Writer τ σ) := .around w stream minSize
      let (run, inner) := serve inner handler request (.gzip s) layer world
      -- the stream comes back to the pool however the handler ended
      let (run, pool) := Compression.leave pool run
      (run, .compression minSize pool :: inner)
    else
      let (run, inner) := serve inner handler request s w world
      (run, .compression minSize pool :: inner)
  | .custom stage :: inner =>
    let before := silently stage.before request s w world
    match before.ending with
    | .panicked _ => (before, .custom stage :: inner)
    | .returned =>
      let request := { request with id := stage.assigns <|> request.id }
      let (run, inner) := serve inner handler request s before.writer before.world
      (run.andThen (silently stage.after request s), .custom stage :: inner)

end Chain

end HttpPipeline
