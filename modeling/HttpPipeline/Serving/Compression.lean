import HttpPipeline.Gzip.Pool
import HttpPipeline.Http.AcceptEncoding
import HttpPipeline.Response.GzipLayer
import HttpPipeline.Serving.Handler

/-!
# Compressing responses

The stage that compresses puts a compression layer in front of the response if the
client accepts `gzip`, with a stream lent by a pool. When the handler has returned, the
layer is closed; when it has failed, the layer is abandoned. Either way the stream goes
back to the pool.
-/

namespace HttpPipeline.Compression

/-- Settings of the stage. -/
structure Settings where
  /-- Bodies shorter than this are not compressed. -/
  minSize : Nat := 256
  /-- From 0 (fast) to 9 (small); more means 9. -/
  level : Nat := 6
  /-- Most streams kept for later use. -/
  maxIdle : Nat := 64
  deriving DecidableEq, Repr, Inhabited

variable {τ ω : Type}

/-- The response depends on what the client accepts. -/
def announce [Sink ω] (w : ω) : ω :=
  Sink.editHeaders w fun h => h.append "vary" (Bytes.ofString "Accept-Encoding")

/-- The decisions of a layer are measured. -/
def hand (reported : List Decision) (world : World) : World :=
  { world with measurements := world.measurements ++ reported.map .compression }

/-- **After the handler**, which was given a compression layer. The layer is ended, and its
stream is free again. -/
def settle [MemberStream τ] [Sink ω] (run : Run (GzipLayer τ ω)) : Run ω × τ :=
  let (layer, events) :=
    match run.ending with
    | .returned =>
      -- the client may be gone by now, which concerns nobody but the log
      match run.writer.close with
      | (.ok (), layer) => (layer, [])
      | (.error cause, layer) => (layer, [Event.finishFailed cause.message])
    | .panicked _ => (run.writer.abandon, [])
  ({ run with writer := layer.inner, world := (hand layer.reported run.world).logAll events },
    layer.stream)

/-- The stream was lent by a pool, and goes back to it. -/
def leave [MemberStream τ] [Sink ω] (pool : EncoderPool τ) (run : Run (GzipLayer τ ω)) :
    Run ω × EncoderPool τ :=
  let (run, stream) := settle run
  (run, pool.release stream)

end HttpPipeline.Compression
