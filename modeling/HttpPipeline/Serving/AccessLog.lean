import HttpPipeline.Response.Layer
import HttpPipeline.Serving.Handler
import HttpPipeline.Serving.Identity

/-!
# The access log

The stage that keeps the access log watches the status of the response. When the handler
has returned, it logs and measures the request with the status and the time taken. A
handler that fails is not its business.
-/

namespace HttpPipeline.AccessLog

/-- **After the handler**, which was given a status layer at some instant. -/
def leave {ω : Type} [Sink ω] (request : Request) (start : Int) (run : Run (StatusLayer ω)) :
    Run ω :=
  let world :=
    match run.ending with
    | .panicked _ => run.world
    | .returned =>
      let duration := Duration.between start run.world.now
      -- what the stages further in settled on, though it may still be held back further out
      let status := run.writer.effectiveStatus
      (run.world.measure (.request request.method status duration)).log
        (.served request.method request.path status duration (loggedId? request run.writer))
  { run with writer := run.writer.inner, world }

end HttpPipeline.AccessLog
