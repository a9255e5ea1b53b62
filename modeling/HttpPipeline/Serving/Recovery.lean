import HttpPipeline.Response.Layer
import HttpPipeline.Serving.Handler
import HttpPipeline.Serving.Identity

/-!
# Recovering from a failure

The stage that recovers watches whether the response may have been committed. When the
handler fails, the failure is logged and measured, and if nothing was committed the
client gets an error reply in place of the response. A wish for the connection to be
dropped is no failure to recover from and goes on outwards.

While the handler runs, the stage is on watch, so that a failure leaves a trace where it
is raised. The stage takes that trace, whatever becomes of the failure.
-/

namespace HttpPipeline.Recovery

/-- The world while the stage is on watch. -/
def enter (world : World) : World := { world with watchers := world.watchers + 1 }

/-- The world after the watch. -/
def unwatched (world : World) : World := { world with watchers := world.watchers - 1 }

/-- The message of the error reply. -/
def apology : String := "Internal Server Error"

/-- **After the handler**, which was given a commit layer. -/
def leave {ω : Type} [Sink ω] (request : Request) (run : Run (CommitLayer ω)) : Run ω :=
  let world := unwatched run.world
  match run.ending with
  | .returned => { run with writer := run.writer.inner, world }
  | .panicked .abort =>
    -- not stopped here, but its trace is taken all the same
    { run with writer := run.writer.inner, world := { world with traced := false } }
  | .panicked payload =>
    let written := run.writer.written
    let entry := .panicRecovered payload.message world.traced request.method request.path
      (loggedId? request run.writer) written
    { ending := .returned
      replies := run.replies
      -- a second head could not be sent, so an error reply would end up in the body
      writer :=
        if written then run.writer.inner else Sink.errorReply run.writer.inner 500 apology
      world := ({ world with traced := false }.measure (.panicRecovered written)).log entry }

end HttpPipeline.Recovery
