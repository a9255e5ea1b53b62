import HttpPipeline.Response.Polled
import HttpPipeline.Serving.Chain

/-!
# Serving requests to clients

A service collects the body of a request, serves it with a chain over a channel, and
hands the other end of the channel to the client. The client polls while the response is
written, as often as it likes, and in the end receives everything there is to receive.

A failure that no stage of the chain has stopped ends the response where it is. Before
the head was sent, the client gets an error instead of a response; after that, the body
is cut short. The failure is logged in either case.
-/

namespace HttpPipeline

/-- A response as a client receives it. -/
structure Delivery where
  head : Head
  chunks : List Chunk
  deriving DecidableEq, Inhabited

namespace Delivery

/-- The frames of the body. -/
def frames (d : Delivery) : List Bytes :=
  d.chunks.filterMap fun
    | .frame data => some data
    | .cut => none

/-- The bytes of the body. -/
def body (d : Delivery) : Bytes := d.chunks.flatMap Chunk.bytes

/-- Whether the body ends as it should. -/
def complete (d : Delivery) : Bool := !d.chunks.contains .cut

end Delivery

namespace Service

/-- What came of a request. -/
structure Outcome where
  delivery : Except TransportError Delivery
  replies : List Reply
  world : World

/-- The body of a request from its frames, one of which may be an error instead. -/
def collect : List (Except String Bytes) → Except TransportError Bytes
  | [] => .ok []
  | .error cause :: _ => .error (.body cause)
  | .ok data :: frames => (collect frames).map (data ++ ·)

/-- The event about a failure that no stage has stopped. -/
def escaped : Panic → Event
  | .abort => .handlerAborted
  | payload => .panicEscaped payload.message

variable {τ : Type} [MemberStream τ]

/-- **The end of a response**, after the handler. -/
def conclude (run : Run Polled) : Polled × World :=
  match run.ending with
  | .returned => (run.writer.finish, run.world)
  | .panicked payload => (run.writer.letGo, run.world.log (escaped payload))

/-- **Serving one request**, whose body comes in frames. The client polls before each
request to the channel as often as `polls` says. -/
def call (stages : List (Stage τ)) (handler : Handler τ Polled) (request : Request)
    (frames : List (Except String Bytes)) (world : World) (polls : List Nat := []) : Outcome :=
  match collect frames with
  | .error cause => { delivery := .error cause, replies := [], world }
  | .ok body =>
    let polled : Polled := { polls }
    let (run, _) := Chain.serve stages handler { request with body } .bottom polled world
    let (polled, world) := conclude run
    { delivery :=
        match polled.channel.sent with
        | some head => .ok ⟨head, polled.toEnd.received⟩
        | none => .error .aborted
      replies := run.replies
      world }

end Service

end HttpPipeline
