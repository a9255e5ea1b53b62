import HttpPipeline.Serving.Handler

/-!
# Handlers as data

A `Script` is a handler as data: a list of steps, each a call to the sink, something
written back from the request, a pause, a failure, or steps within steps. A step may
go behind the layers it was given, and steps may be attempted, so that a failure of
theirs is caught by the handler itself. The steps after a failure are not taken.
-/

namespace HttpPipeline

/-- What of a request is written back. -/
inductive Echo
  | body
  | method
  | path
  | query
  | id
  /-- The first value of a header. -/
  | header (name : Bytes)
  deriving DecidableEq, Repr, Inhabited

/-- One step of a script. -/
inductive Step
  | call (call : Call)
  | echo (what : Echo)
  | sleep (nanoseconds : Int)
  /-- The handler fails, past the hook or not. -/
  | panic (payload : Panic) (hooked : Bool)
  | repeated (times : Nat) (steps : List Step)
  /-- A step on the tower some layers further in. -/
  | unwrap (depth : Nat) (step : Step)
  /-- Steps whose failure the handler catches. -/
  | attempt (steps : List Step)
  /-- The handler would end the response, which only its owner can. -/
  | close
  deriving Inhabited

/-- A handler as data. -/
abbrev Script := List Step

namespace Echo

/-- The part of a request, if it is there. -/
def of? (request : Request) : Echo → Option Bytes
  | .body => some request.body
  | .method => some (Bytes.ofString request.method)
  | .path => some (Bytes.ofChars request.target.path)
  | .query => request.target.query.map Bytes.ofChars
  | .id => request.id.map Bytes.ofString
  | .header name => (fieldName? name).bind request.headers.get?

/-- The part of a request, or a word for its absence. -/
def data (request : Request) (what : Echo) : Bytes :=
  (what.of? request).getD (Bytes.ofString "<none>")

end Echo

variable {τ σ : Type} [MemberStream τ] [Sink σ]

mutual

/-- **One step** on a tower. -/
def Step.run (step : Step) (request : Request) (s : Stack) (w : s.Writer τ σ) (world : World) :
    Run (s.Writer τ σ) :=
  match step with
  | .call asked =>
    let (reply, w) := asked.perform w
    .returned [reply] w world
  | .echo what =>
    let data := what.data request
    let (result, w) := Sink.writeAll w data
    .returned [.echoed data result] w world
  | .sleep nanoseconds => .returned [.done] w (world.sleep nanoseconds)
  | .panic payload hooked =>
    { ending := .panicked payload, replies := [], writer := w, world := world.raise hooked }
  | .repeated times steps => Run.iterate (Step.runAll steps request s) times w world
  | .unwrap depth step =>
    let inside (t : Stack) (v : t.Writer τ σ) :=
      let r := Step.run step request t v world
      ((r.ending, r.replies, r.world), r.writer)
    match Stack.within inside depth s w with
    | some ((ending, replies, world), w) => { ending, replies, writer := w, world }
    | none => .returned [.noInner] w world
  | .attempt steps => { Step.runAll steps request s w world with ending := .returned }
  | .close => .returned [.notGzip] w world

/-- **Steps**, one after the other, up to a failure. -/
def Step.runAll (steps : List Step) (request : Request) (s : Stack) (w : s.Writer τ σ)
    (world : World) : Run (s.Writer τ σ) :=
  match steps with
  | [] => .returned [] w world
  | step :: steps => (Step.run step request s w world).andThen (Step.runAll steps request s)

end

/-- The handler that a script is. -/
def Script.handler (script : Script) : Handler τ σ := Step.runAll script

end HttpPipeline
