import HttpPipeline.Response.Call
import HttpPipeline.Response.Stack
import HttpPipeline.Serving.World

/-!
# Handlers

A handler serves a request by writing to the tower of layers it is given. What comes
of it is a `Run`: how it ended, what it saw of the requests it made of the tower, and
the tower and the world afterwards. Runs are put together by `Run.andThen`, and what
follows a failure does not happen.

A `Handler` is any function to runs. One that has only the requests of a sink to work with, and
cannot look into the layers, is given by its `Conduct`.
-/

namespace HttpPipeline

/-- What came of a handler, or of a part of one. -/
structure Run (ω : Type) where
  ending : Ending
  /-- What was seen of the requests made, in order. -/
  replies : List Reply
  writer : ω
  world : World

/-- A handler, for towers over a bottom of type `σ` with streams of type `τ`. -/
abbrev Handler (τ σ : Type) :=
  Request → (s : Stack) → s.Writer τ σ → World → Run (s.Writer τ σ)

namespace Run

/-- A part of a handler that returned. -/
def returned {ω : Type} (replies : List Reply) (writer : ω) (world : World) : Run ω :=
  { ending := .returned, replies, writer, world }

/-- A part of a handler followed by another, unless it failed. -/
def andThen {ω : Type} (r : Run ω) (next : ω → World → Run ω) : Run ω :=
  match r.ending with
  | .panicked _ => r
  | .returned =>
    let later := next r.writer r.world
    { later with replies := r.replies ++ later.replies }

/-- A part of a handler, a number of times, unless it fails. -/
def iterate {ω : Type} (part : ω → World → Run ω) : (times : Nat) → ω → World → Run ω
  | 0, w, world => returned [] w world
  | times + 1, w, world => (part w world).andThen (iterate part times)

end Run

/-! ### Handlers that have nothing but their tower -/

/-- **What a handler does**: it asks something of the tower that it was given, or of the one some
layers further in, or edits the headers there, and goes on by what it has seen, until it ends. -/
inductive Conduct
  | ends (ending : Ending) (replies : List Reply) (world : World)
  | asks (depth : Nat) (call : Call) (next : Reply → Conduct)
  | edits (depth : Nat) (change : Headers → Headers) (next : Option Headers → Conduct)

namespace Conduct

variable {τ σ : Type} [MemberStream τ] [Sink σ]

/-- What comes of it on a tower. -/
def run : Conduct → (s : Stack) → s.Writer τ σ → Run (s.Writer τ σ)
  | ends ending replies world, _, writer => { ending, replies, writer, world }
  | asks depth call next, s, w =>
    let (reply, w) := s.ask depth call w
    (next reply).run s w
  | edits depth change next, s, w =>
    let (headers, w) := s.edit depth change w
    (next headers).run s w

/-- A handler that looks at the request and the world, and at nothing of its tower but what it
sees by asking. -/
def handler (conduct : Request → World → Conduct) : Handler τ σ :=
  fun request s w world => (conduct request world).run s w

end Conduct

end HttpPipeline
