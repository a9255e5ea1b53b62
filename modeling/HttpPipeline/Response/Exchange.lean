import HttpPipeline.Response.Call
import HttpPipeline.Response.Channel

/-!
# A writer and a client at work at once

`Channel` says what each request does to a response. Here the writer and the client are at work
at once, and a request is no longer made in one piece: it is a list of acts (`Channel.Act`), and
between two acts the client may receive the head or the next chunk of the body. The queue has
room for `Channel.queueLimit` chunks. A writer that has one more to queue waits until the client
has made room.

An `Exchange` is a response in the middle of this: the channel, the acts that the writer has
still to do, and what the client has received. `Exchange.Step` is one move of either of them. A
log says of each chunk which request has queued it.
-/

namespace HttpPipeline

namespace Channel

/-- How many chunks may wait to be received. -/
def queueLimit : Nat := 8

/-! ### The writer's acts -/

/-- What the owner of a channel asks of it: a call, or an end. -/
inductive Demand
  | call (asked : Call)
  /-- The response ends. -/
  | finish
  /-- The writer is let go in the middle of the response. -/
  | letGo
  deriving DecidableEq, Repr, Inhabited

/-- One act of a writer. -/
inductive Act
  /-- The headers are edited or read. -/
  | edit (asked : Call)
  /-- A status is given. -/
  | head (status : Status)
  /-- Bytes become pending. -/
  | gather (data : Bytes)
  /-- What is pending is queued if it is enough for a frame. -/
  | fill
  /-- What is pending is queued. -/
  | drain
  /-- A body whose head was sent is cut short. -/
  | cut
  /-- The writer is gone. -/
  | close
  deriving DecidableEq, Repr, Inhabited

/-- What is pending, as it enters the queue. -/
def frame (c : Channel) : List Chunk :=
  if c.pending.isEmpty || !c.bodyWanted then [] else [.frame c.pending]

/-- What an act adds to the queue. -/
def Act.adds (act : Act) (c : Channel) : List Chunk :=
  match act with
  | .fill => if c.pending.length < frameSize then [] else c.frame
  | .drain => c.frame
  | .cut => if c.sent.isSome && c.bodyWanted then [.cut] else []
  | _ => []

/-- **One act.** -/
def Act.run (act : Act) (c : Channel) : Channel :=
  match act with
  | .edit asked => (asked.perform c).2
  | .head status => c.sendStatus status
  | .gather data => { c with pending := c.pending ++ data }
  | .fill => if c.pending.length < frameSize then c else c.push.2
  | .drain => c.push.2
  | .cut => if c.sent.isSome && c.bodyWanted then { c with queue := c.queue ++ [.cut] } else c
  | .close => { c with ended := true }

/-- The acts of a demand, in order. -/
def Demand.acts : Demand → List Act
  | .call (.status code) => if Status.valid code then [.head code] else []
  | .call (.write data) => [.head 200, .gather data, .fill]
  | .call (.writeAll data) => if data.isEmpty then [] else [.head 200, .gather data, .fill]
  | .call .flush => [.head 200, .drain]
  | .call asked => [.edit asked]
  | .finish => [.head 200, .drain, .close]
  | .letGo => [.cut, .close]

/-- A demand without a client in between. -/
def Demand.perform (demand : Demand) (c : Channel) : Channel :=
  match demand with
  | .call asked => (asked.perform c).2
  | .finish => c.finish
  | .letGo => c.letGo

end Channel

/-! ### Writer and client -/

/-- A response that is written and received at once. -/
structure Exchange where
  channel : Channel := {}
  /-- The acts that the writer has still to do, each with the demand that it belongs to. -/
  todo : List (Channel.Demand × Channel.Act)
  /-- The heads that the client has received. -/
  heads : List Head := []
  /-- What the client has received of the body. -/
  received : List Chunk := []
  /-- All that was queued, each chunk with the demand that has queued it. -/
  log : List (Channel.Demand × Chunk) := []

namespace Exchange

/-- Before the first act for some demands. -/
def start (demands : List Channel.Demand) : Exchange :=
  { todo := demands.flatMap fun demand => demand.acts.map (demand, ·) }

/-- Before the first act for some calls and the end after them. -/
def ofCalls (calls : List Call) (last : Channel.Demand) : Exchange :=
  start (calls.map .call ++ [last])

/-- **One move** of the writer or the client. -/
inductive Step : Exchange → Exchange → Prop
  /-- The writer does its next act, once there is room for what it queues. -/
  | write {x : Exchange} {demand : Channel.Demand} {act : Channel.Act}
      {todo : List (Channel.Demand × Channel.Act)} (next : x.todo = (demand, act) :: todo)
      (room : act.adds x.channel = [] ∨ x.channel.queue.length < Channel.queueLimit) :
      Step x
        { x with
          channel := act.run x.channel
          todo
          log := x.log ++ (act.adds x.channel).map (demand, ·) }
  /-- The client receives a chunk. -/
  | receive {x : Exchange} {chunk : Chunk} {channel : Channel}
      (there : x.channel.receive = (.chunk chunk, channel)) :
      Step x { x with channel, received := x.received ++ [chunk] }
  /-- The client receives the head. -/
  | receiveHead {x : Exchange} {head : Head} {channel : Channel}
      (there : x.channel.receiveHead = (.head head, channel)) :
      Step x { x with channel, heads := x.heads ++ [head] }

/-- Nothing is left to do and nothing to receive. -/
def Over (x : Exchange) : Prop :=
  x.todo = [] ∧ x.channel.queue = [] ∧ x.channel.waiting = none

end Exchange

end HttpPipeline
