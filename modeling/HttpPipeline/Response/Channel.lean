import HttpPipeline.Response.Recorder

/-!
# Sending a response to a client

A `Channel` is the sink at the bottom of a server: what is written to it is received at
its other end, while the response is still being written. The two ends share a slot for
the head and a queue for the body.

* The head is sent once, by the first final status, write or flush, or at the end. An
  interim status cannot be sent and is dropped.
* Body bytes collect until there are enough for a frame (`frameSize`) or a flush asks
  for them, and then enter the queue as one frame.
* `finish` sends what is left and ends the body. A writer that is let go without it
  leaves a response that is cut short: if the head was sent, the queue ends with that
  error, and otherwise there is no head at all.

The receiver may close either of its ends. A frame that nobody can receive any more is
lost, and sending it fails; a head that nobody can receive is lost without a word.
-/

namespace HttpPipeline

/-- Why a client gets no response, or not all of it. -/
inductive TransportError
  /-- The body of the request could not be read. -/
  | body (cause : String)
  /-- The handler came to an end without a head. -/
  | aborted
  /-- The handler came to an end in the middle of the body. -/
  | streamAborted
  deriving DecidableEq, Repr, Inhabited

/-- The wording of an error of the transport. -/
def TransportError.message : TransportError → String
  | .body cause => "failed to read request body: " ++ cause
  | .aborted => "handler aborted before sending a response"
  | .streamAborted => "response stream aborted"

/-- What the queue of a body carries. -/
inductive Chunk
  | frame (data : Bytes)
  /-- The body is cut short here. -/
  | cut
  deriving DecidableEq, Repr, Inhabited

/-- The bytes of a part of a body. -/
def Chunk.bytes : Chunk → Bytes
  | .frame data => data
  | .cut => []

/-- What is received when a part of a body is asked for. -/
inductive Received
  | chunk (chunk : Chunk)
  /-- Nothing yet. -/
  | pending
  /-- Nothing any more. -/
  | ended
  deriving DecidableEq, Repr, Inhabited

/-- What is received when the head is asked for. -/
inductive HeadReceived
  | head (head : Head)
  /-- No head yet. -/
  | empty
  /-- No head any more. -/
  | closed
  deriving DecidableEq, Inhabited

/-- A response on its way to a client. -/
structure Channel where
  /-- The live headers. -/
  headers : Headers := {}
  /-- The head, once it was sent. -/
  sent : Option Head := none
  /-- The head, while it waits to be received. -/
  waiting : Option Head := none
  /-- Body bytes that make no frame yet. -/
  pending : Bytes := []
  /-- What of the body waits to be received. -/
  queue : List Chunk := []
  /-- Whether the receiver still wants the head, and the body. -/
  headWanted : Bool := true
  bodyWanted : Bool := true
  /-- Whether the writer has let go. -/
  ended : Bool := false
  deriving DecidableEq, Inhabited

namespace Channel

/-- Bytes that make a frame without being asked for. -/
def frameSize : Nat := 8192

/-! ### The writer's end -/

/-- The head is sent, unless it already was. -/
def sendHead (c : Channel) (status : Status) : Channel :=
  match c.sent with
  | some _ => c
  | none =>
    let head : Head := ⟨status, c.headers⟩
    { c with sent := some head, waiting := if c.headWanted then some head else none }

/-- A final status sends the head; an interim one is dropped. -/
def sendStatus (c : Channel) (status : Status) : Channel :=
  if Status.final status then c.sendHead status else c

/-- The pending bytes enter the queue as one frame, if there are any. -/
def push (c : Channel) : Except StreamError Unit × Channel :=
  if c.pending.isEmpty then (.ok (), c)
  else if c.bodyWanted then
    (.ok (), { c with pending := [], queue := c.queue ++ [.frame c.pending] })
  -- the bytes are given up, so the next flush does not fail on their account
  else (.error .clientGone, { c with pending := [] })

/-- A write sends the head and collects the bytes. -/
def write (c : Channel) (data : Bytes) : Attempt × Channel :=
  let c := c.sendHead 200
  let c := { c with pending := c.pending ++ data }
  if c.pending.length < frameSize then (.accepted data.length, c)
  else match c.push with
    | (.ok (), c) => (.accepted data.length, c)
    | (.error cause, c) => (.failed cause, c)

/-- A flush sends the head and what is pending. -/
def flush (c : Channel) : Except Fault Unit × Channel :=
  match (c.sendHead 200).push with
  | (.ok (), c) => (.ok (), c)
  | (.error cause, c) => (.error (.stream cause), c)

theorem write_ne_interrupted (c : Channel) (data : Bytes) (message : String) :
    (c.write data).1 ≠ .interrupted message := by
  unfold write
  simp only
  split
  · simp
  · split <;> simp

instance : Sink Channel where
  headers := Channel.headers
  setHeaders c h := { c with headers := h }
  sendStatus := Channel.sendStatus
  write := Channel.write
  flush := Channel.flush
  hijack c _ := (.error .hijackNotSupported, c)
  patience _ := 0
  patience_lt := fun h => absurd h (write_ne_interrupted _ _ _)

/-- **The end of a response**: the head and what is pending are sent. -/
def finish (c : Channel) : Channel :=
  { (c.sendHead 200).push.2 with ended := true }

/-- **The end of a writer** that did not finish. -/
def letGo (c : Channel) : Channel :=
  let queue := if c.sent.isSome && c.bodyWanted then c.queue ++ [.cut] else c.queue
  { c with queue, ended := true }

/-! ### The receiver's end -/

/-- The next part of the body. -/
def receive (c : Channel) : Received × Channel :=
  match c.queue with
  | chunk :: queue => (.chunk chunk, { c with queue })
  | [] => (if c.ended then .ended else .pending, c)

/-- The head, if it is there. It is received once. -/
def receiveHead (c : Channel) : HeadReceived × Channel :=
  match c.waiting with
  | some head => (.head head, { c with waiting := none })
  | none => (if c.sent.isSome || c.ended || !c.headWanted then .closed else .empty, c)

/-- The receiver does not want the head any more. One that waits can still be had. -/
def refuseHead (c : Channel) : Channel := { c with headWanted := false }

/-- The receiver does not want the body any more. -/
def refuseBody (c : Channel) : Channel := { c with bodyWanted := false, queue := [] }

end Channel

end HttpPipeline
