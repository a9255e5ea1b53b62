import HttpPipeline.Response.Sink

/-!
# What a handler asks of a sink

A `Call` is one request of a handler to the sink it was given: to look at a header
or edit it, to give a status, to write, to flush, to take the connection over, or
to reply with an error. `Call.perform` carries it out and gives the `Reply` that
the handler sees.

Names and values of headers arrive as bytes and may be no name or no value; then
the call is refused and nothing changes, and so it is for a number that is no
status.
-/

namespace HttpPipeline

/-- One request of a handler to a sink. -/
inductive Call
  /-- The only value of a header. -/
  | set (name value : Bytes)
  /-- One more value of a header. -/
  | append (name value : Bytes)
  /-- A header loses its values. -/
  | remove (name : Bytes)
  /-- The values of a header are looked up. -/
  | get (name : Bytes)
  | status (code : Status)
  /-- One attempt to write. -/
  | write (data : Bytes)
  /-- Attempts to write until everything is written. -/
  | writeAll (data : Bytes)
  | flush
  /-- The connection is taken over and answered. -/
  | hijack (answer : Bytes)
  | errorReply (code : Status) (message : String)
  deriving DecidableEq, Repr, Inhabited

/-- What a handler sees of a request it made. -/
inductive Reply
  | done
  /-- Whether the header had a value before. -/
  | existed (before : Bool)
  | values (values : List Bytes)
  /-- How many bytes an attempt to write took. -/
  | accepted (count : Nat)
  | streamError (cause : StreamError)
  | fault (cause : Fault)
  /-- What the connection had to be read. -/
  | taken (waiting : Bytes)
  | badHeader
  | badStatus
  /-- Some data was written back; the second part says how that went. -/
  | echoed (data : Bytes) (result : Except StreamError Unit)
  /-- There is no sink that far in. -/
  | noInner
  /-- The outermost layer does not compress, so it cannot be closed. -/
  | notGzip
  deriving Inhabited

namespace Reply

/-- The reply to an attempt to write. -/
def ofAttempt : Attempt → Reply
  | .accepted count => .accepted count
  | .interrupted message => .streamError ⟨.interrupted, message⟩
  | .failed cause => .streamError cause

/-- The reply to something that either went well or failed with its stream. -/
def ofStream : Except StreamError Unit → Reply
  | .ok () => .done
  | .error cause => .streamError cause

/-- The reply to a flush. -/
def ofFlush : Except Fault Unit → Reply
  | .ok () => .done
  | .error cause => .fault cause

/-- The reply to a take-over. -/
def ofHijack : Except Fault Bytes → Reply
  | .ok waiting => .taken waiting
  | .error cause => .fault cause

end Reply

namespace Call

variable {σ : Type} [Sink σ]

/-- **Carrying a call out.** -/
def perform (call : Call) (s : σ) : Reply × σ :=
  match call with
  | .set name value =>
    match fieldName? name with
    | some name =>
      if isFieldValue value then
        (.existed ((Sink.headers s).contains name),
          Sink.editHeaders s fun h => h.insert name value)
      else (.badHeader, s)
    | none => (.badHeader, s)
  | .append name value =>
    match fieldName? name with
    | some name =>
      if isFieldValue value then
        (.existed ((Sink.headers s).contains name),
          Sink.editHeaders s fun h => h.append name value)
      else (.badHeader, s)
    | none => (.badHeader, s)
  | .remove name =>
    match fieldName? name with
    | some name =>
      (.existed ((Sink.headers s).contains name), Sink.editHeaders s fun h => h.remove name)
    | none => (.existed false, s)
  | .get name =>
    (.values (((fieldName? name).map (Sink.headers s).values).getD []), s)
  | .status code =>
    if Status.valid code then (.done, Sink.sendStatus s code) else (.badStatus, s)
  | .write data =>
    let (attempt, s) := Sink.write s data
    (.ofAttempt attempt, s)
  | .writeAll data =>
    let (result, s) := Sink.writeAll s data
    (.ofStream result, s)
  | .flush =>
    let (result, s) := Sink.flush s
    (.ofFlush result, s)
  | .hijack answer =>
    let (result, s) := Sink.hijack s answer
    (.ofHijack result, s)
  | .errorReply code message =>
    if Status.valid code then (.done, Sink.errorReply s code message) else (.badStatus, s)

/-- Carrying calls out one after the other. -/
def performAll (calls : List Call) (s : σ) : List Reply × σ :=
  match calls with
  | [] => ([], s)
  | call :: calls =>
    let (reply, s) := call.perform s
    let (replies, s) := performAll calls s
    (reply :: replies, s)

end Call

end HttpPipeline
