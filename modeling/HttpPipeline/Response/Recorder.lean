import HttpPipeline.Response.Sink

/-!
# Recording a response in memory

A `Recorder` keeps what a client would receive. The head is fixed by the first
status, or by the first write, which implies `200`: the headers of that moment
are what the client sees, and later edits are visible in the live headers only.
A flush has nothing to push out and is merely counted.

Header values are bytes, and a recorder shows them as text (`Recorder.header?`,
`Recorder.headerAll`). A value that cannot be read as text is not shown.

A recorder may be given a connection, described by the bytes that wait to be
read on it. Taking it over works once; from then on statuses are ignored, writes
and flushes fail, and the recorded response stays as it was.
-/

namespace HttpPipeline

/-- The head of a response as it was sent. -/
structure Head where
  status : Status
  headers : Headers
  deriving DecidableEq, Inhabited

/-- The values of a header, in order. -/
def Head.values (head : Head) (name : Bytes) : List Bytes :=
  ((fieldName? name).map head.headers.values).getD []

/-- A response recorded in memory. -/
structure Recorder where
  /-- The live headers. -/
  headers : Headers := {}
  /-- The head, once it has been sent. -/
  sent : Option Head := none
  body : Bytes := []
  /-- How many flushes arrived. -/
  flushes : Nat := 0
  /-- What waits to be read on the connection, while there is one to take. -/
  connection : Option Bytes := none
  hijacked : Bool := false
  /-- What was sent on the connection after it had been taken over. -/
  answered : Bytes := []
  deriving DecidableEq, Inhabited

namespace Recorder

/-- A recorder whose connection can be taken over. -/
def withConnection (waiting : Bytes) : Recorder := { connection := some waiting }

/-- The status the client sees; `200` if none was sent. -/
def status (r : Recorder) : Status := (r.sent.map Head.status).getD 200

/-- The headers the client sees; the live ones while no head was sent. -/
def sentHeaders (r : Recorder) : Headers := (r.sent.map Head.headers).getD r.headers

/-- The head the client sees. -/
def head (r : Recorder) : Head := ⟨r.status, r.sentHeaders⟩

/-- The first value of a header that the client sees, if it can be read as text. -/
def header? (r : Recorder) (name : Bytes) : Option String :=
  (r.head.values name).head?.bind visibleText?

/-- All values of a header that the client sees, but for those that cannot be read as text. -/
def headerAll (r : Recorder) (name : Bytes) : List String :=
  (r.head.values name).filterMap visibleText?

/-- The head is sent, unless it already was. -/
def sendHead (r : Recorder) (status : Status) : Recorder :=
  match r.sent with
  | some _ => r
  | none => { r with sent := some ⟨status, r.headers⟩ }

/-- A status fixes the head, unless the connection is gone. -/
def sendStatus (r : Recorder) (status : Status) : Recorder :=
  if r.hijacked then r else r.sendHead status

/-- Every write is accepted whole, unless the connection is gone. -/
def write (r : Recorder) (data : Bytes) : Attempt × Recorder :=
  if r.hijacked then (.failed Fault.hijacked.toStream, r)
  else
    let r := r.sendHead 200
    (.accepted data.length, { r with body := r.body ++ data })

/-- A flush is counted. It does not send the head. -/
def flush (r : Recorder) : Except Fault Unit × Recorder :=
  if r.hijacked then (.error .hijacked, r)
  else (.ok (), { r with flushes := r.flushes + 1 })

/-- The connection can be taken over once, if there is one. -/
def hijack (r : Recorder) (answer : Bytes) : Except Fault Bytes × Recorder :=
  if r.hijacked then (.error .alreadyHijacked, r)
  else match r.connection with
    | none => (.error .hijackNotSupported, r)
    | some waiting =>
      (.ok waiting, { r with connection := none, hijacked := true, answered := answer })

instance : Sink Recorder where
  headers := Recorder.headers
  setHeaders r h := { r with headers := h }
  sendStatus := Recorder.sendStatus
  write := Recorder.write
  flush := Recorder.flush
  hijack := Recorder.hijack
  patience _ := 0
  patience_lt := by
    intro r data message h
    simp only [Recorder.write] at h
    split at h <;> simp at h

end Recorder

end HttpPipeline
