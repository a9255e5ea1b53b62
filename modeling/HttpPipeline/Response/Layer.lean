import HttpPipeline.Response.Sink

/-!
# Layers that look at what passes

A layer is a sink over a sink. The layers of this module forward everything
they are given and differ in what they remember.

* `StatusLayer` remembers the first status, the bytes that the sink below
  accepted, and a successful take-over. Its `effectiveStatus` is what an access
  log reports.
* `CommitLayer` remembers whether any part of the response may have been
  committed: a final status, any write, or a flush or take-over that succeeded.
  A handler that fails can be answered with an error only before that.
* `PassLayer` remembers nothing. A request for a capability passes through it, or,
  if it is `closed`, is refused there: the sink below is then out of reach.

A flush or a take-over is answered by the sink below, and the layer takes note of
the answer only.
-/

namespace HttpPipeline

/-! ### The status of a response -/

/-- A layer that remembers the status of the response. -/
structure StatusLayer (σ : Type) where
  inner : σ
  /-- The first status, given or implied. -/
  status : Option Status := none
  /-- How many bytes the sink below accepted. -/
  bytesWritten : Nat := 0
  hijacked : Bool := false

namespace StatusLayer

variable {σ : Type}

/-- The status to report: the first one; without any, `101` for a connection that
was taken over and `200` otherwise. -/
def effectiveStatus (l : StatusLayer σ) : Status :=
  l.status.getD (if l.hijacked then 101 else 200)

/-- The layer with a status implied by something else. -/
def imply (l : StatusLayer σ) (status : Status) : StatusLayer σ :=
  { l with status := some (l.status.getD status) }

variable [Sink σ]

/-- The first status is remembered and passed on; later ones are dropped. -/
def sendStatus (l : StatusLayer σ) (status : Status) : StatusLayer σ :=
  match l.status with
  | some _ => l
  | none => { l with status := some status, inner := Sink.sendStatus l.inner status }

/-- A write implies `200`. What the sink below accepted is counted. -/
def write (l : StatusLayer σ) (data : Bytes) : Attempt × StatusLayer σ :=
  let l := l.imply 200
  match Sink.write l.inner data with
  | (.accepted count, inner) =>
    (.accepted count, { l with inner, bytesWritten := l.bytesWritten + count })
  | (attempt, inner) => (attempt, { l with inner })

/-- A flush that succeeds implies `200`. -/
def flush (l : StatusLayer σ) : Except Fault Unit × StatusLayer σ :=
  match Sink.flush l.inner with
  | (.ok (), inner) => (.ok (), { l.imply 200 with inner })
  | (.error fault, inner) => (.error fault, { l with inner })

/-- A take-over that succeeds is remembered. -/
def hijack (l : StatusLayer σ) (answer : Bytes) : Except Fault Bytes × StatusLayer σ :=
  match Sink.hijack l.inner answer with
  | (.ok waiting, inner) => (.ok waiting, { l with inner, hijacked := true })
  | (.error fault, inner) => (.error fault, { l with inner })

instance : Sink (StatusLayer σ) where
  headers l := Sink.headers l.inner
  setHeaders l h := { l with inner := Sink.setHeaders l.inner h }
  sendStatus := StatusLayer.sendStatus
  write := StatusLayer.write
  flush := StatusLayer.flush
  hijack := StatusLayer.hijack
  patience l := Sink.patience l.inner
  patience_lt := by
    intro l data message h
    have key := @Sink.patience_lt σ _ l.inner data message
    simp only [StatusLayer.write, imply] at h ⊢
    split at h <;> simp_all

end StatusLayer

/-! ### Whether a response was committed -/

/-- A layer that remembers whether the response may have been committed. -/
structure CommitLayer (σ : Type) where
  inner : σ
  /-- Some part of the response may have reached the client. -/
  written : Bool := false

namespace CommitLayer

variable {σ : Type} [Sink σ]

/-- A final status commits the response. -/
def sendStatus (l : CommitLayer σ) (status : Status) : CommitLayer σ :=
  { written := l.written || Status.final status, inner := Sink.sendStatus l.inner status }

/-- A write commits the response, whatever comes of it. -/
def write (l : CommitLayer σ) (data : Bytes) : Attempt × CommitLayer σ :=
  let (attempt, inner) := Sink.write l.inner data
  (attempt, { inner, written := true })

/-- A flush commits the response if it succeeds. -/
def flush (l : CommitLayer σ) : Except Fault Unit × CommitLayer σ :=
  match Sink.flush l.inner with
  | (.ok (), inner) => (.ok (), { inner, written := true })
  | (.error fault, inner) => (.error fault, { l with inner })

/-- A take-over commits the response if it succeeds. -/
def hijack (l : CommitLayer σ) (answer : Bytes) : Except Fault Bytes × CommitLayer σ :=
  match Sink.hijack l.inner answer with
  | (.ok waiting, inner) => (.ok waiting, { inner, written := true })
  | (.error fault, inner) => (.error fault, { l with inner })

instance : Sink (CommitLayer σ) where
  headers l := Sink.headers l.inner
  setHeaders l h := { l with inner := Sink.setHeaders l.inner h }
  sendStatus := CommitLayer.sendStatus
  write := CommitLayer.write
  flush := CommitLayer.flush
  hijack := CommitLayer.hijack
  patience l := Sink.patience l.inner
  patience_lt := by
    intro l data message h
    exact @Sink.patience_lt σ _ l.inner data message h

end CommitLayer

/-! ### Layers without a memory -/

/-- A layer that remembers nothing. -/
structure PassLayer (σ : Type) where
  inner : σ
  /-- Requests for a capability end here. -/
  closed : Bool := false

namespace PassLayer

variable {σ : Type} [Sink σ]

/-- A flush passes through an open layer. -/
def flush (l : PassLayer σ) : Except Fault Unit × PassLayer σ :=
  if l.closed then (.error .flushNotSupported, l)
  else
    let (result, inner) := Sink.flush l.inner
    (result, { l with inner })

/-- A take-over passes through an open layer. -/
def hijack (l : PassLayer σ) (answer : Bytes) : Except Fault Bytes × PassLayer σ :=
  if l.closed then (.error .hijackNotSupported, l)
  else
    let (result, inner) := Sink.hijack l.inner answer
    (result, { l with inner })

instance : Sink (PassLayer σ) where
  headers l := Sink.headers l.inner
  setHeaders l h := { l with inner := Sink.setHeaders l.inner h }
  sendStatus l status := { l with inner := Sink.sendStatus l.inner status }
  write l data :=
    let (attempt, inner) := Sink.write l.inner data
    (attempt, { l with inner })
  flush := PassLayer.flush
  hijack := PassLayer.hijack
  patience l := Sink.patience l.inner
  patience_lt := by
    intro l data message h
    exact @Sink.patience_lt σ _ l.inner data message h

end PassLayer

end HttpPipeline
