import HttpPipeline.Gzip.MemberStream
import HttpPipeline.Http.MediaType
import HttpPipeline.Http.Sniff

/-!
# The layer that decides whether to compress

`GzipLayer` holds the start of a response back until it can tell whether
compressing it is worth while. While the decision is pending, body bytes collect
in a buffer and the status waits. The decision falls once: as soon as the buffer
has `minSize` bytes, at a flush, or when the response is closed. It falls against
compression

* for content that is compressed already, by its declared type or, if none is
  declared, by the type guessed from the buffer;
* for a body shorter than `minSize`;
* for a body that already has a content encoding;
* for the statuses `204`, `206` and `304` and for interim statuses.

At that moment the status goes down and then the buffer, through the compressed
stream or as it is. A response that is compressed declares its encoding and its
type, and withdraws its length.

The sink below may fail while the buffer goes down. The failure is kept
(`commitFailure`) and every later write, flush and close reports it again.

A take-over passes to the sink below. Once one has succeeded the layer sends
nothing more: writes and flushes fail, and closing does nothing.

## What is recorded

Each decision is reported to the metrics, and `reported` collects these reports
until the stage that owns the layer hands them on.
-/

namespace HttpPipeline

/-- Where a layer is in its decision. -/
inductive Decision
  | pending
  | compress
  | skip
  deriving DecidableEq, Repr, Inhabited

/-- A layer that decides whether to compress. -/
structure GzipLayer (τ σ : Type) where
  inner : σ
  stream : τ
  minSize : Nat
  /-- Body bytes held back until the decision. -/
  buffer : Bytes := []
  /-- The first status, given or implied. -/
  status : Option Status := none
  decision : Decision := .pending
  hijacked : Bool := false
  /-- How the sink below failed while the buffer went down. -/
  commitFailure : Option StreamError := none
  /-- The decisions reported to the metrics. -/
  reported : List Decision := []

namespace GzipLayer

variable {τ σ : Type}

/-- A layer before any part of a response. -/
def around (inner : σ) (stream : τ) (minSize : Nat) : GzipLayer τ σ :=
  { inner, stream, minSize }

/-! ### The decision -/

/-- The declared type of the body: the first value, if it can be read and is not
empty. -/
def declaredType? (headers : Headers) : Option String :=
  (headers.text? "content-type").filter (!·.isEmpty)

/-- Statuses whose body is never compressed. -/
def statusForbids (status : Status) : Bool :=
  status == 204 || status == 206 || status == 304 || Status.informational status

/-- **The decision** on a buffer, given the headers and the status of the moment. -/
def decide (headers : Headers) (status : Status) (minSize : Nat) (buffer : Bytes) : Decision :=
  let type := (declaredType? headers).getD (Sniff.detect buffer)
  let encoded := (headers.nonempty? "content-encoding").isSome
  if MediaType.isCompressed type || buffer.length < minSize || encoded || statusForbids status
  then .skip else .compress

/-- The headers of a compressed response. -/
def compressedHeaders (headers : Headers) (buffer : Bytes) : Headers :=
  let headers :=
    if (declaredType? headers).isSome then headers
    else headers.insert "content-type" (Bytes.ofString (Sniff.detect buffer))
  (headers.insert "content-encoding" (Bytes.ofString "gzip")).remove "content-length"

variable [MemberStream τ] [Sink σ]

/-- The buffer goes down, through the compressed stream or as it is. -/
def release (l : GzipLayer τ σ) : GzipLayer τ σ :=
  if l.buffer.isEmpty then l
  else
    let (result, stream, inner) :=
      match l.decision with
      | .compress => MemberStream.write l.stream l.buffer l.inner
      | _ =>
        let (result, inner) := Sink.writeAll l.inner l.buffer
        (result, l.stream, inner)
    { l with
      stream, inner
      buffer := []
      commitFailure :=
        match result with
        | .ok () => none
        | .error cause => some cause }

/-- **The decision falls**, unless it has. The status goes down, then the buffer. -/
def commit (l : GzipLayer τ σ) : GzipLayer τ σ :=
  match l.decision with
  | .pending =>
    let headers := Sink.headers l.inner
    let status := l.status.getD 200
    let decision := decide headers status l.minSize l.buffer
    -- the headers have to be right before the status sends them
    let inner :=
      match decision with
      | .compress => Sink.setHeaders l.inner (compressedHeaders headers l.buffer)
      | _ => l.inner
    release
      { l with
        decision
        status := some status
        inner := Sink.sendStatus inner status
        reported := l.reported ++ [decision] }
  | _ => l

/-! ### The layer as a sink -/

omit [MemberStream τ] [Sink σ] in
/-- The first status is remembered and held back. -/
def sendStatus (l : GzipLayer τ σ) (status : Status) : GzipLayer τ σ :=
  { l with status := some (l.status.getD status) }

omit [MemberStream τ] in
/-- A write after the decision against compression is passed on. -/
def passOn (l : GzipLayer τ σ) (data : Bytes) : Attempt × GzipLayer τ σ :=
  let (attempt, inner) := Sink.write l.inner data
  (attempt, { l with inner })

/-- A write after the decision for compression enters the compressed stream. -/
def compressOn (l : GzipLayer τ σ) (data : Bytes) : Attempt × GzipLayer τ σ :=
  match MemberStream.write l.stream data l.inner with
  | (.ok (), stream, inner) => (.accepted data.length, { l with stream, inner })
  | (.error cause, stream, inner) => (.failed cause, { l with stream, inner })

/-- What a write reports after the decision may have fallen. -/
def report (l : GzipLayer τ σ) (count : Nat) : Attempt × GzipLayer τ σ :=
  match l.commitFailure with
  | some cause => (.failed cause, l)
  | none => (.accepted count, l)

/-- A write before the decision enters the buffer, and brings the decision about
when the buffer has become long enough. -/
def collect (l : GzipLayer τ σ) (data : Bytes) : Attempt × GzipLayer τ σ :=
  let l := { l with buffer := l.buffer ++ data }
  (if l.buffer.length < l.minSize then l else l.commit).report data.length

/-- A write is collected, compressed or passed on, as the decision says. -/
def write (l : GzipLayer τ σ) (data : Bytes) : Attempt × GzipLayer τ σ :=
  if l.hijacked then (.failed Fault.hijacked.toStream, l)
  else match l.commitFailure with
    | some cause => (.failed cause, l)
    | none =>
      let l := l.sendStatus 200
      match l.decision with
      | .skip => l.passOn data
      | .compress => l.compressOn data
      | .pending => l.collect data

omit [MemberStream τ] [Sink σ] in
theorem report_ne_interrupted (l : GzipLayer τ σ) (count : Nat) (message : String) :
    (l.report count).1 ≠ .interrupted message := by
  unfold report
  split <;> simp

theorem compressOn_ne_interrupted (l : GzipLayer τ σ) (data : Bytes) (message : String) :
    (l.compressOn data).1 ≠ .interrupted message := by
  unfold compressOn
  split <;> simp

/-- Only an attempt that is passed on can have to be repeated. -/
theorem write_interrupted {l : GzipLayer τ σ} {data : Bytes} {message : String}
    (h : (l.write data).1 = .interrupted message) :
    l.write data = (l.sendStatus 200).passOn data := by
  unfold write at h ⊢
  split at h
  · simp at h
  · split at h
    · simp at h
    · simp only at h
      split at h
      · rename_i hd
        simp_all
      · exact absurd h (compressOn_ne_interrupted _ _ _)
      · exact absurd h (report_ne_interrupted _ _ _)

/-- A flush brings the decision about, makes what was written so far decodable, and
goes on to the sink below. -/
def flush (l : GzipLayer τ σ) : Except Fault Unit × GzipLayer τ σ :=
  if l.hijacked then (.error .hijacked, l)
  else
    let l := l.commit
    -- nothing can be flushed of a body whose beginning was lost
    match l.commitFailure with
    | some cause => (.error (.stream cause), l)
    | none =>
      match l.decision with
      | .compress =>
        match MemberStream.flush l.stream l.inner with
        | (.error cause, stream, inner) => (.error (.stream cause), { l with stream, inner })
        | (.ok (), stream, inner) =>
          -- the sink below may hold back what it has just been given
          let (result, inner) := Sink.flush inner
          (result, { l with stream, inner })
      | _ =>
        let (result, inner) := Sink.flush l.inner
        (result, { l with inner })

omit [MemberStream τ] in
/-- A take-over passes to the sink below and is remembered if it succeeds. -/
def hijack (l : GzipLayer τ σ) (answer : Bytes) : Except Fault Bytes × GzipLayer τ σ :=
  match Sink.hijack l.inner answer with
  | (.ok waiting, inner) => (.ok waiting, { l with inner, hijacked := true })
  | (.error fault, inner) => (.error fault, { l with inner })

instance : Sink (GzipLayer τ σ) where
  headers l := Sink.headers l.inner
  setHeaders l h := { l with inner := Sink.setHeaders l.inner h }
  sendStatus := GzipLayer.sendStatus
  write := GzipLayer.write
  flush := GzipLayer.flush
  hijack := GzipLayer.hijack
  patience l := Sink.patience l.inner
  patience_lt := by
    intro l data message h
    have hpass := write_interrupted h
    rw [hpass] at h ⊢
    exact @Sink.patience_lt σ _ l.inner data message h

/-! ### The end of a response -/

/-- **Closing.** The decision falls if it had not, and the compressed stream is
ended. Nothing happens to a connection that was taken over. -/
def close (l : GzipLayer τ σ) : Except StreamError Unit × GzipLayer τ σ :=
  if l.hijacked then (.ok (), l)
  else
    let l := l.commit
    match l.commitFailure with
    | some cause => (.error cause, l)
    | none =>
      match l.decision with
      | .compress =>
        let (result, stream, inner) := MemberStream.finish l.stream l.inner
        (result, { l with stream, inner })
      | _ => (.ok (), l)

/-- **Abandoning**, after a handler failed. A compressed stream that has begun is
ended, so that what the client has is well formed; nothing else is sent. -/
def abandon (l : GzipLayer τ σ) : GzipLayer τ σ :=
  match l.decision, l.hijacked with
  | .compress, false =>
    let (_, stream, inner) := MemberStream.finish l.stream l.inner
    { l with stream, inner }
  | _, _ => l

end GzipLayer

end HttpPipeline
