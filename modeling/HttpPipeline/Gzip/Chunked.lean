import HttpPipeline.Gzip.Compressor
import HttpPipeline.Gzip.Stream
import HttpPipeline.Loop

/-!
# Compressed streams, call by call

`GzipStream` leaves it to its encoder how the output of an operation comes about, and hands it over
in one piece. A `ChunkedStream` is the same stream with a compressor in the place of the encoder.
It makes the calls of an operation itself. Their output is gathered in a buffer, behind the header
if that is still to be written. There has to be room for a chunk before each call, and the buffer
goes to the sink when it holds one, and at the end of the operation. The calls are a loop
(`ChunkedStream.deflate`), so an operation has a result only if one of them is the last.

A failure stops an operation halfway. What the sink has not taken is lost, and what was left of the
input has never entered the compressor.
-/

namespace HttpPipeline

/-- A member that is being written, call by call. -/
structure ChunkedStream (κ : Type) where
  level : Nat
  compressor : κ
  checksum : Crc32 := .start
  /-- The length of the data modulo `2 ^ 32`. -/
  length : UInt32 := 0
  /-- What is still to go to the sink. -/
  out : Bytes := []
  /-- How many bytes there is room for in the buffer. -/
  capacity : Nat
  headerWritten : Bool := false
  finished : Bool := false

namespace ChunkedStream

/-- The room that is made for the output of a call. -/
def chunk : Nat := 8 * 1024

/-- The capacity of a buffer in which there is room for another chunk. If it has to grow, it grows
to twice its size at least. -/
def reserved (capacity length : Nat) : Nat :=
  if chunk ≤ capacity - length then capacity else max (2 * capacity) (length + chunk)

theorem chunk_le_reserved (capacity length : Nat) :
    chunk ≤ reserved capacity length - length := by
  unfold reserved
  split
  · assumption
  · omega

variable {κ σ : Type} [Compressor κ] [Sink σ]

/-- A stream of which nothing has been written. -/
def new (level : Nat) : ChunkedStream κ :=
  { level, compressor := Compressor.start level, capacity := chunk }

/-- A stream is made ready for another member, part by part. The buffer keeps its capacity. -/
def reset (s : ChunkedStream κ) : ChunkedStream κ :=
  { s with
    compressor := Compressor.reset s.level s.compressor
    checksum := .start
    length := 0
    out := []
    headerWritten := false
    finished := false }

/-- Whether nothing has entered the stream. -/
def isPristine (s : ChunkedStream κ) : Bool :=
  !s.headerWritten && s.length == 0 && Compressor.totalIn s.compressor == 0

omit [Compressor κ] in
/-- The stream with its header in the buffer, unless that has been there before. -/
def opened (s : ChunkedStream κ) : ChunkedStream κ :=
  if s.headerWritten then s
  else { s with out := s.out ++ Member.header, headerWritten := true }

omit [Compressor κ] in
/-- What is in the buffer goes to the sink, which may fail. -/
def drain (s : ChunkedStream κ) (sink : σ) : Except StreamError Unit × ChunkedStream κ × σ :=
  if s.out.isEmpty then (.ok (), s, sink)
  else
    let (result, sink) := Sink.writeAll sink s.out
    (result, { s with out := [] }, sink)

omit [Compressor κ] in
/-- The same if the buffer holds a chunk. -/
def drainChunk (s : ChunkedStream κ) (sink : σ) : Except StreamError Unit × ChunkedStream κ × σ :=
  if chunk ≤ s.out.length then s.drain sink else (.ok (), s, sink)

omit [Compressor κ] in
/-- Only the buffer changes. -/
theorem drain_keeps (s : ChunkedStream κ) (sink : σ) :
    ∃ out, (s.drain sink).2.1 = { s with out } := by
  unfold drain
  split
  · exact ⟨s.out, rfl⟩
  · exact ⟨[], rfl⟩

omit [Compressor κ] in
theorem drainChunk_keeps (s : ChunkedStream κ) (sink : σ) :
    ∃ out, (s.drainChunk sink).2.1 = { s with out } := by
  unfold drainChunk
  split
  · exact s.drain_keeps sink
  · exact ⟨s.out, rfl⟩

/-! ### The calls of an operation -/

section Call

variable (s : ChunkedStream κ) (mode : Compressor.Mode) (input : Bytes)

/-- What comes of the next call. -/
def answer : Compressor.Answer κ :=
  Compressor.compress s.compressor mode input (reserved s.capacity s.out.length - s.out.length)

/-- The input that is left after it. -/
def rest : Bytes :=
  input.drop (Compressor.totalIn (s.answer mode input).state - Compressor.totalIn s.compressor)

/-- The stream after it, with its output in the buffer. -/
def called : ChunkedStream κ :=
  { s with
    compressor := (s.answer mode input).state
    out := s.out ++ (s.answer mode input).out
    capacity := reserved s.capacity s.out.length }

end Call

/-- What an operation that ends comes to. -/
abbrev Result (κ σ : Type) := Except StreamError Unit × ChunkedStream κ × σ

/-- **One call of an operation.** Its output goes to the buffer, and on to the sink if the buffer
holds a chunk. If the operation is not over there is a stream, the rest of the input and a sink to
go on with. -/
def call (mode : Compressor.Mode) :
    ChunkedStream κ × Bytes × σ → Result κ σ ⊕ (ChunkedStream κ × Bytes × σ)
  | (s, input, sink) =>
    let called := s.called mode input
    match (s.answer mode input).result with
    | .error message => .inl (.error ⟨.other, message⟩, called, sink)
    | .ok status =>
      match called.drainChunk sink with
      | (.error cause, drained, sink) => .inl (.error cause, drained, sink)
      | (.ok (), drained, sink) =>
        -- the room counts as it was before the buffer was drained
        if status.isLast mode (s.rest mode input) (called.out.length < called.capacity) then
          .inl (drained.drain sink)
        else .inr (drained, s.rest mode input, sink)

section Call

variable {s drained : ChunkedStream κ} {mode : Compressor.Mode} {input : Bytes} {sink sink' : σ}

theorem call_of_error {message : String} (hresult : (s.answer mode input).result = .error message) :
    call mode (s, input, sink) = .inl (.error ⟨.other, message⟩, s.called mode input, sink) := by
  simp only [call, hresult]

variable {status : Compressor.Status} (hresult : (s.answer mode input).result = .ok status)

include hresult

theorem call_of_not_drained {cause : StreamError}
    (hdrain : (s.called mode input).drainChunk sink = (.error cause, drained, sink')) :
    call mode (s, input, sink) = .inl (.error cause, drained, sink') := by
  simp only [call, hresult, hdrain]

theorem call_of_drained
    (hdrain : (s.called mode input).drainChunk sink = (.ok (), drained, sink')) :
    call mode (s, input, sink) =
      if status.isLast mode (s.rest mode input)
        ((s.called mode input).out.length < (s.called mode input).capacity)
      then .inl (drained.drain sink') else .inr (drained, s.rest mode input, sink') := by
  simp only [call, hresult, hdrain]

end Call

/-- **The calls of an operation**, up to the last one. -/
def deflate (s : ChunkedStream κ) (mode : Compressor.Mode) (input : Bytes) (sink : σ) :
    Part (Result κ σ) :=
  loop (call mode) (s, input, sink)

/-- Data enters the stream. -/
def write (s : ChunkedStream κ) (data : Bytes) (sink : σ) : Part (Result κ σ) :=
  if s.finished then .some (.error .alreadyFinished, s, sink)
  else
    let counted := { s.opened with
      checksum := s.checksum.update data
      length := s.length + UInt32.ofNat data.length }
    counted.deflate .run data sink

/-- All data so far becomes decodable at the sink. -/
def flush (s : ChunkedStream κ) (sink : σ) : Part (Result κ σ) :=
  if s.finished then .some (.error .alreadyFinished, s, sink)
  else s.opened.deflate .sync [] sink

omit [Compressor κ] in
/-- The trailer follows the end of the deflate stream. -/
def addTrailer : Result κ σ → Result κ σ
  | (.error cause, s, sink) => (.error cause, s, sink)
  | (.ok (), s, sink) =>
    -- from here on the member counts as ended, even if its trailer is lost
    let (result, sink) := Sink.writeAll sink (Member.trailer s.checksum.value s.length)
    (result, { s with finished := true }, sink)

/-- The member is ended. -/
def finish (s : ChunkedStream κ) (sink : σ) : Part (Result κ σ) :=
  if s.finished then .some (.ok (), s, sink)
  else (s.opened.deflate .finish [] sink).map addTrailer

end ChunkedStream

end HttpPipeline
