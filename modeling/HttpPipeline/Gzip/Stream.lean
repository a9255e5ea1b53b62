import HttpPipeline.Gzip.Crc32
import HttpPipeline.Gzip.Encoder
import HttpPipeline.Gzip.MemberStream

/-!
# Compressed streams

A gzip member is a header of ten bytes, a deflate stream, and a trailer with the
checksum and the length of the data, each in four bytes, low byte first.

`GzipStream` writes one member to a sink, piece by piece. The first operation
writes the header, and `finish` writes the end of the deflate stream and then the
trailer. After that the stream is closed: writing and flushing fail, and finishing
again does nothing. What an operation gives out it writes at once; if the sink
fails, those bytes are lost, the checksum has nevertheless counted the input, and
the failure is the result.

`Member.read` is the other side. It reads a member and says how far one could.
-/

namespace HttpPipeline

/-- The header of a member: deflate, no flags, no time, unknown system. -/
def Member.header : Bytes := [0x1f, 0x8b, 0x08, 0, 0, 0, 0, 0, 0, 0xff]

/-- The trailer of a member: checksum and length of the data. -/
def Member.trailer (checksum length : UInt32) : Bytes :=
  Bytes.littleEndian 4 checksum.toNat ++ Bytes.littleEndian 4 length.toNat

/-! ### Writing a member -/

/-- A member that is being written. -/
structure GzipStream (ε : Type) where
  level : Nat
  encoder : ε
  checksum : Crc32 := .start
  /-- The length of the data modulo `2 ^ 32`. -/
  length : UInt32 := 0
  headerWritten : Bool := false
  finished : Bool := false

namespace GzipStream

variable {ε σ : Type} [Deflater ε] [Sink σ]

/-- A stream of which nothing has been written. -/
def new (level : Nat) : GzipStream ε := { level, encoder := Deflater.start level }

/-- A stream is made ready for another member, part by part. -/
def reset (s : GzipStream ε) : GzipStream ε :=
  { s with
    encoder := Deflater.reset s.level s.encoder
    checksum := .start
    length := 0
    headerWritten := false
    finished := false }

/-- Nothing is left of what was written before. -/
theorem reset_eq_new (s : GzipStream ε) : s.reset = new s.level := by
  rw [reset, new, Deflater.reset_eq]

omit [Deflater ε] in
/-- Whether nothing has entered the stream. -/
def isPristine (s : GzipStream ε) : Bool := !s.headerWritten && s.length == 0

omit [Deflater ε] in
/-- The header, if it is still to be written. -/
def pendingHeader (s : GzipStream ε) : Bytes := if s.headerWritten then [] else Member.header

/-- Data enters the stream, and what the encoder gives out goes to the sink. -/
def write (s : GzipStream ε) (data : Bytes) (sink : σ) :
    Except StreamError Unit × GzipStream ε × σ :=
  if s.finished then (.error .alreadyFinished, s, sink)
  else
    let (encoder, out) := Deflater.push s.encoder data
    let (result, sink) := Sink.writeAll sink (s.pendingHeader ++ out)
    (result,
      { s with
        encoder
        checksum := s.checksum.update data
        length := s.length + UInt32.ofNat data.length
        headerWritten := true },
      sink)

/-- All data so far becomes decodable at the sink. -/
def flush (s : GzipStream ε) (sink : σ) : Except StreamError Unit × GzipStream ε × σ :=
  if s.finished then (.error .alreadyFinished, s, sink)
  else
    let (encoder, out) := Deflater.sync s.encoder
    let (result, sink) := Sink.writeAll sink (s.pendingHeader ++ out)
    (result, { s with encoder, headerWritten := true }, sink)

/-- The member is ended. If the sink fails before the trailer is due, the stream
stays open and can be finished again. -/
def finish (s : GzipStream ε) (sink : σ) : Except StreamError Unit × GzipStream ε × σ :=
  if s.finished then (.ok (), s, sink)
  else
    let (encoder, out) := Deflater.finish s.encoder
    let opened := { s with encoder, headerWritten := true }
    match Sink.writeAll sink (s.pendingHeader ++ out) with
    | (.error cause, sink) => (.error cause, opened, sink)
    | (.ok (), sink) =>
      -- from here on the member counts as ended, even if its trailer is lost
      let (result, sink) := Sink.writeAll sink (Member.trailer s.checksum.value s.length)
      (result, { opened with finished := true }, sink)

instance : MemberStream (GzipStream ε) where
  new := new
  reset := reset
  write := write
  flush := flush
  finish := finish
  write_mirrors := by
    intro σ _ R hR sink sink' h s data
    unfold write
    split
    · exact ⟨rfl, rfl, h⟩
    · have hwrite := hR.writeAll h (s.pendingHeader ++ (Deflater.push s.encoder data).2)
      exact ⟨hwrite.answer, rfl, hwrite.left⟩
  flush_mirrors := by
    intro σ _ R hR sink sink' h s
    unfold flush
    split
    · exact ⟨rfl, rfl, h⟩
    · have hwrite := hR.writeAll h (s.pendingHeader ++ (Deflater.sync s.encoder).2)
      exact ⟨hwrite.answer, rfl, hwrite.left⟩
  finish_mirrors := by
    intro σ _ R hR sink sink' h s
    unfold finish
    split
    · exact ⟨rfl, rfl, h⟩
    · simp only
      refine (hR.writeAll h (s.pendingHeader ++ (Deflater.finish s.encoder).2)).elim
        fun result _ _ hleft => ?_
      -- the trailer is written if the end of the deflate stream was
      cases result with
      | error cause => exact ⟨rfl, rfl, hleft⟩
      | ok =>
        have htrailer := hR.writeAll hleft (Member.trailer s.checksum.value s.length)
        exact ⟨htrailer.answer, rfl, htrailer.left⟩

section MemberStream

variable (s : GzipStream ε) (data : Bytes) (sink : σ)

@[simp] theorem memberStream_write : MemberStream.write s data sink = s.write data sink := rfl

@[simp] theorem memberStream_flush : MemberStream.flush s sink = s.flush sink := rfl

@[simp] theorem memberStream_finish : MemberStream.finish s sink = s.finish sink := rfl

end MemberStream

end GzipStream

/-- The streams the pipeline runs with. -/
abbrev Stored := GzipStream StoredBlocks

/-! ### Reading a member -/

/-- How far a member could be read, with the data read. -/
inductive Member.Reading
  /-- The deflate stream ended, and its trailer and nothing else follows. -/
  | complete (data : Bytes)
  /-- The deflate stream ended, and something else follows. -/
  | badTrailer (data : Bytes)
  /-- The deflate stream has not ended. -/
  | unfinished (data : Bytes)
  | corrupt
  deriving DecidableEq, Repr

namespace Member

/-- What follows the header of a member, if the bytes start with one. -/
def body? (bytes : Bytes) : Option Bytes :=
  if header.isPrefixOf bytes then some (bytes.drop header.length) else none

/-- Reading what follows the header of a member. -/
def readBody (body : Bytes) : Reading :=
  match inflate body with
  | (data, .ended rest) =>
    if rest = trailer (crc32 data) (UInt32.ofNat data.length) then .complete data
    else .badTrailer data
  | (data, .truncated) => .unfinished data
  | (_, .corrupt) => .corrupt

/-- The data of some bytes that are exactly one member. -/
def decode? (bytes : Bytes) : Option Bytes :=
  match (body? bytes).map readBody with
  | some (.complete data) => some data
  | _ => none

end Member

end HttpPipeline
