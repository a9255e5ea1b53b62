import HttpPipeline.Gzip.Stream
import HttpPipeline.Gzip.Pool
import HttpPipeline.Proofs.Gzip.Stored

/-!
# What a compressed stream writes

A stream that is ended has written one member, and the member holds the data that entered
the stream. The encoder is taken to be correct in one respect: what it has given out when
its stream is ended decodes to all its input (`Deflater.EndsDecodable`).

While a stream is open, `GzipStream.Holds s plain out` relates it to the data `plain` that
entered and to the bytes `out` that it gave out. Each operation hands its output to the sink
in one piece, or two at the end, and what it hands over depends on the stream alone. So the
laws of `write`, `flush` and `finish` name that output and leave it open what the sink does
with it: `Holds.write`, `Holds.flush` and `Holds.finish`.
-/

namespace HttpPipeline

namespace Deflater

/-- **Correct at the end.** Whatever an encoder was asked before, its whole output after the
end decodes to its whole input and ends where the encoder ended it. -/
def EndsDecodable (ε : Type) [Deflater ε] : Prop :=
  ∀ (level : Nat) (rs : List Request) (rest : Bytes),
    inflate ((run (start level : ε) rs).2 ++ (finish (run (start level : ε) rs).1).2 ++ rest)
      = (rs.flatMap Request.input, .ended rest)

theorem endsDecodable (ε : Type) [Deflater ε] [LawfulDeflater ε] : EndsDecodable ε :=
  LawfulDeflater.inflate_finish

/-- **Correct at a flush.** What was given out up to a `sync` decodes to all input so far, and
the stream is open. -/
def SyncDecodable (ε : Type) [Deflater ε] : Prop :=
  ∀ (level : Nat) (rs : List Request),
    inflate (run (start level : ε) (rs ++ [.sync])).2 = (rs.flatMap Request.input, .truncated)

theorem syncDecodable (ε : Type) [Deflater ε] [LawfulDeflater ε] : SyncDecodable ε :=
  LawfulDeflater.inflate_sync

end Deflater

namespace Member

/-- **One member** that holds some data: a header, a deflate stream that decodes to the data
and ends there, and a trailer for the data; and that is also how it is read. -/
structure Holds (member data : Bytes) : Prop where
  layout : ∃ deflated, member = header ++ deflated ++
    trailer (crc32 data) (UInt32.ofNat data.length) ∧ inflate deflated = (data, .ended [])
  decode : decode? member = some data

/-- The parts of a member, put together. -/
theorem Holds.ofParts {deflated data : Bytes}
    (h : ∀ rest, inflate (deflated ++ rest) = (data, .ended rest)) :
    Holds (header ++ deflated ++ trailer (crc32 data) (UInt32.ofNat data.length)) data where
  layout := ⟨deflated, rfl, by simpa using h []⟩
  decode := by
    have hheader : header.isPrefixOf (header ++ (deflated ++
        trailer (crc32 data) (UInt32.ofNat data.length))) = true := by
      rw [List.isPrefixOf_iff_prefix]
      exact List.prefix_append _ _
    rw [List.append_assoc, decode?, body?, if_pos hheader, List.drop_left, Option.map_some,
      readBody, h]
    simp

/-- **A member that is not ended**, and the data that can be read from it already. -/
def Unfinished (bytes data : Bytes) : Prop :=
  (body? bytes).map readBody = some (.unfinished data)

theorem unfinished_of_inflate {deflated data : Bytes} (h : inflate deflated = (data, .truncated)) :
    Unfinished (header ++ deflated) data := by
  have hheader : header.isPrefixOf (header ++ deflated) = true := by
    rw [List.isPrefixOf_iff_prefix]
    exact List.prefix_append _ _
  rw [Unfinished, body?, if_pos hheader, List.drop_left, Option.map_some, readBody, h]

end Member

namespace GzipStream

variable {ε : Type} [Deflater ε]

/-- An open stream that some data entered and that gave some bytes out. -/
structure Holds (s : GzipStream ε) (plain out : Bytes) : Prop where
  isOpen : s.finished = false
  checksum : s.checksum = Crc32.start.update plain
  length : s.length = UInt32.ofNat plain.length
  /-- What the encoder was asked for, and what it has given out after the header. -/
  encoder : ∃ rs : List Deflater.Request,
    s.encoder = (Deflater.run (Deflater.start s.level) rs).1 ∧
    plain = rs.flatMap Deflater.Request.input ∧
    out ++ s.pendingHeader = Member.header ++ (Deflater.run (Deflater.start s.level : ε) rs).2

theorem holds_new (level : Nat) : (new level : GzipStream ε).Holds [] [] :=
  ⟨rfl, rfl, rfl, [], rfl, rfl, by simp [pendingHeader, new, Deflater.run]⟩

namespace Holds

variable {s : GzipStream ε} {plain out : Bytes}

/-- One more request to the encoder, after the header. -/
theorem serve (h : s.Holds plain out) (r : Deflater.Request) :
    ({ s with
        encoder := (Deflater.serve s.encoder r).1
        checksum := s.checksum.update r.input
        length := s.length + UInt32.ofNat r.input.length
        headerWritten := true } : GzipStream ε).Holds (plain ++ r.input)
      (out ++ (s.pendingHeader ++ (Deflater.serve s.encoder r).2)) := by
  obtain ⟨rs, hencoder, hplain, hout⟩ := h.encoder
  -- the run of the encoder is one request longer
  have hrun : Deflater.run (Deflater.start s.level : ε) (rs ++ [r])
      = ((Deflater.serve s.encoder r).1,
        (Deflater.run (Deflater.start s.level : ε) rs).2 ++ (Deflater.serve s.encoder r).2) := by
    rw [Deflater.run_append, hencoder]
    simp [Deflater.run]
  refine ⟨h.isOpen, ?_, ?_, rs ++ [r], ?_, ?_, ?_⟩
  · simp only [h.checksum, Crc32.update_append]
  · simp only [h.length, List.length_append, UInt32.ofNat_add]
  · simp only [hrun]
  · rw [List.flatMap_append, hplain]
    simp
  · rw [hrun, ← List.append_assoc out, hout]
    simp [pendingHeader]

/-- **Data enters**, and the stream hands over what the encoder gives out. -/
theorem write (h : s.Holds plain out) (data : Bytes) :
    ∃ (s' : GzipStream ε) (more : Bytes), s'.Holds (plain ++ data) (out ++ more) ∧
      ∀ {σ : Type} [Sink σ] (sink : σ), MemberStream.write s data sink
        = ((Sink.writeAll sink more).1, s', (Sink.writeAll sink more).2) := by
  refine ⟨_, _, h.serve (.push data), fun sink => ?_⟩
  rw [memberStream_write, GzipStream.write, h.isOpen]
  rfl

/-- **A flush** enters no data, and makes readable what has entered. -/
theorem flush_readable (h : s.Holds plain out) :
    ∃ (s' : GzipStream ε) (more : Bytes), s'.Holds plain (out ++ more) ∧
      (Deflater.SyncDecodable ε → Member.Unfinished (out ++ more) plain) ∧
      ∀ {σ : Type} [Sink σ] (sink : σ), MemberStream.flush s sink
        = ((Sink.writeAll sink more).1, s', (Sink.writeAll sink more).2) := by
  have hserve := h.serve .sync
  -- checksum and length are updated with no data
  have hsame : s.checksum.update [] = s.checksum ∧ s.length + UInt32.ofNat 0 = s.length :=
    ⟨rfl, by simp⟩
  simp only [Deflater.Request.input, List.length_nil, hsame, List.append_nil] at hserve
  refine ⟨_, _, hserve, fun hε => ?_, fun sink => ?_⟩
  · obtain ⟨rs, hencoder, hplain, hout⟩ := h.encoder
    have hsync := hε s.level rs
    have hrun : (Deflater.run (Deflater.start s.level : ε) (rs ++ [.sync])).2
        = (Deflater.run (Deflater.start s.level : ε) rs).2
          ++ (Deflater.serve s.encoder .sync).2 := by
      rw [Deflater.run_append, hencoder]
      simp [Deflater.run]
    rw [← List.append_assoc, hout, hplain, List.append_assoc, ← hrun]
    exact Member.unfinished_of_inflate hsync
  · rw [memberStream_flush, GzipStream.flush, h.isOpen]
    rfl

theorem flush (h : s.Holds plain out) :
    ∃ (s' : GzipStream ε) (more : Bytes), s'.Holds plain (out ++ more) ∧
      ∀ {σ : Type} [Sink σ] (sink : σ), MemberStream.flush s sink
        = ((Sink.writeAll sink more).1, s', (Sink.writeAll sink more).2) := by
  obtain ⟨s', more, hholds, -, hstep⟩ := h.flush_readable
  exact ⟨s', more, hholds, hstep⟩

/-- **The end.** The stream hands over the end of the deflate stream and then the trailer, and
the first of these that is not taken is the last. With both of them the sink has been given one
member that holds all data. The stream counts as ended before the trailer goes down. -/
theorem finish_eq (hε : Deflater.EndsDecodable ε) (h : s.Holds plain out) :
    ∃ (tail trailer : Bytes) (opened ended : GzipStream ε),
      Member.Holds (out ++ tail ++ trailer) plain ∧ ended.finished = true ∧
      ∀ {σ : Type} [Sink σ] (sink : σ), MemberStream.finish s sink =
        match Sink.writeAll sink tail with
        | (.error cause, sink') => (.error cause, opened, sink')
        | (.ok (), sink') =>
          ((Sink.writeAll sink' trailer).1, ended, (Sink.writeAll sink' trailer).2) := by
  obtain ⟨rs, hencoder, hplain, hout⟩ := h.encoder
  let opened : GzipStream ε :=
    { s with encoder := (Deflater.finish s.encoder).1, headerWritten := true }
  refine ⟨s.pendingHeader ++ (Deflater.finish s.encoder).2,
    Member.trailer s.checksum.value s.length, opened, { opened with finished := true }, ?_, rfl, ?_⟩
  · have hdecode := hε s.level rs
    rw [← hplain, ← hencoder] at hdecode
    have hmember := Member.Holds.ofParts hdecode
    rw [← List.append_assoc out, hout, h.checksum, h.length, List.append_assoc Member.header]
    exact hmember
  · intro σ _ sink
    have hopen : ¬s.finished = true := by rw [h.isOpen]; exact Bool.false_ne_true
    exact if_neg hopen

/-- The end, over a sink that takes it. -/
theorem finish (hε : Deflater.EndsDecodable ε) (h : s.Holds plain out) :
    ∃ tail trailer : Bytes, Member.Holds (out ++ tail ++ trailer) plain ∧
      ∀ {σ : Type} [Sink σ] {sink sink₁ sink₂ : σ},
        Sink.writeAll sink tail = (.ok (), sink₁) → Sink.writeAll sink₁ trailer = (.ok (), sink₂) →
        ∃ s', MemberStream.finish s sink = (.ok (), s', sink₂) := by
  obtain ⟨tail, trailer, opened, ended, hmember, -, hfinish⟩ := h.finish_eq hε
  refine ⟨tail, trailer, hmember, fun htail htrailer => ⟨ended, ?_⟩⟩
  simp only [hfinish, htail, htrailer]

end Holds

end GzipStream

/-! ### Streams from a pool -/

namespace EncoderPool

variable {ε : Type} [Deflater ε]

/-- Every stream that waits to be lent is new. -/
theorem Reachable.idle_new {p : EncoderPool (GzipStream ε)} (h : Reachable p) :
    ∀ s ∈ p.idle, ∃ level, s = .new level := by
  induction h with
  | made level maxIdle => exact fun s hs => absurd hs List.not_mem_nil
  | lent h ih =>
    intro s hs
    apply ih
    unfold acquire at hs
    split at hs
    · assumption
    · -- the first stream is lent, and the others stay
      rename_i first idle heq
      rw [heq]
      exact List.mem_cons_of_mem _ hs
  | returned h s ih =>
    intro t ht
    unfold release at ht
    split at ht
    · rcases List.mem_cons.mp ht with rfl | hold
      · -- the stream is reset when it comes back
        exact ⟨s.level, s.reset_eq_new⟩
      · exact ih t hold
    · exact ih t ht

/-- **A lent stream is new.** -/
theorem Reachable.acquire_new {p : EncoderPool (GzipStream ε)} (h : Reachable p) :
    ∃ level, p.acquire.1 = .new level := by
  unfold acquire
  split
  · exact ⟨p.level, rfl⟩
  · rename_i first idle heq
    exact h.idle_new first (heq ▸ List.mem_cons_self)

end EncoderPool

end HttpPipeline
