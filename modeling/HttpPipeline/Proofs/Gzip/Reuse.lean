import HttpPipeline.Gzip.InUse
import HttpPipeline.Proofs.Gzip.Chunked
import HttpPipeline.Proofs.Response.Mirrored

/-!
# Chunked streams that are used again

A reset sets everything in a chunked stream back but the capacity of its buffer. So a stream that
was used may have room for two chunks where a new one has room for one (`ChunkedStream.AsNew`). The
header is the first thing in the buffer, and with it there is no room for another chunk, so that the
first call makes room for two chunks in any case. That is why nobody can tell the difference: every
operation on such a stream comes to what it comes to on a new one (`ChunkedStream.AsNew.perform`).

A stream in use keeps its level, and a buffer of one chunk or two that is not full between
operations (`ChunkedStream.Fits`), whatever the compressor gives out and however the sink fails. So
it is as new after its next reset (`ChunkedStream.Fits.reset`).
-/

namespace HttpPipeline.ChunkedStream

open Compressor (Mode)

variable {κ σ : Type} [Compressor κ] [Sink σ] {level : Nat} {s t : ChunkedStream κ}

/-! ### As good as new -/

/-- **As good as new**, though with a buffer that may have grown. -/
def AsNew (level : Nat) (s : ChunkedStream κ) : Prop :=
  s = new level ∨ s = { (new level : ChunkedStream κ) with capacity := 2 * chunk }

theorem asNew_new (level : Nat) : (new level : ChunkedStream κ).AsNew level := .inl rfl

/-- A call goes by the capacity only as far as room is made for it. -/
theorem call_capacity {capacity : Nat} (mode : Mode) (input : Bytes) (sink : σ)
    (h : reserved capacity s.out.length = reserved s.capacity s.out.length) :
    call mode ({ s with capacity }, input, sink) = call mode (s, input, sink) := by
  have hanswer :
      ({ s with capacity } : ChunkedStream κ).answer mode input = s.answer mode input := by
    simp only [answer, h]
  have hrest : ({ s with capacity } : ChunkedStream κ).rest mode input = s.rest mode input := by
    simp only [rest, hanswer]
  have hcalled :
      ({ s with capacity } : ChunkedStream κ).called mode input = s.called mode input := by
    simp only [called, hanswer, h]
  simp only [call, hanswer, hrest, hcalled]

/-- With a header in the buffer there is room for no other chunk. -/
theorem reserved_header :
    reserved (2 * chunk) Member.header.length = reserved chunk Member.header.length := by
  decide

/-- The calls of the first operation on a stream, with the header in the buffer. -/
theorem deflate_grown (hout : s.out = Member.header) (hcapacity : s.capacity = chunk) (mode : Mode)
    (input : Bytes) (sink : σ) :
    deflate { s with capacity := 2 * chunk } mode input sink = s.deflate mode input sink := by
  refine loop_congr (call_capacity mode input sink ?_)
  rw [hout, hcapacity]
  exact reserved_header

namespace AsNew

variable (h : s.AsNew level)

include h

theorem write (data : Bytes) (sink : σ) : s.write data sink = (new level).write data sink := by
  rcases h with rfl | rfl
  · rfl
  · let counted : ChunkedStream κ := { (new level : ChunkedStream κ).opened with
      checksum := Crc32.start.update data
      length := 0 + UInt32.ofNat data.length }
    exact deflate_grown (s := counted) rfl rfl .run data sink

theorem flush (sink : σ) : s.flush sink = (new level).flush sink := by
  rcases h with rfl | rfl
  · rfl
  · exact deflate_grown (s := (new level).opened) rfl rfl .sync [] sink

theorem finish (sink : σ) : s.finish sink = (new level).finish sink := by
  rcases h with rfl | rfl
  · rfl
  · exact congrArg (Part.map addTrailer)
      (deflate_grown (s := (new level).opened) rfl rfl .finish [] sink)

/-- **Every operation** comes to what it comes to on a new stream. -/
theorem perform (operation : GzipStream.Operation) (sink : σ) :
    ChunkedStream.perform operation s sink = ChunkedStream.perform operation (new level) sink := by
  cases operation with
  | write data => exact h.write data sink
  | flush => exact h.flush sink
  | finish => exact h.finish sink

/-- **Any operations** do, if there is one. -/
theorem performAll {operations : List GzipStream.Operation} (hsome : operations ≠ []) (sink : σ) :
    ChunkedStream.performAll operations s sink
      = ChunkedStream.performAll operations (new level) sink := by
  cases operations with
  | nil => exact absurd rfl hsome
  | cons operation operations =>
    rw [ChunkedStream.performAll, h.perform operation sink, ChunkedStream.performAll]

theorem level_eq : s.level = level := by
  rcases h with rfl | rfl <;> rfl

theorem isPristine_eq : s.isPristine = (new level : ChunkedStream κ).isPristine := by
  rcases h with rfl | rfl <;> rfl

end AsNew

/-! ### Streams in use -/

/-- **A stream between operations**: it has the level that it was made with, and a buffer of one
chunk or two that holds less than one, and nothing before the header. -/
structure Fits (level : Nat) (s : ChunkedStream κ) : Prop where
  level_eq : s.level = level
  capacity_eq : s.capacity = chunk ∨ s.capacity = 2 * chunk
  out_lt : s.out.length < chunk
  out_eq : s.headerWritten = false → s.out = []

theorem AsNew.fits (h : s.AsNew level) : s.Fits level := by
  rcases h with rfl | rfl
  · exact ⟨rfl, .inl rfl, (by decide : 0 < chunk), fun _ => rfl⟩
  · exact ⟨rfl, .inr rfl, (by decide : 0 < chunk), fun _ => rfl⟩

/-- **Reset, a stream is as new**, whatever else was in it. -/
theorem reset_asNew (hlevel : s.level = level)
    (hcapacity : s.capacity = chunk ∨ s.capacity = 2 * chunk) : s.reset.AsNew level := by
  have hreset : s.reset = { (new level : ChunkedStream κ) with capacity := s.capacity } := by
    rw [reset, Compressor.reset_eq, hlevel]
    rfl
  rw [hreset]
  exact hcapacity.imp (fun h => by rw [h]; rfl) fun h => by rw [h]

theorem Fits.reset (h : s.Fits level) : s.reset.AsNew level :=
  reset_asNew h.level_eq h.capacity_eq

/-! ### What an operation leaves -/

/-- **A stream within an operation**: its header was written, or is in the buffer. -/
structure Writing (level : Nat) (s : ChunkedStream κ) : Prop extends s.Fits level where
  headerWritten : s.headerWritten = true

namespace Writing

variable {sink sink' : σ}

omit [Compressor κ] in
theorem mk' (hlevel : s.level = level) (hcapacity : s.capacity = chunk ∨ s.capacity = 2 * chunk)
    (hout : s.out.length < chunk) (hheader : s.headerWritten = true) : s.Writing level :=
  ⟨⟨hlevel, hcapacity, hout, fun hfalse => absurd (hheader.symm.trans hfalse) (by decide)⟩, hheader⟩

omit [Compressor κ] in
/-- Room for one more chunk makes a buffer of one chunk or two. -/
theorem reserved_eq (h : s.Writing level) : reserved s.capacity s.out.length = chunk ∨
    reserved s.capacity s.out.length = 2 * chunk := by
  have hout := h.out_lt
  unfold reserved
  split_ifs with hroom
  · exact h.capacity_eq
  · -- there is none for another chunk, so the buffer had one chunk before
    right
    rcases h.capacity_eq with heq | heq <;> rw [heq] at hroom ⊢ <;> omega

omit [Compressor κ] in
/-- An operation begins with the header in the buffer. -/
theorem opened (h : s.Fits level) : s.opened.Writing level := by
  unfold ChunkedStream.opened
  split_ifs with hheader
  · exact ⟨h, hheader⟩
  · refine mk' h.level_eq h.capacity_eq ?_ rfl
    -- nothing was in the buffer before
    show (s.out ++ Member.header).length < chunk
    rw [h.out_eq (by simpa using hheader)]
    decide

omit [Compressor κ] in
/-- What a drained buffer leaves. -/
theorem drain (h : s.level = level) (hcapacity : s.capacity = chunk ∨ s.capacity = 2 * chunk)
    (hheader : s.headerWritten = true) (sink : σ) : (s.drain sink).2.1.Writing level := by
  unfold ChunkedStream.drain
  split_ifs with hempty
  · exact mk' h hcapacity (by rw [List.isEmpty_iff.mp hempty]; decide) hheader
  · exact mk' h hcapacity (by decide : 0 < chunk) hheader

omit [Compressor κ] in
theorem drainChunk (h : s.level = level) (hcapacity : s.capacity = chunk ∨ s.capacity = 2 * chunk)
    (hheader : s.headerWritten = true) (sink : σ) : (s.drainChunk sink).2.1.Writing level := by
  unfold ChunkedStream.drainChunk
  split_ifs with hfull
  · exact drain h hcapacity hheader sink
  · exact mk' h hcapacity (Nat.lt_of_not_le hfull) hheader

/-- **One call** leaves such a stream, whether the operation is over with it or not. -/
theorem call (h : s.Writing level) (mode : Mode) (input : Bytes) (sink : σ) :
    match ChunkedStream.call mode (s, input, sink) with
    | .inl left => left.2.1.Writing level
    | .inr left => left.1.Writing level := by
  have hcapacity := h.reserved_eq
  cases hresult : (s.answer mode input).result with
  | error message =>
    -- a call that fails adds nothing to the buffer
    rw [call_of_error hresult]
    refine mk' h.level_eq hcapacity ?_ h.headerWritten
    show (s.out ++ (s.answer mode input).out).length < chunk
    rw [show (s.answer mode input).out = [] from Compressor.out_of_error hresult, List.append_nil]
    exact h.out_lt
  | ok status =>
    have hdrained : ((s.called mode input).drainChunk sink).2.1.Writing level :=
      drainChunk (s := s.called mode input) h.level_eq hcapacity h.headerWritten sink
    rcases hdrain : (s.called mode input).drainChunk sink with ⟨cause | _, drained, sink'⟩
    · rw [call_of_not_drained hresult hdrain]
      rwa [hdrain] at hdrained
    · rw [call_of_drained hresult hdrain]
      rw [hdrain] at hdrained
      split_ifs
      · exact drain hdrained.level_eq hdrained.capacity_eq hdrained.headerWritten sink'
      · exact hdrained

/-- **The calls of an operation**, if there is an end to them. -/
theorem deflate (h : s.Writing level) {mode : Mode} {input : Bytes} {left : Result κ σ}
    (hend : s.deflate mode input sink = .some left) : left.2.1.Writing level := by
  -- on the turns of the loop; each call leaves such a stream
  have hturns := loop_eq_some_iff.mp hend
  have hkept {a : ChunkedStream κ × Bytes × σ} {left : Result κ σ}
      (hturns : Turns (ChunkedStream.call mode) a left) (ha : a.1.Writing level) :
      left.2.1.Writing level := by
    induction hturns with
    | @last a left hlast =>
      obtain ⟨s, input, sink⟩ := a
      have hcall := ha.call mode input sink
      rwa [hlast] at hcall
    | @more a a' left hmore _ ih =>
      obtain ⟨s, input, sink⟩ := a
      have hcall := ha.call mode input sink
      rw [hmore] at hcall
      exact ih hcall
  exact hkept hturns h

end Writing

namespace Fits

variable {sink sink' : σ} {result : Except StreamError Unit} (h : s.Fits level)

include h

theorem write {data : Bytes} (hend : s.write data sink = .some (result, t, sink')) :
    t.Fits level := by
  unfold ChunkedStream.write at hend
  split_ifs at hend
  · cases Part.some_inj.mp hend
    exact h
  · have hopened := Writing.opened h
    have hcounted : ({ s.opened with
        checksum := s.checksum.update data
        length := s.length + UInt32.ofNat data.length } : ChunkedStream κ).Writing level :=
      .mk' hopened.level_eq hopened.capacity_eq hopened.out_lt hopened.headerWritten
    exact (hcounted.deflate hend).toFits

theorem flush (hend : s.flush sink = .some (result, t, sink')) : t.Fits level := by
  unfold ChunkedStream.flush at hend
  split_ifs at hend
  · cases Part.some_inj.mp hend
    exact h
  · exact ((Writing.opened h).deflate hend).toFits

theorem finish (hend : s.finish sink = .some (result, t, sink')) : t.Fits level := by
  unfold ChunkedStream.finish at hend
  split_ifs at hend
  · cases Part.some_inj.mp hend
    exact h
  · obtain ⟨left, hleft, hadd⟩ := (Part.mem_map_iff addTrailer).mp (Part.eq_some_iff.mp hend)
    have hfits := ((Writing.opened h).deflate (Part.eq_some_iff.mpr hleft)).toFits
    obtain ⟨cause | _, u, v⟩ := left
    · cases hadd
      exact hfits
    · -- the trailer goes past the buffer
      cases hadd
      exact ⟨hfits.level_eq, hfits.capacity_eq, hfits.out_lt, hfits.out_eq⟩

end Fits

/-! ### Streams that cannot be told apart -/

namespace InUse

/-- **Two streams in use that nobody tells apart**: both are as new, or they are the same. -/
inductive Twin (level : Nat) : InUse κ → InUse κ → Prop
  | asNew {s t : ChunkedStream κ} (hs : s.AsNew level) (ht : t.AsNew level) :
    Twin level (.ready s) (.ready t)
  | same {s : ChunkedStream κ} (h : s.Fits level) : Twin level (.ready s) (.ready s)
  | stuck : Twin level .stuck .stuck

theorem Twin.fits {x : InUse κ} (h : Twin level (.ready s) x) : s.Fits level := by
  cases h with
  | asNew hs _ => exact hs.fits
  | same h => exact h

variable {operation : ChunkedStream κ → σ → Part (Result κ σ)} {sink sink' : σ} {x x' : InUse κ}

omit [Sink σ] in
/-- What an operation leaves is the same as itself. -/
theorem operate_twin (sink : σ) (hfits : ∀ {result t sink'},
    operation s sink = .some (result, t, sink') → t.Fits level) :
    Twin level ((InUse.ready s).operate operation sink).2.1
      ((InUse.ready s).operate operation sink).2.1 := by
  show Twin level (await (operation s sink) sink).2.1 (await (operation s sink) sink).2.1
  rcases Part.eq_none_or_eq_some (operation s sink) with hnone | ⟨⟨result, t, sink'⟩, hsome⟩
  · rw [hnone]
    simp only [await, Part.none_toOption]
    exact .stuck
  · rw [hsome, await_some]
    exact .same (hfits hsome)

omit [Sink σ] in
/-- **An operation** on one of two such streams and on the other. -/
theorem operate_twins {R : σ → σ → Prop} (h : R sink sink') (hx : Twin level x x')
    (hnew : ∀ {s}, s.AsNew level → ∀ sink, operation s sink = operation (.new level) sink)
    (hfits : ∀ {s result t} {sink sink' : σ}, s.Fits level →
      operation s sink = .some (result, t, sink') → t.Fits level)
    (hends : ∀ s, EndsAlike (Sink.Agree (Sink.Agree R)) (operation s sink) (operation s sink')) :
    Sink.Agree (MemberStream.Beside (Twin level) R) (x.operate operation sink)
      (x'.operate operation sink') := by
  have hready {s : ChunkedStream κ} (hs : s.Fits level) :
      Sink.Agree (MemberStream.Beside (Twin level) R) ((InUse.ready s).operate operation sink)
        ((InUse.ready s).operate operation sink') := by
    have hagree := operate_agree h hends (.ready s)
    have htwin := operate_twin sink (hfits hs)
    exact ⟨hagree.answer, hagree.left.answer ▸ htwin, hagree.left.left⟩
  cases hx with
  | stuck => exact ⟨rfl, .stuck, h⟩
  | same hs => exact hready hs
  | @asNew s t hs ht =>
    have hfirst : (InUse.ready s).operate operation sink
        = (InUse.ready (.new level)).operate operation sink :=
      congrArg (await · sink) (hnew hs sink)
    have hsecond : (InUse.ready t).operate operation sink'
        = (InUse.ready (.new level)).operate operation sink' :=
      congrArg (await · sink') (hnew ht sink')
    rw [hfirst, hsecond]
    exact hready (asNew_new level).fits

/-- **No operation** tells them apart. -/
theorem twins : MemberStream.Twins (Twin level : InUse κ → InUse κ → Prop) where
  write hx _ _ _ hR _ _ h data := operate_twins h hx (fun hs sink => hs.write data sink)
    (fun hs hend => hs.write hend) fun s => write_endsAlike hR h s data
  flush hx _ _ _ hR _ _ h := operate_twins h hx (fun hs sink => hs.flush sink)
    (fun hs hend => hs.flush hend) fun s => flush_endsAlike hR h s
  finish hx _ _ _ hR _ _ h := operate_twins h hx (fun hs sink => hs.finish sink)
    (fun hs hend => hs.finish hend) fun s => finish_endsAlike hR h s

end InUse

end HttpPipeline.ChunkedStream
