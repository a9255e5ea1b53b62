import HttpPipeline.Gzip.Chunked

/-!
# Chunked streams in use

A pool keeps chunked streams, and a layer writes to a stream by operations that have a result. An
operation of a chunked stream may not have one, because its calls may go on for ever. Then whoever
waits for it is stuck, and so is the stream (`ChunkedStream.InUse`).

That a stream does to a sink nothing but write is seen call by call. Each call has the same outcome
over two sinks that no write tells apart, so the loop of an operation ends over both of them, with
the same outcome, or over neither.
-/

namespace HttpPipeline.ChunkedStream

variable {κ σ : Type} [Compressor κ] [Sink σ]

instance : PooledStream (ChunkedStream κ) where
  new := new
  reset := reset

@[simp] theorem pooledStream_new (level : Nat) :
    (PooledStream.new level : ChunkedStream κ) = new level := rfl

@[simp] theorem pooledStream_reset (s : ChunkedStream κ) : PooledStream.reset s = s.reset := rfl

/-! ### Two sinks -/

section Two

variable {R : σ → σ → Prop} {sink sink' : σ} (hR : Sink.MirrorsWrites R) (h : R sink sink')

include hR h

omit [Compressor κ] in
theorem drain_agree (s : ChunkedStream κ) :
    Sink.Agree (Sink.Agree R) (s.drain sink) (s.drain sink') := by
  unfold drain
  split_ifs
  · exact ⟨rfl, rfl, h⟩
  · have hwrite := hR.writeAll h s.out
    exact ⟨hwrite.answer, rfl, hwrite.left⟩

omit [Compressor κ] in
theorem drainChunk_agree (s : ChunkedStream κ) :
    Sink.Agree (Sink.Agree R) (s.drainChunk sink) (s.drainChunk sink') := by
  unfold drainChunk
  split_ifs
  · exact drain_agree hR h s
  · exact ⟨rfl, rfl, h⟩

/-- **One call** ends the operation over both sinks or over neither. -/
theorem call_agree (mode : Compressor.Mode) (s : ChunkedStream κ) (input : Bytes) :
    Sum.LiftRel (Sink.Agree (Sink.Agree R)) (Sink.Agree (Sink.Agree R))
      (call mode (s, input, sink)) (call mode (s, input, sink')) := by
  cases hresult : (s.answer mode input).result with
  | error message =>
    rw [call_of_error hresult, call_of_error hresult]
    exact .inl ⟨rfl, rfl, h⟩
  | ok status =>
    have hdrain := drainChunk_agree hR h (s.called mode input)
    simp only [call, hresult]
    generalize (s.called mode input).drainChunk sink = r at hdrain ⊢
    generalize (s.called mode input).drainChunk sink' = r' at hdrain ⊢
    refine hdrain.elim fun result left left' hleft => ?_
    refine hleft.elim fun drained sink sink' h => ?_
    cases result with
    | error cause => exact .inl ⟨rfl, rfl, h⟩
    | ok =>
      simp only
      split_ifs
      · exact .inl (drain_agree hR h drained)
      · exact .inr ⟨rfl, rfl, h⟩

/-- **An operation** ends over both sinks or over neither. -/
theorem deflate_endsAlike (s : ChunkedStream κ) (mode : Compressor.Mode) (input : Bytes) :
    EndsAlike (Sink.Agree (Sink.Agree R)) (s.deflate mode input sink)
      (s.deflate mode input sink') := by
  refine loop_endsAlike (A := Sink.Agree (Sink.Agree R)) (fun ha => ?_) ⟨rfl, rfl, h⟩
  refine ha.elim fun s _ _ hrest => ?_
  exact hrest.elim fun input _ _ h => call_agree hR h mode s input

theorem write_endsAlike (s : ChunkedStream κ) (data : Bytes) :
    EndsAlike (Sink.Agree (Sink.Agree R)) (s.write data sink) (s.write data sink') := by
  unfold write
  split_ifs
  · exact .some ⟨rfl, rfl, h⟩
  · exact deflate_endsAlike hR h _ _ _

theorem flush_endsAlike (s : ChunkedStream κ) :
    EndsAlike (Sink.Agree (Sink.Agree R)) (s.flush sink) (s.flush sink') := by
  unfold flush
  split_ifs
  · exact .some ⟨rfl, rfl, h⟩
  · exact deflate_endsAlike hR h _ _ _

theorem finish_endsAlike (s : ChunkedStream κ) :
    EndsAlike (Sink.Agree (Sink.Agree R)) (s.finish sink) (s.finish sink') := by
  unfold finish
  split_ifs
  · exact .some ⟨rfl, rfl, h⟩
  · refine (deflate_endsAlike hR h _ _ _).map fun hrel => ?_
    -- the trailer is written if the end of the deflate stream was
    refine hrel.elim fun result _ _ hleft => ?_
    refine hleft.elim fun s _ _ h => ?_
    cases result with
    | error cause => exact ⟨rfl, rfl, h⟩
    | ok =>
      have htrailer := hR.writeAll h (Member.trailer s.checksum.value s.length)
      exact ⟨htrailer.answer, rfl, htrailer.left⟩

end Two

/-! ### Streams that may be stuck -/

/-- **A chunked stream in use.** -/
inductive InUse (κ : Type)
  | ready (s : ChunkedStream κ)
  /-- An operation is waited for in vain. -/
  | stuck

namespace InUse

open Classical in
/-- **Waiting for an operation.** What one would be told who waits in vain does not matter. -/
noncomputable def await (outcome : Part (Result κ σ)) (sink : σ) :
    Except StreamError Unit × InUse κ × σ :=
  match outcome.toOption with
  | some (result, s, sink) => (result, .ready s, sink)
  | none => (.error .alreadyFinished, .stuck, sink)

omit [Compressor κ] [Sink σ] in
theorem await_some (result : Except StreamError Unit) (s : ChunkedStream κ) (sink sink' : σ) :
    await (.some (result, s, sink)) sink' = (result, .ready s, sink) := by
  simp only [await, Part.some_toOption]

/-- An operation, unless the stream is stuck. -/
noncomputable def operate (operation : ChunkedStream κ → σ → Part (Result κ σ)) (s : InUse κ)
    (sink : σ) : Except StreamError Unit × InUse κ × σ :=
  match s with
  | .ready s => await (operation s sink) sink
  | .stuck => (.error .alreadyFinished, .stuck, sink)

omit [Compressor κ] [Sink σ] in
/-- Operations that end alike are waited for alike. -/
theorem operate_agree {R : σ → σ → Prop} {sink sink' : σ} (h : R sink sink')
    {operation : ChunkedStream κ → σ → Part (Result κ σ)}
    (hoperation : ∀ s, EndsAlike (Sink.Agree (Sink.Agree R)) (operation s sink) (operation s sink'))
    (s : InUse κ) : Sink.Agree (Sink.Agree R) (s.operate operation sink)
      (s.operate operation sink') := by
  cases s with
  | stuck => exact ⟨rfl, rfl, h⟩
  | ready s =>
    have halike := hoperation s
    show Sink.Agree _ (await (operation s sink) sink) (await (operation s sink') sink')
    rcases Part.eq_none_or_eq_some (operation s sink) with hnone | ⟨left, hsome⟩
    -- an operation that does not come to an end here would come to one there, and back
    · have hnone' : operation s sink' = .none := by
        refine Part.eq_none_iff.mpr fun left' hleft' => ?_
        obtain ⟨left, hsome, -⟩ := halike.back (Part.eq_some_iff.mpr hleft')
        exact Part.some_ne_none left (hsome.symm.trans hnone)
      rw [hnone, hnone']
      simp only [await, Part.none_toOption]
      exact ⟨rfl, rfl, h⟩
    · obtain ⟨left', hsome', hrel⟩ := halike.forth hsome
      rw [hsome, hsome']
      refine hrel.elim fun result _ _ hleft => ?_
      refine hleft.elim fun s _ _ h => ?_
      rw [await_some, await_some]
      exact ⟨rfl, rfl, h⟩

noncomputable instance : MemberStream (InUse κ) where
  new level := .ready (.new level)
  reset
    | .ready s => .ready s.reset
    | .stuck => .stuck
  write s data sink := s.operate (fun s sink => s.write data sink) sink
  flush s sink := s.operate ChunkedStream.flush sink
  finish s sink := s.operate ChunkedStream.finish sink
  write_mirrors hR _ _ h s data := operate_agree h (fun s => write_endsAlike hR h s data) s
  flush_mirrors hR _ _ h s := operate_agree h (fun s => flush_endsAlike hR h s) s
  finish_mirrors hR _ _ h s := operate_agree h (fun s => finish_endsAlike hR h s) s

end InUse

end HttpPipeline.ChunkedStream
