import HttpPipeline.Response.GzipLayer
import HttpPipeline.Proofs.Gzip.Member
import HttpPipeline.Proofs.Response.Ledger

/-!
# The ledger of a layer that decides whether to compress

What a compression layer was given and what went down from it differ: until the decision
falls nothing goes down, and afterwards the bytes may go through a compressed stream. So the
relation between a ledger and the layer has three phases (`GzipLayer.Relates`).

* While the decision is pending, nothing was asked of the sink below, and the body so far is
  in the buffer (`Pending`).
* After the decision against compression, the body so far is in the sink below (`Skipping`).
* After the decision for it, the sink below has what the stream gave out for the body so far
  (`Compressing`). The status was sent at once then, with the head that the relation names.

The one step between phases is `Relates.commit`. The sink below may take as little as it
likes of each offer, since every offer of the layer is repeated until it is taken. From this
follows what is below at the end: `Relates.close` after a handler that returned, and
`Relates.abandon` after one that failed.
-/

namespace HttpPipeline.GzipLayer

variable {ε ω : Type}

/-! ### The decision -/

/-- The decision falls one way or the other, and never for compression of a status that is
not final. -/
theorem decide_cases (headers : Headers) (status : Status) (minSize : Nat) (buffer : Bytes) :
    decide headers status minSize buffer = .skip ∨
      decide headers status minSize buffer = .compress ∧ Status.final status = true := by
  unfold decide
  simp only
  split_ifs with h
  · exact .inl rfl
  · refine .inr ⟨rfl, ?_⟩
    simp only [statusForbids, Bool.or_eq_true, not_or] at h
    have hfinal : Status.informational status = false := by simpa using h.2.2
    simp [Status.final, hfinal]

/-! ### The headers of a compressed response -/

theorem compressedHeaders_encoding (headers : Headers) (buffer : Bytes) :
    (compressedHeaders headers buffer).values "content-encoding" = [Bytes.ofString "gzip"] := by
  rw [compressedHeaders, Headers.values_remove_of_ne _ (by decide), Headers.values_insert_self]

theorem compressedHeaders_length (headers : Headers) (buffer : Bytes) :
    (compressedHeaders headers buffer).values "content-length" = [] :=
  Headers.values_remove_self _ _

/-- A declared type stays, and in place of any other value the body is given the type that it
looks like. -/
theorem compressedHeaders_type (headers : Headers) (buffer : Bytes) :
    (compressedHeaders headers buffer).values "content-type" =
      if (declaredType? headers).isSome then headers.values "content-type"
      else [Bytes.ofString (Sniff.detect buffer)] := by
  rw [compressedHeaders, Headers.values_remove_of_ne _ (by decide),
    Headers.values_insert_of_ne _ _ (by decide)]
  split_ifs
  · rfl
  · exact Headers.values_insert_self _ _ _

/-- Compression edits no other headers. -/
theorem compressedHeaders_other (headers : Headers) (buffer : Bytes) {name : String}
    (hname : name ∉ ["content-type", "content-encoding", "content-length"]) :
    (compressedHeaders headers buffer).values name = headers.values name := by
  simp only [List.mem_cons, List.not_mem_nil, or_false, not_or] at hname
  obtain ⟨htype, hencoding, hlength⟩ := hname
  rw [compressedHeaders, Headers.values_remove_of_ne _ hlength,
    Headers.values_insert_of_ne _ _ hencoding]
  split_ifs
  · rfl
  · exact Headers.values_insert_of_ne _ _ htype

/-! ### What a step changes -/

section Streams

variable {τ : Type} [MemberStream τ] [Sink ω]

@[simp] theorem release_decision (l : GzipLayer τ ω) : l.release.decision = l.decision := by
  unfold release
  split <;> rfl

@[simp] theorem release_hijacked (l : GzipLayer τ ω) : l.release.hijacked = l.hijacked := by
  unfold release
  split <;> rfl

@[simp] theorem release_reported (l : GzipLayer τ ω) : l.release.reported = l.reported := by
  unfold release
  split <;> rfl

/-- Once the decision has fallen it stands. -/
theorem commit_of_ne {l : GzipLayer τ ω} (hd : l.decision ≠ .pending) : l.commit = l := by
  unfold commit
  split
  · exact absurd ‹_› hd
  · rfl

/-- After a commit the decision has fallen. -/
theorem commit_ne_pending (l : GzipLayer τ ω) : l.commit.decision ≠ .pending := by
  unfold commit
  split
  · -- the buffer goes down after the decision and does not change it
    rw [release_decision]
    rcases decide_cases (Sink.headers l.inner) (l.status.getD 200) l.minSize l.buffer
      with hd | ⟨hd, -⟩
    · simp [hd]
    · simp [hd]
  · assumption

theorem commit_hijacked (l : GzipLayer τ ω) : l.commit.hijacked = l.hijacked := by
  unfold commit
  split
  · rw [release_hijacked]
  · rfl

omit [MemberStream τ] [Sink ω] in
/-- What a write reports does not change the layer. -/
@[simp] theorem report_snd (l : GzipLayer τ ω) (count : Nat) : (l.report count).2 = l := by
  unfold report
  split <;> rfl

/-- A write that enters the stream changes the stream and the sink below. -/
theorem compressOn_snd (l : GzipLayer τ ω) (data : Bytes) :
    (l.compressOn data).2 = { l with
      stream := (MemberStream.write l.stream data l.inner).2.1
      inner := (MemberStream.write l.stream data l.inner).2.2 } := by
  unfold GzipLayer.compressOn
  split <;> rename_i heq <;> rw [heq]

end Streams

/-! ### The status of a response -/

/-- The status that a layer gives when its decision falls, as far as it is final. -/
def settled (l : GzipLayer (GzipStream ε) ω) : Option Status :=
  l.status.map fun code => if Status.final code then code else 200

variable [Deflater ε]

/-! ### The three phases -/

/-- **Before the decision.** -/
structure Pending (R : Ledger → ω → Prop) (k : Ledger) (l : GzipLayer (GzipStream ε) ω) : Prop where
  decision : l.decision = .pending
  reported : l.reported = []
  sent : k.sent = none
  status : k.status = l.settled
  buffer : l.buffer = k.written
  stream : ∃ level, l.stream = .new level
  inner : R {} l.inner

/-- **After the decision against compression.** -/
structure Skipping (R : Ledger → ω → Prop) (k : Ledger) (l : GzipLayer (GzipStream ε) ω) :
    Prop where
  decision : l.decision = .skip
  reported : l.reported = [.skip]
  sent : k.sent = none
  buffer : l.buffer = []
  /-- An interim status may have been dropped below, and then `200` is implied. -/
  inner : ∃ j : Ledger, R j l.inner ∧ k = j.settle

/-- **After the decision for compression.** -/
structure Compressing (R : Ledger → ω → Prop) (k : Ledger) (l : GzipLayer (GzipStream ε) ω) :
    Prop where
  decision : l.decision = .compress
  reported : l.reported = [.compress]
  sent : k.sent = none
  buffer : l.buffer = []
  status : k.status.isSome
  inner : ∃ head out, l.stream.Holds k.written out ∧
    R { status := k.status, sent := some head, written := out } l.inner

/-- **The ledger of a compression layer.** -/
structure Relates (R : Ledger → ω → Prop) (k : Ledger) (l : GzipLayer (GzipStream ε) ω) : Prop where
  hijacked : l.hijacked = false
  commitFailure : l.commitFailure = none
  phase : Pending R k l ∨ Skipping R k l ∨ Compressing R k l

variable {R : Ledger → ω → Prop} {k : Ledger} {l : GzipLayer (GzipStream ε) ω}

/-- A layer with a new stream around a sink of which nothing has been asked. -/
theorem relates_around {w : ω} (h : R {} w) (level minSize : Nat) :
    Relates R {} (.around w (.new level) minSize : GzipLayer (GzipStream ε) ω) :=
  ⟨rfl, rfl, .inl ⟨rfl, rfl, rfl, rfl, rfl, ⟨level, rfl⟩, h⟩⟩

omit [Deflater ε] in
theorem Skipping.status (h : Skipping R k l) : k.status.isSome := by
  obtain ⟨j, -, rfl⟩ := h.inner
  rfl

/-- The layer itself knows of no head. -/
theorem Relates.sent (h : Relates R k l) : k.sent = none := by
  rcases h.phase with hp | hs | hc
  · exact hp.sent
  · exact hs.sent
  · exact hc.sent

/-- What changes nothing in the ledger of the sink below changes nothing in that of the
layer. -/
theorem Relates.onInner (h : Relates R k l) {w : ω} (hw : ∀ {j}, R j l.inner → R j w) :
    Relates R k { l with inner := w } := by
  refine ⟨h.hijacked, h.commitFailure, ?_⟩
  rcases h.phase with hp | hs | hc
  · exact .inl { hp with inner := hw hp.inner }
  · obtain ⟨j, hj, hk⟩ := hs.inner
    exact .inr (.inl { hs with inner := ⟨j, hw hj, hk⟩ })
  · obtain ⟨head, out, hstream, hj⟩ := hc.inner
    exact .inr (.inr { hc with inner := ⟨head, out, hstream, hw hj⟩ })

/-! ### The status and the decision -/

/-- **A status arrives.** The first one counts. One that is not final is passed on as it is,
and then `200` is what the response is bound to have. -/
theorem Relates.sendStatus (h : Relates R k l) (code : Status) :
    Relates R (k.hear (if Status.final code then code else 200)) (l.sendStatus code) := by
  refine ⟨h.hijacked, h.commitFailure, ?_⟩
  rcases h.phase with hp | hs | hc
  · -- the layer remembers the status, and the sink below hears nothing of it
    left
    refine ⟨hp.decision, hp.reported, hp.sent, ?_, hp.buffer, hp.stream, hp.inner⟩
    rw [Ledger.hear_status, hp.status, settled, settled, GzipLayer.sendStatus]
    cases l.status <;> rfl
  · rw [Ledger.hear_of_isSome hs.status]
    exact .inr (.inl ⟨hs.decision, hs.reported, hs.sent, hs.buffer, hs.inner⟩)
  · rw [Ledger.hear_of_isSome hc.status]
    exact .inr (.inr ⟨hc.decision, hc.reported, hc.sent, hc.buffer, hc.status, hc.inner⟩)

/-- The status that goes down when the decision falls. -/
theorem Pending.settle_status (h : Pending R k l) :
    k.settle.status
      = some (if Status.final (l.status.getD 200) then l.status.getD 200 else 200) := by
  rw [Ledger.settle_status, h.status, settled]
  cases l.status <;> rfl

variable [Sink ω]

/-- **The buffer goes down as it is.** -/
theorem release_skip (hR : Sink.Keeps R) {j : Ledger} (hj : R j l.inner)
    (hd : l.decision = .skip) (hf : l.commitFailure = none) :
    l.release.buffer = [] ∧ l.release.commitFailure = none ∧
      ∃ i, R i l.release.inner ∧ i.settle = { j.settle with written := j.written ++ l.buffer } := by
  obtain ⟨w, hwrite, -, hadd⟩ := hR.writeAll hj l.buffer
  by_cases hb : l.buffer = []
  · -- nothing is written, so the status below is not settled by this
    simp only [release, hb, List.isEmpty_nil, if_true, List.append_nil]
    exact ⟨trivial, hf, j, hj, rfl⟩
  · have hne : l.buffer.isEmpty = false := by simpa using hb
    simp only [release, hne, Bool.false_eq_true, if_false, hd, hwrite]
    exact ⟨trivial, trivial, _, hadd hb, rfl⟩

/-- **The buffer goes down through the compressed stream.** -/
theorem release_compress (hR : Sink.Keeps R) (plain : Bytes) {j : Ledger} (hj : R j l.inner)
    (hs : j.status.isSome) (hd : l.decision = .compress) (hf : l.commitFailure = none)
    (hstream : l.stream.Holds plain j.written) :
    l.release.buffer = [] ∧ l.release.commitFailure = none ∧
      ∃ out, l.release.stream.Holds (plain ++ l.buffer) out ∧
        R { j with written := out } l.release.inner := by
  by_cases hb : l.buffer = []
  · simp only [release, hb, List.isEmpty_nil, if_true, List.append_nil]
    exact ⟨trivial, hf, j.written, hstream, hj⟩
  · obtain ⟨stream, more, hholds, hstep⟩ := hstream.write l.buffer
    obtain ⟨w, hwrite, hw⟩ := hR.writeAll_settled hj hs more
    have hne : l.buffer.isEmpty = false := by simpa using hb
    simp only [release, hne, Bool.false_eq_true, if_false, hd, hstep, hwrite]
    exact ⟨trivial, trivial, _, hholds, hw⟩

/-- **The decision falls against compression.** -/
theorem Pending.commit_skip (hR : Sink.Keeps R) (h : Pending R k l)
    (hf : l.commitFailure = none)
    (hd : decide (Sink.headers l.inner) (l.status.getD 200) l.minSize l.buffer = .skip) :
    Skipping R k.settle l.commit ∧ l.commit.commitFailure = none := by
  simp only [commit, h.decision, hd]
  set code := l.status.getD 200 with hcode
  -- an interim status may be dropped below
  obtain ⟨j, hj, hwritten, hsent, hstatus⟩ : ∃ j : Ledger, R j (Sink.sendStatus l.inner code) ∧
      j.written = [] ∧ j.sent = none ∧ j.settle.status = k.settle.status := by
    rw [h.settle_status, ← hcode]
    by_cases hfinal : Status.final code = true
    · exact ⟨_, hR.sendFinal h.inner hfinal, rfl, rfl, by rw [if_pos hfinal]; rfl⟩
    · rw [if_neg hfinal]
      rcases hR.sendInterim h.inner (by simpa using hfinal) with hsame | hsettled
      · exact ⟨_, hsame, rfl, rfl, rfl⟩
      · exact ⟨_, hsettled, rfl, rfl, rfl⟩
  obtain ⟨hbuffer, hfailure, i, hi, hik⟩ := release_skip hR (l := { l with
    decision := .skip, status := some code, inner := Sink.sendStatus l.inner code,
    reported := l.reported ++ [.skip] }) hj rfl hf
  refine ⟨⟨by simp, by simp [h.reported], h.sent, hbuffer, i, hi, ?_⟩, hfailure⟩
  rw [hik]
  exact Ledger.ext hstatus.symm (h.sent.trans hsent.symm) (by rw [hwritten]; exact h.buffer.symm)

/-- **The decision falls for compression.** The status that goes down is final, so the sink
below sends it. -/
theorem Pending.commit_compress (hR : Sink.Keeps R) (hP : Sink.Prompt R) (h : Pending R k l)
    (hf : l.commitFailure = none) (hfinal : Status.final (l.status.getD 200) = true)
    (hd : decide (Sink.headers l.inner) (l.status.getD 200) l.minSize l.buffer = .compress) :
    Compressing R k.settle l.commit ∧ l.commit.commitFailure = none := by
  have hstatus := h.settle_status
  rw [if_pos hfinal] at hstatus
  simp only [commit, h.decision, hd]
  obtain ⟨level, hnew⟩ := h.stream
  -- the sink below was told nothing yet
  have hsent := hP (hR.setHeaders h.inner
    (compressedHeaders (Sink.headers l.inner) l.buffer)) hfinal
  obtain ⟨hbuffer, hfailure, out, hstream, hout⟩ := release_compress hR [] (l := { l with
    decision := .compress, status := some (l.status.getD 200),
    inner := Sink.sendStatus (Sink.setHeaders l.inner
      (compressedHeaders (Sink.headers l.inner) l.buffer)) (l.status.getD 200),
    reported := l.reported ++ [.compress] }) hsent rfl rfl hf
    (by rw [hnew]; exact GzipStream.holds_new level)
  refine ⟨⟨by simp, by simp [h.reported], h.sent, hbuffer, rfl, ?_⟩, hfailure⟩
  rw [show ([] : Bytes) ++ l.buffer = k.settle.written from h.buffer] at hstream
  exact ⟨_, out, hstream, by rw [hstatus]; exact hout⟩

/-- **The decision falls**, if it had not, and settles the status. -/
theorem Relates.commit (hR : Sink.Keeps R) (hP : Sink.Prompt R) (h : Relates R k l) :
    Relates R k.settle l.commit ∧ l.commit.decision ≠ .pending := by
  rcases h.phase with hp | hs | hc
  · have hhijacked : l.commit.hijacked = false := by
      simp only [GzipLayer.commit, hp.decision, release_hijacked, h.hijacked]
    rcases decide_cases (Sink.headers l.inner) (l.status.getD 200) l.minSize l.buffer
      with hd | ⟨hd, hfinal⟩
    · obtain ⟨hskip, hf⟩ := hp.commit_skip hR h.commitFailure hd
      exact ⟨⟨hhijacked, hf, .inr (.inl hskip)⟩, by rw [hskip.decision]; decide⟩
    · obtain ⟨hcompress, hf⟩ := hp.commit_compress hR hP h.commitFailure hfinal hd
      exact ⟨⟨hhijacked, hf, .inr (.inr hcompress)⟩, by rw [hcompress.decision]; decide⟩
  · have hd : l.decision ≠ .pending := by rw [hs.decision]; decide
    rw [commit_of_ne hd, Ledger.settle_of_isSome hs.status]
    exact ⟨h, hd⟩
  · have hd : l.decision ≠ .pending := by rw [hc.decision]; decide
    rw [commit_of_ne hd, Ledger.settle_of_isSome hc.status]
    exact ⟨h, hd⟩

/-! ### Writing -/

/-- A write while the decision is pending is taken whole. -/
theorem Pending.collect (hR : Sink.Keeps R) (hP : Sink.Prompt R) (h : Relates R k l)
    (hp : Pending R k l) (hs : k.status.isSome) (data : Bytes) :
    ∃ l', l.collect data = (.accepted data.length, l') ∧ Relates R (k.add data) l' := by
  -- the layer with the data in its buffer
  have hadded : Relates R (k.add data) { l with buffer := l.buffer ++ data } := by
    refine ⟨h.hijacked, h.commitFailure, .inl
      ⟨hp.decision, hp.reported, hp.sent, ?_, ?_, hp.stream, hp.inner⟩⟩
    · rw [Ledger.add, Ledger.settle_of_isSome hs]
      exact hp.status
    · rw [Ledger.add_written, ← hp.buffer]
  unfold GzipLayer.collect
  simp only
  split_ifs with hshort
  · exact ⟨_, by rw [report, hadded.commitFailure], hadded⟩
  · -- the buffer is full, and goes down with the decision
    have hcommitted := (hadded.commit hR hP).1
    rw [Ledger.add_settle] at hcommitted
    exact ⟨_, by rw [report, hcommitted.commitFailure], hcommitted⟩

/-- A write after the decision for compression is taken whole. -/
theorem Compressing.compressOn (hR : Sink.Keeps R) (h : Relates R k l) (hc : Compressing R k l)
    (data : Bytes) :
    ∃ l', l.compressOn data = (.accepted data.length, l') ∧ Relates R (k.add data) l' := by
  obtain ⟨head, out, hstream, hj⟩ := hc.inner
  obtain ⟨stream, more, hholds, hstep⟩ := hstream.write data
  obtain ⟨w, hwrite, hw⟩ := hR.writeAll_settled hj hc.status more
  refine ⟨{ l with stream, inner := w }, ?_, h.hijacked, h.commitFailure, .inr (.inr ?_)⟩
  · rw [GzipLayer.compressOn, hstep, hwrite]
  · rw [Ledger.add, Ledger.settle_of_isSome hc.status]
    exact ⟨hc.decision, hc.reported, hc.sent, hc.buffer, hc.status, head, _, hholds, hw⟩

/-- A write after the decision against compression is that of the sink below. -/
theorem Skipping.passOn (hR : Sink.Keeps R) (h : Relates R k l) (hs : Skipping R k l)
    (data : Bytes) : Sink.Taken (Relates R) k data (l.passOn data) := by
  obtain ⟨j, hj, rfl⟩ := hs.inner
  -- the layer over whatever becomes of the sink below
  have hback {i : Ledger} {w : ω} (hw : R i w) (hsent : i.settle.sent = none) :
      Relates R i.settle { l with inner := w } :=
    ⟨h.hijacked, h.commitFailure,
      .inr (.inl ⟨hs.decision, hs.reported, hsent, hs.buffer, i, hw, rfl⟩)⟩
  have htaken := hR.write hj data
  rcases heq : Sink.write l.inner data with ⟨attempt, w⟩
  rw [heq] at htaken
  simp only [GzipLayer.passOn, heq]
  cases attempt with
  | accepted count =>
    obtain ⟨hle, hpos, hadd⟩ := htaken
    exact ⟨hle, hpos, hback hadd hs.sent⟩
  | interrupted message =>
    rcases htaken with hsame | hsettled
    · exact .inl (hback hsame hs.sent)
    · exact .inl (hback (i := j.settle) hsettled hs.sent)
  | failed cause => exact htaken

/-- **A write** is taken as far as the sink below takes it, and whole if nothing else is to
be expected of that sink. -/
theorem Relates.write (hR : Sink.Keeps R) (hP : Sink.Prompt R) (h : Relates R k l)
    (data : Bytes) : Sink.Taken (Relates R) k data (l.write data) ∧
      (Sink.Whole R → (l.write data).1 = .accepted data.length) := by
  have hfirst : Relates R k.settle (l.sendStatus 200) := h.sendStatus 200
  simp only [GzipLayer.write, h.hijacked, Bool.false_eq_true, if_false, h.commitFailure]
  -- the status being settled, the decision says which of the three ways the data goes
  rcases hfirst.phase with hp | hs | hc
  · obtain ⟨l', hcollect, hl'⟩ := hp.collect hR hP hfirst rfl data
    simp only [hp.decision, hcollect]
    exact ⟨Sink.taken_whole hl', fun _ => trivial⟩
  · simp only [hs.decision]
    refine ⟨(hs.passOn hR hfirst data).of_settle, fun hW => ?_⟩
    obtain ⟨j, hj, -⟩ := hs.inner
    exact hW.write hj data
  · obtain ⟨l', hcompress, hl'⟩ := hc.compressOn hR hfirst data
    simp only [hc.decision, hcompress]
    exact ⟨Sink.taken_whole hl', fun _ => trivial⟩

/-! ### Flushing -/

/-- **A flush** goes on to the sink below once the decision has fallen, and whatever becomes
of it there, the status of the layer is settled. -/
theorem Relates.flush (hR : Sink.Keeps R) (hP : Sink.Prompt R) (h : Relates R k l) :
    ∃ (l' : GzipLayer (GzipStream ε) ω) (j : Ledger), R j l'.inner ∧
      l.flush = ((Sink.flush l'.inner).1, { l' with inner := (Sink.flush l'.inner).2 }) ∧
      Relates R k.settle { l' with inner := (Sink.flush l'.inner).2 } := by
  have hcommitted := (h.commit hR hP).1
  simp only [GzipLayer.flush, h.hijacked, Bool.false_eq_true, if_false, hcommitted.commitFailure]
  -- a refused flush may have settled the status below, or not
  have hsettled {j : Ledger} {w : ω} (hj : R j w) :
      R j (Sink.flush w).2 ∨ R j.settle (Sink.flush w).2 := by
    have hflushed := hR.flush hj
    rcases heq : Sink.flush w with ⟨result, w'⟩
    rw [heq] at hflushed
    cases result with
    | ok => exact .inr hflushed
    | error fault => exact hflushed
  rcases hcommitted.phase with hp | hs | hc
  · exact absurd hp.decision (h.commit hR hP).2
  · obtain ⟨j, hj, hk⟩ := hs.inner
    simp only [hs.decision]
    refine ⟨l.commit, j, hj, by simp only [hs.decision, hcommitted.commitFailure],
      hcommitted.hijacked, hcommitted.commitFailure,
      .inr (.inl ⟨hs.decision, hs.reported, hs.sent, hs.buffer, ?_⟩)⟩
    rcases hsettled hj with hsame | hsame
    · exact ⟨j, hsame, hk⟩
    · exact ⟨j.settle, hsame, hk⟩
  · -- the stream is flushed into the sink before the sink itself
    obtain ⟨head, out, hstream, hj⟩ := hc.inner
    obtain ⟨stream, more, hholds, hstep⟩ := hstream.flush
    obtain ⟨w, hwrite, hw⟩ := hR.writeAll_settled hj hc.status more
    simp only [hc.decision, hstep, hwrite]
    refine ⟨{ l.commit with stream, inner := w }, _, hw,
      by simp only [hc.decision, hcommitted.commitFailure], hcommitted.hijacked,
      hcommitted.commitFailure, .inr (.inr ⟨hc.decision, hc.reported, hc.sent, hc.buffer,
        hc.status, head, _, hholds, ?_⟩)⟩
    -- the status was settled before, so both ways come to the same
    rcases hsettled hw with hsame | hsame
    · exact hsame
    · exact hsame

/-! ### The layer as a sink -/

/-- **A compression layer keeps its ledger**, whatever part of each offer the sink below
takes. -/
theorem keeps (hR : Sink.Keeps R) (hP : Sink.Prompt R) :
    Sink.Keeps (Relates R : Ledger → GzipLayer (GzipStream ε) ω → Prop) where
  setHeaders := fun h headers => h.onInner fun hj => hR.setHeaders hj headers
  sendFinal := by
    intro k l h code hcode
    have hsent := h.sendStatus code
    rwa [if_pos hcode] at hsent
  sendInterim := by
    intro k l h code hcode
    have hsent := h.sendStatus code
    rw [hcode, if_neg Bool.false_ne_true] at hsent
    exact .inr hsent
  write := fun h data => (h.write hR hP data).1
  flush := by
    intro k l h
    obtain ⟨l', j, -, hflush, hl'⟩ := h.flush hR hP
    show Sink.Flushed (Relates R) k l.flush
    rw [hflush]
    cases (Sink.flush l'.inner).1 with
    | ok => exact hl'
    | error fault => exact .inr hl'

/-- A compression layer refuses nothing that the sink below does not. -/
theorem whole (hR : Sink.Keeps R) (hP : Sink.Prompt R) (hW : Sink.Whole R) :
    Sink.Whole (Relates R : Ledger → GzipLayer (GzipStream ε) ω → Prop) where
  write := fun h data => (h.write hR hP data).2 hW
  flush := by
    intro k l h
    obtain ⟨l', j, hj, hflush, -⟩ := h.flush hR hP
    show l.flush.1 = _
    rw [hflush]
    exact hW.flush hj
  hijack := by
    intro k l h answer
    obtain ⟨j, hj⟩ : ∃ j, R j l.inner := by
      rcases h.phase with hp | hs | hc
      · exact ⟨_, hp.inner⟩
      · exact hs.inner.imp fun _ hj => hj.1
      · obtain ⟨_, _, -, hj⟩ := hc.inner
        exact ⟨_, hj⟩
    show (∃ fault, (l.hijack answer).1 = .error fault) ∧ Relates R k (l.hijack answer).2
    -- the ledger of the sink below depends on the phase, that it is kept does not
    have hkept := h.onInner (w := (Sink.hijack l.inner answer).2)
      fun hi => (hW.hijack hi answer).2
    obtain ⟨fault, w, hrefused, -⟩ := hW.hijack_eq hj answer
    rw [hrefused] at hkept
    simp only [GzipLayer.hijack, hrefused]
    exact ⟨⟨fault, rfl⟩, hkept⟩

/-! ### The end of a response -/

/-- **The stream is ended**, and the sink below takes all of it. The head stays what it was. -/
theorem Compressing.finish (hε : Deflater.EndsDecodable ε) (hR : Sink.Keeps R)
    (hc : Compressing R k l) : ∃ head out body stream w,
      R { status := k.status, sent := some head, written := out } l.inner ∧
      MemberStream.finish l.stream l.inner = (.ok (), stream, w) ∧
      R { status := k.status, sent := some head, written := body } w ∧
      Member.Holds body k.written := by
  obtain ⟨head, out, hstream, hj⟩ := hc.inner
  obtain ⟨tail, trailer, hmember, hfinish⟩ := hstream.finish hε
  obtain ⟨w₁, htail, hw₁⟩ := hR.writeAll_settled hj hc.status tail
  obtain ⟨w₂, htrailer, hw₂⟩ := hR.writeAll_settled hw₁ hc.status trailer
  obtain ⟨stream, hstep⟩ := hfinish htail htrailer
  exact ⟨head, out, _, stream, w₂, hj, hstep, hw₂, hmember⟩

/-- **What is below a layer at the end** of a response: the body as it was written, or one
member that holds it. -/
inductive Ended (R : Ledger → ω → Prop) (k : Ledger) (l : GzipLayer (GzipStream ε) ω) : Prop
  | plain (hdecision : l.decision = .skip) (hreported : l.reported = [.skip]) (j : Ledger)
      (hj : R j l.inner) (hk : k = j.settle)
  | member (hdecision : l.decision = .compress) (hreported : l.reported = [.compress])
      (head : Head) (body : Bytes) (hbody : Member.Holds body k.written)
      (hj : R { status := k.status, sent := some head, written := body } l.inner)

/-- **Closing** succeeds and leaves the body below. -/
theorem Relates.close (hε : Deflater.EndsDecodable ε) (hR : Sink.Keeps R) (hP : Sink.Prompt R)
    (h : Relates R k l) : ∃ l', l.close = (.ok (), l') ∧ Ended R k.settle l' := by
  obtain ⟨hcommitted, hdecided⟩ := h.commit hR hP
  simp only [GzipLayer.close, h.hijacked, Bool.false_eq_true, if_false, hcommitted.commitFailure]
  rcases hcommitted.phase with hp | hs | hc
  · exact absurd hp.decision hdecided
  · obtain ⟨j, hj, hk⟩ := hs.inner
    simp only [hs.decision]
    exact ⟨_, rfl, .plain hs.decision hs.reported j hj hk⟩
  · obtain ⟨head, -, body, stream, w, -, hfinish, hw, hbody⟩ := hc.finish hε hR
    simp only [hc.decision, hfinish]
    exact ⟨_, rfl, .member rfl hc.reported head body hbody hw⟩

/-- **Abandoning** ends a stream that was begun and does nothing otherwise. Nothing that was
held back goes down. -/
theorem Relates.abandon (hε : Deflater.EndsDecodable ε) (hR : Sink.Keeps R)
    (h : Relates R k l) :
    (l.abandon = l ∧ l.reported = [] ∧ R {} l.inner) ∨
    (l.abandon = l ∧ l.reported = [.skip] ∧ ∃ j, R j l.inner ∧ k = j.settle) ∨
    (l.abandon.reported = [.compress] ∧ k.status.isSome ∧ ∃ head out body,
      R { status := k.status, sent := some head, written := out } l.inner ∧
      R { status := k.status, sent := some head, written := body } l.abandon.inner ∧
      Member.Holds body k.written) := by
  rcases h.phase with hp | hs | hc
  · exact .inl ⟨by rw [GzipLayer.abandon, hp.decision], hp.reported, hp.inner⟩
  · exact .inr (.inl ⟨by rw [GzipLayer.abandon, hs.decision], hs.reported, hs.inner⟩)
  · obtain ⟨head, out, body, stream, w, hj, hfinish, hw, hbody⟩ := hc.finish hε hR
    have habandon : l.abandon = { l with stream, inner := w } := by
      rw [GzipLayer.abandon, hc.decision, h.hijacked, hfinish]
    rw [habandon]
    exact .inr (.inr ⟨hc.reported, hc.status, head, out, body, hj, hw, hbody⟩)

end HttpPipeline.GzipLayer
