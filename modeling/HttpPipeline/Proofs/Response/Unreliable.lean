import HttpPipeline.Proofs.Response.Invariant
import HttpPipeline.Proofs.Response.Reliable
import Mathlib.Data.List.Permutation

/-!
# Compression over sinks that fail

A sink may fail at one request and work again at the next. What it was offered when it failed
is lost, and a compressed stream with a gap cannot be decoded. So the question is what a close
is worth that succeeds, after all that may have gone wrong before.

* A failure while the buffer goes down is kept by the layer. Every close after it fails
  (`GzipLayer.Guarded`, `GzipLayer.close_of_commitFailure`).
* As long as no request reports a failure of the stream, nothing is lost: what has arrived is
  what the compressed stream has given out (`GzipLayer.Intact`). A close that succeeds then
  leaves one member with all that was written.

`GzipLayer.close_trustworthy` puts the two together. Nothing is known beyond that: a failure of
a later write or flush, or of the end of the member, is reported once and not kept, and a close
after it may succeed over a member with a gap (`GzipLayer.close_after_lost_flush`).
-/

namespace HttpPipeline

namespace Reply

/-- Whether a request failed together with the stream. -/
def isFailure : Reply → Bool
  | .streamError _ => true
  | .fault (.stream _) => true
  | _ => false

theorem isFailure_ofStream {result : Except StreamError Unit}
    (h : (ofStream result).isFailure = false) : result = .ok () := by
  cases result with
  | ok => rfl
  | error cause => exact absurd h (by simp [ofStream, isFailure])

end Reply

namespace Traced

variable {σ : Type} [Sink σ]

/-- One attempt adds to the record what it took. -/
theorem body_write (t : Traced σ) (data : Bytes) :
    (Sink.write t data).2.body = t.body ++ taken data (Sink.write t data).1 :=
  body_note t _ _

/-- **A whole offer** arrives whole, if the sink takes it. -/
theorem body_writeAll {t t' : Traced σ} {data : Bytes}
    (h : Sink.writeAll t data = (.ok (), t')) : t'.body = t.body ++ data := by
  fun_induction Sink.writeAll t data with
  | case1 t data hempty =>
    obtain rfl : t = t' := congrArg Prod.snd h
    rw [List.isEmpty_iff.mp hempty, List.append_nil]
  | case2 t data hne s' hwrite => exact absurd (congrArg Prod.fst h) (by simp)
  | case3 t data hne count s' hwrite ih =>
    have hbody := body_write t data
    rw [hwrite] at hbody
    rw [ih h, hbody, List.append_assoc]
    exact congrArg _ (List.take_append_drop (count + 1) data)
  | case4 t data hne message s' hwrite ih =>
    -- an attempt that has to be repeated took nothing
    have hbody := body_write t data
    rw [hwrite] at hbody
    rw [ih h, hbody]
    exact congrArg (· ++ data) (List.append_nil t.body)
  | case5 t data hne cause s' hwrite => exact absurd (congrArg Prod.fst h) (by simp)

theorem body_sendStatus (t : Traced σ) (code : Status) :
    (Sink.sendStatus t code).body = t.body :=
  (body_note t (.status code) _).trans (List.append_nil _)

theorem body_flush (t : Traced σ) : (Sink.flush t).2.body = t.body :=
  (body_note t .flush _).trans (List.append_nil _)

end Traced

namespace GzipLayer

variable {ε σ : Type} [Deflater ε] [Sink σ]

/-! ### What the owner of a layer asks of it -/

/-- A request to a layer: a call of the handler, or to close it. -/
inductive Demand
  | call (asked : Call)
  | close
  deriving DecidableEq, Repr, Inhabited

namespace Demand

/-- Whether a request edits or reads headers, gives a status, writes, flushes or closes. -/
def isPlain : Demand → Bool
  | .call asked => asked.isPlain
  | .close => true

/-- The bytes that a request passes to the layer. -/
def data : Demand → Bytes
  | .call asked => asked.data
  | .close => []

/-- Carrying a request out. -/
def perform (demand : Demand) (l : GzipLayer (GzipStream ε) σ) :
    Reply × GzipLayer (GzipStream ε) σ :=
  match demand with
  | .call asked => asked.perform l
  | .close =>
    let (result, l) := l.close
    (.ofStream result, l)

/-- Carrying requests out one after the other. -/
def performAll (demands : List Demand) (l : GzipLayer (GzipStream ε) σ) :
    List Reply × GzipLayer (GzipStream ε) σ :=
  match demands with
  | [] => ([], l)
  | demand :: demands =>
    let (reply, l) := demand.perform l
    let (replies, l) := performAll demands l
    (reply :: replies, l)

end Demand

/-! ### A failure that is kept -/

/-- A layer that keeps a failure has decided, so that nothing can bring a decision about and
forget the failure. -/
structure Guarded (l : GzipLayer (GzipStream ε) σ) : Prop where
  hijacked : l.hijacked = false
  decided : l.commitFailure.isSome → l.decision ≠ .pending

namespace Guarded

variable {l : GzipLayer (GzipStream ε) σ}

/-- After a decision the layer is guarded, whatever became of the buffer. -/
theorem commit (h : Guarded l) : Guarded l.commit :=
  ⟨(commit_hijacked l).trans h.hijacked, fun _ => commit_ne_pending l⟩

theorem write (h : Guarded l) (data : Bytes) : Guarded (l.write data).2 := by
  rw [GzipLayer.write, h.hijacked, if_neg Bool.false_ne_true]
  split
  · exact h
  · simp only
    split
    · exact ⟨h.hijacked, h.decided⟩
    · unfold GzipLayer.compressOn
      split <;> exact ⟨h.hijacked, h.decided⟩
    · -- the buffer is either not full yet or goes down
      unfold GzipLayer.collect
      simp only
      have hcollected : Guarded ({ l.sendStatus 200 with buffer := l.buffer ++ data } :
          GzipLayer (GzipStream ε) σ) := ⟨h.hijacked, h.decided⟩
      split_ifs
      · unfold GzipLayer.report
        split <;> exact hcollected
      · unfold GzipLayer.report
        split <;> exact hcollected.commit

theorem flush (h : Guarded l) : Guarded l.flush.2 := by
  rw [GzipLayer.flush, h.hijacked, if_neg Bool.false_ne_true]
  have hc := h.commit
  simp only
  split
  · exact hc
  · split
    · split <;> exact ⟨hc.hijacked, hc.decided⟩
    · exact ⟨hc.hijacked, hc.decided⟩

theorem close (h : Guarded l) : Guarded l.close.2 := by
  rw [GzipLayer.close, h.hijacked, if_neg Bool.false_ne_true]
  have hc := h.commit
  simp only
  split
  · exact hc
  · split
    · exact ⟨hc.hijacked, hc.decided⟩
    · exact hc

end Guarded

theorem guarded_invariant : Sink.Invariant (Guarded : GzipLayer (GzipStream ε) σ → Prop) where
  setHeaders := fun h _ => ⟨h.hijacked, h.decided⟩
  sendStatus := fun h _ => ⟨h.hijacked, h.decided⟩
  write := fun h data => h.write data
  flush := fun h => h.flush

/-- **A failure that counts.** It is reported again by whatever needs the stream. -/
structure Failing (cause : StreamError) (l : GzipLayer (GzipStream ε) σ) : Prop where
  hijacked : l.hijacked = false
  decided : l.decision ≠ .pending
  failure : l.commitFailure = some cause

omit [Deflater ε] [Sink σ] in
theorem Guarded.failing {l : GzipLayer (GzipStream ε) σ} (h : Guarded l) {cause : StreamError}
    (hfailure : l.commitFailure = some cause) : Failing cause l :=
  ⟨h.hijacked, h.decided (Option.isSome_of_eq_some hfailure), hfailure⟩

namespace Failing

variable {l : GzipLayer (GzipStream ε) σ} {cause : StreamError}

theorem write (h : Failing cause l) (data : Bytes) : l.write data = (.failed cause, l) := by
  simp only [GzipLayer.write, h.hijacked, Bool.false_eq_true, if_false, h.failure]

theorem flush (h : Failing cause l) : l.flush = (.error (.stream cause), l) := by
  simp only [GzipLayer.flush, h.hijacked, Bool.false_eq_true, if_false, commit_of_ne h.decided,
    h.failure]

/-- **No close succeeds** after it. -/
theorem close (h : Failing cause l) : l.close = (.error cause, l) := by
  simp only [GzipLayer.close, h.hijacked, Bool.false_eq_true, if_false, commit_of_ne h.decided,
    h.failure]

end Failing

theorem failing_invariant (cause : StreamError) :
    Sink.Invariant (Failing cause : GzipLayer (GzipStream ε) σ → Prop) where
  setHeaders := fun h _ => ⟨h.hijacked, h.decided, h.failure⟩
  sendStatus := fun h _ => ⟨h.hijacked, h.decided, h.failure⟩
  write := fun h data => by
    show Failing cause (GzipLayer.write _ data).2
    rwa [h.write]
  flush := fun h => by
    show Failing cause (GzipLayer.flush _).2
    rwa [h.flush]

/-! ### Any number of requests -/

namespace Demand

/-- **What no request ends**, neither a call nor a close, outlasts any number of them. -/
theorem performAll_invariant {P : GzipLayer (GzipStream ε) σ → Prop} (hP : Sink.Invariant P)
    (hclose : ∀ {l}, P l → P l.close.2) (demands : List Demand)
    (hplain : ∀ demand ∈ demands, demand.isPlain = true) {l : GzipLayer (GzipStream ε) σ}
    (h : P l) :
    P (performAll demands l).2 := by
  induction demands generalizing l with
  | nil => exact h
  | cons demand demands ih =>
    refine ih (fun d hd => hplain d (List.mem_cons_of_mem _ hd)) ?_
    have hdemand := hplain demand List.mem_cons_self
    cases demand with
    | close => exact hclose h
    | call asked =>
      refine hP.perform h asked fun answer heq => ?_
      subst heq
      exact absurd hdemand Bool.false_ne_true

theorem performAll_append (before after : List Demand) (l : GzipLayer (GzipStream ε) σ) :
    (performAll (before ++ after) l).2 = (performAll after (performAll before l).2).2 := by
  induction before generalizing l with
  | nil => rfl
  | cons demand before ih => exact ih _

end Demand

/-! ### As long as no failure is reported -/

/-- **Where the bytes are**, as long as none is lost. -/
inductive Kept (plain : Bytes) (l : GzipLayer (GzipStream ε) (Traced σ)) : Prop
  /-- While the decision is pending, all are in the buffer. -/
  | held (decision : l.decision = .pending) (buffer : l.buffer = plain)
      (stream : ∃ level, l.stream = .new level) (below : l.inner.body = [])
  /-- Then what the stream gives out has arrived. -/
  | compressing (decision : l.decision = .compress) (stream : l.stream.Holds plain l.inner.body)
  /-- In the end a whole member has. -/
  | ended (decision : l.decision = .compress) (stream : l.stream.finished = true)
      (member : Member.Holds l.inner.body plain)
  /-- Of a response that is not compressed nothing is said here. -/
  | skipping (decision : l.decision = .skip)

/-- **Nothing is lost.** -/
structure Intact (plain : Bytes) (l : GzipLayer (GzipStream ε) (Traced σ)) : Prop where
  hijacked : l.hijacked = false
  commitFailure : l.commitFailure = none
  kept : Kept plain l

omit [Sink σ] in
/-- A layer with a new stream around a sink that nothing has arrived at. -/
theorem intact_around (sink : σ) (level minSize : Nat) :
    Intact [] (.around { sink } (.new level) minSize : GzipLayer (GzipStream ε) (Traced σ)) :=
  ⟨rfl, rfl, .held rfl rfl ⟨level, rfl⟩ rfl⟩

namespace Intact

variable {plain : Bytes} {l l' : GzipLayer (GzipStream ε) (Traced σ)}

omit [Sink σ] in
/-- What brings nothing to the sink below loses nothing. -/
theorem onInner (h : Intact plain l) {t : Traced σ} (ht : t.body = l.inner.body) :
    Intact plain { l with inner := t } := by
  refine ⟨h.hijacked, h.commitFailure, ?_⟩
  cases h.kept with
  | held hd hb hs hi => exact .held hd hb hs (ht.trans hi)
  | compressing hd hs => exact .compressing hd (by simpa only [ht] using hs)
  | ended hd hs hm => exact .ended hd hs (by simpa only [ht] using hm)
  | skipping hd => exact .skipping hd

omit [Sink σ] in
theorem sendStatus (h : Intact plain l) (code : Status) : Intact plain (l.sendStatus code) := by
  refine ⟨h.hijacked, h.commitFailure, ?_⟩
  cases h.kept with
  | held hd hb hs hi => exact .held hd hb hs hi
  | compressing hd hs => exact .compressing hd hs
  | ended hd hs hm => exact .ended hd hs hm
  | skipping hd => exact .skipping hd

/-- A buffer that goes down through the compressed stream without a failure. -/
theorem release {l : GzipLayer (GzipStream ε) (Traced σ)} (hd : l.decision = .compress)
    (hs : l.stream.Holds [] l.inner.body)
    (hh : l.hijacked = false) (hf : l.release.commitFailure = none) :
    Intact l.buffer l.release := by
  refine ⟨(release_hijacked l).trans hh, hf, .compressing ((release_decision l).trans hd) ?_⟩
  by_cases hb : l.buffer = []
  · simp only [GzipLayer.release, hb, List.isEmpty_nil, if_true]
    exact hs
  · obtain ⟨stream, more, hholds, hstep⟩ := hs.write l.buffer
    have hne : l.buffer.isEmpty = false := by simpa using hb
    simp only [GzipLayer.release, hne, Bool.false_eq_true, if_false, hd, hstep] at hf ⊢
    -- the failure would have been kept
    rcases hwrite : Sink.writeAll l.inner more with ⟨result, t⟩
    rw [hwrite] at hf
    cases result with
    | error cause => exact absurd hf (by simp)
    | ok =>
      rw [Traced.body_writeAll hwrite]
      exact hholds

/-- **The decision falls**, and the buffer goes down without a failure. -/
theorem commit (h : Intact plain l) (hf : l.commit.commitFailure = none) :
    Intact plain l.commit := by
  cases h.kept with
  | compressing hd hs => rwa [commit_of_ne (by rw [hd]; decide)]
  | ended hd hs hm => rwa [commit_of_ne (by rw [hd]; decide)]
  | skipping hd => rwa [commit_of_ne (by rw [hd]; decide)]
  | held hd hb hs hi =>
    obtain ⟨level, hnew⟩ := hs
    subst hb
    rcases decide_cases (Sink.headers l.inner) (l.status.getD 200) l.minSize l.buffer
      with hskip | ⟨hcompress, -⟩
    · refine ⟨(commit_hijacked l).trans h.hijacked, hf, .skipping ?_⟩
      simp only [GzipLayer.commit, hd, release_decision, hskip]
    · simp only [GzipLayer.commit, hd, hcompress] at hf ⊢
      -- the head adds nothing to the body below
      have hholds : l.stream.Holds [] (Sink.sendStatus (Sink.setHeaders l.inner
          (compressedHeaders (Sink.headers l.inner) l.buffer)) (l.status.getD 200)).body := by
        rw [hnew, Traced.body_sendStatus]
        have hbody : (Sink.setHeaders l.inner
            (compressedHeaders (Sink.headers l.inner) l.buffer)).body = [] := hi
        rw [hbody]
        exact GzipStream.holds_new level
      exact release (l := { l with
        decision := .compress, inner := _, status := _, reported := _ }) rfl hholds h.hijacked hf

omit [Sink σ] in
/-- What was written to a response that is not compressed is no matter here. -/
theorem of_skip (h : Intact plain l) (hd : l.decision = .skip) (other : Bytes) :
    Intact other l :=
  ⟨h.hijacked, h.commitFailure, .skipping hd⟩

/-- **A write** that is taken: in whole, unless the response is not compressed. -/
theorem write (h : Intact plain l) {data : Bytes} {count : Nat}
    (hw : l.write data = (.accepted count, l')) :
    Intact (plain ++ data.take count) l' ∧ (l'.decision = .skip ∨ count = data.length) := by
  have hfirst := h.sendStatus 200
  simp only [GzipLayer.write, h.hijacked, Bool.false_eq_true, if_false, h.commitFailure] at hw
  cases hfirst.kept with
  | skipping hd =>
    simp only [hd] at hw
    obtain rfl := congrArg Prod.snd hw
    exact ⟨⟨h.hijacked, h.commitFailure, .skipping hd⟩, .inl hd⟩
  | ended hd hs hm =>
    -- an ended stream takes nothing more
    rw [hd] at hw
    simp only [GzipLayer.compressOn, GzipStream.memberStream_write, GzipStream.write, hs, if_true]
      at hw
    exact absurd (congrArg Prod.fst hw) (by simp)
  | compressing hd hs =>
    obtain ⟨stream, more, hholds, hstep⟩ := hs.write data
    rw [hd] at hw
    simp only [GzipLayer.compressOn, hstep] at hw
    rcases hwrite : Sink.writeAll (l.sendStatus 200).inner more with ⟨result, t⟩
    rw [hwrite] at hw
    cases result with
    | error cause => exact absurd (congrArg Prod.fst hw) (by simp)
    | ok =>
      obtain ⟨hcount, rfl⟩ := Prod.mk.inj hw
      obtain rfl : data.length = count := by simpa using hcount
      refine ⟨⟨h.hijacked, h.commitFailure, .compressing hd ?_⟩, .inr rfl⟩
      rw [List.take_length, Traced.body_writeAll hwrite]
      exact hholds
  | held hd hb hs hi =>
    let added : GzipLayer (GzipStream ε) (Traced σ) :=
      { l.sendStatus 200 with buffer := l.buffer ++ data }
    have hadded : Intact (plain ++ data) added :=
      ⟨h.hijacked, h.commitFailure, .held hd (congrArg (· ++ data) hb) hs hi⟩
    rw [hd] at hw
    replace hw : (if added.buffer.length < added.minSize then added else added.commit).report
        data.length = (.accepted count, l') := hw
    -- a failure of the buffer on its way down would have been reported
    have hreport {l₁ : GzipLayer (GzipStream ε) (Traced σ)}
        (hr : l₁.report data.length = (.accepted count, l')) :
        l₁.commitFailure = none ∧ data.length = count ∧ l₁ = l' := by
      unfold GzipLayer.report at hr
      split at hr
      · exact absurd (congrArg Prod.fst hr) (by simp)
      · obtain ⟨hcount, hl⟩ := Prod.mk.inj hr
        exact ⟨‹_›, by simpa using hcount, hl⟩
    obtain ⟨hf, rfl, rfl⟩ := hreport hw
    refine ⟨?_, .inr rfl⟩
    rw [List.take_length]
    split_ifs at hf ⊢
    · exact hadded
    · exact hadded.commit hf

/-- An attempt that has to be repeated. -/
theorem interrupted (h : Intact plain l) {data : Bytes} {message : String}
    (hw : l.write data = (.interrupted message, l')) : Intact plain l' := by
  have hpass := write_interrupted (by rw [hw])
  rw [hw] at hpass
  -- only a layer that passes its writes on answers so
  have hskip : (l.sendStatus 200).decision = .skip := by
    simp only [GzipLayer.write, h.hijacked, Bool.false_eq_true, if_false, h.commitFailure] at hw
    split at hw
    · assumption
    · exact absurd (congrArg Prod.fst hw) (compressOn_ne_interrupted _ _ _)
    · exact absurd (congrArg Prod.fst hw) (report_ne_interrupted _ _ _)
  obtain rfl : l' = _ := congrArg Prod.snd hpass
  exact ⟨h.hijacked, h.commitFailure, .skipping hskip⟩

/-- **A repeated write** that takes everything. -/
theorem writeAll (h : Intact plain l) {data : Bytes}
    (hw : Sink.writeAll l data = (.ok (), l')) : Intact (plain ++ data) l' := by
  fun_induction Sink.writeAll l data generalizing plain with
  | case1 l data hempty =>
    obtain rfl : l = l' := congrArg Prod.snd hw
    rwa [List.isEmpty_iff.mp hempty, List.append_nil]
  | case2 l data hne l₁ hwrite => exact absurd (congrArg Prod.fst hw) (by simp)
  | case3 l data hne count l₁ hwrite ih =>
    have hrest := ih (h.write hwrite).1 hw
    rwa [List.append_assoc, List.take_append_drop] at hrest
  | case4 l data hne message l₁ hwrite ih => exact ih (h.interrupted hwrite) hw
  | case5 l data hne cause l₁ hwrite => exact absurd (congrArg Prod.fst hw) (by simp)

/-- **A flush** that does not fail with the stream. The sink below may refuse it. -/
theorem flush (h : Intact plain l)
    (hf : ∀ cause, l.flush.1 ≠ .error (.stream cause)) : Intact plain l.flush.2 := by
  simp only [GzipLayer.flush, h.hijacked, Bool.false_eq_true, if_false] at hf ⊢
  have hkept := h.commit
  have hdecided := commit_ne_pending l
  -- only the layer after the decision matters from here on
  generalize l.commit = m at hf hkept hdecided ⊢
  cases hfailure : m.commitFailure with
  | some cause =>
    rw [hfailure] at hf
    exact absurd rfl (hf cause)
  | none =>
    have hm := hkept hfailure
    rw [hfailure] at hf
    cases hm.kept with
    | held hd => exact absurd hd hdecided
    | skipping hd =>
      have hflushed := hm.onInner (Traced.body_flush m.inner)
      simp only [hd, hfailure] at hflushed ⊢
      exact hflushed
    -- a stream that has ended refuses the flush, so this is not the case
    | ended hd hs hmember =>
      simp only [hd, GzipStream.memberStream_flush, GzipStream.flush, hs, if_true] at hf
      exact absurd rfl (hf _)
    -- the one case with bytes: they are written out, and the stream holds what it held
    | compressing hd hs =>
      obtain ⟨stream, more, hholds, hstep⟩ := hs.flush
      rcases hwrite : Sink.writeAll m.inner more with ⟨result, t⟩
      simp only [hd, hstep, hwrite] at hf ⊢
      cases result with
      | error cause => exact absurd rfl (hf cause)
      | ok =>
        refine ⟨hm.hijacked, rfl, .compressing rfl ?_⟩
        have hbody : (Sink.flush t).2.body = m.inner.body ++ more :=
          (Traced.body_flush t).trans (Traced.body_writeAll hwrite)
        rw [hbody]
        exact hholds

/-- **A close** that succeeds leaves a whole member, if the response was compressed. -/
theorem close (hε : Deflater.EndsDecodable ε) (h : Intact plain l)
    (hclose : l.close = (.ok (), l')) :
    Intact plain l' ∧ (l'.decision = .compress → Member.Holds l'.inner.body plain) := by
  simp only [GzipLayer.close, h.hijacked, Bool.false_eq_true, if_false] at hclose
  -- the commit comes first: from here on the layer is one that has decided
  have hkept := h.commit
  have hdecided := commit_ne_pending l
  generalize l.commit = m at hclose hkept hdecided
  cases hfailure : m.commitFailure with
  | some cause =>
    rw [hfailure] at hclose
    exact absurd (congrArg Prod.fst hclose) (by simp)
  | none =>
    have hm := hkept hfailure
    rw [hfailure] at hclose
    cases hm.kept with
    | held hd => exact absurd hd hdecided
    | skipping hd =>
      rw [hd] at hclose
      obtain rfl : m = l' := congrArg Prod.snd hclose
      exact ⟨hm, fun hcompress => absurd (hd.symm.trans hcompress) (by decide)⟩
    | ended hd hs hmember =>
      -- the end was written before, and nothing is left to do
      simp only [hd, GzipStream.memberStream_finish, GzipStream.finish, hs, if_true] at hclose
      obtain rfl := congrArg Prod.snd hclose
      exact ⟨⟨hm.hijacked, rfl, .ended rfl hs hmember⟩, fun _ => hmember⟩
    | compressing hd hs =>
      obtain ⟨tail, trailer, opened, ended, hmember, hended, hfinish⟩ := hs.finish_eq hε
      rcases htail : Sink.writeAll m.inner tail with ⟨result, t⟩
      simp only [hd, hfinish, htail] at hclose
      cases result with
      | error cause => exact absurd (congrArg Prod.fst hclose) (by simp)
      | ok =>
        rcases htrailer : Sink.writeAll t trailer with ⟨result, t'⟩
        simp only [htrailer] at hclose
        obtain ⟨rfl, rfl⟩ := Prod.mk.inj hclose
        have hholds : Member.Holds t'.body plain := by
          rw [Traced.body_writeAll htrailer, Traced.body_writeAll htail]
          exact hmember
        exact ⟨⟨hm.hijacked, rfl, .ended rfl hended hholds⟩, fun _ => hholds⟩

/-- **A request** that reports no failure. -/
theorem perform (hε : Deflater.EndsDecodable ε) (h : Intact plain l) (demand : Demand)
    (hdemand : demand.isPlain = true) (hreply : (demand.perform l).1.isFailure = false) :
    Intact (plain ++ demand.data) (demand.perform l).2 := by
  -- a request that writes nothing
  have hsame {l' : GzipLayer (GzipStream ε) (Traced σ)} (hl : Intact plain l') :
      Intact (plain ++ []) l' := by
    rwa [List.append_nil]
  have hheader (asked : Call) (hasked : asked.isHeader = true) :
      Intact plain (asked.perform l).2 := by
    rcases Call.perform_isHeader hasked l with hleft | ⟨headers, hset⟩
    · rwa [hleft]
    · rw [hset]
      -- the headers of the sink are edited, and the account does not hold them
      exact h.onInner rfl
  cases demand with
  | close =>
    have hok := Reply.isFailure_ofStream hreply
    exact hsame (h.close hε (Prod.ext hok rfl)).1
  | call asked =>
    cases asked with
    | set name value => exact hsame (hheader _ rfl)
    | append name value => exact hsame (hheader _ rfl)
    | remove name => exact hsame (hheader _ rfl)
    | get name => exact hsame (hheader _ rfl)
    | status code =>
      simp only [Demand.perform, Call.perform]
      split_ifs
      · exact hsame (h.sendStatus code)
      · exact hsame h
    | write data =>
      change (Reply.ofAttempt (l.write data).1).isFailure = false at hreply
      show Intact (plain ++ data) (l.write data).2
      rcases hwrite : l.write data with ⟨attempt, l'⟩
      rw [hwrite] at hreply
      cases attempt with
      | accepted count =>
        obtain ⟨hl', hskip | rfl⟩ := h.write hwrite
        -- an uncompressed response may take a part only, and nothing is said of its body here
        · exact hl'.of_skip hskip _
        · rwa [List.take_length] at hl'
      | interrupted message => exact absurd hreply (by simp [Reply.ofAttempt, Reply.isFailure])
      | failed cause => exact absurd hreply (by simp [Reply.ofAttempt, Reply.isFailure])
    | writeAll data =>
      have hok := Reply.isFailure_ofStream hreply
      exact h.writeAll (Prod.ext hok rfl)
    | flush =>
      refine hsame (h.flush fun cause hcause => ?_)
      have hfailure : (Reply.ofFlush l.flush.1).isFailure = false := hreply
      rw [hcause] at hfailure
      exact absurd hfailure (by simp [Reply.ofFlush, Reply.isFailure])
    | hijack answer => exact absurd hdemand Bool.false_ne_true
    | errorReply code message => exact absurd hdemand Bool.false_ne_true

/-- **Any number of requests**, if none reports a failure. -/
theorem performAll (hε : Deflater.EndsDecodable ε) (demands : List Demand)
    (hplain : ∀ demand ∈ demands, demand.isPlain = true) (h : Intact plain l)
    (hreplies : ∀ reply ∈ (Demand.performAll demands l).1, reply.isFailure = false) :
    Intact (plain ++ demands.flatMap Demand.data) (Demand.performAll demands l).2 := by
  induction demands generalizing plain l with
  | nil => rwa [List.flatMap_nil, List.append_nil]
  | cons demand demands ih =>
    have hfirst := h.perform hε demand (hplain demand List.mem_cons_self)
      (hreplies _ List.mem_cons_self)
    have hrest := ih (fun d hd => hplain d (List.mem_cons_of_mem _ hd)) hfirst
      fun reply hreply => hreplies reply (List.mem_cons_of_mem _ hreply)
    rwa [List.append_assoc] at hrest

end Intact

/-- **What a close is worth.** Let a stream from a pool be put in front of any sink, which may
fail at any request and work again at the next, and let header edits, statuses, writes, flushes
and closes follow, whatever the answers are.

* If the sink failed while the buffer went down, no close succeeds any more.
* If no request reported a failure of the stream, then a close that succeeds has left one
  member that holds all that was written, or the response is not compressed. -/
theorem close_trustworthy (hε : Deflater.EndsDecodable ε) {pool : EncoderPool (GzipStream ε)}
    (hpool : pool.Reachable) (sink : σ) (minSize : Nat) (demands : List Demand)
    (hplain : ∀ demand ∈ demands, demand.isPlain = true) :
    let layer := GzipLayer.around ({ sink } : Traced σ) pool.acquire.1 minSize
    let after := Demand.performAll demands layer
    (∀ earlier later cause, demands = earlier ++ later →
      (Demand.performAll earlier layer).2.commitFailure = some cause →
      after.2.close = (.error cause, after.2)) ∧
    (∀ l', (∀ reply ∈ after.1, reply.isFailure = false) → after.2.close = (.ok (), l') →
      l'.decision = .compress → Member.Holds l'.inner.body (demands.flatMap Demand.data)) := by
  intro layer after
  obtain ⟨level, hnew⟩ := hpool.acquire_new
  constructor
  · intro earlier later cause hdemands hfailure
    subst hdemands
    have hguarded : Guarded (Demand.performAll earlier layer).2 :=
      Demand.performAll_invariant guarded_invariant Guarded.close earlier
        (fun d hd => hplain d (List.mem_append_left _ hd))
        ⟨rfl, fun h => absurd h Bool.false_ne_true⟩
    -- from there on the layer fails and does not change
    have hfailing : Failing cause after.2 := by
      show Failing cause (Demand.performAll (earlier ++ later) layer).2
      rw [Demand.performAll_append]
      refine Demand.performAll_invariant (failing_invariant cause) (fun h => ?_) later
        (fun d hd => hplain d (List.mem_append_right _ hd)) (hguarded.failing hfailure)
      rwa [h.close]
    exact hfailing.close
  · intro l' hreplies hclose hcompress
    have hstart : Intact [] layer := by
      show Intact [] (GzipLayer.around _ pool.acquire.1 minSize)
      rw [hnew]
      exact intact_around sink level minSize
    exact ((hstart.performAll hε demands hplain hreplies).close hε hclose).2 hcompress

/-- A sink that asks for one write to be repeated before the member can be ended. -/
theorem close_trustworthy_interrupted :
    let sink : ScriptedSink := { writes := [.accept 4, .interrupt "again"], onFlush := .succeed }
    let demands : List Demand := [.call (.write [1, 2, 3]), .call .flush, .call (.writeAll [4])]
    let layer := GzipLayer.around ({ sink } : Traced ScriptedSink)
      (EncoderPool.ofSettings 6 1 : EncoderPool Stored).acquire.1 2
    let after := Demand.performAll demands layer
    (∀ earlier later cause, demands = earlier ++ later →
      (Demand.performAll earlier layer).2.commitFailure = some cause →
      after.2.close = (.error cause, after.2)) ∧
    (∀ l', (∀ reply ∈ after.1, reply.isFailure = false) → after.2.close = (.ok (), l') →
      l'.decision = .compress → Member.Holds l'.inner.body (demands.flatMap Demand.data)) :=
  close_trustworthy (Deflater.endsDecodable StoredBlocks) (.made 6 1) _ 2 _ (by decide)

/-- A sink that fails once, at a flush, and works again. The close succeeds, but the data that
the flush had to bring is missing from the member. -/
theorem close_after_lost_flush :
    let hello : Bytes := [104, 101, 108, 108, 111]
    let sink : ScriptedSink :=
      { writes := [.accept 100, .fail ⟨.brokenPipe, "scripted"⟩], onFlush := .succeed }
    let layer := GzipLayer.around ({ sink } : Traced ScriptedSink) (.new 6 : Stored) 4
    let l := (Demand.performAll [.call (.write hello), .call .flush] layer).2
    l.close.1 = .ok () ∧ l.close.2.decision = .compress ∧
      ¬Member.Holds l.close.2.inner.body hello := by
  intro hello sink layer l
  -- the write brings the header of the member down, and the data stays in the encoder
  obtain ⟨headers, hwrite⟩ : ∃ headers, (Sink.write layer hello).2 =
      { inner :=
          { sink := { sink with
              writes := [.fail ⟨.brokenPipe, "scripted"⟩]
              headers, sent := some ⟨200, headers⟩, body := Member.header }
            arrivals := [.status 200, .bytes Member.header] }
        stream :=
          { level := 6, encoder := ⟨hello, false⟩, checksum := Crc32.start.update hello
            length := 5, headerWritten := true }
        minSize := 4, status := some 200, decision := .compress, reported := [.compress] } := by
    have hdecide : GzipLayer.decide {} 200 4 hello = .compress := by decide +kernel
    refine ⟨compressedHeaders {} hello, ?_⟩
    simp only [Sink.write, GzipLayer.write, layer, sink, around, GzipLayer.sendStatus, collect,
      GzipLayer.commit, Sink.headers, Option.getD, List.nil_append, hdecide]
    generalize compressedHeaders {} hello = headers
    cbv
  have hflush : l = (Sink.flush (Sink.write layer hello).2).2 := by
    simp only [l, Demand.performAll, Demand.perform, Call.perform]
  rw [hwrite] at hflush
  clear_value l
  refine ⟨by rw [hflush]; cbv, by rw [hflush]; cbv, fun hholds => ?_⟩
  -- the flush lost the data, and the close has ended the member without it
  have hbody : l.close.2.inner.body
      = Member.header ++ storedBlocks true [] ++ Member.trailer (crc32 hello) 5 := by
    rw [hflush]
    cbv
  obtain ⟨deflated, hlayout, hinflate⟩ := hholds.layout
  obtain rfl : storedBlocks true [] = deflated :=
    List.append_cancel_left (List.append_cancel_right (hbody.symm.trans hlayout))
  have hempty := (Inflate.Reads.lastBlocks [] [] #[]).inflate
  rw [List.append_nil, hinflate] at hempty
  exact absurd (congrArg Prod.fst hempty) (by simp [hello])

end GzipLayer

end HttpPipeline
