import HttpPipeline.Proofs.Response.GzipLayer
import HttpPipeline.Proofs.Response.Invariant
import HttpPipeline.Response.Scripted
import HttpPipeline.Response.Traced
import HttpPipeline.Text.Ascii

/-!
# When and how the decision falls

A compression layer decides once, with the first call that brings the body to `minSize` bytes or
that flushes (`Call.decides`), or else when it is closed. Two properties of the layer lead from
one end of a response to the other.

* Until that call the layer holds everything back (`GzipLayer.Waiting`): the buffer has the body
  so far, the status is the first one given or implied, and nothing has reached the sink below.
* From that call on the decision is made and reported, and what came down first is the status
  (`GzipLayer.Decided`). No request ends this, so it lasts until the layer is closed.

In between is one commit, `GzipLayer.Waiting.commit`, and it decides on what is in the layer at
that moment. The sink below may fail at any time: the decision does not depend on it.
`GzipLayer.decision_falls` says what follows for a whole response.

Of the content encodings that are set at that moment only the first value counts. Where it is
empty, a response that is encoded already is compressed once more
(`GzipLayer.compresses_encoded`).
-/

namespace HttpPipeline

namespace Call

/-- **Whether a call makes the decision fall**, with so many bytes written before it. To write
everything of nothing is no write. -/
def decides (minSize written : Nat) : Call → Bool
  | .write data => minSize ≤ written + data.length
  | .writeAll data => !data.isEmpty && minSize ≤ written + data.length
  | .flush => true
  | _ => false

/-- How many calls come before the one that makes the decision fall. -/
def waiting (minSize written : Nat) : List Call → Nat
  | [] => 0
  | call :: calls =>
    if call.decides minSize written then 0
    else waiting minSize (written + call.data.length) calls + 1

/-- The first calls write no more than all of them. -/
theorem length_data_take (calls : List Call) (n : Nat) :
    ((calls.take n).flatMap Call.data).length ≤ (calls.flatMap Call.data).length := by
  have hall : calls.flatMap Call.data
      = (calls.take n).flatMap Call.data ++ (calls.drop n).flatMap Call.data := by
    rw [← List.flatMap_append, List.take_append_drop]
  rw [hall, List.length_append]
  exact Nat.le_add_right _ _

/-- The decision does not wait longer than for a flush. -/
theorem waiting_flush (minSize written : Nat) (earlier later : List Call) :
    waiting minSize written (earlier ++ .flush :: later) ≤ earlier.length := by
  induction earlier generalizing written with
  | nil => exact Nat.le_refl 0
  | cons call earlier ih =>
    rw [List.cons_append, waiting]
    split_ifs
    · exact Nat.zero_le _
    · exact Nat.succ_le_succ (ih _)

/-- So no more is written by then than before the flush. -/
theorem length_data_flushed (minSize : Nat) (earlier later : List Call) :
    (((earlier ++ .flush :: later).take
      (waiting minSize 0 (earlier ++ .flush :: later) + 1)).flatMap Call.data).length
      ≤ (earlier.flatMap Call.data).length := by
  have hfall := waiting_flush minSize 0 earlier later
  generalize waiting minSize 0 (earlier ++ .flush :: later) = fall at *
  have htake : (earlier ++ .flush :: later).take (fall + 1)
      = (earlier ++ [Call.flush]).take (fall + 1) := by
    have hle : fall + 1 ≤ (earlier ++ [Call.flush]).length := by
      rw [List.length_append]
      exact Nat.succ_le_succ hfall
    rw [← List.singleton_append, ← List.append_assoc, List.take_append_of_le_length hle]
  have hdata : (earlier ++ [Call.flush]).flatMap Call.data = earlier.flatMap Call.data := by
    rw [List.flatMap_append, List.flatMap_singleton]
    exact List.append_nil _
  rw [htake, ← hdata]
  exact length_data_take _ _

end Call

namespace Sink

variable {ω : Type} [Sink ω] {w : ω} {data : Bytes}

/-- A write that is not to be repeated is the only one. -/
theorem writeAll_once (hdata : data ≠ [])
    (h : (write w data).1 = .accepted data.length ∨ ∃ cause, (write w data).1 = .failed cause) :
    (writeAll w data).2 = (write w data).2 := by
  rcases hwrite : write w data with ⟨attempt, w'⟩
  rw [hwrite] at h
  rcases h with haccepted | ⟨cause, hfailed⟩
  · obtain rfl : attempt = .accepted data.length := haccepted
    rw [writeAll_of_write hdata hwrite]
  · obtain rfl : attempt = .failed cause := hfailed
    rw [writeAll_of_failed hdata hwrite]

end Sink

namespace Traced

variable {σ : Type}

/-- **One status came first**, and none after it. -/
def Headed (code : Status) (t : Traced σ) : Prop :=
  ∃ later, t.arrivals = .status code :: later ∧ ∀ other, .status other ∉ later

theorem Headed.note {code : Status} {t : Traced σ} (h : Headed code t) {a : Arrival}
    (ha : ∀ other, a ≠ .status other) (s : σ) : Headed code (t.note a s) := by
  obtain ⟨later, harrivals, hlater⟩ := h
  refine ⟨later ++ [a], by rw [Traced.note, harrivals, List.cons_append], fun other hmem => ?_⟩
  rcases List.mem_append.mp hmem with hold | hnew
  · exact hlater other hold
  · exact ha other (List.mem_singleton.mp hnew).symm

theorem outlastsWrites_headed [Sink σ] (code : Status) :
    Sink.OutlastsWrites (Headed code : Traced σ → Prop) :=
  fun _ h _ => h.note (fun _ => by simp) _

end Traced

namespace GzipLayer

variable {τ σ : Type} [MemberStream τ] [Sink σ]

/-! ### Before the decision -/

/-- **Everything is held back**, after the calls `earlier` to a new layer. -/
structure Waiting (minSize : Nat) (stream : τ) (earlier : List Call)
    (l : GzipLayer τ (Traced σ)) : Prop where
  hijacked : l.hijacked = false
  commitFailure : l.commitFailure = none
  decision : l.decision = .pending
  reported : l.reported = []
  minSize : l.minSize = minSize
  stream : l.stream = stream
  buffer : l.buffer = earlier.flatMap Call.data
  status : l.status = earlier.findSome? Call.status?
  arrivals : l.inner.arrivals = []

/-- A layer that has taken some data into its buffer. -/
def held (l : GzipLayer τ σ) (data : Bytes) : GzipLayer τ σ :=
  { l.sendStatus 200 with buffer := l.buffer ++ data }

section Pending

variable {ω : Type} [Sink ω] {l : GzipLayer τ ω}

/-- A write goes into the buffer, and a buffer that is long enough is committed. -/
theorem write_pending (hhijacked : l.hijacked = false) (hfailure : l.commitFailure = none)
    (hd : l.decision = .pending) (data : Bytes) :
    l.write data = (if l.minSize ≤ l.buffer.length + data.length
      then (l.held data).commit else l.held data).report data.length := by
  have hstill : (l.sendStatus 200).decision = .pending := hd
  have hcollect : l.write data = (l.sendStatus 200).collect data := by
    simp only [GzipLayer.write, hhijacked, Bool.false_eq_true, if_false, hfailure, hstill]
  have hlength : (l.held data).buffer.length = l.buffer.length + data.length := by
    rw [GzipLayer.held, List.length_append]
  rw [hcollect]
  show (if (l.held data).buffer.length < l.minSize then l.held data
    else (l.held data).commit).report data.length = _
  rw [hlength]
  split_ifs with hshort hlong hlong
  · omega
  · rfl
  · rfl
  · omega

/-- To write everything takes one write. -/
theorem writeAll_pending (hhijacked : l.hijacked = false) (hfailure : l.commitFailure = none)
    (hd : l.decision = .pending) {data : Bytes} (hdata : data ≠ []) :
    (Sink.writeAll l data).2 = (l.write data).2 := by
  refine Sink.writeAll_once hdata ?_
  show (l.write data).1 = _ ∨ ∃ cause, (l.write data).1 = _
  rw [write_pending hhijacked hfailure hd, report]
  split
  · exact .inr ⟨_, rfl⟩
  · exact .inl rfl

end Pending

namespace Waiting

variable {minSize : Nat} {stream : τ} {earlier : List Call}
  {l : GzipLayer τ (Traced σ)} {call : Call}

omit [MemberStream τ] [Sink σ] in
/-- A call without data and status. -/
theorem silent (h : Waiting minSize stream earlier l) (hdata : call.data = [])
    (hstatus : call.status? = none) : Waiting minSize stream (earlier ++ [call]) l := by
  refine { h with buffer := ?_, status := ?_ }
  · rw [h.buffer, List.flatMap_append, List.flatMap_singleton, hdata, List.append_nil]
  · rw [h.status, List.findSome?_append, List.findSome?_singleton, hstatus, Option.or_none]

omit [MemberStream τ] [Sink σ] in
/-- A call that gives a status. -/
theorem sendStatus (h : Waiting minSize stream earlier l) (hdata : call.data = []) {code : Status}
    (hstatus : call.status? = some code) :
    Waiting minSize stream (earlier ++ [call]) (l.sendStatus code) := by
  refine ⟨h.hijacked, h.commitFailure, h.decision, h.reported, h.minSize, h.stream, ?_, ?_,
    h.arrivals⟩
  · show l.buffer = _
    rw [h.buffer, List.flatMap_append, List.flatMap_singleton, hdata, List.append_nil]
  · show some (l.status.getD code) = _
    rw [h.status, List.findSome?_append, List.findSome?_singleton, hstatus]
    cases earlier.findSome? Call.status? <;> rfl

omit [MemberStream τ] [Sink σ] in
/-- A call that writes, while its data goes into the buffer. -/
theorem held {data : Bytes} (h : Waiting minSize stream earlier l) (hdata : call.data = data)
    (hstatus : call.status? = some 200) :
    Waiting minSize stream (earlier ++ [call]) (l.held data) := by
  refine ⟨h.hijacked, h.commitFailure, h.decision, h.reported, h.minSize, h.stream, ?_, ?_,
    h.arrivals⟩
  · show l.buffer ++ data = _
    rw [h.buffer, List.flatMap_append, List.flatMap_singleton, hdata]
  · show some (l.status.getD 200) = _
    rw [h.status, List.findSome?_append, List.findSome?_singleton, hstatus]
    cases earlier.findSome? Call.status? <;> rfl

theorem write_eq (h : Waiting minSize stream earlier l) (data : Bytes) :
    l.write data = (if minSize ≤ (earlier.flatMap Call.data).length + data.length
      then (l.held data).commit else l.held data).report data.length := by
  rw [write_pending h.hijacked h.commitFailure h.decision, h.minSize, h.buffer]

theorem writeAll_eq (h : Waiting minSize stream earlier l) {data : Bytes} (hdata : data ≠ []) :
    (Sink.writeAll l data).2 = (l.write data).2 :=
  writeAll_pending h.hijacked h.commitFailure h.decision hdata

end Waiting

/-! ### After the decision -/

/-- **The decision `made` stands**, and `code` went down before anything else. The stream was not
used if the decision is against compression. -/
structure Decided (made : Decision) (code : Status) (unused : τ)
    (l : GzipLayer τ (Traced σ)) : Prop where
  hijacked : l.hijacked = false
  fallen : made ≠ .pending
  decision : l.decision = made
  reported : l.reported = [made]
  headed : l.inner.Headed code
  stream : made = .skip → l.stream = unused

namespace Decided

variable {made : Decision} {code : Status} {unused : τ} {l : GzipLayer τ (Traced σ)}

omit [MemberStream τ] [Sink σ] in
theorem undecided (h : Decided made code unused l) : l.decision ≠ .pending := by
  rw [h.decision]
  exact h.fallen

omit [MemberStream τ] [Sink σ] in
/-- A decided layer over whatever becomes of the sink below. -/
theorem onInner (h : Decided made code unused l) {t : Traced σ} (ht : t.Headed code) :
    Decided made code unused { l with inner := t } :=
  ⟨h.hijacked, h.fallen, h.decision, h.reported, ht, h.stream⟩

omit [MemberStream τ] [Sink σ] in
/-- The stream of a layer that compresses was used. -/
theorem onStream (h : Decided made code unused l) (hd : l.decision = .compress)
    (s : τ) {t : Traced σ} (ht : t.Headed code) :
    Decided made code unused { l with stream := s, inner := t } := by
  have hmade : made = .compress := h.decision.symm.trans hd
  exact ⟨h.hijacked, h.fallen, h.decision, h.reported, ht,
    fun hskip => absurd (hmade.symm.trans hskip) (by decide)⟩

/-- The buffer goes down, whatever becomes of it. -/
theorem release (h : Decided made code unused l) : Decided made code unused l.release := by
  have hwrites := Traced.outlastsWrites_headed (σ := σ) code
  refine ⟨(release_hijacked l).trans h.hijacked, h.fallen, (release_decision l).trans h.decision,
    (release_reported l).trans h.reported, ?_, fun hskip => ?_⟩
  · unfold GzipLayer.release
    split_ifs
    · exact h.headed
    · simp only
      split
      · exact MemberStream.write_outlasts hwrites h.headed l.stream l.buffer
      · exact hwrites.writeAll h.headed l.buffer
  · have hd : l.decision = .skip := h.decision.trans hskip
    unfold GzipLayer.release
    rw [hd]
    split_ifs
    · exact h.stream hskip
    · exact h.stream hskip

theorem write (h : Decided made code unused l) (data : Bytes) :
    Decided made code unused (l.write data).2 := by
  have hwrites := Traced.outlastsWrites_headed (σ := σ) code
  have hfirst : Decided made code unused (l.sendStatus 200) :=
    ⟨h.hijacked, h.fallen, h.decision, h.reported, h.headed, h.stream⟩
  rw [GzipLayer.write, h.hijacked, if_neg Bool.false_ne_true]
  split
  · exact h
  · simp only
    split
    · exact hfirst.onInner (hwrites h.headed data)
    · rename_i hd
      rw [compressOn_snd]
      exact hfirst.onStream hd _
        (MemberStream.write_outlasts hwrites hfirst.headed (l.sendStatus 200).stream data)
    · rename_i hd
      exact absurd hd h.undecided

theorem flush (h : Decided made code unused l) : Decided made code unused l.flush.2 := by
  have hwrites := Traced.outlastsWrites_headed (σ := σ) code
  have hflush {t : Traced σ} (ht : t.Headed code) : (Sink.flush t).2.Headed code :=
    ht.note (fun _ => by simp) _
  rw [GzipLayer.flush, h.hijacked, if_neg Bool.false_ne_true]
  simp only [commit_of_ne h.undecided]
  split
  · exact h
  · split
    · rename_i hd
      have hheaded := MemberStream.flush_outlasts hwrites h.headed l.stream
      split
      · rename_i heq
        rw [heq] at hheaded
        exact h.onStream hd _ hheaded
      · rename_i heq
        rw [heq] at hheaded
        exact h.onStream hd _ (hflush hheaded)
    · exact h.onInner (hflush h.headed)

theorem close (h : Decided made code unused l) : Decided made code unused l.close.2 := by
  have hwrites := Traced.outlastsWrites_headed (σ := σ) code
  rw [GzipLayer.close, h.hijacked, if_neg Bool.false_ne_true]
  simp only [commit_of_ne h.undecided]
  split
  · exact h
  · split
    · rename_i hd
      exact h.onStream hd _ (MemberStream.finish_outlasts hwrites h.headed l.stream)
    · exact h

end Decided

/-- **No request ends it.** -/
theorem decided_invariant (made : Decision) (code : Status) (unused : τ) :
    Sink.Invariant (Decided made code unused : GzipLayer τ (Traced σ) → Prop) where
  setHeaders := fun h _ => ⟨h.hijacked, h.fallen, h.decision, h.reported, h.headed, h.stream⟩
  sendStatus := fun h _ => ⟨h.hijacked, h.fallen, h.decision, h.reported, h.headed, h.stream⟩
  write := fun h data => h.write data
  flush := fun h => h.flush

/-! ### The call in between -/

theorem flush_commit {ω : Type} [Sink ω] {l : GzipLayer τ ω} (h : l.hijacked = false) :
    l.flush = l.commit.flush := by
  have hcommitted : l.commit.hijacked = false := (commit_hijacked l).trans h
  rw [GzipLayer.flush, GzipLayer.flush, if_neg (by simp [h]), if_neg (by simp [hcommitted]),
    commit_of_ne (commit_ne_pending l)]

theorem close_commit {ω : Type} [Sink ω] {l : GzipLayer τ ω} (h : l.hijacked = false) :
    l.close = l.commit.close := by
  have hcommitted : l.commit.hijacked = false := (commit_hijacked l).trans h
  rw [GzipLayer.close, GzipLayer.close, if_neg (by simp [h]), if_neg (by simp [hcommitted]),
    commit_of_ne (commit_ne_pending l)]

omit [MemberStream τ] [Sink σ] in
/-- **What the decision goes by.** -/
theorem decide_eq_compress {headers : Headers} {code : Status} {minSize : Nat} {buffer : Bytes} :
    decide headers code minSize buffer = .compress ↔
      minSize ≤ buffer.length ∧
      MediaType.isCompressed ((declaredType? headers).getD (Sniff.detect buffer)) = false ∧
      (∀ value, headers.get? "content-encoding" = some value → value = []) ∧
      code ≠ 204 ∧ code ≠ 206 ∧ code ≠ 304 ∧ Status.informational code = false := by
  have hencoded : (headers.nonempty? "content-encoding").isSome = false ↔
      ∀ value, headers.get? "content-encoding" = some value → value = [] := by
    rw [Headers.nonempty?]
    cases headers.get? "content-encoding" with
    | none => simp
    | some value => simp [Option.filter_some]
  rw [← hencoded, decide]
  split_ifs with h
  · simp only [false_iff]
    rintro ⟨hlength, htype, hplain, h204, h206, h304, hinterim⟩
    simp [htype, hplain, hinterim, statusForbids, h204, h206, h304] at h
    omega
  · simp only [statusForbids, Bool.or_eq_true, decide_eq_true_eq, beq_iff_eq, not_or, Nat.not_lt,
      Bool.not_eq_true] at h
    obtain ⟨⟨⟨htype, hlength⟩, hplain⟩, ⟨⟨h204, h206⟩, h304⟩, hinterim⟩ := h
    exact ⟨fun _ => ⟨hlength, htype, hplain, h204, h206, h304, hinterim⟩, fun _ => rfl⟩

/-- The status of a response after some calls, when the decision falls. -/
def statusAfter (calls : List Call) : Status := (calls.findSome? Call.status?).getD 200

/-- The decision of a layer after some calls. -/
def verdict (headers : Headers) (minSize : Nat) (calls : List Call) : Decision :=
  decide headers (statusAfter calls) minSize (calls.flatMap Call.data)

namespace Waiting

variable {minSize : Nat} {stream : τ} {earlier : List Call}
  {l : GzipLayer τ (Traced σ)} {call : Call}

/-- **The decision falls**, on what is in the layer. -/
theorem commit (h : Waiting minSize stream earlier l) :
    Decided (verdict (Sink.headers l.inner) minSize earlier) (statusAfter earlier) stream
      l.commit := by
  have hfallen : verdict (Sink.headers l.inner) minSize earlier ≠ .pending := by
    unfold verdict
    rcases decide_cases (Sink.headers l.inner) (statusAfter earlier) minSize
      (earlier.flatMap Call.data) with hskip | ⟨hcompress, -⟩
    · simp [hskip]
    · simp [hcompress]
  have hverdict : decide (Sink.headers l.inner) (l.status.getD 200) l.minSize l.buffer
      = verdict (Sink.headers l.inner) minSize earlier := by
    rw [h.status, h.minSize, h.buffer, verdict, statusAfter]
  simp only [GzipLayer.commit, h.decision, hverdict, h.reported, List.nil_append]
  rw [show l.status.getD 200 = statusAfter earlier by rw [h.status, statusAfter]]
  refine Decided.release ⟨h.hijacked, hfallen, rfl, rfl, ⟨[], ?_, fun _ => List.not_mem_nil⟩,
    fun _ => h.stream⟩
  -- the headers may have been set before, which leaves no trace
  show Traced.arrivals (Sink.sendStatus _ _) = _
  split
  · exact congrArg (· ++ [Arrival.status (statusAfter earlier)]) h.arrivals
  · exact congrArg (· ++ [Arrival.status (statusAfter earlier)]) h.arrivals

/-- A call that does not make the decision fall. -/
theorem perform (h : Waiting minSize stream earlier l) (hplain : call.isPlain = true)
    (hwaits : call.decides minSize (earlier.flatMap Call.data).length = false) :
    Waiting minSize stream (earlier ++ [call]) (call.perform l).2 := by
  have hheader (hcall : call.isHeader = true) (hdata : call.data = [])
      (hstatus : call.status? = none) : Waiting minSize stream (earlier ++ [call])
        (call.perform l).2 := by
    have hsilent := h.silent hdata hstatus
    rcases Call.perform_isHeader hcall l with hsame | ⟨headers, hset⟩
    · rwa [hsame]
    · rw [hset]
      exact { hsilent with }
  cases call with
  | set name value => exact hheader rfl rfl rfl
  | append name value => exact hheader rfl rfl rfl
  | remove name => exact hheader rfl rfl rfl
  | get name => exact hheader rfl rfl rfl
  | status code =>
    rw [Call.perform]
    split_ifs with hvalid
    · exact h.sendStatus rfl (if_pos hvalid)
    · exact h.silent rfl (if_neg hvalid)
  | write data =>
    -- the buffer stays under the least size, so nothing is decided
    have hshort : ¬minSize ≤ (earlier.flatMap Call.data).length + data.length := by
      simpa [Call.decides] using hwaits
    show Waiting minSize stream _ (l.write data).2
    rw [h.write_eq, if_neg hshort, report_snd]
    exact h.held rfl rfl
  | writeAll data =>
    show Waiting minSize stream _ (Sink.writeAll l data).2
    by_cases hdata : data = []
    · rw [hdata, Sink.writeAll_nil]
      exact h.silent rfl rfl
    · have hne : data.isEmpty = false := by simpa using hdata
      have hshort : ¬minSize ≤ (earlier.flatMap Call.data).length + data.length := by
        simpa [Call.decides, hne] using hwaits
      rw [h.writeAll_eq hdata, h.write_eq, if_neg hshort, report_snd]
      exact h.held rfl (by rw [Call.status?, hne, if_neg Bool.false_ne_true])
  | flush => exact absurd hwaits (by simp [Call.decides])
  | hijack answer => exact absurd hplain Bool.false_ne_true
  | errorReply code message => exact absurd hplain Bool.false_ne_true

/-- **The call that makes the decision fall.** -/
theorem falls (h : Waiting minSize stream earlier l)
    (hcall : call.decides minSize (earlier.flatMap Call.data).length = true) :
    Decided (verdict (Sink.headers l.inner) minSize (earlier ++ [call]))
      (statusAfter (earlier ++ [call])) stream (call.perform l).2 := by
  cases call with
  -- the data of the call itself counts towards the least size
  | write data =>
    have hlong : minSize ≤ (earlier.flatMap Call.data).length + data.length := by
      simpa [Call.decides] using hcall
    have hheld := (h.held (show Call.data (.write data) = data from rfl) rfl).commit
    show Decided _ _ _ (l.write data).2
    rw [h.write_eq, if_pos hlong, report_snd]
    exact hheld
  | writeAll data =>
    obtain ⟨hdata, hlong⟩ : data ≠ [] ∧
        minSize ≤ (earlier.flatMap Call.data).length + data.length := by
      simpa [Call.decides] using hcall
    have hne : data.isEmpty = false := by simpa using hdata
    have hheld := (h.held (show Call.data (.writeAll data) = data from rfl)
      (by rw [Call.status?, hne, if_neg Bool.false_ne_true])).commit
    show Decided _ _ _ (Sink.writeAll l data).2
    rw [h.writeAll_eq hdata, h.write_eq, if_pos hlong, report_snd]
    exact hheld
  | flush =>
    have hcommit := h.commit
    -- a flush has no data, and the status that it implies is the one without any
    have hstatus : statusAfter (earlier ++ [.flush]) = statusAfter earlier := by
      rw [statusAfter, statusAfter, List.findSome?_append]
      cases earlier.findSome? Call.status? <;> rfl
    have hverdict : verdict (Sink.headers l.inner) minSize (earlier ++ [.flush])
        = verdict (Sink.headers l.inner) minSize earlier := by
      rw [verdict, verdict, hstatus, List.flatMap_append]
      simp [Call.data]
    show Decided _ _ _ l.flush.2
    rw [hstatus, hverdict, flush_commit h.hijacked]
    exact hcommit.flush
  | _ => exact absurd hcall Bool.false_ne_true

/-- Without such a call the decision falls in the end. -/
theorem close (h : Waiting minSize stream earlier l) :
    Decided (verdict (Sink.headers l.inner) minSize earlier) (statusAfter earlier) stream
      l.close.2 := by
  rw [close_commit h.hijacked]
  exact h.commit.close

end Waiting

/-! ### A whole response -/

variable {minSize : Nat} {stream : τ} {earlier : List Call}
  {l : GzipLayer τ (Traced σ)}

/-- **As long as the decision waits**, everything is held back. -/
theorem Waiting.performAll (h : Waiting minSize stream earlier l) (calls : List Call)
    (hcalls : ∀ call ∈ calls, call.isPlain = true) {n : Nat}
    (hn : n ≤ Call.waiting minSize (earlier.flatMap Call.data).length calls) :
    Waiting minSize stream (earlier ++ calls.take n) (Call.performAll (calls.take n) l).2 := by
  -- on the calls, with the earlier ones in the state of the layer
  induction calls generalizing earlier l n with
  | nil =>
    rw [List.take_nil, List.append_nil]
    exact h
  | cons call calls ih =>
    cases n with
    | zero =>
      rw [List.take_zero, List.append_nil]
      exact h
    | succ n =>
      rw [Call.waiting] at hn
      split_ifs at hn with hdecides
      · omega
      · have hstep := h.perform (hcalls call List.mem_cons_self) (by simpa using hdecides)
        have hlength : ((earlier ++ [call]).flatMap Call.data).length
            = (earlier.flatMap Call.data).length + call.data.length := by
          rw [List.flatMap_append, List.flatMap_singleton, List.length_append]
        have hn' :
            n ≤ Call.waiting minSize ((earlier ++ [call]).flatMap Call.data).length calls := by
          rw [hlength]
          omega
        have hrest := ih hstep (fun c hc => hcalls c (List.mem_cons_of_mem _ hc)) hn'
        rwa [List.append_assoc, List.singleton_append] at hrest

/-- **After the call that makes it fall**, the decision stands. -/
theorem Waiting.decided (h : Waiting minSize stream earlier l) (calls : List Call)
    (hcalls : ∀ call ∈ calls, call.isPlain = true) {n fall : Nat}
    (hfall : Call.waiting minSize (earlier.flatMap Call.data).length calls = fall)
    (hn : fall < n) (hle : n ≤ calls.length) :
    let settling := earlier ++ calls.take (fall + 1)
    let moment := (Call.performAll (calls.take fall) l).2
    Decided (verdict (Sink.headers moment.inner) minSize settling) (statusAfter settling) stream
      (Call.performAll (calls.take n) l).2 := by
  induction calls generalizing earlier l n fall with
  | nil => exact absurd (Nat.lt_of_lt_of_le hn hle) (Nat.not_lt_zero _)
  | cons call calls ih =>
    obtain ⟨n, rfl⟩ := Nat.exists_eq_add_one_of_ne_zero (Nat.ne_zero_of_lt hn)
    have hlater : ∀ c ∈ calls, c.isPlain = true := fun c hc => hcalls c (List.mem_cons_of_mem _ hc)
    rw [Call.waiting] at hfall
    split_ifs at hfall with hdecides
    · -- this is the call, and the others change nothing any more
      subst hfall
      exact (decided_invariant _ _ stream).performAll (h.falls hdecides) (calls.take n)
        fun c hc => hlater c (List.mem_of_mem_take hc)
    · have hstep := h.perform (hcalls call List.mem_cons_self) (by simpa using hdecides)
      have hlength : ((earlier ++ [call]).flatMap Call.data).length
          = (earlier.flatMap Call.data).length + call.data.length := by
        rw [List.flatMap_append, List.flatMap_singleton, List.length_append]
      subst hfall
      have hle' : n ≤ calls.length := Nat.le_of_succ_le_succ hle
      have hrest := ih hstep hlater (by rw [hlength]) (Nat.lt_of_succ_lt_succ hn) hle'
      rwa [List.append_assoc, List.singleton_append] at hrest

/-- A layer that is closed after some calls. -/
def closedAfter (l : GzipLayer τ (Traced σ)) (calls : List Call) : GzipLayer τ (Traced σ) :=
  (Call.performAll calls l).2.close.2

/-- **When the layer is closed**, the decision has fallen with one of the calls, or it falls now. -/
theorem Waiting.closedAfter (h : Waiting minSize stream [] l) (calls : List Call)
    (hcalls : ∀ call ∈ calls, call.isPlain = true) {fall : Nat}
    (hfall : Call.waiting minSize 0 calls = fall) :
    let settling := calls.take (fall + 1)
    let moment := (Call.performAll (calls.take fall) l).2
    Decided (verdict (Sink.headers moment.inner) minSize settling) (statusAfter settling) stream
      (l.closedAfter calls) := by
  intro settling moment
  rcases Nat.lt_or_ge fall calls.length with hlt | hge
  · have hend := h.decided calls hcalls (n := calls.length) hfall hlt (Nat.le_refl _)
    rw [List.take_length] at hend
    exact hend.close
  · -- no call makes the decision fall
    have hend := h.performAll calls hcalls (n := fall) (Nat.le_of_eq hfall.symm)
    rw [List.nil_append] at hend
    have hall : calls.take fall = calls := List.take_of_length_le hge
    have hall' : settling = calls := List.take_of_length_le (Nat.le_succ_of_le hge)
    have hclose : l.closedAfter calls = (Call.performAll (calls.take fall) l).2.close.2 := by
      rw [GzipLayer.closedAfter, hall]
    rw [hall'.trans hall.symm, hclose]
    exact hend.close

/-- **A decision that falls once**: after the first `fall` calls, with the next one or when the
layer is closed, and with the response headers of that moment. -/
structure FallsOnce (layer : GzipLayer τ (Traced σ)) (calls : List Call) (fall : Nat)
    (headers : Headers) : Prop where
  /-- Before, nothing reaches the sink below. -/
  waits : ∀ n ≤ fall, (Call.performAll (calls.take n) layer).2.decision = .pending ∧
    (Call.performAll (calls.take n) layer).2.inner.arrivals = []
  /-- After it, the decision is the one that the closed layer has. -/
  stands : ∀ n, fall < n → n ≤ calls.length →
    (Call.performAll (calls.take n) layer).2.decision = (layer.closedAfter calls).decision
  made : (layer.closedAfter calls).decision = .compress ∨
    (layer.closedAfter calls).decision = .skip
  reported : (layer.closedAfter calls).reported = [(layer.closedAfter calls).decision]
  /-- It goes by the status and the body of that moment. -/
  compresses : (layer.closedAfter calls).decision = .compress ↔
    let body := (calls.take (fall + 1)).flatMap Call.data
    let code := statusAfter (calls.take (fall + 1))
    layer.minSize ≤ body.length ∧
    MediaType.isCompressed ((declaredType? headers).getD (Sniff.detect body)) = false ∧
    (∀ value, headers.get? "content-encoding" = some value → value = []) ∧
    code ≠ 204 ∧ code ≠ 206 ∧ code ≠ 304 ∧ Status.informational code = false
  /-- The status goes down once, and before anything else. -/
  head : (layer.closedAfter calls).inner.Headed (statusAfter (calls.take (fall + 1)))
  /-- Nothing enters the stream of a response that is not compressed. -/
  unencoded : (layer.closedAfter calls).decision = .skip →
    (layer.closedAfter calls).stream = layer.stream
  short : (calls.flatMap Call.data).length < layer.minSize →
    (layer.closedAfter calls).decision = .skip
  flushed : ∀ earlier later, calls = earlier ++ .flush :: later →
    (earlier.flatMap Call.data).length < layer.minSize →
    (layer.closedAfter calls).decision = .skip

omit [MemberStream τ] [Sink σ] in
theorem verdict_short {headers : Headers} {calls : List Call}
    (h : (calls.flatMap Call.data).length < minSize) : verdict headers minSize calls = .skip := by
  rcases decide_cases headers (statusAfter calls) minSize (calls.flatMap Call.data)
    with hskip | ⟨hcompress, -⟩
  · exact hskip
  · exact absurd (decide_eq_compress.mp hcompress).1 (Nat.not_le.mpr h)

/-- **When and how the decision falls.** Let a layer be put in front of any sink, let any header
edits, statuses, writes and flushes follow, and then the end. The decision falls once, with the
first call that brings the body to `minSize` bytes or that flushes, or else at the end; and it
goes by the headers, the status and the body of that moment. -/
theorem decision_falls (sink : σ) (stream : τ) (minSize : Nat) (calls : List Call)
    (hcalls : ∀ call ∈ calls, call.isPlain = true) :
    let layer := GzipLayer.around ({ sink } : Traced σ) stream minSize
    let fall := Call.waiting minSize 0 calls
    FallsOnce layer calls fall (Sink.headers (Call.performAll (calls.take fall) layer).2) := by
  intro layer fall
  have hstart : Waiting minSize stream [] layer := ⟨rfl, rfl, rfl, rfl, rfl, rfl, rfl, rfl, rfl⟩
  set headers := Sink.headers (Call.performAll (calls.take fall) layer).2
  have hclosed : Decided (verdict headers minSize (calls.take (fall + 1)))
      (statusAfter (calls.take (fall + 1))) stream (layer.closedAfter calls) :=
    hstart.closedAfter calls hcalls rfl
  have hskips : ((calls.take (fall + 1)).flatMap Call.data).length < minSize →
      (layer.closedAfter calls).decision = .skip :=
    fun hshort => hclosed.decision.trans (verdict_short hshort)
  refine ⟨fun n hn => ?_, fun n hn hle => ?_, ?_, ?_, ?_, hclosed.headed, fun hskip => ?_,
    fun hshort => ?_, fun before later hsplit hshort => ?_⟩
  · have hwaits := hstart.performAll calls hcalls hn
    exact ⟨hwaits.decision, hwaits.arrivals⟩
  · exact (hstart.decided calls hcalls rfl hn hle).decision.trans hclosed.decision.symm
  · have hfallen := hclosed.undecided
    cases hd : (layer.closedAfter calls).decision with
    | pending => exact absurd hd hfallen
    | compress => exact .inl rfl
    | skip => exact .inr rfl
  · rw [hclosed.decision]
    exact hclosed.reported
  · rw [hclosed.decision, verdict]
    exact decide_eq_compress
  · exact hclosed.stream (hclosed.decision.symm.trans hskip)
  · exact hskips (Nat.lt_of_le_of_lt (Call.length_data_take calls _) hshort)
  · -- the decision falls with this flush at the latest
    subst hsplit
    exact hskips (Nat.lt_of_le_of_lt (Call.length_data_flushed minSize before later) hshort)

/-- A body that reaches the size with its second write, after a status and before another one,
over a sink that takes three bytes at a time and fails in the end. -/
theorem decision_falls_second :
    let calls : List Call := [.status 201, .write [1, 2], .append [120] [], .writeAll [3, 4, 5],
      .status 404, .flush, .write [6]]
    let sink : ScriptedSink :=
      { writes := [.accept 3, .accept 3, .fail ⟨.brokenPipe, "scripted"⟩], onFlush := .succeed }
    let layer := GzipLayer.around ({ sink } : Traced ScriptedSink) (.new 6 : Stored) 4
    FallsOnce layer calls 3 (Sink.headers (Call.performAll (calls.take 3) layer).2) :=
  decision_falls _ _ 4 _ (by decide)

/-- A response that is encoded already, behind an empty value that says that it is not. It is
compressed, although one of the content encodings that are set is not empty. -/
theorem compresses_encoded :
    let calls : List Call := [.append (Bytes.ofString "content-encoding") [],
      .append (Bytes.ofString "content-encoding") (Bytes.ofString "br"),
      .write (Bytes.ofString "hello")]
    let layer := GzipLayer.around ({ sink := {} } : Traced ScriptedSink)
      (.new 6 : Stored) 4
    (∃ value ∈ (Sink.headers (Call.performAll (calls.take 2) layer).2).values "content-encoding",
      value ≠ []) ∧
    (layer.closedAfter calls).decision = .compress := by
  intro calls layer
  have hstart : Waiting 4 (.new 6 : Stored) [] layer :=
    ⟨rfl, rfl, rfl, rfl, rfl, rfl, rfl, rfl, rfl⟩
  -- the write is the call that makes the decision fall
  have hfall : Call.waiting 4 0 calls = 2 := by decide +kernel
  have hend := hstart.closedAfter calls (by decide) hfall
  refine ⟨by decide +kernel, ?_⟩
  rw [hend.decision]
  decide +kernel

end GzipLayer

end HttpPipeline
